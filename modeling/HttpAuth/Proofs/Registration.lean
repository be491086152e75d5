import Mathlib.Data.List.Induction
import HttpAuth.Authenticator.Basic

namespace HttpAuth

/-- One step of a configuration. -/
inductive Setting (H : Type) where
  | scheme (name : String) (factory : Factory H)
  | defaults
  | provider (provider : CredentialsProvider)

namespace Registry

variable {H : Type}

def set (basic : Factory H) (r : Registry H) : Setting H → Registry H
  | .scheme name factory => r.register name factory
  | .defaults => r.registerDefaults basic
  | .provider provider => r.setProvider provider

/-- The registry after these steps, from the beginning. -/
def configured (basic : Factory H) (settings : List (Setting H)) : Registry H :=
  settings.foldl (set basic) {}

theorem mem_schemes_iff {r : Registry H} {scheme : Name} :
    scheme ∈ r.schemes ↔ ∃ factory, r.factory? scheme = some factory := by
  rw [← Option.isSome_iff_exists]
  exact Assoc.mem_keys_iff

theorem schemes_register (r : Registry H) (scheme : String) (f : Factory H) :
    (r.register scheme f).schemes =
      if .ofText scheme ∈ r.schemes then r.schemes else r.schemes ++ [.ofText scheme] :=
  Assoc.keys_replace r.entries (.ofText scheme) f

theorem nodup_register {r : Registry H} (h : r.schemes.Nodup) (scheme : String) (f : Factory H) :
    (r.register scheme f).schemes.Nodup :=
  Assoc.nodup_replace h (.ofText scheme) f

theorem nodup_registerDefaults {r : Registry H} (h : r.schemes.Nodup) (basic : Factory H) :
    (r.registerDefaults basic).schemes.Nodup := by
  unfold registerDefaults
  split
  · exact h
  · exact nodup_register h _ _

theorem nodup_finish {r : Registry H} (h : r.schemes.Nodup) (basic : Factory H) :
    (r.finish basic).schemes.Nodup := by
  unfold finish
  split
  · exact nodup_registerDefaults h basic
  · exact h

theorem nodup_set {r : Registry H} (h : r.schemes.Nodup) (basic : Factory H) (x : Setting H) :
    (r.set basic x).schemes.Nodup := by
  cases x with
  | scheme name factory => exact nodup_register h name factory
  | defaults => exact nodup_registerDefaults h basic
  | provider provider => exact h

theorem nodup_configured (basic : Factory H) (settings : List (Setting H)) :
    (configured basic settings).schemes.Nodup := by
  induction settings using List.reverseRecOn with
  | nil => exact .nil
  | append_singleton settings x ih =>
    rw [configured, List.foldl_append]
    exact nodup_set ih basic x

end Registry

end HttpAuth
