import HttpAuth.Proofs.FirstOccurrence
import HttpAuth.Proofs.Registration
import Mathlib.Logic.Function.Basic

namespace HttpAuth

namespace Setting

variable {H : Type}

/-- The scheme that a step registers, be it for the first time or again. -/
def scheme? : Setting H → Option Name
  | scheme name _ => some (.ofText name)
  | defaults => some (.ofText Registry.basicScheme)
  | provider _ => none

/-- The factory that a step gives to a scheme. The defaults give none to a scheme that has one. -/
def factoryFor? (n : Name) : Setting H → Option (Factory H)
  | scheme name factory => if Name.ofText name = n then some factory else none
  | defaults | provider _ => none

def provider? : Setting H → Option CredentialsProvider
  | provider p => some p
  | scheme .. | defaults => none

/-- All schemes that the steps register, in order. -/
def registered (settings : List (Setting H)) : List Name := settings.filterMap scheme?

def lastFactory? (settings : List (Setting H)) (n : Name) : Option (Factory H) :=
  (settings.filterMap (factoryFor? n)).getLast?

def lastProvider? (settings : List (Setting H)) : Option CredentialsProvider :=
  (settings.filterMap provider?).getLast?

variable {settings : List (Setting H)} {n : Name}

theorem registered_concat (settings : List (Setting H)) (x : Setting H) :
    registered (settings ++ [x]) = registered settings ++ x.scheme?.toList := by
  cases hx : x.scheme? <;> simp [registered, hx]

theorem lastFactory?_concat (settings : List (Setting H)) (x : Setting H) (n : Name) :
    lastFactory? (settings ++ [x]) n = (x.factoryFor? n).or (lastFactory? settings n) := by
  cases hx : x.factoryFor? n <;> simp [lastFactory?, hx]

theorem lastProvider?_concat (settings : List (Setting H)) (x : Setting H) :
    lastProvider? (settings ++ [x]) = x.provider?.or (lastProvider? settings) := by
  cases hx : x.provider? <;> simp [lastProvider?, hx]

/-- Only a scheme that is registered is given a factory. -/
theorem lastFactory?_eq_none (h : n ∉ registered settings) : lastFactory? settings n = none := by
  rw [lastFactory?, List.getLast?_eq_none_iff, List.filterMap_eq_nil_iff]
  intro x hx
  cases x with
  | scheme name factory =>
    refine if_neg fun hn => h ?_
    exact List.mem_filterMap.mpr ⟨_, hx, congrArg some hn⟩
  | defaults | provider => rfl

/-- What is registered without a factory is registered by the defaults. -/
theorem eq_basic_of_lastFactory? (h : n ∈ registered settings) (hn : lastFactory? settings n = none) :
    n = .ofText Registry.basicScheme := by
  obtain ⟨x, hx, hxn⟩ := List.mem_filterMap.mp h
  rw [lastFactory?, List.getLast?_eq_none_iff, List.filterMap_eq_nil_iff] at hn
  have hgiven := hn x hx
  cases x with
  | scheme name factory => simp_all [scheme?, factoryFor?]
  | defaults => exact (Option.some.inj hxn).symm
  | provider => cases hxn

end Setting

open Setting (registered lastFactory? lastProvider?)

namespace Registry

variable {H : Type} {r : Registry H} {n : Name}

theorem factory?_register (r : Registry H) (name : String) (f : Factory H) (n : Name) :
    (r.register name f).factory? n = if .ofText name = n then some f else r.factory? n :=
  Assoc.lookup_replace r.entries (.ofText name) n f

/-- The scheme is registered. -/
theorem isSome_factory? : (r.factory? n).isSome ↔ n ∈ r.schemes := by
  rw [mem_schemes_iff, Option.isSome_iff_exists]

theorem schemes_registerDefaults (r : Registry H) (basic : Factory H) :
    (r.registerDefaults basic).schemes =
      if .ofText basicScheme ∈ r.schemes then r.schemes else r.schemes ++ [.ofText basicScheme] := by
  unfold registerDefaults
  by_cases h : (r.factory? (.ofText basicScheme)).isSome
  · rw [if_pos h, if_pos (isSome_factory?.mp h)]
  · rw [if_neg h, schemes_register]

theorem factory?_registerDefaults (r : Registry H) (basic : Factory H) (n : Name) :
    (r.registerDefaults basic).factory? n =
      (r.factory? n).or (if .ofText basicScheme = n then some basic else none) := by
  unfold registerDefaults
  by_cases h : (r.factory? (.ofText basicScheme)).isSome
  · rw [if_pos h]
    split
    · next hn =>
      subst hn
      rw [Option.or_of_isSome h]
    · rw [Option.or_none]
  · rw [if_neg h, factory?_register]
    split
    · next hn =>
      subst hn
      rw [Option.not_isSome_iff_eq_none.mp h, Option.none_or]
    · rw [Option.or_none]

theorem provider_registerDefaults (r : Registry H) (basic : Factory H) :
    (r.registerDefaults basic).provider = r.provider := by
  unfold registerDefaults
  split <;> rfl

theorem configured_concat (basic : Factory H) (settings : List (Setting H)) (x : Setting H) :
    configured basic (settings ++ [x]) = (configured basic settings).set basic x := by
  simp [configured]

theorem schemes_configured (basic : Factory H) (settings : List (Setting H)) :
    (configured basic settings).schemes = (registered settings).eraseDups := by
  induction settings using List.reverseRecOn with
  | nil => rfl
  | append_singleton settings x ih =>
    rw [configured_concat, Setting.registered_concat]
    cases x with
    | scheme name factory =>
      rw [set, schemes_register, ih]
      simp only [List.mem_eraseDups]
      exact (eraseDups_concat _ _).symm
    | defaults =>
      rw [set, schemes_registerDefaults, ih]
      simp only [List.mem_eraseDups]
      exact (eraseDups_concat _ _).symm
    | provider p =>
      rw [Setting.scheme?, Option.toList_none, List.append_nil]
      exact ih

/-- A scheme without a factory of its own has the default one. -/
theorem factory?_configured (basic : Factory H) (settings : List (Setting H)) (n : Name) :
    (configured basic settings).factory? n =
      if n ∈ registered settings then some ((lastFactory? settings n).getD basic) else none := by
  induction settings using List.reverseRecOn with
  | nil => rfl
  | append_singleton settings x ih =>
    rw [configured_concat, Setting.registered_concat, Setting.lastFactory?_concat]
    cases x with
    | scheme name factory =>
      rw [set, factory?_register, ih]
      by_cases hn : Name.ofText name = n
      · simp [Setting.scheme?, Setting.factoryFor?, hn]
      · simp [Setting.scheme?, Setting.factoryFor?, hn, Ne.symm hn]
    | defaults =>
      rw [set, factory?_registerDefaults, ih]
      by_cases hm : n ∈ registered settings
      · simp [Setting.scheme?, Setting.factoryFor?, hm]
      · have hnone := Setting.lastFactory?_eq_none hm
        by_cases hn : Name.ofText basicScheme = n
        · simp [Setting.scheme?, Setting.factoryFor?, hm, hn, hnone]
        · simp [Setting.scheme?, hm, hn, Ne.symm hn]
    | provider p =>
      change (configured basic settings).factory? n = _
      simpa [Setting.scheme?, Setting.factoryFor?] using ih

theorem provider_configured (basic : Factory H) (settings : List (Setting H)) :
    (configured basic settings).provider = (lastProvider? settings).getD .none := by
  induction settings using List.reverseRecOn with
  | nil => rfl
  | append_singleton settings x ih =>
    rw [configured_concat, Setting.lastProvider?_concat]
    cases x with
    | scheme name factory =>
      change (configured basic settings).provider = _
      simpa [Setting.provider?] using ih
    | defaults => simpa [Setting.provider?, set, provider_registerDefaults] using ih
    | provider p => rfl

theorem schemes_eq_nil_iff (basic : Factory H) (settings : List (Setting H)) :
    (configured basic settings).schemes = [] ↔ registered settings = [] := by
  rw [schemes_configured]
  cases registered settings with
  | nil => simp
  | cons n names => simp [List.eraseDups_cons]

/-- The last step comes by itself, where nothing else registers a scheme. -/
def completed (settings : List (Setting H)) : List (Setting H) :=
  if registered settings = [] then settings ++ [.defaults] else settings

theorem finish_configured (basic : Factory H) (settings : List (Setting H)) :
    (configured basic settings).finish basic = configured basic (completed settings) := by
  have hempty : (configured basic settings).entries.isEmpty = true ↔ registered settings = [] := by
    rw [← schemes_eq_nil_iff basic, List.isEmpty_iff, schemes, List.map_eq_nil_iff]
  unfold finish completed
  by_cases h : registered settings = []
  · rw [if_pos (hempty.mpr h), if_pos h, configured_concat]
    rfl
  · rw [if_neg fun he => h (hempty.mp he), if_neg h]

theorem registered_completed (settings : List (Setting H)) :
    registered (completed settings) =
      if registered settings = [] then [.ofText basicScheme] else registered settings := by
  unfold completed
  split
  · next h =>
    rw [Setting.registered_concat, h]
    rfl
  · rfl

/-- It gives no factory, and it sets no provider. -/
theorem last_completed (settings : List (Setting H)) :
    lastFactory? (completed settings) = lastFactory? settings ∧
      lastProvider? (completed settings) = lastProvider? settings := by
  unfold completed
  split
  · refine ⟨funext fun n => ?_, ?_⟩
    · rw [Setting.lastFactory?_concat]
      rfl
    · rw [Setting.lastProvider?_concat]
      rfl
  · exact ⟨rfl, rfl⟩

end Registry

/-- The schemes in the order in which they are tried, and beside them a table of factories. -/
structure Roster (H : Type) where
  provider : CredentialsProvider := .none
  schemes : List Name := []
  factories : Name → Option (Factory H) := fun _ => none

namespace Roster

variable {H : Type}

/-- The list gets a scheme that it does not have; the table gets the factory in any case. -/
def register (r : Roster H) (name : String) (f : Factory H) : Roster H :=
  let scheme := Name.ofText name
  { r with
    schemes := if scheme ∈ r.schemes then r.schemes else r.schemes ++ [scheme]
    factories := Function.update r.factories scheme (some f) }

theorem factories_register (r : Roster H) (name : String) (f : Factory H) (n : Name) :
    (r.register name f).factories n = if .ofText name = n then some f else r.factories n := by
  simp only [register, Function.update_apply, eq_comm]

/-- Here the table is asked. -/
def registerDefaults (r : Roster H) (basic : Factory H) : Roster H :=
  if (r.factories (.ofText Registry.basicScheme)).isSome then r
  else r.register Registry.basicScheme basic

def set (basic : Factory H) (r : Roster H) : Setting H → Roster H
  | .scheme name factory => r.register name factory
  | .defaults => r.registerDefaults basic
  | .provider provider => { r with provider := provider }

/-- Here the list is asked. -/
def finish (r : Roster H) (basic : Factory H) : Roster H :=
  if r.schemes.isEmpty then r.registerDefaults basic else r

def configured (basic : Factory H) (settings : List (Setting H)) : Roster H :=
  settings.foldl (set basic) {}

/-- The same schemes in the same order, with the same factories, and the same provider. -/
structure Agrees (r : Roster H) (q : Registry H) : Prop where
  provider : r.provider = q.provider
  schemes : r.schemes = q.schemes
  factories : ∀ n, r.factories n = q.factory? n

variable {r : Roster H} {q : Registry H}

theorem Agrees.register (h : r.Agrees q) (name : String) (f : Factory H) :
    (r.register name f).Agrees (q.register name f) where
  provider := h.provider
  schemes := by
    rw [Registry.schemes_register, ← h.schemes]
    rfl
  factories n := by
    rw [Registry.factory?_register, factories_register, h.factories n]

theorem Agrees.registerDefaults (h : r.Agrees q) (basic : Factory H) :
    (r.registerDefaults basic).Agrees (q.registerDefaults basic) := by
  unfold Roster.registerDefaults Registry.registerDefaults
  rw [h.factories]
  split
  · exact h
  · exact h.register _ _

theorem Agrees.set (h : r.Agrees q) (basic : Factory H) (x : Setting H) :
    (r.set basic x).Agrees (q.set basic x) := by
  cases x with
  | scheme name factory => exact h.register name factory
  | defaults => exact h.registerDefaults basic
  | provider p => exact ⟨rfl, h.schemes, h.factories⟩

theorem Agrees.finish (h : r.Agrees q) (basic : Factory H) : (r.finish basic).Agrees (q.finish basic) := by
  have hempty : r.schemes.isEmpty = q.entries.isEmpty := by
    rw [h.schemes, Registry.schemes, List.isEmpty_map]
  unfold Roster.finish Registry.finish
  rw [hempty]
  split
  · exact h.registerDefaults basic
  · exact h

theorem agrees_configured (basic : Factory H) (settings : List (Setting H)) :
    (configured basic settings).Agrees (.configured basic settings) := by
  induction settings using List.reverseRecOn with
  | nil => exact ⟨rfl, rfl, fun _ => rfl⟩
  | append_singleton settings x ih =>
    rw [Registry.configured_concat, configured, List.foldl_append]
    exact ih.set basic x

end Roster

/-- Whatever the steps of a configuration are, and in whatever order: the schemes are the names that were registered, in
lower case, each once and where it was registered first, with the defaults registering Basic; if nothing was registered
then Basic is. These schemes have a factory and no others. The factory of a scheme is the last that was given for it,
and that of the defaults counts only for Basic and only if none was given. The provider is the last that was set. With
the schemes in a list and the factories in a table, both updated step by step, it comes to the same. -/
theorem Authenticator.ofRegistry_configured {H : Type} (basic : Factory H) (settings : List (Setting H)) :
    let a := ofRegistry (.configured basic settings) basic
    let apart := (Roster.configured basic settings).finish basic
    a.schemes = (if registered settings = [] then [.ofText Registry.basicScheme]
      else (registered settings).eraseDups) ∧
    a.schemes.Nodup ∧
    (∀ n, (a.registry.factory? n).isSome ↔ n ∈ a.schemes) ∧
    (∀ n ∈ a.schemes, a.registry.factory? n = some ((lastFactory? settings n).getD basic)) ∧
    (∀ n ∈ a.schemes, lastFactory? settings n = none → n = .ofText Registry.basicScheme) ∧
    a.registry.provider = (lastProvider? settings).getD .none ∧
    apart.schemes = a.schemes ∧ apart.factories = a.registry.factory? ∧
      apart.provider = a.registry.provider := by
  intro a apart
  have hagrees : apart.Agrees a.registry := (Roster.agrees_configured basic settings).finish basic
  have hregistry : a.registry = .configured basic (Registry.completed settings) :=
    Registry.finish_configured basic settings
  have hnames := Registry.registered_completed settings
  obtain ⟨hgiven, hprovider⟩ := Registry.last_completed settings
  have hschemes : a.schemes = (registered (Registry.completed settings)).eraseDups := by
    rw [Authenticator.schemes, hregistry, Registry.schemes_configured]
  have hfactory : ∀ n ∈ a.schemes, n ∈ registered (Registry.completed settings) ∧
      a.registry.factory? n = some ((lastFactory? settings n).getD basic) := by
    intro n hn
    rw [hschemes, List.mem_eraseDups] at hn
    refine ⟨hn, ?_⟩
    rw [hregistry, Registry.factory?_configured, if_pos hn, hgiven]
  refine ⟨?_, hschemes ▸ nodup_eraseDups _, fun n => Registry.isSome_factory?,
    fun n hn => (hfactory n hn).2, ?_, ?_, hagrees.schemes, funext hagrees.factories, hagrees.provider⟩
  · rw [hschemes, hnames]
    split <;> rfl
  · intro n hn hnone
    exact Setting.eq_basic_of_lastFactory? (hfactory n hn).1 (hgiven ▸ hnone)
  · rw [hregistry, Registry.provider_configured, hprovider]

end HttpAuth
