import HttpAuth.Session.Basic

namespace HttpAuth.Session

variable {W α β : Type}

theorem bind_apply (x : SessionM W α) (f : α → SessionM W β) (s : Session W) :
    (x >>= f) s = f (x s).1 (x s).2 := rfl

theorem pure_apply (a : α) (s : Session W) : (pure a : SessionM W α) s = (a, s) := rfl

theorem log_apply (event : Event) (s : Session W) :
    log event s = ((), { s with journal := s.journal ++ [.logged event] }) := rfl

theorem lookUp_apply (provider : CredentialsProvider) (host : String) (s : Session W) :
    lookUp provider host s = (provider host, { s with journal := s.journal ++ [.lookedUp host] }) := rfl

/-- Only the answer for the host counts. -/
theorem lookUp_congr {provider provider' : CredentialsProvider} {host : String}
    (h : provider host = provider' host) :
    (lookUp provider host : SessionM W Credentials) = lookUp provider' host := by
  funext s
  rw [lookUp_apply, lookUp_apply, h]

theorem send_apply (net : Network W) (purpose : Purpose) (request : Request) (s : Session W) :
    send net purpose request s =
      ((net.send request s.world).1,
        { world := (net.send request s.world).2
          journal := s.journal ++ [.sent purpose request (net.send request s.world).1] }) := rfl

theorem now_apply (net : Network W) (s : Session W) :
    now net s = ((net.now s.world).1, { s with world := (net.now s.world).2 }) := rfl

/-- How many messages were sent for callers. -/
def deliveries (s : Session W) : Nat := s.journal.countP fun entry =>
  match entry with
  | .sent .delivery .. => true
  | _ => false

theorem deliveries_send (net : Network W) (request : Request) (s : Session W) :
    (send net .delivery request s).2.deliveries = s.deliveries + 1 := by
  simp [send_apply, deliveries, List.countP_append]

/-- The messages that were sent for callers, each with what came back. -/
def delivered (s : Session W) : List (Request × Except String Response) := s.journal.filterMap fun entry =>
  match entry with
  | .sent .delivery request reply => some (request, reply)
  | _ => none

theorem deliveries_eq_length (s : Session W) : s.deliveries = s.delivered.length := by
  rw [deliveries, delivered, List.length_filterMap_eq_countP]
  congr 1
  funext entry
  rcases entry with ⟨_ | _, _, _⟩ | _ | _ <;> rfl

theorem delivered_send (net : Network W) (request : Request) (s : Session W) :
    (send net .delivery request s).2.delivered =
      s.delivered ++ [(request, (net.send request s.world).1)] := by
  simp [send_apply, delivered, List.filterMap_append]

/-- Does not look at the journal, and sends nothing for a caller. -/
structure Discreet (x : SessionM W α) : Prop where
  blind : ∀ s s' : Session W, s.world = s'.world →
    (x s).1 = (x s').1 ∧ (x s).2.world = (x s').2.world
  delivers : ∀ s : Session W, (x s).2.delivered = s.delivered

theorem Discreet.quiet {x : SessionM W α} (hx : Discreet x) (s : Session W) :
    (x s).2.deliveries = s.deliveries := by
  rw [deliveries_eq_length, deliveries_eq_length, hx.delivers]

theorem discreet_pure (a : α) : Discreet (pure a : SessionM W α) :=
  ⟨fun _ _ h => ⟨rfl, h⟩, fun _ => rfl⟩

theorem discreet_log (event : Event) : Discreet (log event : SessionM W Unit) where
  blind _ _ h := ⟨rfl, h⟩
  delivers s := by simp [log_apply, delivered, List.filterMap_append]

theorem discreet_lookUp (provider : CredentialsProvider) (host : String) :
    Discreet (lookUp provider host : SessionM W Credentials) where
  blind _ _ h := ⟨rfl, h⟩
  delivers s := by simp [lookUp_apply, delivered, List.filterMap_append]

theorem discreet_send (net : Network W) (request : Request) :
    Discreet (send net .token request) where
  blind s s' h := by
    rw [send_apply, send_apply, h]
    exact ⟨rfl, rfl⟩
  delivers s := by simp [send_apply, delivered, List.filterMap_append]

theorem discreet_now (net : Network W) : Discreet (now net) where
  blind s s' h := by
    rw [now_apply, now_apply, h]
    exact ⟨rfl, rfl⟩
  delivers _ := rfl

theorem Discreet.bind {x : SessionM W α} {f : α → SessionM W β} (hx : Discreet x)
    (hf : ∀ a, Discreet (f a)) : Discreet (x >>= f) where
  blind s s' h := by
    obtain ⟨hfst, hsnd⟩ := hx.blind s s' h
    rw [bind_apply, bind_apply, hfst]
    exact (hf _).blind _ _ hsnd
  delivers s := by
    rw [bind_apply, (hf _).delivers, hx.delivers]

/-- A clock that always shows the beginning of 1970. -/
def stoppedClock (w : W) : Time.Instant × W := ((Time.Instant.ofUnix? 0 0).get (by decide), w)

end HttpAuth.Session
