import HttpAuth.Assoc
import HttpAuth.Name

namespace HttpAuth

/-- The place of a handler. `host` is a host key. -/
structure Slot where
  host : String
  scheme : Name
deriving DecidableEq, Repr

/-- The handlers of a host by scheme. -/
abbrev HostHandlers (H : Type) := Assoc Name H

/-- The handlers of all hosts, by host key. -/
abbrev Table (H : Type) := Assoc String (HostHandlers H)

namespace Table

variable {H : Type}

/-- A host without an entry has no handlers. -/
def ofHost (t : Table H) (host : String) : HostHandlers H := (Assoc.find? t host).getD ∅

def find? (t : Table H) (slot : Slot) : Option H := (t.ofHost slot.host).find? slot.scheme

/-- Puts a handler into its slot, in place of the one that is there. A host without an entry gets one. -/
def put (t : Table H) (slot : Slot) (h : H) : Table H :=
  Assoc.put t slot.host ((t.ofHost slot.host).put slot.scheme h)

theorem ofHost_put (t : Table H) (slot : Slot) (h : H) (host : String) :
    (t.put slot h).ofHost host =
      if slot.host = host then (t.ofHost slot.host).put slot.scheme h else t.ofHost host := by
  rw [ofHost, put, Assoc.find?_put]
  split <;> rfl

theorem find?_put (t : Table H) (slot other : Slot) (h : H) :
    (t.put slot h).find? other = if slot = other then some h else t.find? other := by
  obtain ⟨host, scheme⟩ := slot
  obtain ⟨host', scheme'⟩ := other
  rw [find?, ofHost_put]
  by_cases hhost : host = host'
  · subst hhost
    rw [if_pos rfl, Assoc.find?_put]
    simp [find?]
  · simp [hhost, find?]

@[simp] theorem find?_put_self (t : Table H) (slot : Slot) (h : H) :
    (t.put slot h).find? slot = some h := by
  rw [find?_put, if_pos rfl]

theorem find?_put_of_ne (t : Table H) {slot other : Slot} (h : H) (hne : slot ≠ other) :
    (t.put slot h).find? other = t.find? other := by
  rw [find?_put, if_neg hne]

/-- A host with a handler has an entry. -/
theorem entry_of_find? {t : Table H} {slot : Slot} {h : H} (hf : t.find? slot = some h) :
    Assoc.find? t slot.host = some (t.ofHost slot.host) := by
  rw [find?, ofHost] at hf
  cases he : Assoc.find? t slot.host with
  | none =>
    rw [he] at hf
    cases hf
  | some handlers => rw [ofHost, he, Option.getD_some]

/-- Putting back what is there changes nothing. -/
theorem put_of_find? {t : Table H} {slot : Slot} {h : H} (hf : t.find? slot = some h) :
    t.put slot h = t := by
  rw [put, Assoc.put_of_find? hf, Assoc.put_of_find? (entry_of_find? hf)]

theorem put_put (t : Table H) (slot : Slot) (h k : H) : (t.put slot h).put slot k = t.put slot k := by
  rw [put, ofHost_put, if_pos rfl, Assoc.put_put, put, Assoc.put_put]
  rfl

end Table

end HttpAuth
