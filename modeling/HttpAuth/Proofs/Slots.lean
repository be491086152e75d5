import Mathlib.Data.List.Nodup
import Mathlib.Data.List.Perm.Basic
import HttpAuth.Authenticator.Table

namespace HttpAuth.Table

variable {H : Type} {t : Table H} {slot : Slot}

/-- The slots that have a handler, host by host. -/
def slots (t : Table H) : List Slot := t.entries.flatMap fun entry => entry.2.keys.map (Slot.mk entry.1)

theorem mem_slots_iff : slot ∈ t.slots ↔ (t.find? slot).isSome := by
  obtain ⟨host, scheme⟩ := slot
  constructor
  · intro hm
    obtain ⟨⟨host', handlers⟩, hentry, hm⟩ := List.mem_flatMap.mp hm
    obtain ⟨scheme', hscheme, ⟨⟩⟩ := List.mem_map.mp hm
    rw [find?, ofHost, Assoc.find?_eq_some_iff.mpr hentry]
    exact Assoc.mem_keys_iff_find?.mp hscheme
  · intro hs
    obtain ⟨h, hh⟩ := Option.isSome_iff_exists.mp hs
    have hentry := Assoc.find?_eq_some_iff.mp (entry_of_find? hh)
    exact List.mem_flatMap.mpr ⟨_, hentry, List.mem_map_of_mem (Assoc.mem_keys_iff_find?.mpr hs)⟩

theorem nodup_slots (t : Table H) : t.slots.Nodup := by
  apply List.nodup_flatMap.mpr
  constructor
  · rintro ⟨host, handlers⟩ -
    exact handlers.nodup.map fun _ _ h => congrArg Slot.scheme h
  · have hhosts : t.entries.Pairwise fun entry entry' => entry.1 ≠ entry'.1 := List.pairwise_map.mp t.nodup
    apply hhosts.imp
    rintro ⟨host, handlers⟩ ⟨host', handlers'⟩ hne slot hm hm'
    obtain ⟨_, -, rfl⟩ := List.mem_map.mp hm
    obtain ⟨_, -, hslot⟩ := List.mem_map.mp hm'
    exact hne (congrArg Slot.host hslot).symm

/-- A handler in a slot that had one takes its place. -/
theorem slots_put_of_find? {h : H} (hf : t.find? slot = some h) (k : H) : (t.put slot k).slots = t.slots := by
  have hkeys : ((t.ofHost slot.host).put slot.scheme k).keys = (t.ofHost slot.host).keys :=
    Assoc.map_replace hf rfl
  rw [slots, List.flatMap_def, put, Assoc.put, Assoc.map_replace (entry_of_find? hf), ← List.flatMap_def, slots]
  exact congrArg (List.map (Slot.mk slot.host)) hkeys

/-- A handler in a slot that had none adds the slot. -/
theorem perm_slots_put (hn : t.find? slot = none) (h : H) : (t.put slot h).slots.Perm (t.slots ++ [slot]) := by
  have hnew : slot ∉ t.slots := by
    rw [mem_slots_iff, hn]
    exact Bool.false_ne_true
  have hnodup : (t.slots ++ [slot]).Nodup := by
    simpa [List.nodup_append, nodup_slots] using fun s hs (heq : s = slot) => hnew (heq ▸ hs)
  apply (List.perm_ext_iff_of_nodup (nodup_slots _) hnodup).mpr
  intro other
  rw [mem_slots_iff, find?_put, List.mem_append, mem_slots_iff, List.mem_singleton]
  by_cases hs : slot = other
  · simp [hs]
  · simp [hs, Ne.symm hs]

/-- A host is in the table only with a handler. -/
def NoEmptyHost (t : Table H) : Prop := ∀ entry ∈ t.entries, entry.2.entries ≠ []

theorem NoEmptyHost.put (ht : t.NoEmptyHost) (slot : Slot) (h : H) : (t.put slot h).NoEmptyHost := by
  intro entry hm
  rcases Assoc.mem_replace hm with rfl | hold
  · intro hnil
    have hf : ((t.ofHost slot.host).put slot.scheme h).find? slot.scheme = some h := by
      rw [Assoc.find?_put, if_pos rfl]
    rw [Assoc.find?, show ((t.ofHost slot.host).put slot.scheme h).entries = [] from hnil] at hf
    cases hf
  · exact ht entry hold

end HttpAuth.Table
