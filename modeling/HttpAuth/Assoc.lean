namespace HttpAuth

/-- Values by key, at most one for each key, in the order in which the keys came. -/
structure Assoc (K V : Type) where
  entries : List (K × V)
  nodup : (entries.map Prod.fst).Nodup

namespace Assoc

variable {K V : Type}

instance : EmptyCollection (Assoc K V) := ⟨⟨[], .nil⟩⟩

def keys (m : Assoc K V) : List K := m.entries.map Prod.fst

@[ext] theorem ext {m n : Assoc K V} (h : m.entries = n.entries) : m = n := by
  cases m
  cases n
  cases h
  rfl

variable [DecidableEq K] {entries : List (K × V)} {k : K} {v : V}

/-- Gives a key a value. A key that has one keeps its place; a new one comes last. -/
def replace : List (K × V) → K → V → List (K × V)
  | [], k, v => [(k, v)]
  | (j, old) :: rest, k, v => if j = k then (j, v) :: rest else (j, old) :: replace rest k v

theorem lookup_cons (j k : K) (v : V) (rest : List (K × V)) :
    ((j, v) :: rest).lookup k = if j = k then some v else rest.lookup k := by
  by_cases h : j = k
  · simp [h]
  · simp [h, List.lookup_cons, beq_eq_false_iff_ne.mpr (Ne.symm h)]

theorem lookup_replace (entries : List (K × V)) (k j : K) (v : V) :
    (replace entries k v).lookup j = if k = j then some v else entries.lookup j := by
  induction entries with
  | nil => exact lookup_cons k j v []
  | cons entry rest ih =>
    obtain ⟨i, old⟩ := entry
    by_cases hi : i = k
    · subst hi
      simp only [replace, ↓reduceIte, lookup_cons]
      split <;> rfl
    · simp only [replace, hi, ↓reduceIte, lookup_cons, ih]
      split
      · next hj => rw [if_neg fun hk => hi (hj.trans hk.symm)]
      · rfl

/-- What does not tell the new value from the old one sees no change. -/
theorem map_replace {B : Type} {f : K × V → B} {old : V} (h : entries.lookup k = some old)
    (hf : f (k, v) = f (k, old)) : (replace entries k v).map f = entries.map f := by
  induction entries with
  | nil => cases h
  | cons entry rest ih =>
    obtain ⟨i, w⟩ := entry
    rw [lookup_cons] at h
    by_cases hi : i = k
    · subst hi
      rw [if_pos rfl] at h
      cases h
      simp [replace, hf]
    · rw [if_neg hi] at h
      simp [replace, hi, ih h]

theorem keys_replace (entries : List (K × V)) (k : K) (v : V) :
    (replace entries k v).map Prod.fst =
      if k ∈ entries.map Prod.fst then entries.map Prod.fst else entries.map Prod.fst ++ [k] := by
  induction entries with
  | nil => rfl
  | cons entry rest ih =>
    obtain ⟨i, old⟩ := entry
    by_cases hi : i = k
    · simp [replace, hi]
    · simp only [replace, hi, ↓reduceIte, List.map_cons, List.mem_cons, Ne.symm hi, false_or, ih]
      split <;> rfl

theorem mem_keys_iff : k ∈ entries.map Prod.fst ↔ (entries.lookup k).isSome := by
  rw [List.lookup_isSome_iff, List.mem_map]
  simp only [beq_iff_eq, @eq_comm _ k]

theorem mem_of_lookup (h : entries.lookup k = some v) : (k, v) ∈ entries := by
  obtain ⟨before, after, rfl, -⟩ := List.lookup_eq_some_iff.mp h
  exact List.mem_append_right _ List.mem_cons_self

theorem lookup_of_mem (hn : (entries.map Prod.fst).Nodup) (h : (k, v) ∈ entries) :
    entries.lookup k = some v := by
  induction entries with
  | nil => cases h
  | cons entry rest ih =>
    obtain ⟨i, w⟩ := entry
    obtain ⟨hnew, hrest⟩ := List.nodup_cons.mp hn
    rw [lookup_cons]
    rcases List.mem_cons.mp h with heq | hm
    · cases heq
      rw [if_pos rfl]
    · rw [if_neg, ih hrest hm]
      rintro rfl
      exact hnew (List.mem_map.mpr ⟨_, hm, rfl⟩)

theorem nodup_replace (h : (entries.map Prod.fst).Nodup) (k : K) (v : V) :
    ((replace entries k v).map Prod.fst).Nodup := by
  rw [keys_replace]
  split
  · exact h
  · next hnew =>
    refine List.nodup_append.mpr ⟨h, List.pairwise_singleton .., ?_⟩
    rintro j hj _ hm rfl
    exact hnew (List.mem_singleton.mp hm ▸ hj)

theorem mem_replace {entry : K × V} (h : entry ∈ replace entries k v) :
    entry = (k, v) ∨ entry ∈ entries := by
  induction entries with
  | nil => exact .inl (List.mem_singleton.mp h)
  | cons first rest ih =>
    obtain ⟨i, old⟩ := first
    by_cases hi : i = k
    · subst hi
      simp only [replace, ↓reduceIte, List.mem_cons] at h
      exact h.imp_right (List.mem_cons_of_mem _)
    · simp only [replace, hi, ↓reduceIte, List.mem_cons] at h
      rcases h with rfl | h
      · exact .inr List.mem_cons_self
      · exact (ih h).imp_right (List.mem_cons_of_mem _)

theorem replace_replace (entries : List (K × V)) (k : K) (v w : V) :
    replace (replace entries k v) k w = replace entries k w := by
  induction entries with
  | nil => simp [replace]
  | cons entry rest ih =>
    obtain ⟨i, old⟩ := entry
    by_cases hi : i = k
    · simp [replace, hi]
    · simp [replace, hi, ih]

def find? (m : Assoc K V) (k : K) : Option V := m.entries.lookup k

def put (m : Assoc K V) (k : K) (v : V) : Assoc K V :=
  ⟨replace m.entries k v, nodup_replace m.nodup k v⟩

variable {m : Assoc K V}

theorem find?_put (m : Assoc K V) (k j : K) (v : V) :
    (m.put k v).find? j = if k = j then some v else m.find? j :=
  lookup_replace m.entries k j v

/-- Putting back what is there changes nothing. -/
theorem put_of_find? (h : m.find? k = some v) : m.put k v = m := by
  ext1
  simpa [put] using map_replace (f := id) (v := v) h rfl

theorem put_put (m : Assoc K V) (k : K) (v w : V) : (m.put k v).put k w = m.put k w :=
  Assoc.ext (replace_replace m.entries k v w)

theorem mem_keys_iff_find? : k ∈ m.keys ↔ (m.find? k).isSome := mem_keys_iff

theorem find?_eq_some_iff : m.find? k = some v ↔ (k, v) ∈ m.entries :=
  ⟨mem_of_lookup, lookup_of_mem m.nodup⟩

end Assoc

end HttpAuth
