import HttpAuth.Name

namespace HttpAuth

theorem Name.lt_of_not_lt_of_ne {a b : Name} (h : ¬ a.text < b.text) (hne : a ≠ b) :
    b.text < a.text := by
  have hle : b.text ≤ a.text := String.not_lt.mp h
  rcases Classical.em (b.text < a.text) with hlt | hlt
  · exact hlt
  · exact absurd (Name.ext (String.le_antisymm (String.not_lt.mp hlt) hle)) hne

/-- Parameters in ascending order of their keys, one value for each, so equal parameters are equal values. -/
structure Params where
  entries : List (Name × String)
  sorted : entries.Pairwise (fun a b => a.1.text < b.1.text)
deriving DecidableEq

namespace Params

def empty : Params := ⟨[], .nil⟩

instance : EmptyCollection Params := ⟨empty⟩

instance : Inhabited Params := ⟨empty⟩

def insertEntry (key : Name) (value : String) : List (Name × String) → List (Name × String)
  | [] => [(key, value)]
  | e :: rest =>
    if key.text < e.1.text then (key, value) :: e :: rest
    else if key = e.1 then (key, value) :: rest
    else e :: insertEntry key value rest

theorem mem_insertEntry {key : Name} {value : String} {entries : List (Name × String)}
    {e : Name × String} (h : e ∈ insertEntry key value entries) : e = (key, value) ∨ e ∈ entries := by
  induction entries with
  | nil => simpa [insertEntry] using h
  | cons d rest ih =>
    simp only [insertEntry] at h
    split at h
    · simpa using h
    · split at h
      · rcases List.mem_cons.mp h with he | ht
        · exact .inl he
        · exact .inr (List.mem_cons_of_mem _ ht)
      · rcases List.mem_cons.mp h with he | ht
        · exact .inr (he ▸ List.mem_cons_self)
        · exact (ih ht).imp id (List.mem_cons_of_mem _)

theorem insertEntry_sorted {entries : List (Name × String)} (key : Name) (value : String)
    (h : entries.Pairwise (fun a b => a.1.text < b.1.text)) :
    (insertEntry key value entries).Pairwise (fun a b => a.1.text < b.1.text) := by
  induction entries with
  | nil => simp [insertEntry]
  | cons e rest ih =>
    obtain ⟨first, tail⟩ := List.pairwise_cons.mp h
    simp only [insertEntry]
    split
    · next hlt =>
      refine List.pairwise_cons.mpr ⟨?_, h⟩
      intro d hd
      rcases List.mem_cons.mp hd with rfl | hd
      · exact hlt
      · exact String.lt_trans hlt (first d hd)
    · next hlt =>
      split
      · next he => exact List.pairwise_cons.mpr ⟨fun d hd => he ▸ first d hd, tail⟩
      · next hne =>
        refine List.pairwise_cons.mpr ⟨?_, ih tail⟩
        intro d hd
        rcases mem_insertEntry hd with rfl | hd
        · exact Name.lt_of_not_lt_of_ne hlt hne
        · exact first d hd

/-- Sets a parameter; a value under the same key is replaced. -/
def insert (params : Params) (key : Name) (value : String) : Params :=
  ⟨insertEntry key value params.entries, insertEntry_sorted key value params.sorted⟩

/-- The value under a key spelled exactly so: keys are in lower case. -/
def get? (params : Params) (key : String) : Option String :=
  (params.entries.find? (·.1.text = key)).map Prod.snd

def isEmpty (params : Params) : Bool := params.entries.isEmpty

theorem find?_insertEntry (key : Name) (value k : String) (entries : List (Name × String)) :
    ((insertEntry key value entries).find? (·.1.text = k)).map Prod.snd =
      if key.text = k then some value else (entries.find? (·.1.text = k)).map Prod.snd := by
  induction entries with
  | nil => by_cases hk : key.text = k <;> simp [insertEntry, hk]
  | cons e rest ih =>
    simp only [insertEntry]
    split
    · by_cases hk : key.text = k <;> simp [List.find?_cons, hk]
    · split
      · next heq => by_cases hk : e.1.text = k <;> simp [heq, hk]
      · next hne =>
        by_cases hk : e.1.text = k
        · have hkey : key.text ≠ k := fun h => hne (Name.ext (h.trans hk.symm))
          simp [hk, hkey]
        · simpa [List.find?_cons, hk] using ih

theorem get?_insert (params : Params) (key : Name) (value k : String) :
    (params.insert key value).get? k = if key.text = k then some value else params.get? k :=
  find?_insertEntry key value k params.entries

end Params

structure Challenge where
  scheme : Name
  params : Params := ∅
deriving DecidableEq

namespace Challenge

/-- A challenge without parameters. -/
def ofScheme (scheme : String) : Challenge := ⟨Name.ofText scheme, ∅⟩

def set (c : Challenge) (key value : String) : Challenge :=
  { c with params := c.params.insert (Name.ofText key) value }

def param? (c : Challenge) (key : String) : Option String := c.params.get? key

theorem param?_set (c : Challenge) (key value k : String) :
    (c.set key value).param? k = if (Name.ofText key).text = k then some value else c.param? k :=
  Params.get?_insert _ _ _ _

/-- A challenge without parameters is printed as its scheme alone. -/
def isBare (c : Challenge) : Bool := c.params.isEmpty

end Challenge

end HttpAuth
