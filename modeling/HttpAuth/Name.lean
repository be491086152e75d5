import HttpAuth.Text.Ascii

namespace HttpAuth

theorem Ascii.toLower_toLower (c : Char) : c.toLower.toLower = c.toLower := by
  delta Char.toLower
  split
  · split
    · next h h' =>
      exfalso
      simp only [ge_iff_le, UInt32.le_iff_toNat_le] at h h'
      have hv : c.val.toNat + 32 < UInt32.size := by
        have := h.2
        simp at this
        simp [UInt32.size]
        omega
      simp at h h'
      omega
    · rfl
  · rfl

theorem Ascii.lower_lower (s : String) : Ascii.lower (Ascii.lower s) = Ascii.lower s := by
  have htwice : Char.toLower ∘ Char.toLower = Char.toLower := funext Ascii.toLower_toLower
  rw [Ascii.lower, Ascii.lower, String.toList_ofList, List.map_map, htwice]

/-- A name in which the case of ASCII letters does not matter. It holds its lower-case spelling, so equal names
are equal values. -/
structure Name where
  text : String
  folded : Ascii.lower text = text
deriving DecidableEq

namespace Name

def ofText (s : String) : Name := ⟨Ascii.lower s, Ascii.lower_lower s⟩

@[ext] theorem ext {a b : Name} (h : a.text = b.text) : a = b := by
  cases a; cases b; cases h; rfl

instance : Repr Name := ⟨fun a p => reprPrec a.text p⟩

instance : Inhabited Name := ⟨ofText ""⟩

end Name

end HttpAuth
