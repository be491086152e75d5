import HttpAuth.Text.Ascii
import Mathlib

namespace HttpAuth

theorem char_isAlphanum_iff {c : Char} : c.isAlphanum = true ↔
    0x30 ≤ c.toNat ∧ c.toNat ≤ 0x39 ∨ 0x41 ≤ c.toNat ∧ c.toNat ≤ 0x5A ∨
      0x61 ≤ c.toNat ∧ c.toNat ≤ 0x7A := by
  simp [Char.isAlphanum, Char.isAlpha, Char.isUpper, Char.isLower, Char.isDigit,
    UInt32.le_iff_toNat_le]
  omega

theorem toNat_toLower (c : Char) : c.toLower.toNat =
    if 0x41 ≤ c.toNat ∧ c.toNat ≤ 0x5A then c.toNat + 0x20 else c.toNat := by
  have hu : (c.val ≥ 'A'.val ∧ c.val ≤ 'Z'.val) ↔ 0x41 ≤ c.toNat ∧ c.toNat ≤ 0x5A := by
    simp [UInt32.le_iff_toNat_le]
  unfold Char.toLower
  split
  · next h =>
    have hr := hu.mp h
    rw [if_pos hr, ← Char.toNat_val, UInt32.toNat_add, Nat.mod_eq_of_lt]
    · rfl
    · change c.toNat + 32 < 4294967296
      omega
  · next h => rw [if_neg (fun hr => h (hu.mpr hr))]

theorem isUpper_toLower (c : Char) : c.toLower.isUpper = false := by
  have hn := toNat_toLower c
  rw [Bool.eq_false_iff]
  intro hu
  simp only [Char.isUpper, decide_eq_true_eq, UInt32.le_iff_toNat_le, ge_iff_le,
    Char.toNat_val] at hu
  change 0x41 ≤ _ ∧ _ ≤ 0x5A at hu
  split at hn <;> omega

theorem isAlphanum_toLower {c : Char} (h : c.isAlphanum = true) : c.toLower.isAlphanum = true := by
  have hn := toNat_toLower c
  rw [char_isAlphanum_iff] at h ⊢
  split at hn <;> omega

end HttpAuth
