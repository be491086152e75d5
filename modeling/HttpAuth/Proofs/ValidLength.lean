import HttpAuth.Proofs.Utf8
import Mathlib.Order.Bounds.Basic

namespace HttpAuth.Utf8

theorem soundWidth_chars_append (cs : List Char) (rest : List Segment) :
    soundWidth (cs.map segmentOf ++ rest) = (encodeChars cs).length + soundWidth rest := by
  induction cs with
  | nil => simp
  | cons c cs ih =>
    have hs : (segmentOf c).char?.isSome = true := rfl
    rw [List.map_cons, List.cons_append, soundWidth, if_pos hs, ih, encodeChars_cons,
      List.length_append, Nat.add_assoc]
    rfl

theorem validLength_chars_append (cs : List Char) (rest : List UInt8) :
    validLength (encodeChars cs ++ rest) = (encodeChars cs).length + validLength rest := by
  rw [validLength, segments_encodeChars_append, soundWidth_chars_append, validLength]

theorem validLength_nil : validLength [] = 0 := by
  simp [validLength, segments, soundWidth]

/-- Whole characters, and behind them nothing or a damaged stretch. -/
theorem exists_sound_beginning (bytes : List UInt8) :
    ∃ cs rest, bytes = encodeChars cs ++ rest ∧ validLength rest = 0 ∧
      ∀ b tail, rest = b :: tail → 0x80 ≤ b.toNat := by
  match bytes with
  | [] => exact ⟨[], [], rfl, validLength_nil, by simp⟩
  | b :: tail =>
    rcases hr : readChar b tail with ⟨_ | c, k⟩
    · refine ⟨[], b :: tail, rfl, ?_, ?_⟩
      · rw [validLength, segments_cons, hr]
        rfl
      · rintro d rest ⟨⟩
        by_contra hlow
        rw [readChar_ascii (by omega)] at hr
        cases hr
    · obtain ⟨more, after, htail, -, hc⟩ := encodeChar_of_readChar hr
      have hshort : after.length ≤ tail.length := by simp [htail]
      obtain ⟨cs, rest, hafter, hrest, hhead⟩ := exists_sound_beginning after
      refine ⟨c :: cs, rest, ?_, hrest, hhead⟩
      rw [encodeChars_cons, hc, htail, hafter, List.cons_append, List.cons_append, List.append_assoc]
termination_by bytes.length
decreasing_by simp only [List.length_cons]; omega

theorem isValid_encodeChars (cs : List Char) : isValid (encodeChars cs) = true :=
  isValid_iff.mpr ⟨cs, rfl⟩

theorem validLength_of_isValid {xs : List UInt8} (hx : isValid xs = true) (ys : List UInt8) :
    validLength (xs ++ ys) = xs.length + validLength ys := by
  obtain ⟨cs, rfl⟩ := isValid_iff.mp hx
  exact validLength_chars_append cs ys

/-- No longer beginning is valid. -/
theorem validLength_isGreatest (bytes : List UInt8) :
    IsGreatest {n | n ≤ bytes.length ∧ isValid (bytes.take n) = true} (validLength bytes) := by
  constructor
  · obtain ⟨cs, rest, rfl, hrest, -⟩ := exists_sound_beginning bytes
    rw [validLength_chars_append, hrest, Nat.add_zero]
    refine ⟨by simp, ?_⟩
    rw [List.take_left]
    exact isValid_encodeChars cs
  · rintro n ⟨hn, hv⟩
    have hlength := validLength_of_isValid hv (bytes.drop n)
    rw [List.take_append_drop, List.length_take, Nat.min_eq_left hn] at hlength
    omega

theorem validLength_lt {bytes : List UInt8} (h : isValid bytes = false) :
    validLength bytes < bytes.length := by
  obtain ⟨hle, hv⟩ := (validLength_isGreatest bytes).1
  refine Nat.lt_of_le_of_ne hle ?_
  intro he
  rw [he, List.take_length, h] at hv
  cases hv

/-- Where the sound beginning ends there stands no ASCII byte. -/
theorem exists_byte_of_not_isValid {bytes : List UInt8} (h : isValid bytes = false) :
    ∃ b, bytes[validLength bytes]? = some b ∧ 0x80 ≤ b.toNat := by
  obtain ⟨cs, rest, rfl, hrest, hhead⟩ := exists_sound_beginning bytes
  rw [validLength_chars_append, hrest, Nat.add_zero, List.getElem?_append_right (Nat.le_refl _),
    Nat.sub_self]
  cases rest with
  | nil =>
    rw [List.append_nil, isValid_encodeChars] at h
    cases h
  | cons b tail => exact ⟨b, rfl, hhead b tail rfl⟩

theorem readTail_append_ascii {b : UInt8} (hb : b.toNat < 0x80) (xs ys : List UInt8)
    (number more : Nat) {low : Nat} (high : Nat) (hl : 0x80 ≤ low) :
    readTail number more low high (xs ++ b :: ys) = readTail number more low high xs := by
  induction more generalizing number low high xs with
  | zero => rfl
  | succ more ih =>
    cases xs with
    | nil => simp [readTail, show ¬ low ≤ b.toNat by omega]
    | cons x xs => simp [readTail, ih xs _ 0xBF (Nat.le_refl _)]

theorem readTail_le (number more low high : Nat) (bytes : List UInt8) :
    (readTail number more low high bytes).2 ≤ bytes.length := by
  induction more generalizing number low high bytes with
  | zero => simp [readTail]
  | succ more ih =>
    cases bytes with
    | nil => simp [readTail]
    | cons x bytes =>
      rw [readTail]
      split
      · simpa using ih _ _ _ bytes
      · simp

theorem readChar_append_ascii {b : UInt8} (hb : b.toNat < 0x80) (x : UInt8) (xs ys : List UInt8) :
    readChar x (xs ++ b :: ys) = readChar x xs := by
  unfold readChar
  split
  · rfl
  · cases hl : lead? x.toNat with
    | none => rfl
    | some l =>
      simp only [readTail_append_ascii hb xs ys l.payload l.more l.high (isLead_of_lead? hl).range.1]

theorem readChar_le (x : UInt8) (xs : List UInt8) : (readChar x xs).2 ≤ xs.length := by
  unfold readChar
  split
  · simp
  · cases lead? x.toNat with
    | none => simp
    | some l => exact readTail_le _ _ _ _ _

theorem segments_append_ascii {b : UInt8} (hb : b.toNat < 0x80) (xs ys : List UInt8) :
    segments (xs ++ b :: ys) = segments xs ++ segments (b :: ys) := by
  match xs with
  | [] => rw [List.nil_append, segments, List.nil_append]
  | x :: xs =>
    have hk := readChar_le x xs
    have hrest := segments_append_ascii hb (xs.drop (readChar x xs).2) ys
    rw [List.cons_append, segments_cons, readChar_append_ascii hb, List.drop_append_of_le_length hk,
      hrest, segments_cons x xs, List.cons_append]
termination_by xs.length
decreasing_by simp only [List.length_drop, List.length_cons]; omega

theorem soundWidth_append {rest : List Segment} {segs : List Segment}
    (h : segs.all (·.char?.isSome) = false) : soundWidth (segs ++ rest) = soundWidth segs := by
  induction segs with
  | nil => cases h
  | cons s segs ih =>
    rw [List.cons_append, soundWidth, soundWidth]
    split
    · next hs =>
      rw [ih]
      simpa [hs] using h
    · rfl

/-- If the bytes before an ASCII byte are damaged then it does not matter what follows. -/
theorem validLength_append_ascii {b : UInt8} (hb : b.toNat < 0x80) {xs : List UInt8}
    (hx : isValid xs = false) (ys : List UInt8) : validLength (xs ++ b :: ys) = validLength xs := by
  rw [validLength, segments_append_ascii hb, soundWidth_append hx, validLength]

/-- ASCII bytes, at least one: they end whatever stands before them and begin nothing. -/
structure Separates (mid : List UInt8) : Prop where
  ne_nil : mid ≠ []
  ascii : ∀ b ∈ mid, b.toNat < 0x80

namespace Separates

variable {mid : List UInt8}

theorem singleton {b : UInt8} (hb : b.toNat < 0x80) : Separates [b] :=
  ⟨List.cons_ne_nil _ _, List.forall_mem_singleton.mpr hb⟩

theorem isValid_iff (h : Separates mid) (xs ys : List UInt8) :
    isValid (xs ++ mid ++ ys) = true ↔ isValid xs = true ∧ isValid ys = true := by
  obtain ⟨b, rest, rfl⟩ := List.exists_cons_of_ne_nil h.ne_nil
  obtain ⟨hb, hrest⟩ := List.forall_mem_cons.mp h.ascii
  rw [List.append_assoc, List.cons_append, isValid_cut hb, isValid_ascii_append hrest]

theorem validLength (h : Separates mid) (xs ys : List UInt8) : validLength (xs ++ mid ++ ys) =
    if isValid xs then (xs ++ mid).length + validLength ys else validLength xs := by
  split
  · next hx =>
    apply validLength_of_isValid
    rw [← List.append_nil (_ ++ _), h.isValid_iff]
    exact ⟨hx, isValid_encodeChars []⟩
  · next hx =>
    obtain ⟨b, rest, rfl⟩ := List.exists_cons_of_ne_nil h.ne_nil
    rw [List.append_assoc, List.cons_append]
    exact validLength_append_ascii (h.ascii b List.mem_cons_self) (Bool.eq_false_iff.mpr hx) _

end Separates

end HttpAuth.Utf8
