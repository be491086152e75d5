import HttpAuth.Proofs.Faults
import Mathlib.Data.List.Basic

namespace HttpAuth

namespace Utf8

/-- How many bytes the text has more than the segment: U+FFFD takes three. -/
def Segment.surplus (s : Segment) : Nat := if s.char?.isSome then 0 else 3 - s.width

def surplus : List Segment → Nat
  | [] => 0
  | s :: rest => s.surplus + surplus rest

theorem readTail_none {number more low high k : Nat} {bytes : List UInt8}
    (h : readTail number more low high bytes = (none, k)) : k < more := by
  induction more generalizing number low high bytes k with
  | zero => cases h
  | succ more ih =>
    cases bytes with
    | nil =>
      cases h
      exact Nat.succ_pos more
    | cons b rest =>
      rw [readTail] at h
      split at h
      · obtain ⟨hnone, rfl⟩ := Prod.mk.inj h
        exact Nat.succ_lt_succ (ih (Prod.ext hnone rfl))
      · cases h
        exact Nat.succ_pos more

/-- A damaged stretch has no more bytes than its lead byte announces, and not all of them. -/
theorem readChar_none {b : UInt8} {rest : List UInt8} {k : Nat} (h : readChar b rest = (none, k)) :
    k + 1 ≤ 3 := by
  have hb : ¬ b.toNat < 0x80 := by
    intro hb
    rw [readChar_ascii hb] at h
    cases h
  cases hl : lead? b.toNat with
  | none =>
    simp only [readChar, hb, hl, ↓reduceIte, Prod.mk.injEq, true_and] at h
    omega
  | some l =>
    have hlead := isLead_of_lead? hl
    rw [readChar_lead hlead, Prod.mk.injEq, Option.map_eq_none_iff] at h
    have hk := readTail_none (Prod.ext h.1 h.2)
    have hmore : l.more ≤ 3 := by
      generalize b.toNat = n at hlead
      cases hlead <;> simp
    omega

/-- What stands in the text for one segment. -/
theorem length_encodeChar_readChar {b : UInt8} {rest : List UInt8} {c? : Option Char} {k : Nat}
    (h : readChar b rest = (c?, k)) :
    (encodeChar (c?.getD replacement)).length = k + 1 + Segment.surplus ⟨c?, k + 1⟩ := by
  cases c? with
  | none =>
    have hk := readChar_none h
    have hthree : (encodeChar replacement).length = 3 := by decide
    simp only [Option.getD_none, hthree, Segment.surplus, Option.isSome_none, Bool.false_eq_true, ↓reduceIte]
    omega
  | some c =>
    obtain ⟨tail, after, -, rfl, hc⟩ := encodeChar_of_readChar h
    rw [Option.getD_some, hc]
    rfl

theorem length_encode_decodeLossy (bytes : List UInt8) :
    (encode (decodeLossy bytes)).length = bytes.length + surplus (segments bytes) := by
  match bytes with
  | [] => simp [decodeLossy, segments, surplus, encode]
  | b :: rest =>
    rcases hr : readChar b rest with ⟨c?, k⟩
    have hfirst := length_encodeChar_readChar hr
    have hrest := length_encode_decodeLossy (rest.drop k)
    have hk : k ≤ rest.length := by
      have hle := readChar_le b rest
      rwa [hr] at hle
    simp only [encode, decodeLossy, String.toList_ofList, segments_cons, hr, surplus, List.map_cons,
      encodeChars_cons, List.length_append, List.length_drop, List.length_cons] at hrest ⊢
    omega
termination_by bytes.length
decreasing_by simp only [List.length_drop, List.length_cons]; omega

theorem width_of_damaged {bytes : List UInt8} :
    ∀ s ∈ segments bytes, s.char? = none → s.width ≤ 3 := by
  match bytes with
  | [] => simp [segments]
  | b :: rest =>
    rw [segments_cons, List.forall_mem_cons]
    exact ⟨fun hnone => readChar_none (Prod.ext hnone rfl), width_of_damaged⟩
termination_by bytes.length
decreasing_by simp only [List.length_drop, List.length_cons]; omega

theorem surplus_eq_zero_iff {segs : List Segment} (h : ∀ s ∈ segs, s.char? = none → s.width ≤ 3) :
    surplus segs = 0 ↔ ∀ s ∈ segs, s.char? = none → s.width = 3 := by
  induction segs with
  | nil => simp [surplus]
  | cons s segs ih =>
    obtain ⟨hs, hrest⟩ := List.forall_mem_cons.mp h
    rw [surplus, Nat.add_eq_zero_iff, ih hrest, List.forall_mem_cons, Segment.surplus]
    refine and_congr_left' ?_
    cases hc : s.char? with
    | none =>
      have hle := hs hc
      simp only [Option.isSome_none, Bool.false_eq_true, ↓reduceIte, forall_const]
      omega
    | some c => simp

/-- An ASCII byte is a character by itself, so what stands behind it falls into segments by itself. -/
theorem segments_behind_ascii {b : UInt8} (hb : b.toNat < 0x80) (xs ys : List UInt8) :
    segments (xs ++ [b] ++ ys) = segments (xs ++ [b]) ++ segments ys := by
  have hone : segments (b :: ys) = segments [b] ++ segments ys := by
    simp only [segments_cons, readChar_ascii hb, List.drop_zero, List.cons_append]
    rw [segments, List.nil_append]
  rw [← List.append_cons, segments_append_ascii hb, segments_append_ascii hb, hone, List.append_assoc]

end Utf8

namespace Place

variable {q : Place} {bytes : List UInt8} {b : UInt8}

theorem quoting_of_refused (h : q.step b = none) : q.quoting = .outside := by
  cases q with
  | word | value | settled => rfl
  | quoted key content opened =>
    simp only [step] at h
    split at h
    · cases h
    split at h <;> cases h
  | escaped => cases h

/-- Outside of quoted strings the last byte is ASCII, so a character does not go on behind it. -/
theorem segments_outside (h : start.feed bytes = .ok q) (hq : q.quoting = .outside) (rest : List UInt8) :
    Utf8.segments (bytes ++ rest) = Utf8.segments bytes ++ Utf8.segments rest := by
  rcases List.eq_nil_or_concat' bytes with rfl | ⟨before, b, rfl⟩
  · rw [Utf8.segments, List.nil_append, List.nil_append]
  · obtain ⟨p, -, hlast⟩ := feed_cut h
    have hb : b.toNat < 0x80 := by
      by_contra hb
      have hinside := (quoting_of_step (step_of_feed hlast) (by omega)).2
      rw [hq] at hinside
      cases hinside
    exact Utf8.segments_behind_ascii hb before rest

end Place

namespace Challenge

variable {bytes : List UInt8} {e : ParseError}

theorem header_of_error (h : parse bytes = .error e) : e.header = Utf8.decodeLossy bytes := by
  have hp := parse_of_feed bytes
  rw [h] at hp
  split at hp
  · cases hp
    rfl
  · split at hp
    · cases hp
      rfl
    · split at hp
      · cases hp
      · cases hp
        rfl

/-- The bytes before the fault and those from there on are read one by one. -/
structure Parted (bytes : List UInt8) (offset : Nat) : Prop where
  within : offset ≤ bytes.length
  segments : Utf8.segments bytes =
    Utf8.segments (bytes.take offset) ++ Utf8.segments (bytes.drop offset)

theorem Failure.parted {fault : Fault} {offset : Nat} (h : Failure bytes fault offset) :
    Parted bytes offset := by
  cases h with
  | @refused taken rest b q hbytes ht hb =>
    subst hbytes
    refine ⟨by simp, ?_⟩
    rw [List.take_left, List.drop_left]
    exact Place.segments_outside ht (Place.quoting_of_refused hb) _
  | unfinished =>
    refine ⟨Nat.le_refl _, ?_⟩
    rw [List.take_length, List.drop_length, Utf8.segments, List.append_nil]
  | damaged =>
    obtain ⟨cs, rest, rfl, hrest, -⟩ := Utf8.exists_sound_beginning bytes
    rw [Utf8.validLength_chars_append, hrest, Nat.add_zero]
    refine ⟨by simp, ?_⟩
    rw [List.take_left, List.drop_left, Utf8.segments_encodeChars_append, Utf8.segments_encodeChars]

theorem Failure.position {fault : Fault} {offset : Nat} (h : Failure bytes fault offset) :
    (∀ b, fault = .unexpectedByte b → bytes[offset]? = some b) ∧
      (fault = .unterminatedQuote → offset = bytes.length) ∧
      (fault = .invalidUtf8 → Utf8.isValid (bytes.take offset) = true) := by
  cases h with
  | refused hbytes =>
    refine ⟨?_, nofun, nofun⟩
    rintro b ⟨⟩
    simp [hbytes]
  | unfinished => exact ⟨nofun, fun _ => rfl, nofun⟩
  | damaged => exact ⟨nofun, nofun, fun _ => (Utf8.validLength_isGreatest bytes).1.2⟩

/-- The position counts the bytes before the fault. In the text, what is read from them comes first and then
what is read from the fault on, so the position is that of the fault there exactly if every damaged stretch
before it has as many bytes as U+FFFD. With shorter ones it points too far to the front, by all that they have
gained. -/
theorem offset_in_header (h : parse bytes = .error e) :
    let before := bytes.take e.offset
    e.offset ≤ bytes.length ∧
    (∀ b, e.fault = .unexpectedByte b → bytes[e.offset]? = some b) ∧
    (e.fault = .unterminatedQuote → e.offset = bytes.length) ∧
    (e.fault = .invalidUtf8 → Utf8.isValid before = true) ∧
    e.header = Utf8.decodeLossy before ++ Utf8.decodeLossy (bytes.drop e.offset) ∧
    (Utf8.encode (Utf8.decodeLossy before)).length = e.offset + Utf8.surplus (Utf8.segments before) ∧
    ((Utf8.encode e.header).take e.offset = Utf8.encode (Utf8.decodeLossy before) ↔
      ∀ s ∈ Utf8.segments before, s.char? = none → s.width = 3) := by
  intro before
  have hfailure : Failure bytes e.fault e.offset := failsAt_iff.mp ⟨e, h, rfl, rfl⟩
  obtain ⟨hbyte, hend, hvalid⟩ := hfailure.position
  obtain ⟨hwithin, hsegments⟩ := hfailure.parted
  have hheader : e.header = Utf8.decodeLossy before ++ Utf8.decodeLossy (bytes.drop e.offset) := by
    rw [header_of_error h, Utf8.decodeLossy, hsegments, List.map_append, String.ofList_append]
    rfl
  have hlength : (Utf8.encode (Utf8.decodeLossy before)).length =
      e.offset + Utf8.surplus (Utf8.segments before) := by
    rw [Utf8.length_encode_decodeLossy, List.length_take, Nat.min_eq_left hwithin]
  refine ⟨hwithin, hbyte, hend, hvalid, hheader, hlength, ?_⟩
  -- What is read from before the fault is never shorter than the position, so the cut is within it.
  rw [← Utf8.surplus_eq_zero_iff Utf8.width_of_damaged, hheader, Utf8.encode_append,
    List.take_append_of_le_length (by omega)]
  constructor
  · intro htake
    have hwhole := congrArg List.length htake
    rw [List.length_take] at hwhole
    omega
  · intro hzero
    exact List.take_of_length_le (by omega)

/-- Three bytes of a character whose fourth is missing, so the position is that of the fault in the text. -/
theorem offset_in_header_three_bytes :
    let bytes := Utf8.encode "Basic realm=\"" ++ [0xF0, 0x9F, 0x98] ++ Utf8.encode "\"x"
    let e : ParseError := ⟨.unexpectedByte 0x78, "Basic realm=\"\uFFFD\"x", 17⟩
    parse bytes = .error e ∧
      (Utf8.encode e.header).take e.offset = Utf8.encode (Utf8.decodeLossy (bytes.take e.offset)) := by
  intro bytes e
  have he : parse bytes = .error e := by decide +kernel
  have hwide : ∀ s ∈ Utf8.segments (bytes.take 17), s.char? = none → s.width = 3 := by decide +kernel
  obtain ⟨-, -, -, -, -, -, hplace⟩ := offset_in_header he
  exact ⟨he, hplace.mpr hwide⟩

/-- Behind a single damaged byte the position is two short. In the text it lies inside U+FFFD. -/
theorem not_offset_in_header :
    let bytes := Utf8.encode "Basic realm=\"" ++ [0xFF] ++ Utf8.encode "\"x"
    let e : ParseError := ⟨.unexpectedByte 0x78, "Basic realm=\"\uFFFD\"x", 15⟩
    parse bytes = .error e ∧ bytes[15]? = some 0x78 ∧
      (Utf8.encode (Utf8.decodeLossy (bytes.take 15))).length = 17 ∧
      (Utf8.encode e.header).take e.offset ≠ Utf8.encode (Utf8.decodeLossy (bytes.take e.offset)) := by
  decide +kernel

end Challenge

end HttpAuth
