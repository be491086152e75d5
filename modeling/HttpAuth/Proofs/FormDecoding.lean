import HttpAuth.Proofs.Letters
import HttpAuth.Proofs.Utf8
import HttpAuth.Url.Form

namespace HttpAuth

namespace Percent

theorem isAlphanum_hexUpper : ∀ n < 16, (hexUpper n).isAlphanum = true := by decide

theorem digitValue?_hexUpper : ∀ n < 16, Ascii.digitValue? 16 (hexUpper n) = some n := by decide

theorem toNat_hexUpper_lt : ∀ n < 16, (hexUpper n).toNat < 0x80 := by decide

/-- What stands for a byte. -/
theorem mem_encodeByte {b : UInt8} {c : Char} (h : c ∈ encodeByte b) :
    c = '%' ∨ c.isAlphanum = true := by
  have hb := b.toNat_lt
  rcases List.mem_cons.mp h with rfl | h
  · exact .inl rfl
  · rcases List.mem_cons.mp h with rfl | h
    · exact .inr (isAlphanum_hexUpper _ (by omega))
    · rw [List.mem_singleton.mp h]
      exact .inr (isAlphanum_hexUpper _ (by omega))

theorem encodeChars_encodeByte (b : UInt8) :
    Utf8.encodeChars (encodeByte b) =
      [0x25, UInt8.ofNat (hexUpper (b.toNat / 16)).toNat,
        UInt8.ofNat (hexUpper (b.toNat % 16)).toNat] := by
  have hb := b.toNat_lt
  have hhigh := toNat_hexUpper_lt (b.toNat / 16) (by omega)
  have hlow := toNat_hexUpper_lt (b.toNat % 16) (by omega)
  simp only [encodeByte, Utf8.encodeChars_cons, Utf8.encodeChars_nil, Utf8.encodeChar_ascii hhigh,
    Utf8.encodeChar_ascii hlow]
  rfl

theorem decode_cons {b : UInt8} (hb : b ≠ 0x25) (rest : List UInt8) :
    decode (b :: rest) = b :: decode rest := by
  match rest with
  | [] => rfl
  | [_] => rfl
  | c :: d :: tail => rw [decode, if_neg hb]

/-- A byte that was encoded is read back. -/
theorem decode_encodeByte (b : UInt8) (rest : List UInt8) :
    decode (Utf8.encodeChars (encodeByte b) ++ rest) = b :: decode rest := by
  have hb := b.toNat_lt
  have hchar : ∀ n < 16, Char.ofNat (UInt8.ofNat (hexUpper n).toNat).toNat = hexUpper n := by
    intro n hn
    rw [Utf8.toNat_ofNat_byte (Nat.lt_trans (toNat_hexUpper_lt n hn) (by decide)), Char.ofNat_toNat]
  rw [encodeChars_encodeByte]
  simp only [List.cons_append, List.nil_append, decode, if_pos]
  rw [hchar _ (by omega), hchar _ (by omega), digitValue?_hexUpper _ (by omega),
    digitValue?_hexUpper _ (by omega)]
  simp only [List.cons.injEq, and_true]
  exact Utf8.ofNat_eq_of_toNat b (by omega)

end Percent

namespace Form

def ampersand : UInt8 := 0x26

def equals : UInt8 := 0x3D

def plus : UInt8 := 0x2B

/-- A plus sign is a blank. -/
def readByte (b : UInt8) : UInt8 := if b = plus then 0x20 else b

def decodeText (bytes : List UInt8) : String := Utf8.decodeLossy (Percent.decode (bytes.map readByte))

/-- What stands before and after the first equals sign. -/
def decodePair (bytes : List UInt8) : String × String :=
  (decodeText (bytes.takeWhile (· ≠ equals)), decodeText ((bytes.dropWhile (· ≠ equals)).drop 1))

/-- The pairs of a query stand between ampersands, where nothing may stand as well. -/
def decodeBytes (query : List UInt8) : List (String × String) :=
  ((query.splitOn ampersand).filter (· ≠ [])).map decodePair

def decode (query : String) : List (String × String) := decodeBytes (Utf8.encode query)

/-- A character of an encoded text. -/
def isEncoded (c : Char) : Bool := c.isAlphanum || c ∈ ['%', '+', '*', '-', '.', '_']

/-- What stands for itself is no mark of the encoding. -/
theorem plain_byte {b : UInt8} (h : isPlain b = true) :
    isEncoded (Char.ofNat b.toNat) = true ∧ b.toNat < 0x80 ∧ b ≠ 0x25 ∧ b ≠ plus := by
  have hall : ∀ n < 256, isPlain (UInt8.ofNat n) = true → isEncoded (Char.ofNat n) = true ∧
      n < 0x80 ∧ UInt8.ofNat n ≠ 0x25 ∧ UInt8.ofNat n ≠ plus := by
    decide +kernel
  have hb := hall b.toNat b.toNat_lt
  rw [UInt8.ofNat_toNat] at hb
  exact hb h

theorem isEncoded_of_mem {b : UInt8} {c : Char} (h : c ∈ encodeByte b) : isEncoded c = true := by
  unfold encodeByte at h
  split at h
  · next hb =>
    rw [List.mem_singleton.mp h]
    exact (plain_byte hb).1
  · split at h
    · rw [List.mem_singleton.mp h]
      rfl
    · rcases Percent.mem_encodeByte h with rfl | hc
      · rfl
      · rw [isEncoded, hc, Bool.true_or]

theorem isEncoded_encode {s : String} {c : Char} (h : c ∈ encode s) : isEncoded c = true := by
  obtain ⟨b, -, hb⟩ := List.mem_flatMap.mp h
  exact isEncoded_of_mem hb

theorem not_mem_encode {c : Char} (hc : isEncoded c = false) (s : String) : c ∉ encode s := by
  intro hm
  simp [isEncoded_encode hm] at hc

theorem hash_not_mem_append {query : List Char} (h : '#' ∉ query) (pairs : List (String × String)) :
    '#' ∉ append query pairs := by
  induction pairs generalizing query with
  | nil => exact h
  | cons p rest ih =>
    apply ih
    have hnone : ∀ s, '#' ∉ encode s := not_mem_encode rfl
    split
    · simp [pair, hnone, h]
    · simp [pair, hnone, h]

theorem readByte_hexUpper : ∀ n < 16, readByte (UInt8.ofNat (Percent.hexUpper n).toNat) =
    UInt8.ofNat (Percent.hexUpper n).toNat := by decide

/-- A byte is read back, however it was written. -/
theorem decode_encodeByte (b : UInt8) (rest : List UInt8) :
    Percent.decode ((Utf8.encodeChars (encodeByte b)).map readByte ++ rest) =
      b :: Percent.decode rest := by
  have hb := b.toNat_lt
  unfold encodeByte
  split
  · next hplain =>
    obtain ⟨-, hlt, hpercent, hplus⟩ := plain_byte hplain
    have hchar : Utf8.encodeChars [Char.ofNat b.toNat] = [b] := by
      have hn : (Char.ofNat b.toNat).toNat = b.toNat :=
        Utf8.toNat_ofNat_of_range (by omega) (.inl (by omega))
      rw [Utf8.encodeChars_cons, Utf8.encodeChar_ascii (by omega), hn, UInt8.ofNat_toNat]
      rfl
    rw [hchar, List.map_singleton, readByte, if_neg hplus, List.singleton_append,
      Percent.decode_cons hpercent]
  · split
    · next hblank =>
      subst hblank
      exact Percent.decode_cons (by decide) rest
    · have hread : (Utf8.encodeChars (Percent.encodeByte b)).map readByte =
          Utf8.encodeChars (Percent.encodeByte b) := by
        rw [Percent.encodeChars_encodeByte]
        simp only [List.map_cons, List.map_nil]
        rw [readByte_hexUpper _ (by omega), readByte_hexUpper _ (by omega)]
        rfl
      rw [hread, Percent.decode_encodeByte]

theorem decode_encodeBytes (bytes : List UInt8) :
    Percent.decode ((Utf8.encodeChars (bytes.flatMap encodeByte)).map readByte) = bytes := by
  induction bytes with
  | nil => rfl
  | cons b rest ih =>
    rw [List.flatMap_cons, Utf8.encodeChars_append, List.map_append, decode_encodeByte, ih]

theorem decodeText_encode (s : String) : decodeText (Utf8.encodeChars (encode s)) = s := by
  rw [decodeText, encode, decode_encodeBytes, Utf8.decodeLossy_encode]

/-- An ASCII byte comes of the ASCII character only. -/
theorem mem_of_mem_encodeChars {c : Char} (hc : c.toNat < 0x80) {cs : List Char}
    (h : UInt8.ofNat c.toNat ∈ Utf8.encodeChars cs) : c ∈ cs := by
  have hn : (UInt8.ofNat c.toNat).toNat = c.toNat := Utf8.toNat_ofNat_byte (by omega)
  obtain ⟨d, hd, hmem⟩ := List.mem_flatMap.mp h
  have hone := Utf8.encodeChar_of_ascii_mem hmem (by omega)
  have hsame : Utf8.encode (String.ofList [d]) = Utf8.encode (String.ofList [c]) := by
    simp only [Utf8.encode, String.toList_ofList, Utf8.encodeChars_cons, hone,
      Utf8.encodeChar_ascii hc]
  have hlists := String.ofList_inj.mp (Utf8.encode_injective hsame)
  exact (List.singleton_inj.mp hlists) ▸ hd

theorem equals_not_mem_encode (s : String) : equals ∉ Utf8.encodeChars (encode s) := by
  intro h
  exact not_mem_encode (c := '=') rfl s (mem_of_mem_encodeChars (by decide) h)

theorem ampersand_not_mem_pair (p : String × String) : ampersand ∉ Utf8.encodeChars (pair p) := by
  intro h
  have hmem : '&' ∈ pair p := mem_of_mem_encodeChars (by decide) h
  have hnone : ∀ s, '&' ∉ encode s := not_mem_encode rfl
  simp [pair, hnone] at hmem

theorem encodeChars_pair (p : String × String) :
    Utf8.encodeChars (pair p) =
      Utf8.encodeChars (encode p.1) ++ equals :: Utf8.encodeChars (encode p.2) := by
  rw [pair, Utf8.encodeChars_append]
  rfl

theorem decodePair_pair (p : String × String) : decodePair (Utf8.encodeChars (pair p)) = p := by
  have hname : ∀ b ∈ Utf8.encodeChars (encode p.1), decide (b ≠ equals) = true := by
    intro b hb
    have hne : b ≠ equals := fun he => equals_not_mem_encode p.1 (he ▸ hb)
    exact decide_eq_true hne
  rw [decodePair, encodeChars_pair, List.takeWhile_append_of_pos hname,
    List.dropWhile_append_of_pos hname]
  simp only [List.takeWhile_cons, List.dropWhile_cons, ne_eq, not_true, decide_false,
    Bool.false_eq_true, if_false, List.append_nil, List.drop_succ_cons, List.drop_zero,
    decodeText_encode]

/-- A pair behind a query. -/
theorem decodeBytes_append_pair (query : List Char) (p : String × String) :
    decodeBytes (Utf8.encodeChars (query ++ (if query.isEmpty then [] else ['&']) ++ pair p)) =
      decodeBytes (Utf8.encodeChars query) ++ [p] := by
  have hpiece : decodeBytes (Utf8.encodeChars (pair p)) = [p] := by
    have hne : Utf8.encodeChars (pair p) ≠ [] := by
      rw [encodeChars_pair]
      exact List.append_ne_nil_of_right_ne_nil _ (List.cons_ne_nil _ _)
    rw [decodeBytes, List.splitOn_eq_singleton (ampersand_not_mem_pair p)]
    simp [hne, decodePair_pair]
  cases query with
  | nil => exact hpiece
  | cons c rest =>
    have hmark : Utf8.encodeChars ((c :: rest) ++ ['&'] ++ pair p) =
        Utf8.encodeChars (c :: rest) ++ ampersand :: Utf8.encodeChars (pair p) := by
      rw [Utf8.encodeChars_append, Utf8.encodeChars_append, List.append_assoc]
      rfl
    rw [if_neg (by simp), hmark, decodeBytes, List.splitOn_append_cons_self, List.filter_append,
      List.map_append, ← decodeBytes, ← decodeBytes, hpiece]

/-- Whatever the texts are: what was added to a query is read back as it was, behind what stood there before. -/
theorem decode_append (query : List Char) (pairs : List (String × String)) :
    decodeBytes (Utf8.encodeChars (append query pairs)) =
      decodeBytes (Utf8.encodeChars query) ++ pairs := by
  induction pairs generalizing query with
  | nil => exact (List.append_nil _).symm
  | cons p rest ih => rw [append, ih, decodeBytes_append_pair, List.append_assoc, List.singleton_append]

end Form

end HttpAuth
