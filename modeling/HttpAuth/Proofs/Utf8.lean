import HttpAuth.Text.Utf8

namespace HttpAuth.Utf8

theorem toNat_ofNat_of_range {n : Nat} (h : n < 0x110000) (hs : n < 0xD800 ∨ 0xDFFF < n) :
    (Char.ofNat n).toNat = n := by
  have hv : n.isValidChar := by
    rcases hs with hs | hs
    · exact .inl hs
    · exact .inr ⟨hs, h⟩
  rw [Char.ofNat, dif_pos hv]
  rfl

theorem char_range (c : Char) :
    c.toNat < 0x110000 ∧ (c.toNat < 0xD800 ∨ 0xDFFF < c.toNat) := by
  rcases c.valid with h | ⟨h, h'⟩
  · exact ⟨Nat.lt_trans h (by decide), .inl h⟩
  · exact ⟨h', .inr h⟩

theorem toNat_ofNat_byte {n : Nat} (h : n < 0x100) : (UInt8.ofNat n).toNat = n := by
  rw [UInt8.toNat_ofNat', Nat.mod_eq_of_lt h]

theorem ofNat_eq_of_toNat (b : UInt8) {n : Nat} (h : n = b.toNat) : UInt8.ofNat n = b := by
  rw [h, UInt8.ofNat_toNat]

theorem readTail_cons {number more low high : Nat} {b : UInt8} {rest : List UInt8}
    (h : low ≤ b.toNat ∧ b.toNat ≤ high) :
    readTail number (more + 1) low high (b :: rest) =
      ((readTail (number * 0x40 + b.toNat % 0x40) more 0x80 0xBF rest).1,
        (readTail (number * 0x40 + b.toNat % 0x40) more 0x80 0xBF rest).2 + 1) := by
  rw [readTail, if_pos h]

theorem readTail_some {number more low high n k : Nat} {bytes : List UInt8}
    (h : readTail number (more + 1) low high bytes = (some n, k)) :
    ∃ b rest j, bytes = b :: rest ∧ k = j + 1 ∧ low ≤ b.toNat ∧ b.toNat ≤ high ∧
      readTail (number * 0x40 + b.toNat % 0x40) more 0x80 0xBF rest = (some n, j) := by
  cases bytes with
  | nil => simp [readTail] at h
  | cons b rest =>
    by_cases hb : low ≤ b.toNat ∧ b.toNat ≤ high
    · rw [readTail_cons hb, Prod.mk.injEq] at h
      exact ⟨b, rest, _, rfl, h.2.symm, hb.1, hb.2, Prod.ext h.1 rfl⟩
    · rw [readTail, if_neg hb] at h
      simp at h

theorem readTail_done {number low high n k : Nat} {bytes : List UInt8}
    (h : readTail number 0 low high bytes = (some n, k)) : n = number ∧ k = 0 := by
  simp only [readTail, Prod.mk.injEq, Option.some.injEq] at h
  exact ⟨h.1.symm, h.2.symm⟩

/-- The lead bytes by the length of their characters. The narrowed ranges are those of the first numbers
of a length, of the surrogates and of the end of the code space. -/
inductive IsLead : Nat → Lead → Prop
  | two (h : 2 ≤ p) (h' : p < 0x20) : IsLead (0xC0 + p) ⟨p, 1, 0x80, 0xBF⟩
  | three (h : p < 0x10) (hl : low = if p = 0 then 0xA0 else 0x80)
      (hh : high = if p = 0xD then 0x9F else 0xBF) : IsLead (0xE0 + p) ⟨p, 2, low, high⟩
  | four (h : p < 5) (hl : low = if p = 0 then 0x90 else 0x80)
      (hh : high = if p = 4 then 0x8F else 0xBF) : IsLead (0xF0 + p) ⟨p, 3, low, high⟩

theorem lead?_of_isLead {n : Nat} {l : Lead} (h : IsLead n l) : lead? n = some l := by
  unfold lead?
  cases h with
  | @two p h h' => grind
  | @three p low high h hl hh => grind
  | @four p low high h hl hh => grind

theorem isLead_of_lead? {n : Nat} {l : Lead} (h : lead? n = some l) : IsLead n l := by
  unfold lead? at h
  split at h
  · cases h
  split at h
  · simp only [Option.some.injEq] at h
    subst h
    have := IsLead.two (p := n - 0xC0) (by omega) (by omega)
    rwa [show 0xC0 + (n - 0xC0) = n by omega] at this
  split at h
  · cases h
    subst n
    exact .three (p := 0) (by decide) rfl rfl
  split at h
  · cases h
    subst n
    exact .three (p := 0xD) (by decide) rfl rfl
  split at h
  · simp only [Option.some.injEq] at h
    subst h
    have : IsLead (0xE0 + (n - 0xE0)) ⟨n - 0xE0, 2, 0x80, 0xBF⟩ :=
      .three (by omega) (by rw [if_neg (by omega)]) (by rw [if_neg (by omega)])
    rwa [show 0xE0 + (n - 0xE0) = n by omega] at this
  split at h
  · cases h
    subst n
    exact .four (p := 0) (by decide) rfl rfl
  split at h
  · simp only [Option.some.injEq] at h
    subst h
    have : IsLead (0xF0 + (n - 0xF0)) ⟨n - 0xF0, 3, 0x80, 0xBF⟩ :=
      .four (by omega) (by rw [if_neg (by omega)]) (by rw [if_neg (by omega)])
    rwa [show 0xF0 + (n - 0xF0) = n by omega] at this
  split at h
  · cases h
    subst n
    exact .four (p := 4) (by decide) rfl rfl
  · cases h

theorem readChar_ascii {b : UInt8} (h : b.toNat < 0x80) (rest : List UInt8) :
    readChar b rest = (some (Char.ofNat b.toNat), 0) := by
  rw [readChar, if_pos h]

theorem readChar_lead {b : UInt8} {l : Lead} (h : IsLead b.toNat l) (rest : List UInt8) :
    readChar b rest =
      ((readTail l.payload l.more l.low l.high rest).1.map Char.ofNat,
        (readTail l.payload l.more l.low l.high rest).2) := by
  have hb : ¬ b.toNat < 0x80 := by
    generalize b.toNat = n at h
    cases h <;> omega
  rw [readChar, if_neg hb, lead?_of_isLead h]

theorem readChar_two {n : Nat} (h : 0x80 ≤ n) (h' : n < 0x800) (rest : List UInt8) :
    readChar (UInt8.ofNat (0xC0 + n / 0x40)) (UInt8.ofNat (0x80 + n % 0x40) :: rest) =
      (some (Char.ofNat n), 1) := by
  have hl : IsLead (UInt8.ofNat (0xC0 + n / 0x40)).toNat ⟨n / 0x40, 1, 0x80, 0xBF⟩ := by
    rw [toNat_ofNat_byte (by omega)]
    exact .two (by omega) (by omega)
  simp only [readChar_lead hl]
  rw [readTail_cons (by rw [toNat_ofNat_byte] <;> omega), readTail, toNat_ofNat_byte (by omega)]
  simp only [Option.map_some, Nat.zero_add]
  rw [show n / 0x40 * 0x40 + (0x80 + n % 0x40) % 0x40 = n by omega]

theorem readChar_three {n : Nat} (h : 0x800 ≤ n) (h' : n < 0x10000)
    (hsur : n < 0xD800 ∨ 0xDFFF < n) (rest : List UInt8) :
    readChar (UInt8.ofNat (0xE0 + n / 0x1000))
        (UInt8.ofNat (0x80 + n / 0x40 % 0x40) :: UInt8.ofNat (0x80 + n % 0x40) :: rest) =
      (some (Char.ofNat n), 2) := by
  have hl : IsLead (UInt8.ofNat (0xE0 + n / 0x1000)).toNat ⟨n / 0x1000, 2,
      if n / 0x1000 = 0 then 0xA0 else 0x80, if n / 0x1000 = 0xD then 0x9F else 0xBF⟩ := by
    rw [toNat_ofNat_byte (by omega)]
    exact .three (by omega) rfl rfl
  simp only [readChar_lead hl]
  rw [readTail_cons (by rw [toNat_ofNat_byte (by omega)]; split <;> split <;> omega),
    readTail_cons (by rw [toNat_ofNat_byte] <;> omega), readTail, toNat_ofNat_byte (by omega),
    toNat_ofNat_byte (by omega)]
  simp only [Option.map_some, Nat.zero_add]
  rw [show (n / 0x1000 * 0x40 + (0x80 + n / 0x40 % 0x40) % 0x40) * 0x40 +
    (0x80 + n % 0x40) % 0x40 = n by omega]

theorem readChar_four {n : Nat} (h : 0x10000 ≤ n) (h' : n < 0x110000) (rest : List UInt8) :
    readChar (UInt8.ofNat (0xF0 + n / 0x40000))
        (UInt8.ofNat (0x80 + n / 0x1000 % 0x40) :: UInt8.ofNat (0x80 + n / 0x40 % 0x40) ::
          UInt8.ofNat (0x80 + n % 0x40) :: rest) =
      (some (Char.ofNat n), 3) := by
  have hl : IsLead (UInt8.ofNat (0xF0 + n / 0x40000)).toNat ⟨n / 0x40000, 3,
      if n / 0x40000 = 0 then 0x90 else 0x80, if n / 0x40000 = 4 then 0x8F else 0xBF⟩ := by
    rw [toNat_ofNat_byte (by omega)]
    exact .four (by omega) rfl rfl
  simp only [readChar_lead hl]
  rw [readTail_cons (by rw [toNat_ofNat_byte (by omega)]; split <;> split <;> omega),
    readTail_cons (by rw [toNat_ofNat_byte] <;> omega),
    readTail_cons (by rw [toNat_ofNat_byte] <;> omega), readTail,
    toNat_ofNat_byte (by omega), toNat_ofNat_byte (by omega), toNat_ofNat_byte (by omega)]
  simp only [Option.map_some, Nat.zero_add]
  rw [show ((n / 0x40000 * 0x40 + (0x80 + n / 0x1000 % 0x40) % 0x40) * 0x40 +
    (0x80 + n / 0x40 % 0x40) % 0x40) * 0x40 + (0x80 + n % 0x40) % 0x40 = n by omega]

/-- A written character is read as that character, whatever follows. -/
theorem readChar_encodeChar (c : Char) (rest : List UInt8) :
    ∃ b tail, encodeChar c = b :: tail ∧ readChar b (tail ++ rest) = (some c, tail.length) := by
  obtain ⟨hmax, hsur⟩ := char_range c
  have hc := Char.ofNat_toNat c
  unfold encodeChar
  simp only
  generalize c.toNat = n at *
  subst hc
  split
  · next h =>
    refine ⟨_, [], rfl, ?_⟩
    rw [readChar_ascii (by rwa [toNat_ofNat_byte (by omega)]), toNat_ofNat_byte (by omega)]
    rfl
  split
  · next h1 h2 => exact ⟨_, [_], rfl, readChar_two (by omega) h2 rest⟩
  split
  · next h1 h2 h3 => exact ⟨_, [_, _], rfl, readChar_three (by omega) h3 (by omega) rest⟩
  · next h1 h2 h3 => exact ⟨_, [_, _, _], rfl, readChar_four (by omega) (by omega) rest⟩

theorem encodeChar_two {p : Nat} {b b1 : UInt8} (hp : 2 ≤ p) (hp' : p < 0x20)
    (hb : b.toNat = 0xC0 + p) (h1 : 0x80 ≤ b1.toNat ∧ b1.toNat ≤ 0xBF) :
    encodeChar (Char.ofNat (p * 0x40 + b1.toNat % 0x40)) = [b, b1] := by
  unfold encodeChar
  rw [toNat_ofNat_of_range (by omega) (by omega)]
  simp only [show ¬ p * 0x40 + b1.toNat % 0x40 < 0x80 by omega,
    show p * 0x40 + b1.toNat % 0x40 < 0x800 by omega, ↓reduceIte]
  rw [ofNat_eq_of_toNat b (by omega), ofNat_eq_of_toNat b1 (by omega)]

theorem encodeChar_three {p : Nat} {b b1 b2 : UInt8} (hp : p < 0x10) (hb : b.toNat = 0xE0 + p)
    (h1 : 0x80 ≤ b1.toNat ∧ b1.toNat ≤ 0xBF) (hmin : p = 0 → 0xA0 ≤ b1.toNat)
    (hmax : p = 0xD → b1.toNat ≤ 0x9F) (h2 : 0x80 ≤ b2.toNat ∧ b2.toNat ≤ 0xBF) :
    encodeChar (Char.ofNat ((p * 0x40 + b1.toNat % 0x40) * 0x40 + b2.toNat % 0x40)) =
      [b, b1, b2] := by
  unfold encodeChar
  rw [toNat_ofNat_of_range (by omega) (by omega)]
  generalize hn : (p * 0x40 + b1.toNat % 0x40) * 0x40 + b2.toNat % 0x40 = n
  simp only [show ¬ n < 0x80 by omega, show ¬ n < 0x800 by omega, show n < 0x10000 by omega,
    ↓reduceIte]
  rw [ofNat_eq_of_toNat b (by omega), ofNat_eq_of_toNat b1 (by omega),
    ofNat_eq_of_toNat b2 (by omega)]

theorem encodeChar_four {p : Nat} {b b1 b2 b3 : UInt8} (hp : p < 5) (hb : b.toNat = 0xF0 + p)
    (h1 : 0x80 ≤ b1.toNat ∧ b1.toNat ≤ 0xBF) (hmin : p = 0 → 0x90 ≤ b1.toNat)
    (hmax : p = 4 → b1.toNat ≤ 0x8F) (h2 : 0x80 ≤ b2.toNat ∧ b2.toNat ≤ 0xBF)
    (h3 : 0x80 ≤ b3.toNat ∧ b3.toNat ≤ 0xBF) :
    encodeChar (Char.ofNat (((p * 0x40 + b1.toNat % 0x40) * 0x40 + b2.toNat % 0x40) * 0x40 +
      b3.toNat % 0x40)) = [b, b1, b2, b3] := by
  unfold encodeChar
  rw [toNat_ofNat_of_range (by omega) (by omega)]
  generalize hn : ((p * 0x40 + b1.toNat % 0x40) * 0x40 + b2.toNat % 0x40) * 0x40 +
    b3.toNat % 0x40 = n
  simp only [show ¬ n < 0x80 by omega, show ¬ n < 0x800 by omega, show ¬ n < 0x10000 by omega,
    ↓reduceIte]
  rw [ofNat_eq_of_toNat b (by omega), ofNat_eq_of_toNat b1 (by omega),
    ofNat_eq_of_toNat b2 (by omega), ofNat_eq_of_toNat b3 (by omega)]

/-- The range of the second byte is never wider than that of the others. -/
theorem IsLead.range {n : Nat} {l : Lead} (h : IsLead n l) : 0x80 ≤ l.low ∧ l.high ≤ 0xBF := by
  cases h with
  | two => exact ⟨Nat.le_refl _, Nat.le_refl _⟩
  | three h hl hh | four h hl hh =>
    subst hl hh
    dsimp only
    constructor <;> split <;> omega

/-- A character that is read is written as the bytes it was read from. -/
theorem encodeChar_of_readChar {b : UInt8} {rest : List UInt8} {c : Char} {k : Nat}
    (h : readChar b rest = (some c, k)) :
    ∃ tail after, rest = tail ++ after ∧ tail.length = k ∧ encodeChar c = b :: tail := by
  by_cases hb : b.toNat < 0x80
  · rw [readChar_ascii hb, Prod.mk.injEq, Option.some.injEq] at h
    obtain ⟨rfl, rfl⟩ := h
    refine ⟨[], rest, rfl, rfl, ?_⟩
    unfold encodeChar
    rw [toNat_ofNat_of_range (by omega) (by omega)]
    simp only [hb, ↓reduceIte, UInt8.ofNat_toNat]
  cases hl : lead? b.toNat with
  | none => simp [readChar, hb, hl] at h
  | some l =>
    have hlead := isLead_of_lead? hl
    have hrange := hlead.range
    rw [readChar_lead hlead, Prod.mk.injEq, Option.map_eq_some_iff] at h
    obtain ⟨⟨n, hn, rfl⟩, hk⟩ := h
    have ht : readTail l.payload l.more l.low l.high rest = (some n, k) := Prod.ext hn hk
    generalize hbn : b.toNat = m at hlead
    cases hlead with
    | @two p hp hp' =>
      obtain ⟨b1, rest1, j1, rfl, rfl, hl1, hh1, ht⟩ := readTail_some ht
      obtain ⟨rfl, rfl⟩ := readTail_done ht
      exact ⟨[b1], rest1, rfl, rfl, encodeChar_two hp hp' hbn ⟨hl1, hh1⟩⟩
    | @three p low high hp hlow hhigh =>
      obtain ⟨b1, rest1, j1, rfl, rfl, hl1, hh1, ht⟩ := readTail_some ht
      obtain ⟨b2, rest2, j2, rfl, rfl, hl2, hh2, ht⟩ := readTail_some ht
      obtain ⟨rfl, rfl⟩ := readTail_done ht
      have hmin : p = 0 → 0xA0 ≤ b1.toNat := fun h0 => by simpa [hlow, h0] using hl1
      have hmax : p = 0xD → b1.toNat ≤ 0x9F := fun h0 => by simpa [hhigh, h0] using hh1
      have h1 := And.intro (Nat.le_trans hrange.1 hl1) (Nat.le_trans hh1 hrange.2)
      exact ⟨[b1, b2], rest2, rfl, rfl, encodeChar_three hp hbn h1 hmin hmax ⟨hl2, hh2⟩⟩
    | @four p low high hp hlow hhigh =>
      obtain ⟨b1, rest1, j1, rfl, rfl, hl1, hh1, ht⟩ := readTail_some ht
      obtain ⟨b2, rest2, j2, rfl, rfl, hl2, hh2, ht⟩ := readTail_some ht
      obtain ⟨b3, rest3, j3, rfl, rfl, hl3, hh3, ht⟩ := readTail_some ht
      obtain ⟨rfl, rfl⟩ := readTail_done ht
      have hmin : p = 0 → 0x90 ≤ b1.toNat := fun h0 => by simpa [hlow, h0] using hl1
      have hmax : p = 4 → b1.toNat ≤ 0x8F := fun h0 => by simpa [hhigh, h0] using hh1
      have h1 := And.intro (Nat.le_trans hrange.1 hl1) (Nat.le_trans hh1 hrange.2)
      exact ⟨[b1, b2, b3], rest3, rfl, rfl,
        encodeChar_four hp hbn h1 hmin hmax ⟨hl2, hh2⟩ ⟨hl3, hh3⟩⟩

/-- No byte of a longer character is ASCII. -/
theorem encodeChar_of_ascii_mem {c : Char} {b : UInt8} (hm : b ∈ encodeChar c)
    (hb : b.toNat < 0x80) : encodeChar c = [b] := by
  have hmax := (char_range c).1
  unfold encodeChar at hm ⊢
  simp only at hm ⊢
  generalize c.toNat = n at *
  split at hm
  · next h => rw [if_pos h, List.mem_singleton.mp hm]
  -- every byte of the longer forms is a lead byte or a continuation byte
  all_goals
    exfalso
    revert hb
  split at hm
  · simp only [List.mem_cons, List.not_mem_nil, or_false] at hm
    rcases hm with rfl | rfl <;> rw [toNat_ofNat_byte] <;> omega
  split at hm
  · simp only [List.mem_cons, List.not_mem_nil, or_false] at hm
    rcases hm with rfl | rfl | rfl <;> rw [toNat_ofNat_byte] <;> omega
  · simp only [List.mem_cons, List.not_mem_nil, or_false] at hm
    rcases hm with rfl | rfl | rfl | rfl <;> rw [toNat_ofNat_byte] <;> omega

theorem encodeChar_ascii {c : Char} (h : c.toNat < 0x80) :
    encodeChar c = [UInt8.ofNat c.toNat] := by
  simp only [encodeChar, h, ↓reduceIte]

@[simp] theorem encodeChars_nil : encodeChars [] = [] := rfl

@[simp] theorem encodeChars_cons (c : Char) (cs : List Char) :
    encodeChars (c :: cs) = encodeChar c ++ encodeChars cs := rfl

@[simp] theorem encodeChars_append (cs ds : List Char) :
    encodeChars (cs ++ ds) = encodeChars cs ++ encodeChars ds := List.flatMap_append

@[simp] theorem encode_append (s t : String) : encode (s ++ t) = encode s ++ encode t := by
  simp [encode]

def segmentOf (c : Char) : Segment := ⟨some c, (encodeChar c).length⟩

theorem segments_cons (b : UInt8) (rest : List UInt8) :
    segments (b :: rest) =
      ⟨(readChar b rest).1, (readChar b rest).2 + 1⟩ :: segments (rest.drop (readChar b rest).2) := by
  rw [segments]

theorem segments_encodeChars_append (cs : List Char) (rest : List UInt8) :
    segments (encodeChars cs ++ rest) = cs.map segmentOf ++ segments rest := by
  induction cs with
  | nil => rfl
  | cons c cs ih =>
    obtain ⟨b, tail, he, hr⟩ := readChar_encodeChar c (encodeChars cs ++ rest)
    rw [encodeChars_cons, he, List.append_assoc, List.cons_append, segments_cons, hr]
    simp only [List.drop_left, ih, List.map_cons, List.cons_append, List.cons.injEq, and_true]
    rw [segmentOf, he, List.length_cons]

theorem segments_encodeChars (cs : List Char) : segments (encodeChars cs) = cs.map segmentOf := by
  simpa [segments] using segments_encodeChars_append cs []

theorem exists_chars_of_segments {bytes : List UInt8}
    (h : ∀ s ∈ segments bytes, s.char?.isSome = true) : ∃ cs, bytes = encodeChars cs := by
  match bytes with
  | [] => exact ⟨[], rfl⟩
  | b :: rest =>
    rw [segments_cons] at h
    rcases hr : readChar b rest with ⟨c?, k⟩
    rw [hr] at h
    obtain ⟨c, rfl⟩ := Option.isSome_iff_exists.mp (h _ List.mem_cons_self)
    have hdrop : ∀ s ∈ segments (rest.drop k), s.char?.isSome = true :=
      fun s hs => h s (List.mem_cons_of_mem _ hs)
    obtain ⟨cs, hcs⟩ := exists_chars_of_segments hdrop
    obtain ⟨tail, after, hrest, rfl, he⟩ := encodeChar_of_readChar hr
    rw [hrest, List.drop_left] at hcs
    exact ⟨c :: cs, by rw [encodeChars_cons, he, hrest, hcs, List.cons_append]⟩
termination_by bytes.length
decreasing_by simp only [List.length_drop, List.length_cons]; omega

/-- Valid bytes are those that characters are written as. -/
theorem isValid_iff {bytes : List UInt8} : isValid bytes = true ↔ ∃ cs, bytes = encodeChars cs := by
  constructor
  · intro h
    exact exists_chars_of_segments (List.all_eq_true.mp h)
  · rintro ⟨cs, rfl⟩
    rw [isValid, segments_encodeChars, List.all_map]
    exact List.all_eq_true.mpr fun _ _ => rfl

theorem decodeLossy_encodeChars (cs : List Char) : decodeLossy (encodeChars cs) = String.ofList cs := by
  rw [decodeLossy, segments_encodeChars, List.map_map]
  congr 1
  exact List.map_id cs

@[simp] theorem decodeLossy_encode (s : String) : decodeLossy (encode s) = s := by
  rw [encode, decodeLossy_encodeChars, String.ofList_toList]

@[simp] theorem isValid_encode (s : String) : isValid (encode s) = true :=
  isValid_iff.mpr ⟨s.toList, rfl⟩

/-- Valid bytes lose nothing by lenient reading. -/
theorem encode_decodeLossy {bytes : List UInt8} (h : isValid bytes = true) :
    encode (decodeLossy bytes) = bytes := by
  obtain ⟨cs, rfl⟩ := isValid_iff.mp h
  rw [decodeLossy_encodeChars, encode, String.toList_ofList]

theorem encode_injective {s t : String} (h : encode s = encode t) : s = t := by
  rw [← decodeLossy_encode s, h, decodeLossy_encode]

theorem isValid_append {xs ys : List UInt8} (hx : isValid xs = true) (hy : isValid ys = true) :
    isValid (xs ++ ys) = true := by
  obtain ⟨cs, rfl⟩ := isValid_iff.mp hx
  obtain ⟨ds, rfl⟩ := isValid_iff.mp hy
  exact isValid_iff.mpr ⟨cs ++ ds, (encodeChars_append cs ds).symm⟩

theorem chars_of_cut {cs : List Char} {xs ys : List UInt8} {b : UInt8} (hb : b.toNat < 0x80)
    (h : encodeChars cs = xs ++ b :: ys) :
    ∃ before after, xs = encodeChars before ∧ ys = encodeChars after := by
  induction cs generalizing xs with
  | nil => simp at h
  | cons c cs ih =>
    rw [encodeChars_cons, List.append_eq_append_iff] at h
    rcases h with ⟨mid, rfl, hcs⟩ | ⟨mid, hc, hrest⟩
    · obtain ⟨before, after, rfl, hy⟩ := ih hcs
      exact ⟨c :: before, after, rfl, hy⟩
    cases mid with
    | nil =>
      obtain ⟨before, after, hx, hy⟩ := ih (show encodeChars cs = [] ++ b :: ys from hrest.symm)
      refine ⟨c :: before, after, ?_, hy⟩
      rw [encodeChars_cons, ← hx, hc]
      simp
    | cons d mid =>
      simp only [List.cons_append, List.cons.injEq] at hrest
      obtain ⟨rfl, rfl⟩ := hrest
      -- the byte stands inside this character, so it is all of it
      have hone := encodeChar_of_ascii_mem (c := c) (b := b) (by simp [hc]) hb
      rw [hone] at hc
      cases xs with
      | nil =>
        simp only [List.nil_append, List.cons.injEq, true_and] at hc
        subst hc
        exact ⟨[], cs, rfl, rfl⟩
      | cons x xs =>
        have := congrArg List.length hc
        simp at this

/-- Valid bytes may be cut at an ASCII byte. -/
theorem isValid_cut {xs ys : List UInt8} {b : UInt8} (hb : b.toNat < 0x80) :
    isValid (xs ++ b :: ys) = true ↔ isValid xs = true ∧ isValid ys = true := by
  constructor
  · intro h
    obtain ⟨cs, hcs⟩ := isValid_iff.mp h
    obtain ⟨before, after, rfl, rfl⟩ := chars_of_cut hb hcs.symm
    exact ⟨isValid_iff.mpr ⟨before, rfl⟩, isValid_iff.mpr ⟨after, rfl⟩⟩
  · rintro ⟨hx, hy⟩
    have hone : isValid [b] = true := by
      refine isValid_iff.mpr ⟨[Char.ofNat b.toNat], ?_⟩
      have hn := toNat_ofNat_of_range (n := b.toNat) (by omega) (by omega)
      simp [encodeChar_ascii (c := Char.ofNat b.toNat) (by omega), hn]
    have htail : isValid ([b] ++ ys) = true := isValid_append hone hy
    exact isValid_append hx htail

theorem isValid_ascii_append {xs : List UInt8} (h : ∀ b ∈ xs, b.toNat < 0x80) (ys : List UInt8) :
    isValid (xs ++ ys) = true ↔ isValid ys = true := by
  induction xs with
  | nil => rfl
  | cons b xs ih =>
    obtain ⟨hb, hxs⟩ := List.forall_mem_cons.mp h
    have hempty : isValid [] = true := isValid_encode ""
    have hcut : isValid ([] ++ b :: (xs ++ ys)) = true ↔ _ := isValid_cut hb
    rw [List.nil_append, ih hxs] at hcut
    exact hcut.trans (and_iff_right hempty)

end HttpAuth.Utf8
