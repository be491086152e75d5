import HttpAuth.Proofs.Buffers
import HttpAuth.Proofs.Respelling

namespace HttpAuth

open Scanner (equals quote backslash)

namespace Utf8

variable {xs ys zs : List UInt8} {b : UInt8}

theorem encodeChar_ofNat_toNat (h : b.toNat < 0x80) : encodeChar (Char.ofNat b.toNat) = [b] := by
  have hn := toNat_ofNat_of_range (n := b.toNat) (by omega) (by omega)
  rw [encodeChar_ascii (by omega), hn, UInt8.ofNat_toNat]

theorem encodeChars_injective {cs ds : List Char} (h : encodeChars cs = encodeChars ds) : cs = ds := by
  have htext : String.ofList cs = String.ofList ds := by
    rw [← decodeLossy_encodeChars, h, decodeLossy_encodeChars]
  simpa using congrArg String.toList htext

/-- An ASCII byte is a character of its own, and what stands on its sides is whole characters. -/
theorem exists_sides {cs : List Char} (hb : b.toNat < 0x80) (h : encodeChars cs = xs ++ b :: ys) :
    ∃ before after, cs = before ++ Char.ofNat b.toNat :: after ∧ encodeChars before = xs ∧
      encodeChars after = ys := by
  obtain ⟨before, after, rfl, rfl⟩ := chars_of_cut hb h
  refine ⟨before, after, encodeChars_injective ?_, rfl, rfl⟩
  rw [h, encodeChars_append, encodeChars_cons, encodeChar_ofNat_toNat hb]
  rfl

/-- What is left of bytes when some of their characters are left out. -/
def LeftOf (xs ys : List UInt8) : Prop :=
  ∀ cs, encodeChars cs = ys → ∃ ds, ds.Sublist cs ∧ encodeChars ds = xs

namespace LeftOf

theorem refl (xs : List UInt8) : LeftOf xs xs := fun cs h => ⟨cs, .refl cs, h⟩

theorem trans (h : LeftOf xs ys) (h' : LeftOf ys zs) : LeftOf xs zs := by
  intro cs hcs
  obtain ⟨ds, hd, hds⟩ := h' cs hcs
  obtain ⟨es, he, hes⟩ := h ds hds
  exact ⟨es, he.trans hd, hes⟩

theorem before (hb : b.toNat < 0x80) : LeftOf xs (xs ++ b :: ys) := by
  intro cs hcs
  obtain ⟨before, after, rfl, hx, -⟩ := exists_sides hb hcs
  exact ⟨before, List.sublist_append_left _ _, hx⟩

theorem behind (hb : b.toNat < 0x80) : LeftOf ys (xs ++ b :: ys) := by
  intro cs hcs
  obtain ⟨before, after, rfl, -, hy⟩ := exists_sides hb hcs
  exact ⟨after, (List.sublist_cons_self _ _).trans (List.sublist_append_right _ _), hy⟩

theorem around (hb : b.toNat < 0x80) : LeftOf (xs ++ ys) (xs ++ b :: ys) := by
  intro cs hcs
  obtain ⟨before, after, rfl, rfl, rfl⟩ := exists_sides hb hcs
  exact ⟨before ++ after, (List.Sublist.refl before).append (List.sublist_cons_self _ _),
    encodeChars_append before after⟩

theorem isValid (h : LeftOf xs ys) (hy : isValid ys = true) : isValid xs = true := by
  obtain ⟨cs, rfl⟩ := isValid_iff.mp hy
  obtain ⟨ds, -, rfl⟩ := h cs rfl
  exact isValid_iff.mpr ⟨ds, rfl⟩

theorem mem_of_mem {text : String} {c : Char} (h : LeftOf xs (encode text))
    (hc : c ∈ (decodeLossy xs).toList) : c ∈ text.toList := by
  obtain ⟨ds, hd, rfl⟩ := h text.toList rfl
  rw [decodeLossy_encodeChars, String.toList_ofList] at hc
  exact hd.subset hc

end LeftOf

end Utf8

open Utf8 (LeftOf)

namespace Grammar

/-- The escape characters are left out, whatever they stand beside. -/
theorem leftOf_contents (ps : List Piece) (done : List UInt8) :
    LeftOf (done ++ ps.map Piece.content) (done ++ ps.flatMap Piece.bytes) := by
  induction ps generalizing done with
  | nil => exact .refl _
  | cons p ps ih =>
    rw [List.map_cons, List.append_cons]
    refine (ih (done ++ [p.content])).trans ?_
    cases p with
    | plain b hq hb => simpa [Piece.bytes, Piece.content] using LeftOf.refl _
    | escaped b =>
      rw [List.append_assoc]
      exact .around (b := backslash) (by decide)

end Grammar

/-- In lower case, if it is a letter. -/
def Ascii.lowerByte (b : UInt8) : UInt8 := if isUpper b then b + 0x20 else b

/-- The byte strings that a change reads as text, each with the text that it keeps. -/
def Change.conversions : Change → List (List UInt8 × String)
  | keeps => []
  | opens word => [(word.map Ascii.lowerByte, (Name.ofText (Utf8.decodeLossy word)).text)]
  | assigns key value =>
    [(key.map Ascii.lowerByte, (Name.ofText (Utf8.decodeLossy key)).text),
      (value, Utf8.decodeLossy value)]

/-- The scheme of a challenge, its keys and its values. -/
def Challenge.texts (c : Challenge) : List String :=
  c.scheme.text :: c.params.entries.flatMap fun e => [e.1.text, e.2]

namespace Challenge

variable {c : Challenge} {opened : List Challenge} {s : String}

theorem texts_set {key value : String} (h : s ∈ (c.set key value).texts) :
    s = (Name.ofText key).text ∨ s = value ∨ s ∈ c.texts := by
  rcases List.mem_cons.mp h with rfl | h
  · exact .inr (.inr List.mem_cons_self)
  · obtain ⟨e, he, hs⟩ := List.mem_flatMap.mp h
    rcases Params.mem_insertEntry he with rfl | he
    · simpa [or_assoc] using Or.inl hs
    · exact .inr (.inr (List.mem_cons_of_mem _ (List.mem_flatMap.mpr ⟨e, he, hs⟩)))

/-- A text of the challenges behind a change is one that the change has read, or stood there before. -/
theorem texts_apply {change : Change} (hc : c ∈ change.apply opened) (hs : s ∈ c.texts) :
    (∃ x, (x, s) ∈ change.conversions) ∨ ∃ d ∈ opened, s ∈ d.texts := by
  cases change with
  | keeps => exact .inr ⟨c, hc, hs⟩
  | opens word =>
    rcases List.mem_cons.mp hc with rfl | hc
    · rcases List.mem_cons.mp hs with rfl | hs
      · exact .inl ⟨_, List.mem_cons_self⟩
      · exact absurd hs List.not_mem_nil
    · exact .inr ⟨c, hc, hs⟩
  | assigns key value =>
    cases opened with
    | nil => exact absurd hc List.not_mem_nil
    | cons d older =>
      rcases List.mem_cons.mp hc with rfl | hc
      · rcases texts_set hs with rfl | rfl | hs
        · exact .inl ⟨_, List.mem_cons_self⟩
        · exact .inl ⟨_, List.mem_cons_of_mem _ List.mem_cons_self⟩
        · exact .inr ⟨d, List.mem_cons_self, hs⟩
      · exact .inr ⟨c, List.mem_cons_of_mem _ hc, hs⟩

theorem texts_applyAll {changes : List Change} (hc : c ∈ Change.applyAll changes opened)
    (hs : s ∈ c.texts) :
    (∃ change ∈ changes, ∃ x, (x, s) ∈ change.conversions) ∨ ∃ d ∈ opened, s ∈ d.texts := by
  induction changes generalizing opened with
  | nil => exact .inr ⟨c, hc, hs⟩
  | cons change changes ih =>
    rcases ih hc with ⟨later, hl, hx⟩ | ⟨d, hd, hs⟩
    · exact .inl ⟨later, List.mem_cons_of_mem _ hl, hx⟩
    · exact (texts_apply hd hs).imp (fun hx => ⟨change, List.mem_cons_self, hx⟩) id

end Challenge

section Words

variable {word : List UInt8} {b : UInt8}

theorem toNat_lowered (h : b.toNat < 0x80) :
    (Ascii.lowered b).toNat = (Ascii.lowerByte b).toNat ∧ (Ascii.lowerByte b).toNat < 0x80 := by
  have hb := Utf8.toNat_ofNat_of_range (n := b.toNat) (by omega) (by omega)
  have h32 : (0x20 : UInt8).toNat = 0x20 := rfl
  rw [Ascii.lowered, toNat_toLower, hb, Ascii.lowerByte]
  by_cases hu : Ascii.isUpper b = true
  · have hr := Ascii.isUpper_iff.mp hu
    rw [if_pos hr, if_pos hu, UInt8.toNat_add, h32]
    omega
  · rw [if_neg (fun hr => hu (Ascii.isUpper_iff.mpr hr)), if_neg hu]
    exact ⟨rfl, h⟩

theorem encodeChar_lowered (h : b.toNat < 0x80) :
    Utf8.encodeChar (Ascii.lowered b) = [Ascii.lowerByte b] := by
  obtain ⟨heq, hlt⟩ := toNat_lowered h
  rw [Utf8.encodeChar_ascii (by omega), heq, UInt8.ofNat_toNat]

/-- The name that a word is read as has the bytes of the word, in lower case. -/
theorem name_of_word (h : ∀ b ∈ word, Ascii.isAlphanum b = true) :
    Utf8.encode (Name.ofText (Utf8.decodeLossy word)).text = word.map Ascii.lowerByte ∧
      Utf8.replacement ∉ (Name.ofText (Utf8.decodeLossy word)).text.toList := by
  have hascii : ∀ b ∈ word, b.toNat < 0x80 := fun b hb => Grammar.ascii_of_isAlphanum (h b hb)
  have htext : (Name.ofText (Utf8.decodeLossy word)).text = String.ofList (word.map Ascii.lowered) :=
    SameWord.lower_word h
  rw [htext, Utf8.encode, String.toList_ofList]
  constructor
  · rw [Utf8.encodeChars, List.flatMap_map, ← List.flatMap_singleton' (word.map _), List.flatMap_map]
    exact List.flatMap_congr fun b hb => encodeChar_lowered (hascii b hb)
  · intro hm
    obtain ⟨b, hb, he⟩ := List.mem_map.mp hm
    obtain ⟨heq, hlt⟩ := toNat_lowered (hascii b hb)
    rw [he] at heq
    exact absurd (heq ▸ hlt) (by decide)

end Words

namespace Scanner

variable {bytes written key value : List UInt8} {opened : List Challenge}

theorem Reads.leftOf (h : Reads written value) : LeftOf value written := by
  cases h with
  | bare => exact .refl _
  | quoted pieces =>
    have hinner : LeftOf (pieces.map Grammar.Piece.content) (pieces.flatMap Grammar.Piece.bytes) :=
      Grammar.leftOf_contents pieces []
    have hquote : LeftOf (pieces.flatMap Grammar.Piece.bytes)
        ([] ++ quote :: pieces.flatMap Grammar.Piece.bytes) := .behind (by decide)
    exact hinner.trans hquote

theorem Kept.leftOf (h : Kept bytes opened key value) : LeftOf value bytes := by
  obtain ⟨before, written, r, rfl, -, -, -, -, hr⟩ := h.written
  exact hr.leftOf.trans (.behind (by decide))

end Scanner

namespace Change

variable {bytes : List UInt8} {change : Change}

/-- Names are read from words, and values from what is left of the header value. -/
def ReadsFrom (bytes : List UInt8) : Change → Prop
  | keeps => True
  | opens word => ∀ b ∈ word, Ascii.isAlphanum b = true
  | assigns key value => (∀ b ∈ key, Ascii.isAlphanum b = true) ∧ LeftOf value bytes

theorem readsFrom_of_mem (h : change ∈ Scanner.changes {} bytes) : change.ReadsFrom bytes := by
  rcases Scanner.exists_of_mem_changes h with ⟨taken, b, rest, t, rfl, ht, hc⟩ | ⟨t, ht, hc⟩
  · obtain ⟨p, hp, rfl⟩ := Scanner.feed_eq_ok.mp ht
    have hfits := Grammar.fits_feed Grammar.fits_start hp
    cases change with
    | keeps => trivial
    | opens word =>
      obtain ⟨hphase, rfl⟩ := Scanner.change_eq_opens hc
      exact hfits.tidy.word hphase
    | assigns key value =>
      obtain ⟨hkept, hb⟩ := hfits.kept hc
      exact ⟨hkept.isWord.2, hkept.leftOf.trans (.before hb)⟩
  · obtain ⟨p, hp, rfl⟩ := Scanner.feed_eq_ok.mp ht
    have hfits := Grammar.fits_feed Grammar.fits_start hp
    cases change with
    | keeps => trivial
    | opens word =>
      obtain ⟨hphase, rfl⟩ := Scanner.lastChange_eq_opens hc
      exact hfits.tidy.word hphase
    | assigns key value =>
      have hkept := hfits.kept_last hc
      exact ⟨hkept.isWord.2, hkept.leftOf⟩

/-- A text has the bytes it was read from, so a U+FFFD in it has been in the header value. -/
theorem ReadsFrom.conversion {text s : String} {x : List UInt8} (h : change.ReadsFrom (Utf8.encode text))
    (hx : (x, s) ∈ change.conversions) :
    Utf8.encode s = x ∧ (Utf8.replacement ∈ s.toList → Utf8.replacement ∈ text.toList) := by
  cases change with
  | keeps => exact absurd hx List.not_mem_nil
  | opens word =>
    cases List.mem_singleton.mp hx
    exact (name_of_word h).imp id fun hn hm => absurd hm hn
  | assigns key value =>
    obtain ⟨hkey, hvalue⟩ := h
    rcases List.mem_cons.mp hx with hx | hx
    · cases hx
      exact (name_of_word hkey).imp id fun hn hm => absurd hm hn
    · cases List.mem_singleton.mp hx
      exact ⟨Utf8.encode_decodeLossy (hvalue.isValid (Utf8.isValid_encode text)), hvalue.mem_of_mem⟩

end Change

/-- Lenient reading is exact wherever a scanner reads a part of valid bytes: the parts are valid, and the texts have
their bytes. Challenges that have been read hold no other texts, so there is no U+FFFD in them that the header value
does not have. -/
theorem Challenge.parse_keeps_text (bytes : List UInt8) :
    (Utf8.isValid bytes = true → ∀ change ∈ Scanner.changes {} bytes, ∀ x s,
      (x, s) ∈ change.conversions → Utf8.isValid x = true ∧ Utf8.decodeLossy x = s ∧ Utf8.encode s = x) ∧
    ∀ cs, parse bytes = .ok cs →
      cs = (Change.applyAll (Scanner.changes {} bytes) []).reverse ∧
      ∃ text, Utf8.encode text = bytes ∧ ∀ c ∈ cs, ∀ s ∈ c.texts,
        (∃ change ∈ Scanner.changes {} bytes, ∃ x, (x, s) ∈ change.conversions) ∧
        (Utf8.replacement ∈ s.toList → Utf8.replacement ∈ text.toList) := by
  constructor
  · intro hvalid change hchange x s hx
    rw [← Utf8.encode_decodeLossy hvalid] at hchange
    obtain ⟨rfl, -⟩ := (Change.readsFrom_of_mem hchange).conversion hx
    exact ⟨Utf8.isValid_encode s, Utf8.decodeLossy_encode s, rfl⟩
  · intro cs h
    obtain ⟨hvalid, p, hp, hf⟩ := parse_eq_ok_iff.mp h
    have hcs : cs = (Change.applyAll (Scanner.changes {} bytes) []).reverse :=
      Scanner.opened_changes (Scanner.feed_eq_ok.mpr ⟨p, hp, rfl⟩) (Place.finish_scanner p ▸ hf)
    have htext := Utf8.encode_decodeLossy hvalid
    refine ⟨hcs, _, htext, ?_⟩
    intro c hc s hs
    rw [hcs, List.mem_reverse] at hc
    rcases texts_applyAll hc hs with ⟨change, hchange, x, hx⟩ | ⟨d, hd, -⟩
    · refine ⟨⟨change, hchange, x, hx⟩, ?_⟩
      rw [← htext] at hchange
      exact ((Change.readsFrom_of_mem hchange).conversion hx).2
    · exact absurd hd List.not_mem_nil

/-- Escape characters before and behind characters of several bytes. -/
theorem Challenge.parse_keeps_text_escapes :
    let bytes := Utf8.encode "Basic Realm=\"\\é\\\"日\\本\""
    let cs := [(ofScheme "basic").set "realm" "é\"日本"]
    Utf8.isValid bytes = true ∧ parse bytes = .ok cs ∧
      (∀ change ∈ Scanner.changes {} bytes, ∀ x s, (x, s) ∈ change.conversions →
        Utf8.isValid x = true ∧ Utf8.decodeLossy x = s ∧ Utf8.encode s = x) ∧
      ∃ text, Utf8.encode text = bytes ∧ ∀ c ∈ cs, ∀ s ∈ c.texts,
        (∃ change ∈ Scanner.changes {} bytes, ∃ x, (x, s) ∈ change.conversions) ∧
        (Utf8.replacement ∈ s.toList → Utf8.replacement ∈ text.toList) := by
  intro bytes cs
  have hvalid : Utf8.isValid bytes = true := Utf8.isValid_encode _
  have h : parse bytes = .ok cs := by decide +kernel
  exact ⟨hvalid, h, (parse_keeps_text bytes).1 hvalid, ((parse_keeps_text bytes).2 cs h).2⟩

end HttpAuth
