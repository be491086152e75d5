import HttpAuth.Challenge.Render
import HttpAuth.Proofs.Derivation
import HttpAuth.Proofs.Letters
import Mathlib

namespace HttpAuth

open Scanner (equals comma quote backslash)
open Grammar (Word Piece)

/-- Not empty, and made of ASCII letters and digits. -/
def Name.IsWord (n : Name) : Prop := n.text ≠ "" ∧ ∀ c ∈ n.text.toList, c.isAlphanum = true

def Name.IsLower (n : Name) : Prop := ∀ c ∈ n.text.toList, c.isUpper = false

def Challenge.names (c : Challenge) : List Name := c.scheme :: c.params.entries.map Prod.fst

theorem Name.ofText_text (n : Name) : Name.ofText n.text = n := Name.ext n.folded

/-- A word of the grammar for a name that is one. -/
def Word.ofName (n : Name) (h : n.IsWord) : Word where
  bytes := Utf8.encode n.text
  ne_nil := by
    intro hn
    exact h.1 (Utf8.encode_injective hn)
  alphanum := by
    intro b hb
    obtain ⟨c, hc, hb⟩ := List.mem_flatMap.mp hb
    have hr := char_isAlphanum_iff.mp (h.2 c hc)
    rw [Utf8.encodeChar_ascii (by omega), List.mem_singleton] at hb
    rw [hb, Grammar.isAlphanum_iff, Utf8.toNat_ofNat_byte (by omega)]
    exact hr

theorem Word.text_ofName (n : Name) (h : n.IsWord) : (Word.ofName n h).text = n.text := by
  rw [Word.text, ← Grammar.decodeLossy_word (Word.ofName n h).alphanum]
  exact Utf8.decodeLossy_encode n.text

theorem Name.isLower (n : Name) : n.IsLower := by
  intro c hc
  rw [← n.folded, Ascii.lower, String.toList_ofList] at hc
  obtain ⟨d, -, rfl⟩ := List.mem_map.mp hc
  exact isUpper_toLower d

theorem Name.isWord_ofText {s : String} (hne : s ≠ "") (h : s.toList.all Char.isAlphanum = true) :
    (Name.ofText s).IsWord := by
  have hlist : (Name.ofText s).text.toList = s.toList.map Char.toLower := by
    simp [Name.ofText, Ascii.lower]
  constructor
  · intro hn
    rw [hn] at hlist
    exact hne (String.toList_eq_nil_iff.mp (List.map_eq_nil_iff.mp hlist.symm))
  · rw [hlist]
    intro c hc
    obtain ⟨d, hd, rfl⟩ := List.mem_map.mp hc
    exact isAlphanum_toLower (List.all_eq_true.mp h d hd)

theorem Word.isWord_ofText (w : Word) : (Name.ofText w.text).IsWord := by
  have hlist : w.text.toList = w.bytes.map fun b => Char.ofNat b.toNat := by
    simp [Word.text]
  apply Name.isWord_ofText
  · intro hn
    rw [hn] at hlist
    exact w.ne_nil (List.map_eq_nil_iff.mp hlist.symm)
  · rw [hlist, List.all_eq_true]
    intro c hc
    obtain ⟨b, hb, rfl⟩ := List.mem_map.mp hc
    have hr := Grammar.isAlphanum_iff.mp (w.alphanum b hb)
    rw [char_isAlphanum_iff, Utf8.toNat_ofNat_of_range (by omega) (by omega)]
    exact hr

theorem Params.insertEntry_last {key : Name} {value : String} {es : List (Name × String)}
    (h : ∀ e ∈ es, e.1.text < key.text) : insertEntry key value es = es ++ [(key, value)] := by
  induction es with
  | nil => rfl
  | cons e es ih =>
    have he := h e List.mem_cons_self
    have hlt : ¬ key.text < e.1.text := fun hlt => String.lt_irrefl _ (String.lt_trans he hlt)
    have hne : key ≠ e.1 := by
      rintro rfl
      exact String.lt_irrefl _ he
    rw [insertEntry, if_neg hlt, if_neg hne, ih fun d hd => h d (List.mem_cons_of_mem _ hd)]
    rfl

namespace Challenge

def setAll (c : Challenge) (es : List (Name × String)) : Challenge :=
  es.foldl (fun c e => c.set e.1.text e.2) c

theorem entries_setAll (c : Challenge) (es : List (Name × String))
    (h : (c.params.entries ++ es).Pairwise fun a b => a.1.text < b.1.text) :
    (c.setAll es).scheme = c.scheme ∧ (c.setAll es).params.entries = c.params.entries ++ es := by
  induction es generalizing c with
  | nil => exact ⟨rfl, (List.append_nil _).symm⟩
  | cons e es ih =>
    have hset : (c.set e.1.text e.2).params.entries = c.params.entries ++ [e] := by
      rw [set, Name.ofText_text]
      exact Params.insertEntry_last fun d hd =>
        (List.pairwise_append.mp h).2.2 d hd e List.mem_cons_self
    have := ih (c.set e.1.text e.2) (by rwa [hset, ← List.append_cons])
    rw [hset, ← List.append_cons] at this
    exact this

/-- A challenge is made from its scheme and its parameters in their order. -/
theorem setAll_entries (c : Challenge) : (ofScheme c.scheme.text).setAll c.params.entries = c := by
  obtain ⟨scheme, ⟨entries, hsorted⟩⟩ := c
  obtain ⟨hs, he⟩ := entries_setAll (ofScheme scheme.text) entries hsorted
  generalize (ofScheme scheme.text).setAll entries = d at hs he
  obtain ⟨dscheme, ⟨dentries, _⟩⟩ := d
  obtain rfl : dentries = entries := he
  obtain rfl : dscheme = scheme := hs.trans (Name.ofText_text scheme)
  rfl

theorem setAll_nil_of_isBare {c : Challenge} (h : c.isBare = true) : c = ofScheme c.scheme.text := by
  have := setAll_entries c
  rw [List.isEmpty_iff.mp h] at this
  exact this.symm

theorem pieces_of_plain {bytes : List UInt8} (h : ∀ b ∈ bytes, b ≠ quote ∧ b ≠ backslash) :
    ∃ ps : List Piece, ps.flatMap Piece.bytes = bytes ∧ ps.map Piece.content = bytes := by
  induction bytes with
  | nil => exact ⟨[], rfl, rfl⟩
  | cons b bytes ih =>
    obtain ⟨ps, hb, hc⟩ := ih fun d hd => h d (List.mem_cons_of_mem _ hd)
    obtain ⟨hq, hs⟩ := h b List.mem_cons_self
    exact ⟨.plain b hq hs :: ps, by simp [Piece.bytes, hb], by simp [Piece.content, hc]⟩

/-- The bytes of a character that is not escaped are none that would need it. -/
theorem encodeChar_ne {c d : Char} (hd : d.toNat < 0x80) (hne : c ≠ d) :
    UInt8.ofNat d.toNat ∉ Utf8.encodeChar c := by
  intro hm
  have hb : (UInt8.ofNat d.toNat).toNat < 0x80 := by rwa [Utf8.toNat_ofNat_byte (by omega)]
  have hc := Utf8.encodeChar_of_ascii_mem hm hb
  rw [← Utf8.encodeChar_ascii hd] at hc
  have hs : Utf8.encode (String.singleton c) = Utf8.encode (String.singleton d) := by
    simp [Utf8.encode, hc]
  have := congrArg String.toList (Utf8.encode_injective hs)
  simp at this
  exact hne this

/-- An escaped text is what may stand between quotes, and its content is the text. -/
theorem exists_pieces_escape (value : String) :
    ∃ ps : List Piece, ps.flatMap Piece.bytes = Utf8.encode (escape value) ∧
      ps.map Piece.content = Utf8.encode value := by
  rw [escape, Utf8.encode, Utf8.encode, String.toList_ofList]
  induction value.toList with
  | nil => exact ⟨[], rfl, rfl⟩
  | cons c cs ih =>
    obtain ⟨ps, hb, hc⟩ := ih
    simp only [List.flatMap_cons, Utf8.encodeChars_append, Utf8.encodeChars_cons]
    by_cases hesc : c = '"' ∨ c = '\\'
    · rw [if_pos hesc]
      have hascii : c.toNat < 0x80 := by rcases hesc with rfl | rfl <;> decide
      refine ⟨.escaped (UInt8.ofNat c.toNat) :: ps, ?_, ?_⟩
      · rw [List.flatMap_cons, hb]
        congr 1
        rcases hesc with rfl | rfl <;> decide
      · rw [List.map_cons, hc, Utf8.encodeChar_ascii hascii]
        rfl
    · rw [if_neg hesc]
      have hplain : ∀ b ∈ Utf8.encodeChar c, b ≠ quote ∧ b ≠ backslash := by
        intro b hm
        constructor
        · rintro rfl
          exact encodeChar_ne (d := '"') (by decide) (fun he => hesc (.inl he)) hm
        · rintro rfl
          exact encodeChar_ne (d := '\\') (by decide) (fun he => hesc (.inr he)) hm
      obtain ⟨qs, hqb, hqc⟩ := pieces_of_plain hplain
      refine ⟨qs ++ ps, ?_, ?_⟩
      · simp [hqb, hb]
      · simp [hqc, hc]

end Challenge

/-- A parameter has been read: a comma may come, or the value may end. -/
structure Place.Ended (p : Place) (opened : List Challenge) : Prop where
  comma : p.step comma = some (.word [] true opened)
  finish : p.finish = some opened.reverse

namespace Challenge

theorem feed_renderParam {e : Name × String} (h : e.1.IsWord) (a : Bool) (c : Challenge)
    (os : List Challenge) :
    ∃ p, (Place.word [] a (c :: os)).feed (Utf8.encode (renderParam e)) = .ok p ∧
      p.Ended (c.set e.1.text e.2 :: os) := by
  obtain ⟨ps, hb, hc⟩ := exists_pieces_escape e.2
  let element : Grammar.Element :=
    ⟨⟨Grammar.noBlanks, []⟩, Word.ofName e.1 h, .quoted ps, Grammar.noBlanks⟩
  have hbytes : element.bytes = Utf8.encode (renderParam e) := by
    have hmark : Utf8.encode "=\"" = [equals, quote] := by decide
    have hend : Utf8.encode "\"" = [quote] := by decide
    simp only [renderParam, Utf8.encode_append, hmark, hend, ← hb]
    simp [element, Grammar.Element.bytes, Grammar.Front.bytes, Grammar.noBlanks,
      Grammar.Value.bytes, Word.ofName]
  have hopened : element.opened (c :: os) = c.set e.1.text e.2 :: os := by
    change Grammar.assign (Word.ofName e.1 h).text (Utf8.decodeLossy (ps.map Piece.content))
      (c :: os) = _
    rw [Word.text_ofName, hc, Utf8.decodeLossy_encode]
    rfl
  obtain ⟨p, hp, hcomma, hfinish⟩ :=
    Grammar.feed_element element a (c :: os) (.inr (List.cons_ne_nil _ _))
  have hd : ¬ element.Dangling := by simp [element, Grammar.Element.Dangling, Grammar.Value.bytes]
  rw [if_neg hd] at hfinish
  rw [hopened] at hcomma hfinish
  exact ⟨p, hbytes ▸ hp, hcomma, hfinish⟩

theorem feed_comma_blank {p : Place} {os : List Challenge} (h : p.Ended os) (rest : List UInt8) :
    p.feed (Utf8.encode ", " ++ rest) = (Place.word [] true os).feed rest := by
  have hs : (Place.word [] true os).step 0x20 = some (.word [] true os) := rfl
  have he : Utf8.encode ", " = [comma, 0x20] := by decide
  rw [he, List.cons_append, List.cons_append, List.nil_append, Place.feed_cons h.comma,
    Place.feed_cons hs]

theorem feed_params {es : List (Name × String)} (hne : es ≠ []) (h : ∀ e ∈ es, e.1.IsWord)
    (a : Bool) (c : Challenge) (os : List Challenge) :
    ∃ p, (Place.word [] a (c :: os)).feed
        (Utf8.encode (", ".intercalate (es.map renderParam))) = .ok p ∧
      p.Ended (c.setAll es :: os) := by
  induction es generalizing a c with
  | nil => exact absurd rfl hne
  | cons e es ih =>
    obtain ⟨p, hp, hend⟩ := feed_renderParam (h e List.mem_cons_self) a c os
    cases es with
    | nil =>
      rw [List.map_singleton, String.intercalate_singleton]
      exact ⟨p, hp, hend⟩
    | cons d es =>
      obtain ⟨q, hq, hqend⟩ := ih (List.cons_ne_nil _ _)
        (fun x hx => h x (List.mem_cons_of_mem _ hx)) true (c.set e.1.text e.2)
      refine ⟨q, ?_, hqend⟩
      rw [List.map_cons, List.map_cons, String.intercalate_cons_cons, Utf8.encode_append,
        Utf8.encode_append, List.append_assoc, Place.feed_append hp, feed_comma_blank hend]
      exact hq

theorem feed_scheme {n : Name} (h : n.IsWord) (a : Bool) (os : List Challenge) :
    (Place.word [] a os).feed (Utf8.encode (n.text ++ " ")) =
      .ok (.word [] false (ofScheme n.text :: os)) := by
  have hblank : Utf8.encode " " = [0x20] := by decide
  have := Grammar.feed_opener
    ⟨Word.ofName n h, ⟨[0x20], List.forall_mem_singleton.mpr rfl⟩, by simp⟩ a os
  rw [Word.text_ofName] at this
  rw [Utf8.encode_append, hblank]
  exact this

theorem feed_render {c : Challenge} (h : ∀ n ∈ c.names, n.IsWord) (hb : c.isBare = false) (a : Bool)
    (os : List Challenge) :
    ∃ p, (Place.word [] a os).feed (Utf8.encode c.render) = .ok p ∧ p.Ended (c :: os) := by
  have hne : c.params.entries ≠ [] := by
    intro hn
    simp [isBare, Params.isEmpty, hn] at hb
  obtain ⟨p, hp, hend⟩ := feed_params hne
    (fun e he => h e.1 (List.mem_cons_of_mem _ (List.mem_map_of_mem he))) false
    (ofScheme c.scheme.text) os
  rw [setAll_entries] at hend
  refine ⟨p, ?_, hend⟩
  rw [render, hb, if_neg Bool.false_ne_true, Utf8.encode_append,
    Place.feed_append (feed_scheme (h _ List.mem_cons_self) a os)]
  exact hp

theorem feed_bare {c : Challenge} (h : ∀ n ∈ c.names, n.IsWord) (hb : c.isBare = true) (a : Bool)
    (os : List Challenge) :
    (Place.word [] a os).feed (Utf8.encode (c.render ++ " ")) = .ok (.word [] false (c :: os)) := by
  rw [render, if_pos hb, feed_scheme (h _ List.mem_cons_self), ← setAll_nil_of_isBare hb]

/-- The scheme of a bare challenge at the end of the text. -/
theorem feed_last_bare {c : Challenge} (h : ∀ n ∈ c.names, n.IsWord) (hb : c.isBare = true)
    {a : Bool} {os : List Challenge} (ho : os = [] ∨ a = true) :
    ∃ p, (Place.word [] a os).feed (Utf8.encode c.render) = .ok p ∧
      p.finish = some (c :: os).reverse := by
  have hw := h _ List.mem_cons_self
  rw [render, if_pos hb]
  refine ⟨_, Grammar.feed_letters (Word.ofName _ hw).alphanum [] a os, ?_⟩
  simp only [Place.finish, List.nil_append, ne_eq, (Word.ofName _ hw).ne_nil, not_false_eq_true,
    true_and, ho, ↓reduceIte, Place.openWith]
  rw [show Utf8.decodeLossy (Word.ofName c.scheme hw).bytes = c.scheme.text from
    Utf8.decodeLossy_encode _, ← setAll_nil_of_isBare hb]

theorem feed_followed {c : Challenge} (h : ∀ n ∈ c.names, n.IsWord) (a : Bool)
    (os : List Challenge) :
    (Place.word [] a os).feed (Utf8.encode (c.render ++ if c.isBare then " " else ", ")) =
      .ok (.word [] (!c.isBare) (c :: os)) := by
  cases hb : c.isBare with
  | true => exact feed_bare h hb a os
  | false =>
    obtain ⟨p, hp, hend⟩ := feed_render h hb a os
    rw [if_neg Bool.false_ne_true, Utf8.encode_append, Place.feed_append hp,
      ← List.append_nil (Utf8.encode ", "), feed_comma_blank hend]
    rfl

/-- A challenge at the end of the text, where a word would be a scheme. -/
theorem feed_last {c : Challenge} (h : ∀ n ∈ c.names, n.IsWord) (a : Bool) (os : List Challenge)
    (ho : c.isBare = true → os = [] ∨ a = true) :
    ∃ p, (Place.word [] a os).feed (Utf8.encode c.render) = .ok p ∧
      p.finish = some (os.reverse ++ [c]) := by
  rw [← List.reverse_cons]
  cases hb : c.isBare with
  | true => exact feed_last_bare h hb (ho hb)
  | false =>
    obtain ⟨p, hp, hend⟩ := feed_render h hb a os
    exact ⟨p, hp, hend.finish⟩

theorem feed_renderAll {cs : List Challenge} (hne : cs ≠ [])
    (h : ∀ c ∈ cs, ∀ n ∈ c.names, n.IsWord) (a : Bool) (os : List Challenge)
    (ho : cs.length = 1 → os = [] ∨ a = true) :
    ∃ p, (Place.word [] a os).feed (Utf8.encode (renderAll cs)) = .ok p ∧
      p.finish = some (os.reverse ++ cs) := by
  fun_induction renderAll cs generalizing a os with
  | case1 => exact absurd rfl hne
  | case2 c => exact feed_last (h c List.mem_cons_self) a os fun _ => ho rfl
  | case3 c d =>
    have hd := h d (List.mem_cons_of_mem _ List.mem_cons_self)
    rw [String.append_assoc, Utf8.encode_append,
      Place.feed_append (feed_followed (h c List.mem_cons_self) a os)]
    by_cases hbare : c.isBare = true ∧ d.isBare = true
    · rw [if_pos hbare, feed_bare hd hbare.2]
      exact ⟨_, rfl, by simp [Place.finish]⟩
    · rw [if_neg hbare, String.append_empty]
      obtain ⟨p, hp, hf⟩ := feed_last hd (!c.isBare) (c :: os) fun hb =>
        .inr (by simpa [hb] using hbare)
      exact ⟨p, hp, by simpa using hf⟩
  | case4 c d rest hrest ih =>
    have hlen : (d :: rest).length = 1 → c :: os = [] ∨ (!c.isBare) = true := by
      intro hl
      exact absurd (List.length_eq_zero_iff.mp (Nat.succ.inj hl)) hrest
    obtain ⟨p, hp, hf⟩ :=
      ih (List.cons_ne_nil _ _) (fun x hx => h x (List.mem_cons_of_mem _ hx)) _ _ hlen
    refine ⟨p, ?_, by simpa using hf⟩
    rw [Utf8.encode_append, Place.feed_append (feed_followed (h c List.mem_cons_self) a os)]
    exact hp

theorem parse_renderAll_of_words {cs : List Challenge} (h : ∀ c ∈ cs, ∀ n ∈ c.names, n.IsWord) :
    parse (Utf8.encode (renderAll cs)) = .ok cs := by
  rw [parse_eq_ok_iff]
  refine ⟨Utf8.isValid_encode _, ?_⟩
  cases cs with
  | nil => exact ⟨.start, rfl, rfl⟩
  | cons c cs =>
    obtain ⟨p, hp, hf⟩ := feed_renderAll (List.cons_ne_nil c cs) h false []
      fun _ => .inl rfl
    exact ⟨p, hp, by simpa using hf⟩

theorem names_set {c : Challenge} {n : Name} {key value : String} (h : n ∈ (c.set key value).names) :
    n = .ofText key ∨ n ∈ c.names := by
  rcases List.mem_cons.mp h with rfl | h
  · exact .inr List.mem_cons_self
  · obtain ⟨e, he, rfl⟩ := List.mem_map.mp h
    rcases Params.mem_insertEntry he with rfl | he
    · exact .inl rfl
    · exact .inr (List.mem_cons_of_mem _ (List.mem_map_of_mem he))

def WordsOnly (cs : List Challenge) : Prop := ∀ c ∈ cs, ∀ n ∈ c.names, n.IsWord

theorem WordsOnly.cons_scheme {cs : List Challenge} (h : WordsOnly cs) (w : Word) :
    WordsOnly (ofScheme w.text :: cs) := by
  intro c hc
  rcases List.mem_cons.mp hc with rfl | hc
  · intro n hn
    have hn : n ∈ [Name.ofText w.text] := hn
    rw [List.mem_singleton.mp hn]
    exact Word.isWord_ofText w
  · exact h c hc

theorem WordsOnly.front {cs : List Challenge} (h : WordsOnly cs) (f : Grammar.Front) :
    WordsOnly (f.opened cs) := by
  rw [Grammar.Front.opened]
  induction f.openers generalizing cs with
  | nil => exact h
  | cons o openers ih => exact ih (h.cons_scheme o.word)

theorem WordsOnly.element {cs : List Challenge} (h : WordsOnly cs) (e : Grammar.Element) :
    WordsOnly (e.opened cs) := by
  have hf := h.front e.front
  rw [Grammar.Element.opened]
  cases hcs : e.front.opened cs with
  | nil => exact fun c hc => absurd hc List.not_mem_nil
  | cons d ds =>
    rw [hcs] at hf
    intro c hc n hn
    rcases List.mem_cons.mp hc with rfl | hc
    · rcases names_set hn with rfl | hn
      · exact Word.isWord_ofText e.key
      · exact hf d List.mem_cons_self n hn
    · exact hf c (List.mem_cons_of_mem _ hc) n hn

theorem WordsOnly.elements {cs : List Challenge} (h : WordsOnly cs) (es : List Grammar.Element) :
    WordsOnly (es.foldl (fun cs e => e.opened cs) cs) := by
  induction es generalizing cs with
  | nil => exact h
  | cons e es ih => exact ih (h.element e)

/-- A sentence of the grammar has only words as names. -/
theorem wordsOnly_challenges (t : Grammar.Header) : WordsOnly t.challenges := by
  have hes : WordsOnly (Grammar.allOpened t.elements) :=
    WordsOnly.elements (fun c hc => absurd hc List.not_mem_nil) t.elements
  intro c hc
  rw [Grammar.Header.challenges, List.mem_reverse] at hc
  cases hending : t.ending with
  | parameter e =>
    rw [hending, Grammar.Ending.opened] at hc
    split at hc
    · exact hes.front e.front c hc
    · exact hes.element e c hc
  | words front last =>
    rw [hending] at hc
    cases last with
    | none => exact hes.front front c hc
    | some w =>
      simp only [Grammar.Ending.opened] at hc
      split at hc
      · exact hes.cons_scheme w c hc
      · exact hes.front front c hc

theorem wordsOnly_of_parse {bytes : List UInt8} {cs : List Challenge} (h : parse bytes = .ok cs) :
    WordsOnly cs := by
  obtain ⟨-, t, -, rfl⟩ := Grammar.parse_eq_ok_iff_header.mp h
  exact wordsOnly_challenges t

/-- Printing is undone by reading exactly for challenges whose names are words. What has been read has such
names, in lower case, so it is read again from its print. -/
theorem parse_renderAll :
    (∀ cs, parse (Utf8.encode (renderAll cs)) = .ok cs ↔ ∀ c ∈ cs, ∀ n ∈ c.names, n.IsWord) ∧
    ∀ bytes cs, parse bytes = .ok cs →
      (∀ c ∈ cs, ∀ n ∈ c.names, n.IsWord ∧ n.IsLower) ∧
        parse (Utf8.encode (renderAll cs)) = .ok cs := by
  refine ⟨fun cs => ⟨wordsOnly_of_parse, parse_renderAll_of_words⟩, ?_⟩
  intro bytes cs h
  have hw := wordsOnly_of_parse h
  exact ⟨fun c hc n hn => ⟨hw c hc n hn, n.isLower⟩, parse_renderAll_of_words hw⟩

/-- Two challenges, the last one bare and the value of the first in need of escapes. -/
theorem parse_renderAll_negotiate :
    let cs := [(ofScheme "bearer").set "realm" "a \"b\" \\, é", ofScheme "negotiate"]
    parse (Utf8.encode "Bearer  REALM=\"a \\\"b\\\" \\\\, é\" ,\tNegotiate") = .ok cs ∧
      (∀ c ∈ cs, ∀ n ∈ c.names, n.IsWord ∧ n.IsLower) ∧
        parse (Utf8.encode (renderAll cs)) = .ok cs := by
  intro cs
  have h : parse (Utf8.encode "Bearer  REALM=\"a \\\"b\\\" \\\\, é\" ,\tNegotiate") = .ok cs := by
    decide +kernel
  exact ⟨h, parse_renderAll.2 _ _ h⟩

end Challenge

end HttpAuth
