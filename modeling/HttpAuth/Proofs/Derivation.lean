import HttpAuth.Proofs.Reading

namespace HttpAuth.Grammar

open Scanner (equals comma quote backslash)

/-- Elements that are complete, and the front and key of the one being read. -/
structure Opening where
  elements : List Element
  front : Front
  opens : Opens elements

namespace Opening

def bytes (o : Opening) : List UInt8 := commaBytes o.elements ++ o.front.bytes

def opened (o : Opening) : List Challenge := o.front.opened (allOpened o.elements)

def afterComma (o : Opening) : Bool := !o.elements.isEmpty && o.front.openers.isEmpty

/-- A challenge is open, so a parameter may come. -/
def Ready (o : Opening) : Prop := o.elements = [] → o.front.openers ≠ []

theorem opens_with {o : Opening} (h : o.Ready) (key : Word) (value : Value) (tail : Blanks) :
    Opens (o.elements ++ [⟨o.front, key, value, tail⟩]) :=
  opens_append.mpr ⟨o.opens, h⟩

theorem ready_of_opened {o : Opening} (h : o.opened ≠ []) : o.Ready := by
  intro hn ho
  apply h
  simp [opened, Front.opened, ho, hn, allOpened]

end Opening

@[simp] theorem isEmpty_concat (xs : List α) (x : α) : (xs ++ [x]).isEmpty = false := by
  cases xs <;> rfl

def noBlanks : Blanks := ⟨[], by simp⟩

/-- Ways to begin a tree whose bytes are those read so far and whose challenges are those opened. -/
inductive Fits : List UInt8 → Place → Prop
  | word (o : Opening) {letters : List UInt8} (hl : ∀ b ∈ letters, Ascii.isAlphanum b = true) :
      Fits (o.bytes ++ letters) (.word letters o.afterComma o.opened)
  | value (o : Opening) (ho : o.Ready) (key : Word) {letters : List UInt8}
      (hl : ∀ b ∈ letters, Ascii.isAlphanum b = true) :
      Fits (o.bytes ++ key.bytes ++ equals :: letters) (.value key.bytes letters o.opened)
  | quoted (o : Opening) (ho : o.Ready) (key : Word) (ps : List Piece) :
      Fits (o.bytes ++ key.bytes ++ equals :: quote :: ps.flatMap Piece.bytes)
        (.quoted key.bytes (ps.map Piece.content) o.opened)
  | escaped (o : Opening) (ho : o.Ready) (key : Word) (ps : List Piece) :
      Fits (o.bytes ++ key.bytes ++ equals :: quote :: ps.flatMap Piece.bytes ++ [backslash])
        (.escaped key.bytes (ps.map Piece.content) o.opened)
  | settled {es : List Element} {e : Element} (ho : Opens (es ++ [e])) (hd : ¬ e.Dangling) :
      Fits (commaBytes es ++ e.bytes) (.settled (e.opened (allOpened es)))

theorem no_letters : ∀ b ∈ ([] : List UInt8), Ascii.isAlphanum b = true := by
  simp

theorem fits_start : Fits [] .start :=
  .word ⟨[], ⟨noBlanks, []⟩, trivial⟩ no_letters

/-- Blanks lengthen the last gap of a front, or its lead. -/
theorem Front.exists_blank (f : Front) {b : UInt8} (hb : Ascii.isSpace b = true) :
    ∃ g : Front, g.bytes = f.bytes ++ [b] ∧ g.openers.isEmpty = f.openers.isEmpty ∧
      ∀ cs, g.opened cs = f.opened cs := by
  obtain ⟨lead, openers⟩ := f
  rcases List.eq_nil_or_concat openers with rfl | ⟨os, o, rfl⟩
  · refine ⟨⟨⟨lead.bytes ++ [b], ?_⟩, []⟩, by simp [Front.bytes], rfl, fun _ => rfl⟩
    intro d hd
    rcases List.mem_append.mp hd with hd | hd
    · exact lead.blank d hd
    · rw [List.mem_singleton.mp hd, hb]
  · have hgap : ∀ d ∈ o.gap.bytes ++ [b], Ascii.isSpace d = true := by
      intro d hd
      rcases List.mem_append.mp hd with hd | hd
      · exact o.gap.blank d hd
      · rw [List.mem_singleton.mp hd, hb]
    refine ⟨⟨lead, os ++ [⟨o.word, ⟨_, hgap⟩, by simp⟩]⟩, ?_, ?_, ?_⟩
    · simp [Front.bytes, Opener.bytes]
    · rw [List.concat_eq_append, isEmpty_concat, isEmpty_concat]
    · intro cs
      simp [Front.opened]

theorem fits_blank {o : Opening} {b : UInt8} (hb : Ascii.isSpace b = true) :
    Fits (o.bytes ++ [b]) (.word [] o.afterComma o.opened) := by
  obtain ⟨g, hbytes, hempty, hopened⟩ := o.front.exists_blank hb
  have h := Fits.word ⟨o.elements, g, o.opens⟩ no_letters
  simpa [Opening.bytes, Opening.afterComma, Opening.opened, hbytes, hempty, hopened] using h

/-- A blank behind a word makes it an opener. -/
theorem fits_opener {o : Opening} {b : UInt8} (w : Word) (hb : Ascii.isSpace b = true) :
    Fits (o.bytes ++ w.bytes ++ [b]) (.word [] false (Place.openWith w.bytes o.opened)) := by
  let opener : Opener := ⟨w, ⟨[b], by simpa using hb⟩, by simp⟩
  have h := Fits.word ⟨o.elements, ⟨o.front.lead, o.front.openers ++ [opener]⟩, o.opens⟩ no_letters
  simpa [Opening.bytes, Opening.afterComma, Opening.opened, Front.bytes, Front.opened, opener,
    Opener.bytes, Place.openWith, decodeLossy_word w.alphanum, Word.text] using h

/-- A comma ends an element. -/
theorem fits_comma {es : List Element} {e : Element} (ho : Opens (es ++ [e])) :
    Fits (commaBytes es ++ e.bytes ++ [comma]) (.word [] true (e.opened (allOpened es))) := by
  have h := Fits.word ⟨es ++ [e], ⟨noBlanks, []⟩, ho⟩ no_letters
  simpa [Opening.bytes, Opening.afterComma, Opening.opened, Front.bytes, Front.opened, noBlanks,
    commaBytes, allOpened] using h

theorem Opening.element_bytes (o : Opening) (key : Word) (value : Value) (tail : Blanks) :
    commaBytes o.elements ++ (Element.mk o.front key value tail).bytes =
      o.bytes ++ key.bytes ++ equals :: value.bytes ++ tail.bytes := by
  simp [Opening.bytes, Element.bytes]

theorem Opening.element_opened (o : Opening) (key : Word) (value : Value) (tail : Blanks) :
    (Element.mk o.front key value tail).opened (allOpened o.elements) =
      Place.assignTo key.bytes value.content o.opened := by
  rw [assignTo_word]
  rfl

theorem fits_step_word {o : Opening} {letters : List UInt8} {q : Place} {b : UInt8}
    (hl : ∀ d ∈ letters, Ascii.isAlphanum d = true)
    (hs : (Place.word letters o.afterComma o.opened).step b = some q) :
    Fits (o.bytes ++ letters ++ [b]) q := by
  simp only [Place.step] at hs
  split at hs
  · next hb =>
    cases hs
    have hl' : ∀ d ∈ letters ++ [b], Ascii.isAlphanum d = true := by
      simpa [or_imp, forall_and, hb] using hl
    simpa using Fits.word o hl'
  split at hs
  · next hb =>
    split at hs
    · next hn =>
      cases hs
      subst hn
      rw [List.append_nil]
      exact fits_blank hb
    · next hn =>
      cases hs
      exact fits_opener ⟨letters, hn, hl⟩ hb
  split at hs
  · next hb =>
    cases hs
    obtain ⟨rfl, hn, hopen⟩ := hb
    exact .value o (o.ready_of_opened hopen) ⟨letters, hn, hl⟩ no_letters
  · cases hs

theorem fits_step_value {o : Opening} (ho : o.Ready) {key : Word} {letters : List UInt8} {q : Place}
    {b : UInt8} (hl : ∀ d ∈ letters, Ascii.isAlphanum d = true)
    (hs : (Place.value key.bytes letters o.opened).step b = some q) :
    Fits (o.bytes ++ key.bytes ++ equals :: letters ++ [b]) q := by
  have hbare : o.bytes ++ key.bytes ++ equals :: letters =
      commaBytes o.elements ++ (Element.mk o.front key (.bare letters hl) noBlanks).bytes := by
    rw [Opening.element_bytes]
    simp [Value.bytes, noBlanks]
  have hopened := o.element_opened key (.bare letters hl)
  simp only [Place.step] at hs
  split at hs
  · next hb =>
    cases hs
    have hl' : ∀ d ∈ letters ++ [b], Ascii.isAlphanum d = true := by
      simpa [or_imp, forall_and, hb] using hl
    simpa using Fits.value o ho key hl'
  split at hs
  · next hb =>
    cases hs
    obtain ⟨rfl, rfl⟩ := hb
    simpa using Fits.quoted o ho key []
  split at hs
  · next hb =>
    cases hs
    subst hb
    have h := fits_comma (o.opens_with ho key (.bare letters hl) noBlanks)
    rw [← hbare, hopened] at h
    exact h
  split at hs
  · next hb =>
    cases hs
    let tail : Blanks := ⟨[b], by simpa using hb⟩
    have h := Fits.settled (o.opens_with ho key (.bare letters hl) tail)
      (by simp [Element.Dangling, tail])
    rw [Opening.element_bytes, hopened] at h
    simpa [Value.bytes, Value.content, tail] using h
  · cases hs

theorem fits_step_quoted {o : Opening} (ho : o.Ready) {key : Word} {ps : List Piece} {q : Place}
    {b : UInt8} (hs : (Place.quoted key.bytes (ps.map Piece.content) o.opened).step b = some q) :
    Fits (o.bytes ++ key.bytes ++ equals :: quote :: ps.flatMap Piece.bytes ++ [b]) q := by
  simp only [Place.step] at hs
  split at hs
  · next hb =>
    cases hs
    subst hb
    have h := Fits.settled (o.opens_with ho key (.quoted ps) noBlanks)
      (by simp [Element.Dangling, Value.bytes])
    rw [Opening.element_bytes, Opening.element_opened] at h
    simpa [Value.bytes, Value.content, noBlanks] using h
  · next hq =>
    split at hs
    · next hb =>
      cases hs
      subst hb
      exact .escaped o ho key ps
    · next hb =>
      cases hs
      have h := Fits.quoted o ho key (ps ++ [.plain b hq hb])
      simpa [Piece.bytes, Piece.content] using h

theorem fits_step_settled {es : List Element} {e : Element} {q : Place} {b : UInt8}
    (ho : Opens (es ++ [e]))
    (hs : (Place.settled (e.opened (allOpened es))).step b = some q) :
    Fits (commaBytes es ++ e.bytes ++ [b]) q := by
  simp only [Place.step] at hs
  split at hs
  · next hb =>
    cases hs
    have htail : ∀ d ∈ e.tail.bytes ++ [b], Ascii.isSpace d = true := by
      simpa [or_imp, forall_and, hb] using e.tail.blank
    have hopens : Opens (es ++ [{ e with tail := ⟨_, htail⟩ }]) :=
      opens_append.mpr ⟨(opens_append.mp ho).1, (opens_append.mp ho).2⟩
    have h := Fits.settled hopens (by simp [Element.Dangling])
    simpa [Element.bytes, Element.opened] using h
  split at hs
  · next hb =>
    cases hs
    subst hb
    exact fits_comma ho
  · cases hs

theorem fits_step {bytes : List UInt8} {p q : Place} {b : UInt8} (h : Fits bytes p)
    (hs : p.step b = some q) : Fits (bytes ++ [b]) q := by
  cases h with
  | word o hl => exact fits_step_word hl hs
  | value o ho key hl => exact fits_step_value ho hl hs
  | quoted o ho key ps => exact fits_step_quoted ho hs
  | escaped o ho key ps =>
    cases hs
    have h := Fits.quoted o ho key (ps ++ [.escaped b])
    simpa [Piece.bytes, Piece.content] using h
  | settled ho hd => exact fits_step_settled ho hs

theorem fits_feed {bytes rest : List UInt8} {p q : Place} (h : Fits bytes p)
    (hf : p.feed rest = .ok q) : Fits (bytes ++ rest) q := by
  induction rest generalizing bytes p with
  | nil =>
    cases hf
    rwa [List.append_nil]
  | cons b rest ih =>
    rw [Place.feed] at hf
    cases hs : p.step b with
    | none => simp [hs] at hf
    | some r =>
      rw [hs] at hf
      have := ih (fits_step h hs) hf
      rwa [List.append_assoc] at this

/-- Where the value may end, the beginning of a tree is a tree. -/
theorem header_of_fits {bytes : List UInt8} {p : Place} {cs : List Challenge} (h : Fits bytes p)
    (hf : p.finish = some cs) : ∃ t : Header, t.bytes = bytes ∧ t.challenges = cs := by
  cases h with
  | @word o letters hl =>
    have hopens : Opens (o.elements ++ []) := by simpa using o.opens
    by_cases hn : letters = []
    · refine ⟨⟨o.elements, .words o.front none, hopens⟩, ?_, ?_⟩
      · simp [Header.bytes, Ending.bytes, Opening.bytes, hn]
      · simpa [Place.finish, hn, Header.challenges, Ending.opened, Opening.opened] using hf
    · refine ⟨⟨o.elements, .words o.front (some ⟨letters, hn, hl⟩), hopens⟩, ?_, ?_⟩
      · simp [Header.bytes, Ending.bytes, Opening.bytes]
      · simp only [Place.finish, ne_eq, hn, not_false_eq_true, true_and] at hf
        rw [Header.challenges, Ending.opened]
        simp only [Opening.opened, Opening.afterComma, opened_last_word] at hf
        by_cases ho : o.front.openers = []
        · simpa [ho, Place.openWith, decodeLossy_word hl, Word.text, Front.opened] using hf
        · simpa [ho] using hf
  | @value o ho key letters hl =>
    have hopens := o.opens_with ho key (.bare letters hl) noBlanks
    refine ⟨⟨o.elements, .parameter ⟨o.front, key, .bare letters hl, noBlanks⟩, hopens⟩, ?_, ?_⟩
    · rw [Header.bytes, Ending.bytes, Opening.element_bytes]
      simp [Value.bytes, noBlanks]
    · rw [Header.challenges, Ending.opened, Opening.element_opened]
      by_cases hn : letters = []
      · simpa [Place.finish, hn, Element.Dangling, Value.bytes, noBlanks, Opening.opened] using hf
      · simpa [Place.finish, hn, Element.Dangling, Value.bytes, Value.content, noBlanks] using hf
  | quoted => cases hf
  | escaped => cases hf
  | @settled es e ho hd =>
    refine ⟨⟨es, .parameter e, ho⟩, rfl, ?_⟩
    simpa [Place.finish, Header.challenges, Ending.opened, hd] using hf

theorem parse_eq_ok_iff_header {bytes : List UInt8} {cs : List Challenge} :
    Challenge.parse bytes = .ok cs ↔
      Utf8.isValid bytes = true ∧ ∃ t : Header, t.bytes = bytes ∧ t.challenges = cs := by
  rw [Challenge.parse_eq_ok_iff]
  refine and_congr_right fun _ => ⟨?_, ?_⟩
  · rintro ⟨p, hp, hf⟩
    exact header_of_fits (fits_feed fits_start hp) hf
  · rintro ⟨t, rfl, rfl⟩
    exact feed_header t

/-- The escape characters of valid bytes may be left out. -/
theorem isValid_contents {ps : List Piece} {done : List UInt8}
    (h : Utf8.isValid (done ++ ps.flatMap Piece.bytes) = true) :
    Utf8.isValid (done ++ ps.map Piece.content) = true := by
  induction ps generalizing done with
  | nil => exact h
  | cons p ps ih =>
    rw [List.map_cons, List.append_cons]
    apply ih
    cases p with
    | plain b hq hb => simpa [Piece.bytes, Piece.content] using h
    | escaped b =>
      simp only [List.flatMap_cons, Piece.bytes, List.cons_append, List.nil_append] at h
      obtain ⟨hd, hr⟩ := (Utf8.isValid_cut (by decide)).mp h
      simpa [Piece.content] using Utf8.isValid_append hd hr

theorem isValid_of_blanks {xs : List UInt8} (ws : Blanks)
    (h : Utf8.isValid (xs ++ ws.bytes) = true) : Utf8.isValid xs = true := by
  cases hws : ws.bytes with
  | nil => rwa [hws, List.append_nil] at h
  | cons b bs =>
    have hb := ws.ascii b (by simp [hws])
    rw [hws] at h
    exact ((Utf8.isValid_cut hb).mp h).1

theorem Value.isValid_content {v : Value} (h : Utf8.isValid v.bytes = true) :
    Utf8.isValid v.content = true := by
  cases v with
  | bare w hw => exact h
  | quoted ps =>
    have hopen : Utf8.isValid ([] ++ quote :: (ps.flatMap Piece.bytes ++ [quote])) = true := h
    have hclose := ((Utf8.isValid_cut (by decide)).mp hopen).2
    have hinner : Utf8.isValid ([] ++ ps.flatMap Piece.bytes) = true :=
      ((Utf8.isValid_cut (by decide)).mp hclose).1
    exact isValid_contents hinner

theorem Element.isValid_content {e : Element} (h : Utf8.isValid e.bytes = true) :
    Utf8.isValid e.value.content = true := by
  rw [Element.bytes, List.append_assoc, List.cons_append] at h
  exact Value.isValid_content (isValid_of_blanks e.tail ((Utf8.isValid_cut (by decide)).mp h).2)

theorem isValid_element {es : List Element} {rest : List UInt8}
    (h : Utf8.isValid (commaBytes es ++ rest) = true) :
    (∀ e ∈ es, Utf8.isValid e.bytes = true) ∧ Utf8.isValid rest = true := by
  induction es with
  | nil => exact ⟨by simp, h⟩
  | cons e es ih =>
    rw [commaBytes, List.flatMap_cons, List.append_assoc, List.append_assoc, List.cons_append,
      List.nil_append] at h
    obtain ⟨he, hr⟩ := (Utf8.isValid_cut (by decide)).mp h
    obtain ⟨hes, hrest⟩ := ih hr
    exact ⟨by simpa using ⟨he, hes⟩, hrest⟩

theorem Header.isValid_content {t : Header} (h : Utf8.isValid t.bytes = true) :
    ∀ v ∈ t.values, Utf8.isValid v.content = true := by
  obtain ⟨hes, hend⟩ := isValid_element h
  intro v hv
  obtain ⟨e, he, rfl⟩ := List.mem_map.mp hv
  apply Element.isValid_content
  rcases List.mem_append.mp he with he | he
  · exact hes e he
  · cases hending : t.ending with
    | words => simp [hending, Ending.elements] at he
    | parameter d =>
      rw [hending] at he hend
      rw [List.mem_singleton.mp he]
      exact hend

def Header.parameters (t : Header) : List Element := t.elements ++ t.ending.elements

/-- Every parameter of the challenges is the key and the value of an element. -/
def Stated (es : List Element) (cs : List Challenge) : Prop :=
  ∀ c ∈ cs, ∀ entry ∈ c.params.entries, ∃ e ∈ es, (Name.ofText e.key.text, e.value.text) = entry

section stated

variable {es : List Element} {cs : List Challenge}

theorem Stated.open (h : Stated es cs) (scheme : String) : Stated es (.ofScheme scheme :: cs) :=
  List.forall_mem_cons.mpr ⟨fun _ he => absurd he List.not_mem_nil, h⟩

theorem Stated.front (h : Stated es cs) (f : Front) : Stated es (f.opened cs) := by
  obtain ⟨lead, openers⟩ := f
  simp only [Front.opened]
  induction openers generalizing cs with
  | nil => exact h
  | cons o openers ih => exact ih (h.open _)

theorem Stated.element {e : Element} (he : e ∈ es) (h : Stated es cs) : Stated es (e.opened cs) := by
  have hfront := h.front e.front
  rw [Element.opened]
  cases hcs : e.front.opened cs with
  | nil => simp [Stated, assign]
  | cons c rest =>
    rw [hcs] at hfront
    obtain ⟨hc, hrest⟩ := List.forall_mem_cons.mp hfront
    refine List.forall_mem_cons.mpr ⟨fun entry hentry => ?_, hrest⟩
    rcases Params.mem_insertEntry hentry with rfl | hentry
    · exact ⟨e, he, rfl⟩
    · exact hc entry hentry

theorem Stated.elements {read : List Element} (hread : ∀ e ∈ read, e ∈ es) (h : Stated es cs) :
    Stated es (read.foldl (fun cs e => e.opened cs) cs) := by
  induction read generalizing cs with
  | nil => exact h
  | cons e read ih =>
    obtain ⟨he, hrest⟩ := List.forall_mem_cons.mp hread
    exact ih hrest (h.element he)

theorem Header.stated (t : Header) : Stated t.parameters t.challenges := by
  have hread : Stated t.parameters (allOpened t.elements) :=
    Stated.elements (fun e he => List.mem_append_left _ he) (fun c hc => absurd hc List.not_mem_nil)
  have hend : Stated t.parameters (t.ending.opened (allOpened t.elements)) := by
    cases hending : t.ending with
    | parameter e =>
      have he : e ∈ t.parameters := by simp [parameters, hending, Ending.elements]
      rw [Ending.opened]
      split
      · exact hread.front _
      · exact hread.element he
    | words front last =>
      cases last with
      | none => exact hread.front _
      | some w =>
        rw [Ending.opened]
        split
        · exact hread.open _
        · exact hread.front _
  intro c hc
  exact hend c (List.mem_reverse.mp hc)

end stated

/-- The reader accepts the sentences of the grammar in valid bytes and nothing else, and returns what they
denote. No value loses a byte to the reading of its text. -/
theorem parse_denotes (bytes : List UInt8) :
    (∀ cs, Challenge.parse bytes = .ok cs ↔
      Utf8.isValid bytes = true ∧ ∃ t : Header, t.bytes = bytes ∧ t.challenges = cs) ∧
    (Utf8.isValid bytes = true → ∀ t : Header, t.bytes = bytes →
      ∀ v ∈ t.values, Utf8.encode v.text = v.content) := by
  refine ⟨fun cs => parse_eq_ok_iff_header, ?_⟩
  rintro hv t rfl v hm
  exact Utf8.encode_decodeLossy (t.isValid_content hv v hm)

/-- A value with an escaped quote, and a dangling key behind the comma. -/
theorem parse_denotes_dangling :
    let space : Blanks := ⟨[0x20], List.forall_mem_singleton.mpr rfl⟩
    let basic : Opener := ⟨⟨Utf8.encode "Basic", by decide, by decide +kernel⟩, space, by decide⟩
    let pieces : List Piece := [.plain 0x23 (by decide) (by decide), .escaped 0x22]
    let e : Element := ⟨⟨noBlanks, [basic]⟩, ⟨[0x61], by decide, List.forall_mem_singleton.mpr rfl⟩,
      .quoted pieces, space⟩
    let d : Element := ⟨⟨space, []⟩, ⟨[0x62], by decide, List.forall_mem_singleton.mpr rfl⟩,
      .bare [] no_letters, noBlanks⟩
    let t : Header := ⟨[e], .parameter d, List.cons_ne_nil _ _⟩
    t.bytes = Utf8.encode "Basic a=\"#\\\"\" , b=" ∧ Utf8.isValid t.bytes = true ∧
      Challenge.parse t.bytes = .ok [(Challenge.ofScheme "basic").set "a" "#\""] ∧
      ∀ v ∈ t.values, Utf8.encode v.text = v.content := by
  intro space basic pieces e d t
  have hv : Utf8.isValid t.bytes = true := by decide +kernel
  have ht : t.challenges = [(Challenge.ofScheme "basic").set "a" "#\""] := by
    decide +kernel
  exact ⟨by decide, hv, ((parse_denotes t.bytes).1 _).2 ⟨hv, t, rfl, ht⟩,
    (parse_denotes t.bytes).2 hv t rfl⟩

end HttpAuth.Grammar
