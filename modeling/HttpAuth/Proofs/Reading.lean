import HttpAuth.Proofs.Place

namespace HttpAuth.Grammar

open Scanner (equals comma quote backslash)

theorem equals_class : Ascii.isAlphanum equals = false ∧ Ascii.isSpace equals = false := by decide

theorem comma_class : Ascii.isAlphanum comma = false ∧ Ascii.isSpace comma = false := by decide

theorem quote_class : Ascii.isAlphanum quote = false ∧ Ascii.isSpace quote = false := by decide

theorem feed_blanks {ws : List UInt8} (h : ∀ b ∈ ws, Ascii.isSpace b = true) (a : Bool)
    (os : List Challenge) : (Place.word [] a os).feed ws = .ok (.word [] a os) := by
  induction ws with
  | nil => rfl
  | cons b ws ih =>
    have hb := h b List.mem_cons_self
    have hs : (Place.word [] a os).step b = some (.word [] a os) := by
      simp [Place.step, hb, not_isAlphanum_of_isSpace hb]
    rw [Place.feed_cons hs]
    exact ih fun d hd => h d (List.mem_cons_of_mem _ hd)

theorem feed_letters {w : List UInt8} (h : ∀ b ∈ w, Ascii.isAlphanum b = true)
    (letters : List UInt8) (a : Bool) (os : List Challenge) :
    (Place.word letters a os).feed w = .ok (.word (letters ++ w) a os) := by
  induction w generalizing letters with
  | nil => simp [Place.feed]
  | cons b w ih =>
    have hs : (Place.word letters a os).step b = some (.word (letters ++ [b]) a os) := by
      simp [Place.step, h b List.mem_cons_self]
    rw [Place.feed_cons hs, ih fun d hd => h d (List.mem_cons_of_mem _ hd), List.append_assoc]
    rfl

theorem feed_opener (o : Opener) (a : Bool) (os : List Challenge) :
    (Place.word [] a os).feed o.bytes = .ok (.word [] false (.ofScheme o.word.text :: os)) := by
  obtain ⟨b, ws, hg⟩ := List.exists_cons_of_ne_nil o.apart
  have hb := o.gap.blank b (by simp [hg])
  have hs : (Place.word o.word.bytes a os).step b =
      some (.word [] false (.ofScheme o.word.text :: os)) := by
    simp only [Place.step, not_isAlphanum_of_isSpace hb, hb, o.word.ne_nil, Place.openWith,
      decodeLossy_word o.word.alphanum, Bool.false_eq_true, ↓reduceIte]
    rfl
  rw [Opener.bytes, Place.feed_append (feed_letters o.word.alphanum [] a os), List.nil_append, hg,
    Place.feed_cons hs]
  exact feed_blanks (fun d hd => o.gap.blank d (by simp [hg, hd])) _ _

theorem feed_openers (openers : List Opener) (a : Bool) (os : List Challenge) :
    (Place.word [] a os).feed (openers.flatMap Opener.bytes) =
      .ok (.word [] (a && openers.isEmpty)
        (openers.foldl (fun cs o => .ofScheme o.word.text :: cs) os)) := by
  induction openers generalizing a os with
  | nil => simp [Place.feed]
  | cons o openers ih =>
    rw [List.flatMap_cons, Place.feed_append (feed_opener o a os), ih]
    simp

theorem feed_front (f : Front) (a : Bool) (os : List Challenge) :
    (Place.word [] a os).feed f.bytes = .ok (.word [] (a && f.openers.isEmpty) (f.opened os)) := by
  rw [Front.bytes, Place.feed_append (feed_blanks f.lead.blank a os)]
  exact feed_openers f.openers a os

theorem feed_bare {w : List UInt8} (h : ∀ b ∈ w, Ascii.isAlphanum b = true)
    (key letters : List UInt8) (os : List Challenge) :
    (Place.value key letters os).feed w = .ok (.value key (letters ++ w) os) := by
  induction w generalizing letters with
  | nil => simp [Place.feed]
  | cons b w ih =>
    have hs : (Place.value key letters os).step b = some (.value key (letters ++ [b]) os) := by
      simp [Place.step, h b List.mem_cons_self]
    rw [Place.feed_cons hs, ih fun d hd => h d (List.mem_cons_of_mem _ hd), List.append_assoc]
    rfl

theorem feed_piece (p : Piece) (key content : List UInt8) (os : List Challenge) :
    (Place.quoted key content os).feed p.bytes = .ok (.quoted key (content ++ [p.content]) os) := by
  cases p with
  | plain b hq hb => simp [Piece.bytes, Piece.content, Place.feed, Place.step, hq, hb]
  | escaped b =>
    have hne : backslash ≠ quote := by decide
    simp [Piece.bytes, Piece.content, Place.feed, Place.step, hne]

theorem feed_pieces (ps : List Piece) (key content : List UInt8) (os : List Challenge) :
    (Place.quoted key content os).feed (ps.flatMap Piece.bytes) =
      .ok (.quoted key (content ++ ps.map Piece.content) os) := by
  induction ps generalizing content with
  | nil => simp [Place.feed]
  | cons p ps ih =>
    rw [List.flatMap_cons, Place.feed_append (feed_piece p key content os), ih, List.append_assoc]
    rfl

/-- A value between its quotes ends the parameter. -/
theorem feed_quoted (ps : List Piece) (key : List UInt8) (os : List Challenge) :
    (Place.value key [] os).feed (quote :: ps.flatMap Piece.bytes ++ [quote]) =
      .ok (.settled (Place.assignTo key (ps.map Piece.content) os)) := by
  have hs : (Place.value key [] os).step quote = some (.quoted key [] os) := by
    simp [Place.step, quote_class]
  rw [List.cons_append, Place.feed_cons hs, Place.feed_append (feed_pieces ps key [] os)]
  simp [Place.feed, Place.step]

theorem feed_settled {ws : List UInt8} (h : ∀ b ∈ ws, Ascii.isSpace b = true)
    (os : List Challenge) : (Place.settled os).feed ws = .ok (.settled os) := by
  induction ws with
  | nil => rfl
  | cons b ws ih =>
    have hs : (Place.settled os).step b = some (.settled os) := by
      simp [Place.step, h b List.mem_cons_self]
    rw [Place.feed_cons hs]
    exact ih fun d hd => h d (List.mem_cons_of_mem _ hd)

theorem step_settled_comma (os : List Challenge) :
    (Place.settled os).step comma = some (.word [] true os) := by
  simp [Place.step, comma_class]

/-- A value with its blanks: it may be followed by a comma, or end the text. -/
theorem feed_value (v : Value) (ws : Blanks) (key : List UInt8) (os : List Challenge) :
    ∃ p, (Place.value key [] os).feed (v.bytes ++ ws.bytes) = .ok p ∧
      p.step comma = some (.word [] true (Place.assignTo key v.content os)) ∧
      p.finish = some (if v.bytes = [] ∧ ws.bytes = [] then os.reverse
        else (Place.assignTo key v.content os).reverse) := by
  cases v with
  | quoted ps =>
    refine ⟨.settled (Place.assignTo key (ps.map Piece.content) os), ?_, step_settled_comma _, ?_⟩
    · rw [Value.bytes, Place.feed_append (feed_quoted ps key os)]
      exact feed_settled ws.blank _
    · simp [Place.finish, Value.bytes, Value.content]
  | bare w hw =>
    have hfeed := feed_bare hw key [] os
    rw [List.nil_append] at hfeed
    rw [Value.bytes, Place.feed_append hfeed]
    cases hws : ws.bytes with
    | nil =>
      refine ⟨.value key w os, rfl, ?_, ?_⟩
      · have hne : comma ≠ quote := by decide
        simp [Place.step, comma_class, hne, Value.content]
      · by_cases hn : w = [] <;> simp [Place.finish, hn, Value.content]
    | cons b bs =>
      have hb := ws.blank b (by simp [hws])
      have hs : (Place.value key w os).step b = some (.settled (Place.assignTo key w os)) := by
        have hq : b ≠ quote := by rintro rfl; simp [quote_class] at hb
        have hc : b ≠ comma := by rintro rfl; simp [comma_class] at hb
        simp [Place.step, hb, not_isAlphanum_of_isSpace hb, hq, hc]
      refine ⟨.settled (Place.assignTo key w os), ?_, step_settled_comma _, ?_⟩
      · rw [Place.feed_cons hs]
        exact feed_settled (fun d hd => ws.blank d (by simp [hws, hd])) _
      · simp [Place.finish, Value.content]

theorem Front.opened_ne_nil {f : Front} {os : List Challenge} (h : f.openers ≠ [] ∨ os ≠ []) :
    f.opened os ≠ [] := by
  obtain ⟨lead, openers⟩ := f
  simp only [Front.opened] at h ⊢
  induction openers generalizing os with
  | nil => exact h.resolve_left (fun hn => hn rfl)
  | cons o openers ih => exact ih (.inr (List.cons_ne_nil _ _))

theorem assignTo_word (key : Word) (v : Value) (os : List Challenge) :
    Place.assignTo key.bytes v.content os = assign key.text v.text os := by
  rw [Place.assignTo, decodeLossy_word key.alphanum]
  rfl

theorem feed_element (e : Element) (a : Bool) (os : List Challenge)
    (h : e.front.openers ≠ [] ∨ os ≠ []) :
    ∃ p, (Place.word [] a os).feed e.bytes = .ok p ∧
      p.step comma = some (.word [] true (e.opened os)) ∧
      p.finish = some (if e.Dangling then e.front.opened os else e.opened os).reverse := by
  obtain ⟨p, hp, hc, hf⟩ := feed_value e.value e.tail e.key.bytes (e.front.opened os)
  rw [assignTo_word] at hc hf
  refine ⟨p, ?_, hc, ?_⟩
  · have hs : (Place.word e.key.bytes (a && e.front.openers.isEmpty) (e.front.opened os)).step equals =
        some (.value e.key.bytes [] (e.front.opened os)) := by
      simp [Place.step, equals_class, e.key.ne_nil, Front.opened_ne_nil h]
    rw [Element.bytes, List.append_assoc, List.append_assoc,
      Place.feed_append (feed_front e.front a os),
      Place.feed_append (feed_letters e.key.alphanum [] _ _), List.nil_append, List.cons_append,
      Place.feed_cons hs]
    exact hp
  · rw [hf, Element.opened]
    by_cases hd : e.Dangling
    · have hd' : e.value.bytes = [] ∧ e.tail.bytes = [] := hd
      rw [if_pos hd', if_pos hd]
    · have hd' : ¬ (e.value.bytes = [] ∧ e.tail.bytes = []) := hd
      rw [if_neg hd', if_neg hd]

theorem assign_ne_nil {key value : String} {os : List Challenge} (h : os ≠ []) :
    assign key value os ≠ [] := by
  cases os with
  | nil => exact absurd rfl h
  | cons c os => exact List.cons_ne_nil _ _

theorem feed_elements {es : List Element} {a : Bool} {os : List Challenge}
    (h : Opens es ∨ os ≠ []) :
    (Place.word [] a os).feed (commaBytes es) =
      .ok (.word [] (a || !es.isEmpty) (es.foldl (fun cs e => e.opened cs) os)) := by
  induction es generalizing a os with
  | nil => simp [commaBytes, Place.feed]
  | cons e es ih =>
    obtain ⟨p, hp, hc, -⟩ := feed_element e a os h
    have hne : e.opened os ≠ [] := assign_ne_nil (Front.opened_ne_nil h)
    have hrest := ih (a := true) (.inr hne)
    rw [commaBytes, List.flatMap_cons, List.append_assoc, Place.feed_append hp, List.cons_append,
      List.nil_append, Place.feed_cons hc]
    simpa [commaBytes] using hrest

theorem opens_append {es : List Element} {e : Element} :
    Opens (es ++ [e]) ↔ Opens es ∧ (es = [] → e.front.openers ≠ []) := by
  cases es <;> simp [Opens]

theorem foldl_opened_ne_nil (es : List Element) {os : List Challenge} (h : os ≠ []) :
    es.foldl (fun cs e => e.opened cs) os ≠ [] := by
  induction es generalizing os with
  | nil => exact h
  | cons e es ih => exact ih (assign_ne_nil (Front.opened_ne_nil (.inr h)))

theorem allOpened_ne_nil {es : List Element} (h : Opens es) (hne : es ≠ []) :
    allOpened es ≠ [] := by
  cases es with
  | nil => exact absurd rfl hne
  | cons e es => exact foldl_opened_ne_nil es (assign_ne_nil (Front.opened_ne_nil (.inl h)))

/-- A last word is a scheme exactly if no scheme stands before it in its element. -/
theorem opened_last_word {es : List Element} {front : Front} :
    (front.opened (allOpened es) = [] ∨ (!es.isEmpty && front.openers.isEmpty) = true) ↔
      front.openers = [] := by
  constructor
  · rintro (hn | hn)
    · exact Classical.byContradiction fun hne => Front.opened_ne_nil (.inl hne) hn
    · simp only [Bool.and_eq_true, List.isEmpty_iff] at hn
      exact hn.2
  · intro hn
    cases es with
    | nil => simp [Front.opened, hn, allOpened]
    | cons e es => simp [hn]

/-- The scanner reads a tree to its end and finds the challenges that it denotes. -/
theorem feed_header (t : Header) :
    ∃ p, Place.start.feed t.bytes = .ok p ∧ p.finish = some t.challenges := by
  obtain ⟨es, ending, hopens⟩ := t
  rw [Header.bytes, Header.challenges]
  cases ending with
  | parameter e =>
    obtain ⟨hes, he⟩ := opens_append.mp hopens
    have hfront : e.front.openers ≠ [] ∨ allOpened es ≠ [] := by
      by_cases hn : es = []
      · exact .inl (he hn)
      · exact .inr (allOpened_ne_nil hes hn)
    obtain ⟨p, hp, -, hf⟩ := feed_element e (!es.isEmpty) (allOpened es) hfront
    refine ⟨p, ?_, hf⟩
    rw [Place.start, Place.feed_append (feed_elements (.inl hes))]
    exact hp
  | words front last =>
    have hes : Opens es := by simpa [Ending.elements] using hopens
    have hfeed : Place.start.feed (commaBytes es ++ front.bytes) =
        .ok (.word [] (!es.isEmpty && front.openers.isEmpty) (front.opened (allOpened es))) := by
      rw [Place.start, Place.feed_append (feed_elements (.inl hes))]
      exact feed_front front _ _
    rw [Ending.bytes, ← List.append_assoc, Place.feed_append hfeed]
    cases last with
    | none => exact ⟨_, rfl, by simp [Place.finish, Ending.opened]⟩
    | some w =>
      refine ⟨_, feed_letters w.alphanum [] _ _, ?_⟩
      simp only [Place.finish, List.nil_append, ne_eq, w.ne_nil, not_false_eq_true, true_and,
        opened_last_word, Ending.opened]
      by_cases hn : front.openers = []
      · simp [hn, Place.openWith, decodeLossy_word w.alphanum, Word.text, Front.opened]
      · simp [hn]

end HttpAuth.Grammar
