import HttpAuth.Proofs.Derivation
import HttpAuth.Proofs.Faults
import HttpAuth.Proofs.Letters

namespace HttpAuth

namespace Ascii

def isLetter (b : UInt8) : Bool := isUpper b || isLower b

def otherCase (b : UInt8) : UInt8 :=
  if isUpper b then b + 0x20 else if isLower b then b - 0x20 else b

theorem isUpper_iff {b : UInt8} : isUpper b = true ↔ 0x41 ≤ b.toNat ∧ b.toNat ≤ 0x5A := by
  simp only [isUpper, Bool.and_eq_true, decide_eq_true_eq, UInt8.le_iff_toNat_le]
  rfl

theorem isLower_iff {b : UInt8} : isLower b = true ↔ 0x61 ≤ b.toNat ∧ b.toNat ≤ 0x7A := by
  simp only [isLower, Bool.and_eq_true, decide_eq_true_eq, UInt8.le_iff_toNat_le]
  rfl

theorem isLetter_iff {b : UInt8} : isLetter b = true ↔
    0x41 ≤ b.toNat ∧ b.toNat ≤ 0x5A ∨ 0x61 ≤ b.toNat ∧ b.toNat ≤ 0x7A := by
  rw [isLetter, Bool.or_eq_true, isUpper_iff, isLower_iff]

theorem toNat_otherCase {b : UInt8} (h : isLetter b = true) :
    0x41 ≤ b.toNat ∧ b.toNat ≤ 0x5A ∧ (otherCase b).toNat = b.toNat + 0x20 ∨
      0x61 ≤ b.toNat ∧ b.toNat ≤ 0x7A ∧ (otherCase b).toNat + 0x20 = b.toNat := by
  have h32 : (0x20 : UInt8).toNat = 0x20 := rfl
  rcases isLetter_iff.mp h with hu | hl
  · refine .inl ⟨hu.1, hu.2, ?_⟩
    rw [otherCase, if_pos (isUpper_iff.mpr hu), UInt8.toNat_add, h32]
    omega
  · have hn : ¬ isUpper b = true := by
      rw [isUpper_iff]
      omega
    refine .inr ⟨hl.1, hl.2, ?_⟩
    rw [otherCase, if_neg hn, if_pos (isLower_iff.mpr hl),
      UInt8.toNat_sub_of_le _ _ (UInt8.le_iff_toNat_le.mpr (by omega)), h32]
    omega

theorem isLetter_otherCase {b : UInt8} (h : isLetter b = true) : isLetter (otherCase b) = true := by
  have := toNat_otherCase h
  rw [isLetter_iff]
  omega

theorem isAlphanum_of_isLetter {b : UInt8} (h : isLetter b = true) : isAlphanum b = true :=
  Grammar.isAlphanum_iff.mpr (.inr (isLetter_iff.mp h))

/-- The character of a byte, in lower case. -/
def lowered (b : UInt8) : Char := (Char.ofNat b.toNat).toLower

theorem lowered_otherCase {b : UInt8} (h : isLetter b = true) : lowered (otherCase b) = lowered b := by
  have hcase := toNat_otherCase h
  have hb := Utf8.toNat_ofNat_of_range (n := b.toNat) (by omega) (by omega)
  have hb' := Utf8.toNat_ofNat_of_range (n := (otherCase b).toNat) (by omega) (by omega)
  apply Char.toNat_inj.mp
  rw [lowered, lowered, toNat_toLower, toNat_toLower, hb, hb']
  split <;> split <;> omega

end Ascii

open Ascii (isLetter otherCase lowered)

/-- Two words that are the same up to the case of their letters. -/
structure SameWord (w w' : List UInt8) : Prop where
  alphanum : ∀ b ∈ w, Ascii.isAlphanum b = true
  alphanum' : ∀ b ∈ w', Ascii.isAlphanum b = true
  lowered : w.map lowered = w'.map lowered

namespace SameWord

variable {w w' : List UInt8} {b b' : UInt8}

theorem nil : SameWord [] [] := ⟨Grammar.no_letters, Grammar.no_letters, rfl⟩

theorem concat (h : SameWord w w') (hb : Ascii.isAlphanum b = true) (hb' : Ascii.isAlphanum b' = true)
    (hl : Ascii.lowered b = Ascii.lowered b') : SameWord (w ++ [b]) (w' ++ [b']) where
  alphanum := by simpa [or_imp, forall_and, hb] using h.alphanum
  alphanum' := by simpa [or_imp, forall_and, hb'] using h.alphanum'
  lowered := by simp only [List.map_append, h.lowered, List.map_cons, List.map_nil, hl]

theorem eq_nil_iff (h : SameWord w w') : w = [] ↔ w' = [] := by
  rw [← List.map_eq_nil_iff (f := Ascii.lowered), h.lowered, List.map_eq_nil_iff]

theorem lower_word (h : ∀ b ∈ w, Ascii.isAlphanum b = true) :
    Ascii.lower (Utf8.decodeLossy w) = String.ofList (w.map Ascii.lowered) := by
  rw [Grammar.decodeLossy_word h, Ascii.lower, String.toList_ofList, List.map_map]
  rfl

theorem name_eq (h : SameWord w w') :
    Name.ofText (Utf8.decodeLossy w) = Name.ofText (Utf8.decodeLossy w') := by
  apply Name.ext
  change Ascii.lower _ = Ascii.lower _
  rw [lower_word h.alphanum, lower_word h.alphanum', h.lowered]

end SameWord

/-- One step along two spellings of a header value: a byte that stands in both, a letter in one case here and in
the other there, or blanks here and other blanks there. -/
inductive Edit where
  | keep (b : UInt8)
  | recase (b : UInt8) (letter : isLetter b = true)
  | reblank (gap gap' : Grammar.Blanks) (h : gap.bytes ≠ []) (h' : gap'.bytes ≠ [])

namespace Edit

def before : Edit → List UInt8
  | keep b => [b]
  | recase b _ => [b]
  | reblank gap _ _ _ => gap.bytes

def after : Edit → List UInt8
  | keep b => [b]
  | recase b _ => [otherCase b]
  | reblank _ gap' _ _ => gap'.bytes

def original (es : List Edit) : List UInt8 := es.flatMap before

def respelled (es : List Edit) : List UInt8 := es.flatMap after

/-- Letters may change in schemes and keys, and blanks outside of quoted strings. -/
def fits (s : Scanner) : Edit → Bool
  | keep _ => true
  | recase .. => s.phase = .word
  | reblank .. => s.phase ≠ .quoted ∧ s.phase ≠ .escaped

/-- Every edit fits where the scanner comes to it in the original. What stands behind a byte that is refused may be
edited at will. -/
def allFit (s : Scanner) : List Edit → Bool
  | [] => true
  | e :: es =>
    e.fits s && match s.feed e.before with
      | .ok t => allFit t es
      | .error _ => true

@[simp] theorem original_nil : original [] = [] := rfl

@[simp] theorem respelled_nil : respelled [] = [] := rfl

@[simp] theorem original_cons (e : Edit) (es : List Edit) :
    original (e :: es) = e.before ++ original es := rfl

@[simp] theorem respelled_cons (e : Edit) (es : List Edit) :
    respelled (e :: es) = e.after ++ respelled es := rfl

@[simp] theorem original_append (xs ys : List Edit) :
    original (xs ++ ys) = original xs ++ original ys :=
  List.flatMap_append

@[simp] theorem respelled_append (xs ys : List Edit) :
    respelled (xs ++ ys) = respelled xs ++ respelled ys :=
  List.flatMap_append

@[simp] theorem original_keep (bytes : List UInt8) : original (bytes.map keep) = bytes := by
  rw [original, List.flatMap_map]
  exact List.flatMap_singleton' bytes

@[simp] theorem respelled_keep (bytes : List UInt8) : respelled (bytes.map keep) = bytes := by
  rw [respelled, List.flatMap_map]
  exact List.flatMap_singleton' bytes

end Edit

namespace Place

variable {p q : Place}

/-- The same place, up to the case of the letters in the word or the key that has been read. -/
inductive Recased : Place → Place → Prop where
  | word {w w' : List UInt8} (h : SameWord w w') (afterComma : Bool) (opened : List Challenge) :
      Recased (.word w afterComma opened) (.word w' afterComma opened)
  | value {key key' : List UInt8} (h : SameWord key key') (letters : List UInt8)
      (opened : List Challenge) : Recased (.value key letters opened) (.value key' letters opened)
  | quoted {key key' : List UInt8} (h : SameWord key key') (content : List UInt8)
      (opened : List Challenge) : Recased (.quoted key content opened) (.quoted key' content opened)
  | escaped {key key' : List UInt8} (h : SameWord key key') (content : List UInt8)
      (opened : List Challenge) : Recased (.escaped key content opened) (.escaped key' content opened)
  | settled (opened : List Challenge) : Recased (.settled opened) (.settled opened)

theorem openWith_eq {w w' : List UInt8} (h : SameWord w w') (opened : List Challenge) :
    openWith w opened = openWith w' opened := by
  rw [openWith, openWith, Challenge.ofScheme, Challenge.ofScheme, h.name_eq]

theorem assignTo_eq {key key' : List UInt8} (h : SameWord key key') (content : List UInt8)
    (opened : List Challenge) : assignTo key content opened = assignTo key' content opened := by
  cases opened with
  | nil => rfl
  | cons c opened =>
    simp only [assignTo, Grammar.assign, Challenge.set, h.name_eq]

/-- A byte that stands in both spellings is refused in both or taken in both. -/
theorem Recased.step (h : Recased p q) (b : UInt8) :
    Option.Rel Recased (p.step b) (q.step b) := by
  cases h with
  | word h afterComma opened =>
    simp only [Place.step, ne_eq, h.eq_nil_iff, openWith_eq h]
    split
    · next hb => exact .some (.word (h.concat hb hb rfl) _ _)
    split
    · split
      · exact .some (.word .nil _ _)
      · exact .some (.word .nil _ _)
    split
    · exact .some (.value h _ _)
    · exact .none
  | value h letters opened =>
    simp only [Place.step, assignTo_eq h]
    split
    · exact .some (.value h _ _)
    split
    · exact .some (.quoted h _ _)
    split
    · exact .some (.word .nil _ _)
    split
    · exact .some (.settled _)
    · exact .none
  | quoted h content opened =>
    simp only [Place.step, assignTo_eq h]
    split
    · exact .some (.settled _)
    split
    · exact .some (.escaped h _ _)
    · exact .some (.quoted h _ _)
  | escaped h content opened => exact .some (.quoted h _ _)
  | settled opened =>
    simp only [Place.step]
    split
    · exact .some (.settled _)
    split
    · exact .some (.word .nil _ _)
    · exact .none

/-- Where blanks lead to, one or more of them, outside of quoted strings. -/
def blanked : Place → Place
  | word letters afterComma opened =>
    if letters = [] then word [] afterComma opened else word [] false (openWith letters opened)
  | value key letters opened => settled (assignTo key letters opened)
  | quoted key content opened => quoted key content opened
  | escaped key content opened => escaped key content opened
  | settled opened => settled opened

theorem feed_gap (h : p.quoting = .outside) {gap : List UInt8} (hne : gap ≠ [])
    (hgap : ∀ b ∈ gap, Ascii.isSpace b = true) : p.feed gap = .ok p.blanked := by
  obtain ⟨b, rest, rfl⟩ := List.exists_cons_of_ne_nil hne
  obtain ⟨hb, hrest⟩ := List.forall_mem_cons.mp hgap
  have ha := Grammar.not_isAlphanum_of_isSpace hb
  -- The first blank ends the word or the value, and from there blanks lead nowhere else.
  cases p with
  | word letters afterComma opened =>
    have hs : (word letters afterComma opened).step b = some (word letters afterComma opened).blanked := by
      simp only [step, ha, hb, blanked, Bool.false_eq_true, ↓reduceIte]
      split <;> rfl
    rw [feed_cons hs, blanked]
    split <;> exact Grammar.feed_blanks hrest _ _
  | value key letters opened =>
    have hq : b ≠ Scanner.quote := by
      rintro rfl
      exact absurd hb (by decide)
    have hc : b ≠ Scanner.comma := by
      rintro rfl
      exact absurd hb (by decide)
    have hs : (value key letters opened).step b = some (value key letters opened).blanked := by
      simp [step, ha, hb, hq, hc, blanked]
    rw [feed_cons hs]
    exact Grammar.feed_settled hrest _
  | quoted | escaped => cases h
  | settled opened => exact Grammar.feed_settled hgap _

theorem Recased.blanked (h : Recased p q) : Recased p.blanked q.blanked := by
  cases h with
  | word h afterComma opened =>
    simp only [Place.blanked, h.eq_nil_iff, openWith_eq h]
    split <;> exact .word .nil _ _
  | value h letters opened =>
    simp only [Place.blanked, assignTo_eq h]
    exact .settled _
  | quoted h content opened => exact .quoted h _ _
  | escaped h content opened => exact .escaped h _ _
  | settled opened => exact .settled _

theorem Recased.quoting (h : Recased p q) : q.quoting = p.quoting := by
  cases h <;> rfl

theorem Recased.finish (h : Recased p q) : q.finish = p.finish := by
  cases h with
  | word h afterComma opened => simp only [Place.finish, ne_eq, h.eq_nil_iff, openWith_eq h]
  | value h letters opened => simp only [Place.finish, assignTo_eq h]
  | quoted | escaped | settled => rfl

theorem quoting_of_phase (h : p.scanner.phase ≠ .quoted) (h' : p.scanner.phase ≠ .escaped) :
    p.quoting = .outside := by
  cases p with
  | quoted => exact absurd rfl h
  | escaped => exact absurd rfl h'
  | word | value | settled => rfl

/-- An edit that fits leads to the same place in both spellings, or it is a byte that is refused in both. -/
theorem Recased.edit (h : Recased p q) {e : Edit} (he : e.fits p.scanner = true) :
    (∃ p' q', p.feed e.before = .ok p' ∧ q.feed e.after = .ok q' ∧ Recased p' q') ∨
      ∃ b, e = .keep b ∧ p.step b = none ∧ q.step b = none := by
  cases e with
  | keep b =>
    have hs := h.step b
    generalize hx : p.step b = x at hs
    generalize hy : q.step b = y at hs
    cases hs with
    | none => exact .inr ⟨b, rfl, hx, hy⟩
    | some h' => exact .inl ⟨_, _, feed_cons hx [], feed_cons hy [], h'⟩
  | recase b letter =>
    have hp : p.scanner.phase = .word := of_decide_eq_true he
    cases h with
    | value | quoted | escaped | settled => cases hp
    | word h afterComma opened =>
      have hb := Ascii.isAlphanum_of_isLetter letter
      have hb' := Ascii.isAlphanum_of_isLetter (Ascii.isLetter_otherCase letter)
      refine .inl ⟨_, _, Grammar.feed_letters (by simpa [Edit.before] using hb) _ _ _,
        Grammar.feed_letters (by simpa [Edit.after] using hb') _ _ _, ?_⟩
      exact .word (h.concat hb hb' (Ascii.lowered_otherCase letter).symm) _ _
  | reblank gap gap' hne hne' =>
    obtain ⟨hquoted, hescaped⟩ : p.scanner.phase ≠ .quoted ∧ p.scanner.phase ≠ .escaped :=
      of_decide_eq_true he
    have hp := quoting_of_phase hquoted hescaped
    have hq := h.quoting.trans hp
    exact .inl ⟨_, _, feed_gap hp hne gap.blank, feed_gap hq hne' gap'.blank, h.blanked⟩

/-- Both walks go to the end, or both are stopped by the same byte that was kept. -/
theorem Recased.edits (h : Recased p q) {es : List Edit} (hes : Edit.allFit p.scanner es = true) :
    (∃ p' q', p.feed (Edit.original es) = .ok p' ∧ q.feed (Edit.respelled es) = .ok q' ∧
      Recased p' q') ∨
    ∃ done b rest p' q', es = done ++ .keep b :: rest ∧ p.feed (Edit.original done) = .ok p' ∧
      q.feed (Edit.respelled done) = .ok q' ∧ p'.step b = none ∧ q'.step b = none := by
  induction es generalizing p q with
  | nil => exact .inl ⟨p, q, rfl, rfl, h⟩
  | cons e es ih =>
    rw [Edit.allFit, Bool.and_eq_true] at hes
    obtain ⟨he, hrest⟩ := hes
    obtain ⟨p₁, q₁, hp, hq, h₁⟩ | ⟨b, rfl, hp, hq⟩ := h.edit he
    · rw [feed_scanner, hp] at hrest
      obtain ⟨p', q', hp', hq', h'⟩ | ⟨done, b, rest, p', q', rfl, hp', hq', hb, hb'⟩ := ih h₁ hrest
      · exact .inl ⟨p', q', (feed_append hp _).trans hp', (feed_append hq _).trans hq', h'⟩
      · exact .inr ⟨e :: done, b, rest, p', q', rfl, (feed_append hp _).trans hp',
          (feed_append hq _).trans hq', hb, hb'⟩
    · exact .inr ⟨[], b, es, p, q, rfl, rfl, rfl, hp, hq⟩

end Place

namespace Edit

theorem keeps_or_separates (e : Edit) :
    (∃ b, e = keep b) ∨ Utf8.Separates e.before ∧ Utf8.Separates e.after := by
  cases e with
  | keep b => exact .inl ⟨b, rfl⟩
  | recase b letter =>
    have hb := Grammar.ascii_of_isAlphanum (Ascii.isAlphanum_of_isLetter letter)
    have hb' := Grammar.ascii_of_isAlphanum
      (Ascii.isAlphanum_of_isLetter (Ascii.isLetter_otherCase letter))
    exact .inr ⟨.singleton hb, .singleton hb'⟩
  | reblank gap gap' hne hne' =>
    exact .inr ⟨⟨hne, gap.ascii⟩, ⟨hne', gap'.ascii⟩⟩

/-- Edits neither damage characters nor repair them. -/
theorem isValid_respelled (kept : List UInt8) (es : List Edit) :
    Utf8.isValid (kept ++ respelled es) = true ↔ Utf8.isValid (kept ++ original es) = true := by
  induction es generalizing kept with
  | nil => rfl
  | cons e es ih =>
    rcases e.keeps_or_separates with ⟨b, rfl⟩ | ⟨hbefore, hafter⟩
    · simpa [before, after] using ih (kept ++ [b])
    · rw [original_cons, respelled_cons, ← List.append_assoc, ← List.append_assoc,
        hbefore.isValid_iff, hafter.isValid_iff]
      exact and_congr_right fun _ => ih []

theorem exists_kept {kept : List UInt8} {n : Nat} (hn : n ≤ kept.length) (es : List Edit) :
    ∃ done rest, kept.map keep ++ es = done ++ rest ∧ n = (original done).length ∧
      n = (respelled done).length := by
  refine ⟨(kept.take n).map keep, (kept.drop n).map keep ++ es, ?_, ?_, ?_⟩
  · rw [← List.append_assoc, ← List.map_append, List.take_append_drop]
  · rw [original_keep, List.length_take, Nat.min_eq_left hn]
  · rw [respelled_keep, List.length_take, Nat.min_eq_left hn]

/-- The sound bytes end at the same place in both spellings, and that is between two edits. -/
theorem exists_validLength (kept : List UInt8) (es : List Edit) :
    ∃ done rest, kept.map keep ++ es = done ++ rest ∧
      Utf8.validLength (kept ++ original es) = (original done).length ∧
        Utf8.validLength (kept ++ respelled es) = (respelled done).length := by
  induction es generalizing kept with
  | nil =>
    rw [original_nil, respelled_nil, List.append_nil kept]
    exact exists_kept (Utf8.validLength_isGreatest kept).1.1 []
  | cons e es ih =>
    rcases e.keeps_or_separates with ⟨b, rfl⟩ | ⟨hbefore, hafter⟩
    · simpa [before, after] using ih (kept ++ [b])
    -- Damage among the bytes kept so far is found there; else the search starts anew behind the edit.
    rw [original_cons, respelled_cons, ← List.append_assoc, ← List.append_assoc,
      hbefore.validLength, hafter.validLength]
    split
    · obtain ⟨done, rest, hsplit, hbytes, hbytes'⟩ := ih []
      obtain rfl : es = done ++ rest := hsplit
      rw [List.nil_append] at hbytes hbytes'
      refine ⟨kept.map keep ++ e :: done, rest, by simp, ?_, ?_⟩
      · rw [hbytes]
        simp [Nat.add_assoc]
      · rw [hbytes']
        simp [Nat.add_assoc]
    · exact exists_kept (Utf8.validLength_isGreatest kept).1.1 (e :: es)

end Edit

namespace Challenge

open Edit (original respelled)

/-- The challenges are those of a tree with these bytes, and their parameters are parameters of the tree: each has
its value byte for byte. -/
def Verbatim (bytes : List UInt8) (cs : List Challenge) : Prop :=
  ∃ t : Grammar.Header, t.bytes = bytes ∧ t.challenges = cs ∧
    ∀ c ∈ cs, ∀ entry ∈ c.params.entries, ∃ e ∈ t.parameters,
      Name.ofText e.key.text = entry.1 ∧ e.value.content = Utf8.encode entry.2

theorem verbatim_of_parse {bytes : List UInt8} {cs : List Challenge} (h : parse bytes = .ok cs) :
    Verbatim bytes cs := by
  obtain ⟨hv, t, rfl, rfl⟩ := Grammar.parse_eq_ok_iff_header.mp h
  refine ⟨t, rfl, rfl, fun c hc entry hentry => ?_⟩
  obtain ⟨e, he, rfl⟩ := t.stated c hc entry hentry
  have hcontent := t.isValid_content hv e.value (List.mem_map_of_mem he)
  exact ⟨e, he, rfl, (Utf8.encode_decodeLossy hcontent).symm⟩

/-- The case of letters in schemes and keys does not matter, nor the blanks outside of quoted strings as long as
there are some. Both spellings say the same challenges, with every value as it is written, or both have the same
fault at the same place, which is between two edits. -/
theorem parse_respelled {es : List Edit} (h : Edit.allFit {} es = true) :
    (∃ cs, parse (original es) = .ok cs ∧ parse (respelled es) = .ok cs ∧
      Verbatim (original es) cs ∧ Verbatim (respelled es) cs) ∨
    ∃ fault done rest, es = done ++ rest ∧ FailsAt (original es) fault (original done).length ∧
      FailsAt (respelled es) fault (respelled done).length := by
  have hstart : Place.Recased .start .start := .word .nil false []
  obtain ⟨p, q, hp, hq, hpq⟩ | ⟨done, b, rest, p, q, rfl, hp, hq, hb, hb'⟩ := hstart.edits h
  · have hfinish := hpq.finish
    cases hf : p.finish with
    | none =>
      exact .inr ⟨.unterminatedQuote, es, [], (List.append_nil es).symm, failsAt_of_unfinished hp hf,
        failsAt_of_unfinished hq (hfinish.trans hf)⟩
    | some cs =>
      have hvalid : Utf8.isValid (respelled es) = true ↔ Utf8.isValid (original es) = true :=
        Edit.isValid_respelled [] es
      cases hv : Utf8.isValid (original es) with
      | true =>
        have hparse := parse_eq_ok_iff.mpr ⟨hv, p, hp, hf⟩
        have hparse' := parse_eq_ok_iff.mpr ⟨hvalid.mpr hv, q, hq, hfinish.trans hf⟩
        exact .inl ⟨cs, hparse, hparse', verbatim_of_parse hparse, verbatim_of_parse hparse'⟩
      | false =>
        have hv' : Utf8.isValid (respelled es) = false := by
          rw [Bool.eq_false_iff, ne_eq, hvalid, hv]
          exact Bool.false_ne_true
        obtain ⟨done, rest, hsplit, hbytes, hbytes'⟩ := Edit.exists_validLength [] es
        refine .inr ⟨.invalidUtf8, done, rest, hsplit, ?_, ?_⟩
        · exact hbytes ▸ failsAt_of_not_isValid hp hf hv
        · exact hbytes' ▸ failsAt_of_not_isValid hq (hfinish.trans hf) hv'
  · refine .inr ⟨.unexpectedByte b, done, .keep b :: rest, rfl, ?_, ?_⟩
    · rw [Edit.original_append]
      exact failsAt_of_refused hp hb (original rest)
    · rw [Edit.respelled_append]
      exact failsAt_of_refused hq hb' (respelled rest)

/-- A scheme and a key in another case, and three runs of blanks. The blanks in the quotes stay. -/
theorem parse_respelled_quoted :
    let space : Grammar.Blanks := ⟨[0x20], by decide +kernel⟩
    let tabs : Grammar.Blanks := ⟨[0x09, 0x09], by decide +kernel⟩
    let lines : Grammar.Blanks := ⟨[0x0D, 0x0A, 0x20], by decide +kernel⟩
    let toTabs := Edit.reblank space tabs (by decide) (by decide)
    let toLines := Edit.reblank space lines (by decide) (by decide)
    let es := [.recase 0x42 (by decide)] ++ (Utf8.encode "asic").map .keep ++ [toLines] ++
      (Utf8.encode "realm=\"A  b\"").map .keep ++ [toTabs, .keep 0x2C, toLines, .recase 0x63 (by decide)] ++
      (Utf8.encode "harset=UTF").map .keep
    let cs := [((ofScheme "basic").set "realm" "A  b").set "charset" "UTF"]
    original es = Utf8.encode "Basic realm=\"A  b\" , charset=UTF" ∧
      respelled es = Utf8.encode "basic\r\n realm=\"A  b\"\t\t,\r\n Charset=UTF" ∧
      Edit.allFit {} es = true ∧ parse (original es) = .ok cs ∧ parse (respelled es) = .ok cs ∧
      Verbatim (respelled es) cs := by
  intro space tabs lines toTabs toLines es cs
  have hfit : Edit.allFit {} es = true := by decide +kernel
  have hparse : parse (original es) = .ok cs := by decide +kernel
  refine ⟨by decide +kernel, by decide +kernel, hfit, hparse, ?_⟩
  obtain ⟨cs', hparse', hrespelled, -, hverbatim⟩ | ⟨fault, done, rest, -, ⟨e, he, -⟩, -⟩ :=
    parse_respelled hfit
  · obtain rfl : cs' = cs := Except.ok.inj (hparse'.symm.trans hparse)
    exact ⟨hrespelled, hverbatim⟩
  · cases he.symm.trans hparse

end Challenge

end HttpAuth
