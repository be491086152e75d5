import HttpAuth.Proofs.RoundTrip
import HttpAuth.Proofs.Teaching

namespace HttpAuth

open Scanner (comma)

namespace Place

variable {p p' q q' : Place} {bytes : List UInt8} {older os cs : List Challenge}

/-- The same place, with older challenges behind those opened since a comma. That there is a comma shows only
until the first of them is opened. -/
inductive Resumed (older : List Challenge) : Place → Place → Prop where
  | fresh (letters : List UInt8) (afterComma : Bool) :
      Resumed older (.word letters afterComma []) (.word letters true older)
  | word (letters : List UInt8) (afterComma : Bool) {os : List Challenge} (h : os ≠ []) :
      Resumed older (.word letters afterComma os) (.word letters afterComma (os ++ older))
  | value (key letters : List UInt8) {os : List Challenge} (h : os ≠ []) :
      Resumed older (.value key letters os) (.value key letters (os ++ older))
  | quoted (key content : List UInt8) {os : List Challenge} (h : os ≠ []) :
      Resumed older (.quoted key content os) (.quoted key content (os ++ older))
  | escaped (key content : List UInt8) {os : List Challenge} (h : os ≠ []) :
      Resumed older (.escaped key content os) (.escaped key content (os ++ older))
  | settled {os : List Challenge} (h : os ≠ []) : Resumed older (.settled os) (.settled (os ++ older))

/-- What is taken here is taken there as well. -/
inductive Followed (older : List Challenge) : Option Place → Option Place → Prop where
  | refused (x : Option Place) : Followed older none x
  | taken {p q : Place} (h : Resumed older p q) : Followed older (some p) (some q)

theorem assignTo_append (key content : List UInt8) (h : os ≠ []) (older : List Challenge) :
    assignTo key content os ≠ [] ∧
      assignTo key content (os ++ older) = assignTo key content os ++ older := by
  obtain ⟨c, os, rfl⟩ := List.exists_cons_of_ne_nil h
  exact ⟨List.cons_ne_nil _ _, rfl⟩

theorem Resumed.step (h : Resumed older p q) (b : UInt8) : Followed older (p.step b) (q.step b) := by
  cases h with
  | fresh letters afterComma =>
    -- An equals sign is refused here for want of a challenge, and there it need not be.
    simp only [Place.step, ne_eq, not_true_eq_false, and_false, ↓reduceIte]
    split
    · exact .taken (.fresh _ _)
    split
    · split
      · exact .taken (.fresh _ _)
      · exact .taken (.word _ _ (List.cons_ne_nil _ []))
    · exact .refused _
  | word letters afterComma h =>
    simp only [Place.step, ne_eq, h, List.append_eq_nil_iff, false_and, not_false_eq_true, and_true]
    split
    · exact .taken (.word _ _ h)
    split
    · split
      · exact .taken (.word _ _ h)
      · exact .taken (.word _ _ (List.cons_ne_nil _ _))
    split
    · exact .taken (.value _ _ h)
    · exact .refused _
  | value key letters h =>
    obtain ⟨hset, happend⟩ := assignTo_append key letters h older
    simp only [Place.step, happend]
    split
    · exact .taken (.value _ _ h)
    split
    · exact .taken (.quoted _ _ h)
    split
    · exact .taken (.word _ _ hset)
    split
    · exact .taken (.settled hset)
    · exact .refused _
  | quoted key content h =>
    obtain ⟨hset, happend⟩ := assignTo_append key content h older
    simp only [Place.step, happend]
    split
    · exact .taken (.settled hset)
    split
    · exact .taken (.escaped _ _ h)
    · exact .taken (.quoted _ _ h)
  | escaped key content h => exact .taken (.quoted _ _ h)
  | settled h =>
    simp only [Place.step]
    split
    · exact .taken (.settled h)
    split
    · exact .taken (.word _ _ h)
    · exact .refused _

theorem Resumed.feed (h : Resumed older p q) (hp : p.feed bytes = .ok p') :
    ∃ q', q.feed bytes = .ok q' ∧ Resumed older p' q' := by
  induction bytes generalizing p q with
  | nil =>
    cases hp
    exact ⟨q, rfl, h⟩
  | cons b rest ih =>
    rw [Place.feed] at hp ⊢
    have hs := h.step b
    generalize p.step b = x at hs hp
    generalize q.step b = y at hs
    cases hs with
    | refused => cases hp
    | taken h' => exact ih h' hp

theorem Resumed.finish (h : Resumed older p q) (hp : p.finish = some cs) :
    q.finish = some (older.reverse ++ cs) := by
  cases h with
  | fresh letters afterComma =>
    simp only [Place.finish, true_or, or_true, and_true] at hp ⊢
    split at hp <;>
      · next hl =>
        rw [← Option.some.inj hp]
        simp [hl, openWith]
  | word letters afterComma h =>
    simp only [Place.finish, h, List.append_eq_nil_iff, false_and, false_or] at hp ⊢
    split at hp <;>
      · next hw =>
        rw [← Option.some.inj hp]
        simp [hw, openWith]
  | value key letters h =>
    rw [Place.finish] at hp ⊢
    rw [(assignTo_append key letters h older).2]
    split at hp <;>
      · next hl =>
        rw [← Option.some.inj hp]
        simp [hl]
  | quoted | escaped => cases hp
  | settled h =>
    rw [← Option.some.inj hp]
    simp [Place.finish]

end Place

namespace Challenge

/-- The bytes end with a parameter: behind a value that has been closed, by a quote or by a blank, or in an
unquoted one that is not empty. -/
def EndsParameter (bytes : List UInt8) : Prop :=
  ∃ s, Scanner.feed {} bytes = .ok s ∧ (s.phase = .settled ∨ s.phase = .value ∧ s.value ≠ #[])

/-- The lines in one, with a comma and blanks between each two. -/
def folded (first : List UInt8) : List (Grammar.Blanks × List UInt8) → List UInt8
  | [] => first
  | (gap, line) :: rest => first ++ comma :: (gap.bytes ++ folded line rest)

theorem EndsParameter.ended {bytes : List UInt8} {p : Place} (h : EndsParameter bytes)
    (hp : Place.start.feed bytes = .ok p) : ∃ opened, p.Ended opened := by
  obtain ⟨s, hs, hphase⟩ := h
  have hf : Scanner.feed {} bytes = (Place.start.feed bytes).map Place.scanner :=
    Place.feed_scanner Place.start bytes
  rw [hp, hs] at hf
  obtain rfl : s = p.scanner := by injection hf
  cases p with
  | word | quoted | escaped => simp [Place.scanner] at hphase
  | value key letters opened =>
    have hl : letters ≠ [] := by simpa [Place.scanner] using hphase
    have hq : comma ≠ Scanner.quote := by decide
    refine ⟨Place.assignTo key letters opened, ?_, ?_⟩
    · simp [Place.step, Grammar.comma_class, hq]
    · simp [Place.finish, hl]
  | settled opened => exact ⟨opened, by simp [Place.step, Grammar.comma_class], rfl⟩

theorem parse_continued {first line : List UInt8} {cs ds : List Challenge} (h : parse first = .ok cs)
    (hends : EndsParameter first) (gap : Grammar.Blanks) (h' : parse line = .ok ds) :
    parse (first ++ comma :: (gap.bytes ++ line)) = .ok (cs ++ ds) := by
  obtain ⟨hvalid, p, hp, hfinish⟩ := parse_eq_ok_iff.mp h
  obtain ⟨hvalid', q, hq, hfinish'⟩ := parse_eq_ok_iff.mp h'
  obtain ⟨opened, hended⟩ := hends.ended hp
  obtain rfl : opened.reverse = cs := Option.some.inj (hended.finish.symm.trans hfinish)
  have hfresh : Place.Resumed opened Place.start (.word [] true opened) := .fresh [] false
  obtain ⟨r, hr, hresumed⟩ := hfresh.feed hq
  refine parse_eq_ok_iff.mpr ⟨?_, r, ?_, hresumed.finish hfinish'⟩
  · have hline := (Utf8.isValid_ascii_append gap.ascii line).mpr hvalid'
    exact (Utf8.isValid_cut (by decide)).mpr ⟨hvalid, hline⟩
  · rw [Place.feed_append hp, Place.feed_cons hended.comma,
      Place.feed_append (Grammar.feed_blanks gap.blank true opened), hr]

/-- Lines that can be read, each but the last with a parameter at its end, may be folded into one. The line
says what they say one after another. -/
theorem parse_folded {first : List UInt8} {rest : List (Grammar.Blanks × List UInt8)}
    {read : List (List Challenge)} (hread : (first :: rest.map Prod.snd).map parse = read.map .ok)
    (hends : ∀ line ∈ (first :: rest.map Prod.snd).dropLast, EndsParameter line) :
    parse (folded first rest) = .ok read.flatten ∧
      parseAll (first :: rest.map Prod.snd) = .ok read.flatten := by
  refine ⟨?_, parseAll_of_read hread⟩
  induction rest generalizing first read with
  | nil =>
    obtain ⟨cs, rfl, hcs⟩ := List.map_eq_singleton_iff.mp hread.symm
    rw [folded, List.flatten_singleton]
    exact hcs.symm
  | cons next rest ih =>
    obtain ⟨gap, line⟩ := next
    cases read with
    | nil => cases hread
    | cons cs read =>
      obtain ⟨hfirst, hrest⟩ := List.cons.inj hread
      rw [List.map_cons, List.dropLast_cons_cons, List.forall_mem_cons] at hends
      -- Folded, the other lines are one that can be read by itself, so it is enough to add the first.
      exact parse_continued hfirst hends.1 gap (ih hrest hends.2)

/-- Lines that end in an unquoted value, behind a blank and with a bare scheme. -/
theorem parse_folded_three :
    let bare := Utf8.encode "Bearer scope=pull"
    let closed := Utf8.encode "Basic realm=\"b\" "
    let word := Utf8.encode "Negotiate"
    let rest : List (Grammar.Blanks × List UInt8) :=
      [(⟨[0x20, 0x09], by decide +kernel⟩, closed), (Grammar.noBlanks, word)]
    let cs := [(ofScheme "bearer").set "scope" "pull", (ofScheme "basic").set "realm" "b",
      ofScheme "negotiate"]
    folded bare rest = Utf8.encode "Bearer scope=pull, \tBasic realm=\"b\" ,Negotiate" ∧
      parse (folded bare rest) = .ok cs ∧ parseAll [bare, closed, word] = .ok cs := by
  intro bare closed word rest cs
  have hread : [bare, closed, word].map parse = (cs.map fun c => [c]).map .ok := by decide +kernel
  have hends : ∀ line ∈ [bare, closed], EndsParameter line := by
    intro line hm
    obtain rfl | rfl := List.mem_pair.mp hm
    · let s : Scanner :=
        { phase := .value
          key := (Utf8.encode "scope").toArray
          value := (Utf8.encode "pull").toArray
          opened := [ofScheme "bearer"] }
      exact ⟨s, by decide +kernel, .inr (by decide +kernel)⟩
    · let s : Scanner := { phase := .settled, opened := [(ofScheme "basic").set "realm" "b"] }
      exact ⟨s, by decide +kernel, .inl rfl⟩
  exact ⟨by decide +kernel, @parse_folded bare rest _ hread hends⟩

end Challenge

end HttpAuth
