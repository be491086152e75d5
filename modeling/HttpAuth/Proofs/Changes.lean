import HttpAuth.Proofs.Reading

namespace HttpAuth

open Scanner (comma quote)

/-- What a step does to the open challenges, and the bytes that it does it with. -/
inductive Change where
  | keeps
  | opens (word : List UInt8)
  | assigns (key value : List UInt8)
deriving DecidableEq, Repr

namespace Change

def apply : Change → List Challenge → List Challenge
  | keeps, opened => opened
  | opens word, opened => Place.openWith word opened
  | assigns key value, opened => Place.assignTo key value opened

def applyAll (changes : List Change) (opened : List Challenge) : List Challenge :=
  changes.foldl (fun os c => c.apply os) opened

end Change

namespace Scanner

variable {s t : Scanner} {b : UInt8} {bytes : List UInt8} {cs : List Challenge}

/-- What becomes of the challenges when this byte is taken. -/
def change (s : Scanner) (b : UInt8) : Change :=
  match s.phase with
  | .word => if Ascii.isSpace b ∧ s.word ≠ #[] then .opens s.word.toList else .keeps
  | .value => if b = comma ∨ Ascii.isSpace b then .assigns s.key.toList s.value.toList else .keeps
  | .quoted => if b = quote then .assigns s.key.toList s.value.toList else .keeps
  | .escaped | .settled => .keeps

/-- What becomes of them at the end of the header value. -/
def lastChange (s : Scanner) : Change :=
  match s.phase with
  | .word => if s.word ≠ #[] ∧ (s.opened = [] ∨ s.afterComma) then .opens s.word.toList else .keeps
  | .value => if s.value ≠ #[] then .assigns s.key.toList s.value.toList else .keeps
  | .quoted | .escaped | .settled => .keeps

/-- All changes on the way through these bytes, the last one included, or those up to a byte that is refused. -/
def changes (s : Scanner) : List UInt8 → List Change
  | [] => [s.lastChange]
  | b :: rest =>
    match s.step b with
    | none => []
    | some t => s.change b :: t.changes rest

theorem opened_assign (s : Scanner) :
    s.assign.opened = Place.assignTo s.key.toList s.value.toList s.opened := by
  unfold assign
  cases s.opened <;> rfl

/-- The bytes by which a value ends. -/
theorem class_of_end (h : b = comma ∨ Ascii.isSpace b = true) :
    Ascii.isAlphanum b = false ∧ b ≠ quote := by
  rcases h with rfl | h
  · exact ⟨Grammar.comma_class.1, by decide⟩
  · refine ⟨Grammar.not_isAlphanum_of_isSpace h, ?_⟩
    rintro rfl
    exact absurd h (by decide)

theorem step_opened (h : s.step b = some t) : t.opened = (s.change b).apply s.opened := by
  cases hp : s.phase with
  | word =>
    simp only [step, change, hp] at h ⊢
    by_cases hb : Ascii.isSpace b = true
    · have ha := Grammar.not_isAlphanum_of_isSpace hb
      simp only [ha, hb, Array.isEmpty_iff, Bool.false_eq_true, ↓reduceIte, true_and, ne_eq] at h ⊢
      split at h
      · next hw =>
        cases h
        simp [hw, Change.apply]
      · next hw =>
        cases h
        simp only [hw, not_false_eq_true, ↓reduceIte]
        rfl
    · simp only [hb, Bool.false_eq_true, false_and, ↓reduceIte] at h ⊢
      split at h
      · cases h
        rfl
      · obtain ⟨-, h⟩ := Option.ite_none_right_eq_some.mp h
        cases h
        rfl
  | value =>
    simp only [step, change, hp] at h ⊢
    by_cases hb : b = comma ∨ Ascii.isSpace b = true
    · obtain ⟨ha, hq⟩ := class_of_end hb
      simp only [ha, hq, Bool.false_eq_true, false_and, ↓reduceIte, hb] at h ⊢
      split at h
      · cases h
        exact opened_assign s
      · obtain ⟨-, h⟩ := Option.ite_none_right_eq_some.mp h
        cases h
        exact opened_assign s
    · obtain ⟨hc, hs⟩ := not_or.mp hb
      simp only [hc, hs, Bool.false_eq_true, or_self, ↓reduceIte] at h ⊢
      split at h
      · cases h
        rfl
      · obtain ⟨-, h⟩ := Option.ite_none_right_eq_some.mp h
        cases h
        rfl
  | quoted =>
    simp only [step, change, hp] at h ⊢
    split at h
    · next hb =>
      cases h
      rw [if_pos hb]
      exact opened_assign s
    · next hb =>
      rw [if_neg hb]
      split at h <;>
        · cases h
          rfl
  | escaped =>
    simp only [step, change, hp] at h ⊢
    cases h
    rfl
  | settled =>
    simp only [step, change, hp] at h ⊢
    split at h
    · cases h
      rfl
    · obtain ⟨-, h⟩ := Option.ite_none_right_eq_some.mp h
      cases h
      rfl

theorem finish_eq (h : s.finish = some cs) : cs = (s.lastChange.apply s.opened).reverse := by
  cases hp : s.phase with
  | word =>
    simp only [finish, lastChange, hp, Array.isEmpty_iff, List.isEmpty_iff] at h ⊢
    split at h <;>
      · next hw =>
        cases h
        simp only [ne_eq, hw]
        rfl
  | value =>
    simp only [finish, lastChange, hp, Array.isEmpty_iff] at h ⊢
    split at h
    · next hv =>
      cases h
      simp [hv, Change.apply]
    · next hv =>
      cases h
      simp only [ne_eq, hv, not_false_eq_true, ↓reduceIte, opened_assign]
      rfl
  | quoted | escaped => simp [finish, hp] at h
  | settled =>
    simp only [finish, lastChange, hp] at h ⊢
    cases h
    rfl

/-- The run leads through all its changes. -/
theorem opened_changes (h : s.feed bytes = .ok t) (hf : t.finish = some cs) :
    cs = (Change.applyAll (s.changes bytes) s.opened).reverse := by
  induction bytes generalizing s with
  | nil =>
    cases h
    exact finish_eq hf
  | cons b rest ih =>
    rw [feed] at h
    cases hs : s.step b with
    | none => simp [hs] at h
    | some r =>
      rw [hs] at h
      rw [ih h, changes, hs, step_opened hs]
      rfl

/-- Every change is made by one byte, in the state behind those before it, or at the end. -/
theorem exists_of_mem_changes {c : Change} (h : c ∈ s.changes bytes) :
    (∃ taken b rest t, bytes = taken ++ b :: rest ∧ s.feed taken = .ok t ∧ t.change b = c) ∨
      ∃ t, s.feed bytes = .ok t ∧ t.lastChange = c := by
  induction bytes generalizing s with
  | nil => exact .inr ⟨s, rfl, (List.mem_singleton.mp h).symm⟩
  | cons b rest ih =>
    rw [changes] at h
    cases hs : s.step b with
    | none => simp [hs] at h
    | some r =>
      have hfeed : ∀ more, s.feed (b :: more) = r.feed more := fun more => by rw [feed, hs]
      rw [hs] at h
      rcases List.mem_cons.mp h with rfl | h
      · exact .inl ⟨[], b, rest, s, rfl, rfl, rfl⟩
      · rcases ih h with ⟨taken, d, more, t, rfl, ht, hc⟩ | ⟨t, ht, hc⟩
        · exact .inl ⟨b :: taken, d, more, t, rfl, (hfeed taken).trans ht, hc⟩
        · exact .inr ⟨t, (hfeed rest).trans ht, hc⟩

variable {key value word : List UInt8}

/-- A parameter is given away by what ends its value. -/
theorem change_eq_assigns (h : s.change b = .assigns key value) :
    (s.phase = .value ∧ (b = comma ∨ Ascii.isSpace b = true) ∨ s.phase = .quoted ∧ b = quote) ∧
      key = s.key.toList ∧ value = s.value.toList := by
  cases hp : s.phase with
  | word =>
    simp only [change, hp] at h
    split at h <;> cases h
  | value =>
    simp only [change, hp] at h
    split at h
    · next hb =>
      cases h
      exact ⟨.inl ⟨rfl, hb⟩, rfl, rfl⟩
    · cases h
  | quoted =>
    simp only [change, hp] at h
    split at h
    · next hb =>
      cases h
      exact ⟨.inr ⟨rfl, hb⟩, rfl, rfl⟩
    · cases h
  | escaped | settled => simp [change, hp] at h

theorem lastChange_eq_assigns (h : s.lastChange = .assigns key value) :
    s.phase = .value ∧ key = s.key.toList ∧ value = s.value.toList := by
  cases hp : s.phase with
  | word =>
    simp only [lastChange, hp] at h
    split at h <;> cases h
  | value =>
    simp only [lastChange, hp] at h
    split at h <;> cases h
    exact ⟨rfl, rfl, rfl⟩
  | quoted | escaped | settled => simp [lastChange, hp] at h

theorem change_eq_opens (h : s.change b = .opens word) : s.phase = .word ∧ word = s.word.toList := by
  cases hp : s.phase with
  | word =>
    simp only [change, hp] at h
    split at h <;> cases h
    exact ⟨rfl, rfl⟩
  | value | quoted =>
    simp only [change, hp] at h
    split at h <;> cases h
  | escaped | settled => simp [change, hp] at h

theorem lastChange_eq_opens (h : s.lastChange = .opens word) :
    s.phase = .word ∧ word = s.word.toList := by
  cases hp : s.phase with
  | word =>
    simp only [lastChange, hp] at h
    split at h <;> cases h
    exact ⟨rfl, rfl⟩
  | value =>
    simp only [lastChange, hp] at h
    split at h <;> cases h
  | quoted | escaped | settled => simp [lastChange, hp] at h

end Scanner

end HttpAuth
