import HttpAuth.Proofs.Grammar

namespace HttpAuth

open Scanner (equals comma quote backslash)

/-- The places a scanner can reach, each with just the data that matters there. `opened` is as in a scanner: the
challenge opened last comes first. -/
inductive Place where
  | word (letters : List UInt8) (afterComma : Bool) (opened : List Challenge)
  | value (key letters : List UInt8) (opened : List Challenge)
  | quoted (key content : List UInt8) (opened : List Challenge)
  | escaped (key content : List UInt8) (opened : List Challenge)
  | settled (opened : List Challenge)

namespace Place

def start : Place := word [] false []

def scanner : Place → Scanner
  | word letters afterComma opened =>
    { word := letters.toArray, afterComma := afterComma, opened := opened }
  | value key letters opened =>
    { phase := .value, key := key.toArray, value := letters.toArray, opened := opened }
  | quoted key content opened =>
    { phase := .quoted, key := key.toArray, value := content.toArray, opened := opened }
  | escaped key content opened =>
    { phase := .escaped, key := key.toArray, value := content.toArray, opened := opened }
  | settled opened => { phase := .settled, opened := opened }

def openWith (letters : List UInt8) (opened : List Challenge) : List Challenge :=
  .ofScheme (Utf8.decodeLossy letters) :: opened

def assignTo (key content : List UInt8) (opened : List Challenge) : List Challenge :=
  Grammar.assign (Utf8.decodeLossy key) (Utf8.decodeLossy content) opened

def step : Place → UInt8 → Option Place
  | word letters afterComma opened, b =>
    if Ascii.isAlphanum b then some (word (letters ++ [b]) afterComma opened)
    else if Ascii.isSpace b then
      if letters = [] then some (word [] afterComma opened)
      else some (word [] false (openWith letters opened))
    else if b = equals ∧ letters ≠ [] ∧ opened ≠ [] then some (value letters [] opened)
    else none
  | value key letters opened, b =>
    if Ascii.isAlphanum b then some (value key (letters ++ [b]) opened)
    else if b = quote ∧ letters = [] then some (quoted key [] opened)
    else if b = comma then some (word [] true (assignTo key letters opened))
    else if Ascii.isSpace b then some (settled (assignTo key letters opened))
    else none
  | quoted key content opened, b =>
    if b = quote then some (settled (assignTo key content opened))
    else if b = backslash then some (escaped key content opened)
    else some (quoted key (content ++ [b]) opened)
  | escaped key content opened, b => some (quoted key (content ++ [b]) opened)
  | settled opened, b =>
    if Ascii.isSpace b then some (settled opened)
    else if b = comma then some (word [] true opened)
    else none

def feed (p : Place) : List UInt8 → Except (UInt8 × List UInt8) Place
  | [] => .ok p
  | b :: rest =>
    match p.step b with
    | none => .error (b, rest)
    | some q => q.feed rest

def finish : Place → Option (List Challenge)
  | word letters afterComma opened =>
    if letters ≠ [] ∧ (opened = [] ∨ afterComma) then some (openWith letters opened).reverse
    else some opened.reverse
  | value key letters opened =>
    if letters = [] then some opened.reverse else some (assignTo key letters opened).reverse
  | quoted .. | escaped .. => none
  | settled opened => some opened.reverse

theorem assign_scanner (key content : List UInt8) (opened : List Challenge) (phase : Phase)
    (word : Array UInt8) (afterComma : Bool) :
    Scanner.assign ⟨phase, word, key.toArray, content.toArray, afterComma, opened⟩ =
      ⟨phase, word, #[], #[], afterComma, assignTo key content opened⟩ := by
  cases opened <;> rfl

/-- The scanner walks from place to place. -/
theorem step_scanner (p : Place) (b : UInt8) : p.scanner.step b = (p.step b).map scanner := by
  cases p with
  | word letters afterComma opened =>
    simp only [scanner, Scanner.step, step, List.push_toArray, List.isEmpty_toArray,
      List.isEmpty_iff, apply_ite (Option.map scanner), Option.map_some, Option.map_none]
    by_cases hl : letters = []
    · simp only [hl, ne_eq, not_true_eq_false, false_and, and_false, ↓reduceIte]
    · simp only [hl, ne_eq]
      rfl
  | value key letters opened =>
    simp only [scanner, Scanner.step, step, List.push_toArray, List.isEmpty_toArray,
      List.isEmpty_iff, apply_ite (Option.map scanner), Option.map_some, Option.map_none,
      assign_scanner]
    by_cases hl : letters = []
    · simp only [hl]
    · simp only [hl, and_false, ↓reduceIte]
  | quoted key content opened =>
    simp only [scanner, Scanner.step, step, List.push_toArray, apply_ite (Option.map scanner),
      Option.map_some, assign_scanner]
  | escaped key content opened =>
    simp only [scanner, Scanner.step, step, List.push_toArray, Option.map_some]
  | settled opened =>
    simp only [scanner, Scanner.step, step, apply_ite (Option.map scanner), Option.map_some,
      Option.map_none]

theorem feed_scanner (p : Place) (bytes : List UInt8) :
    p.scanner.feed bytes = (p.feed bytes).map scanner := by
  induction bytes generalizing p with
  | nil => rfl
  | cons b rest ih =>
    rw [Scanner.feed, step_scanner, feed]
    cases p.step b with
    | none => rfl
    | some q => exact ih q

theorem finish_scanner (p : Place) : p.scanner.finish = p.finish := by
  cases p with
  | word letters afterComma opened =>
    simp [scanner, Scanner.finish, finish, Scanner.beginChallenge, openWith, Scanner.textOf]
  | value key letters opened =>
    simp [scanner, Scanner.finish, finish, assign_scanner]
  | quoted => rfl
  | escaped => rfl
  | settled => rfl

theorem feed_append {p q : Place} {xs : List UInt8} (h : p.feed xs = .ok q) (ys : List UInt8) :
    p.feed (xs ++ ys) = q.feed ys := by
  induction xs generalizing p with
  | nil =>
    cases h
    rfl
  | cons b xs ih =>
    rw [List.cons_append, feed]
    rw [feed] at h
    cases hs : p.step b with
    | none => simp [hs] at h
    | some r =>
      rw [hs] at h
      exact ih h

theorem feed_cons {p q : Place} {b : UInt8} (h : p.step b = some q) (rest : List UInt8) :
    p.feed (b :: rest) = q.feed rest := by
  rw [feed, h]

end Place

/-- Reading succeeds if the walk ends where a value may end and the bytes are valid. -/
theorem Challenge.parse_eq_ok_iff {bytes : List UInt8} {cs : List Challenge} :
    parse bytes = .ok cs ↔
      Utf8.isValid bytes = true ∧ ∃ p, Place.start.feed bytes = .ok p ∧ p.finish = some cs := by
  have hf : Scanner.feed {} bytes = (Place.start.feed bytes).map Place.scanner :=
    Place.feed_scanner Place.start bytes
  unfold parse
  simp only [hf]
  cases Place.start.feed bytes with
  | error e => simp [Except.map]
  | ok p =>
    simp only [Except.map, Place.finish_scanner, Except.ok.injEq, exists_eq_left']
    cases p.finish with
    | none => simp
    | some ds =>
      simp only [Option.some.injEq]
      split
      · next hv => simp [hv]
      · next hv => simp [hv]

end HttpAuth
