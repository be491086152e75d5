import HttpAuth.Challenge.Basic
import HttpAuth.Challenge.ParseError

namespace HttpAuth

/-- Where in a header value the scanner stands. A word followed by a blank is a scheme, and one followed by `=`
is the key of a parameter of the challenge opened last. Values are alphanumeric, or quoted with `\` as escape.
Commas stand between parameters only. -/
inductive Phase where
  /-- Before or inside a word, which is a scheme or a key. -/
  | word
  /-- After `=`, before or inside an unquoted value. -/
  | value
  /-- Inside a quoted value. -/
  | quoted
  /-- After the escape character of a quoted value. -/
  | escaped
  /-- After a value that has ended. -/
  | settled
deriving DecidableEq, Repr

/-- The challenge opened last is the first of `opened`. -/
structure Scanner where
  phase : Phase := .word
  word : Array UInt8 := #[]
  key : Array UInt8 := #[]
  value : Array UInt8 := #[]
  afterComma : Bool := false
  opened : List Challenge := []
deriving DecidableEq

namespace Scanner

def textOf (bytes : Array UInt8) : String := Utf8.decodeLossy bytes.toList

/-- Opens a challenge with the word as its scheme. -/
def beginChallenge (s : Scanner) : Scanner :=
  { s with
    word := #[]
    afterComma := false
    opened := .ofScheme (textOf s.word) :: s.opened }

/-- Gives the parameter that has been read to the challenge opened last. -/
def assign (s : Scanner) : Scanner :=
  { s with
    key := #[]
    value := #[]
    opened := match s.opened with
      | [] => []
      | c :: rest => c.set (textOf s.key) (textOf s.value) :: rest }

def equals : UInt8 := 0x3D

def comma : UInt8 := 0x2C

def quote : UInt8 := 0x22

def backslash : UInt8 := 0x5C

/-- Takes one byte, or refuses it. -/
def step (s : Scanner) (b : UInt8) : Option Scanner :=
  match s.phase with
  | .word =>
    if Ascii.isAlphanum b then some { s with word := s.word.push b }
    else if Ascii.isSpace b then
      if s.word.isEmpty then some s else some s.beginChallenge
    else if b = equals ∧ ¬ s.word.isEmpty ∧ ¬ s.opened.isEmpty then
      some { s with phase := .value, key := s.word, word := #[], afterComma := false }
    else none
  | .value =>
    if Ascii.isAlphanum b then some { s with value := s.value.push b }
    else if b = quote ∧ s.value.isEmpty then some { s with phase := .quoted }
    else if b = comma then some { s.assign with phase := .word, afterComma := true }
    else if Ascii.isSpace b then some { s.assign with phase := .settled }
    else none
  | .quoted =>
    if b = quote then some { s.assign with phase := .settled }
    else if b = backslash then some { s with phase := .escaped }
    else some { s with value := s.value.push b }
  | .escaped => some { s with phase := .quoted, value := s.value.push b }
  | .settled =>
    if Ascii.isSpace b then some s
    else if b = comma then some { s with phase := .word, afterComma := true }
    else none

/-- Takes bytes up to the first that is refused, and returns that one and the bytes after it. -/
def feed (s : Scanner) : List UInt8 → Except (UInt8 × List UInt8) Scanner
  | [] => .ok s
  | b :: rest =>
    match s.step b with
    | none => .error (b, rest)
    | some t => t.feed rest

/-- The challenges at the end of the value, oldest first, or none inside a quoted string. A word at the end
is a scheme if it is the first or follows a comma; elsewhere it is taken for credentials and dropped, and
so is a key without a value. -/
def finish (s : Scanner) : Option (List Challenge) :=
  match s.phase with
  | .word =>
    if ¬ s.word.isEmpty ∧ (s.opened.isEmpty ∨ s.afterComma) then some s.beginChallenge.opened.reverse
    else some s.opened.reverse
  | .value => if s.value.isEmpty then some s.opened.reverse else some s.assign.opened.reverse
  | .quoted | .escaped => none
  | .settled => some s.opened.reverse

end Scanner

namespace Challenge

/-- Reads one header value. Faults of the grammar come before faults of the encoding. -/
def parse (bytes : List UInt8) : Except ParseError (List Challenge) :=
  let fault (f : Fault) (offset : Nat) : ParseError := ⟨f, Utf8.decodeLossy bytes, offset⟩
  match Scanner.feed {} bytes with
  | .error (b, rest) => .error (fault (.unexpectedByte b) (bytes.length - (rest.length + 1)))
  | .ok s =>
    match s.finish with
    | none => .error (fault .unterminatedQuote bytes.length)
    | some challenges =>
      if Utf8.isValid bytes then .ok challenges
      else .error (fault .invalidUtf8 (Utf8.validLength bytes))

/-- Reads every value in order; the first that fails decides. -/
def parseAll : List (List UInt8) → Except ParseError (List Challenge)
  | [] => .ok []
  | bytes :: rest => do
    let first ← parse bytes
    let others ← parseAll rest
    return first ++ others

end Challenge

end HttpAuth
