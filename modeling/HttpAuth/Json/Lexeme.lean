import HttpAuth.Text.Ascii
import HttpAuth.Text.Utf8

namespace HttpAuth.Json

/-- An unquoted string is kept as text if it is one: it may hold half a surrogate pair or bytes that are no
UTF-8. Of a number only the value of an integer is kept; minus zero is no integer. -/
inductive Lexeme where
  | beginObject
  | endObject
  | beginArray
  | endArray
  | comma
  | colon
  | null
  | bool (b : Bool)
  | number (integer? : Option Int)
  | string (text? : Option String)
deriving DecidableEq, Repr

/-- What a string is made of: bytes as they are, and UTF-16 units behind `\u`. -/
inductive Piece where
  | byte (b : UInt8)
  | unit (n : Nat)
deriving DecidableEq, Repr

namespace Piece

def isHigh (n : Nat) : Bool := 0xD800 ≤ n && n ≤ 0xDBFF

def isLow (n : Nat) : Bool := 0xDC00 ≤ n && n ≤ 0xDFFF

/-- The bytes of the string, unless a surrogate stands alone. -/
def bytes? : List Piece → Option (List UInt8)
  | [] => some []
  | byte b :: rest => (bytes? rest).map (b :: ·)
  | [unit n] => if isHigh n || isLow n then none else some (Utf8.encodeChar (Char.ofNat n))
  | unit n :: unit m :: rest =>
    if isHigh n then
      if isLow m then
        (bytes? rest).map
          (Utf8.encodeChar (Char.ofNat (0x10000 + (n - 0xD800) * 0x400 + (m - 0xDC00))) ++ ·)
      else none
    else if isLow n then none
    else (bytes? (unit m :: rest)).map (Utf8.encodeChar (Char.ofNat n) ++ ·)
  | unit n :: byte b :: rest =>
    if isHigh n || isLow n then none
    else (bytes? (byte b :: rest)).map (Utf8.encodeChar (Char.ofNat n) ++ ·)

def text? (pieces : List Piece) : Option String := (bytes? pieces).bind Utf8.decode?

end Piece

def isBlank (b : UInt8) : Bool := b = 0x20 || b = 0x09 || b = 0x0A || b = 0x0D

def hexUnit? (digits : List UInt8) : Option Nat :=
  Ascii.number? 16 (digits.map fun b => Char.ofNat b.toNat)

/-- The byte that a one-letter escape stands for. -/
def escaped? (b : UInt8) : Option UInt8 :=
  match Char.ofNat b.toNat with
  | '"' => some 0x22
  | '\\' => some 0x5C
  | '/' => some 0x2F
  | 'b' => some 0x08
  | 'f' => some 0x0C
  | 'n' => some 0x0A
  | 'r' => some 0x0D
  | 't' => some 0x09
  | _ => none

/-- Reads a string behind its opening quote. The pieces found so far come latest first. -/
def readString (found : List Piece) : List UInt8 → Option (List Piece × List UInt8)
  | [] => none
  | 0x22 :: rest => some (found.reverse, rest)
  | 0x5C :: 0x75 :: a :: b :: c :: d :: rest =>
    match hexUnit? [a, b, c, d] with
    | some n => readString (.unit n :: found) rest
    | none => none
  | 0x5C :: e :: rest =>
    match escaped? e with
    | some b => readString (.byte b :: found) rest
    | none => none
  | b :: rest => if b < 0x20 || b = 0x5C then none else readString (.byte b :: found) rest

def digitsOf (bytes : List UInt8) : List UInt8 × List UInt8 :=
  (bytes.takeWhile Ascii.isDigit, bytes.dropWhile Ascii.isDigit)

/-- Digits without zeros in front, and what follows them. -/
def readWhole? (bytes : List UInt8) : Option (Nat × List UInt8) :=
  match digitsOf bytes with
  | ([], _) => none
  | (0x30 :: _ :: _, _) => none
  | (digits, rest) =>
    (Ascii.number? 10 (digits.map fun b => Char.ofNat b.toNat)).map fun n => (n, rest)

/-- What follows a fraction, if there is one; `none` if it has no digit. -/
def skipFraction? (bytes : List UInt8) : Option (Bool × List UInt8) :=
  match bytes with
  | 0x2E :: rest =>
    let (digits, after) := digitsOf rest
    if digits.isEmpty then none else some (true, after)
  | _ => some (false, bytes)

def skipExponent? (bytes : List UInt8) : Option (Bool × List UInt8) :=
  match bytes with
  | e :: rest =>
    if e = 0x65 || e = 0x45 then
      let unsigned := match rest with
        | s :: after => if s = 0x2B || s = 0x2D then after else rest
        | [] => []
      let (digits, after) := digitsOf unsigned
      if digits.isEmpty then none else some (true, after)
    else some (false, bytes)
  | [] => some (false, [])

def readNumber? (bytes : List UInt8) : Option (Lexeme × List UInt8) := do
  let negative := bytes.head? = some 0x2D
  let (whole, afterWhole) ← readWhole? (if negative then bytes.drop 1 else bytes)
  let (fraction, afterFraction) ← skipFraction? afterWhole
  let (exponent, rest) ← skipExponent? afterFraction
  let integer? : Option Int :=
    if fraction || exponent || (negative && whole = 0) then none
    else if negative then some (-whole)
    else some whole
  some (.number integer?, rest)

/-- Reads the lexeme at the head of `b :: rest`. -/
def readLexeme? (b : UInt8) (rest : List UInt8) : Option (Lexeme × List UInt8) :=
  match Char.ofNat b.toNat, rest with
  | '\x7b', _ => some (.beginObject, rest)
  | '\x7d', _ => some (.endObject, rest)
  | '[', _ => some (.beginArray, rest)
  | ']', _ => some (.endArray, rest)
  | ',', _ => some (.comma, rest)
  | ':', _ => some (.colon, rest)
  | '"', _ => (readString [] rest).map fun (pieces, after) => (.string (Piece.text? pieces), after)
  | 'n', 0x75 :: 0x6C :: 0x6C :: after => some (.null, after)
  | 't', 0x72 :: 0x75 :: 0x65 :: after => some (.bool true, after)
  | 'f', 0x61 :: 0x6C :: 0x73 :: 0x65 :: after => some (.bool false, after)
  | _, _ => readNumber? (b :: rest)

/-- The lexemes of a text, found within `fuel` bytes; those found so far come latest first. -/
def lexemesWithin : (fuel : Nat) → (found : List Lexeme) → List UInt8 → Option (List Lexeme)
  | _, found, [] => some found.reverse
  | 0, _, _ :: _ => none
  | fuel + 1, found, b :: rest =>
    if isBlank b then lexemesWithin fuel found rest
    else match readLexeme? b rest with
      | none => none
      | some (lexeme, after) => lexemesWithin fuel (lexeme :: found) after

/-- Every lexeme takes at least one byte, so the length of the text is fuel enough. -/
def lexemes? (bytes : List UInt8) : Option (List Lexeme) := lexemesWithin bytes.length [] bytes

end HttpAuth.Json
