import HttpAuth.Text.Ascii
import HttpAuth.Text.Utf8

namespace HttpAuth

inductive Fault where
  /-- A byte that may not stand at its place. -/
  | unexpectedByte (b : UInt8)
  /-- The value ends inside a quoted string. -/
  | unterminatedQuote
  | invalidUtf8
deriving DecidableEq, Repr

/-- `offset` counts bytes of the value as received; `header` is the value read leniently. -/
structure ParseError where
  fault : Fault
  header : String
  offset : Nat
deriving DecidableEq, Repr

namespace ParseError

def describe (e : ParseError) : String :=
  match e.fault with
  | .unexpectedByte b =>
    if Ascii.isGraphic b then
      "unexpected '" ++ (Char.ofNat b.toNat).toString ++ "' at byte " ++ toString e.offset
    else
      "unexpected byte 0x" ++ (if b < 0x10 then "0" else "") ++ Ascii.hex b.toNat ++
        " at byte " ++ toString e.offset
  | .unterminatedQuote => "unterminated quoted string"
  | .invalidUtf8 => "invalid UTF-8 at byte " ++ toString e.offset

def message (e : ParseError) : String := "failed to parse challenge header: " ++ e.describe

def code : String := "regauth::parse_failure"

/-- How many bytes to point at: the end of the value is a place without a byte. -/
def width (e : ParseError) : Nat :=
  match e.fault with
  | .unterminatedQuote => 0
  | _ => 1

/-- What stands at the place that is pointed at. -/
def label : String := "here"

end ParseError

end HttpAuth
