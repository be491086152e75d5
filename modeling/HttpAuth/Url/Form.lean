import HttpAuth.Url.Percent

namespace HttpAuth.Form

/-- What stands for itself. A blank is written as a plus sign, all else is percent-encoded. -/
def isPlain (b : UInt8) : Bool :=
  Ascii.isAlphanum b || b = 0x2A || b = 0x2D || b = 0x2E || b = 0x5F

def encodeByte (b : UInt8) : List Char :=
  if isPlain b then [Char.ofNat b.toNat]
  else if b = 0x20 then ['+']
  else Percent.encodeByte b

def encode (s : String) : List Char := (Utf8.encode s).flatMap encodeByte

def pair (p : String × String) : List Char := encode p.1 ++ '=' :: encode p.2

/-- Adds pairs to a query, each behind an ampersand unless nothing stands before it. -/
def append (query : List Char) : List (String × String) → List Char
  | [] => query
  | p :: rest => append (query ++ (if query.isEmpty then [] else ['&']) ++ pair p) rest

end HttpAuth.Form
