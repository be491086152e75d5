import HttpAuth.Http.Status
import HttpAuth.Http.Uri
import HttpAuth.Name

namespace HttpAuth

/-- A method is a token and keeps its case. -/
structure Method where
  text : String
deriving DecidableEq, Repr

namespace Method

def get : Method := ⟨"GET"⟩

def isTokenChar (c : Char) : Bool :=
  c.isAlphanum ||
    c ∈ ['!', '#', '$', '%', '&', '\'', '*', '+', '-', '.', '^', '_', Char.ofNat 0x60, '|', '~']

def parse? (s : String) : Option Method :=
  if !s.isEmpty && s.toList.all isTokenChar then some ⟨s⟩ else none

end Method

/-- A sensitive value should not be shown to a reader of a log. -/
structure Header where
  name : Name
  value : List UInt8
  sensitive : Bool := false
deriving DecidableEq, Repr

namespace Header

/-- Control bytes other than the tab cannot be sent. -/
def isValueByte (b : UInt8) : Bool := (0x20 ≤ b && b ≠ 0x7F) || b = 0x09

def isValue (bytes : List UInt8) : Bool := bytes.all isValueByte

def authorization : Name := .ofText "authorization"

def wwwAuthenticate : Name := .ofText "www-authenticate"

def accept : Name := .ofText "accept"

end Header

/-- Header fields in the order in which they were added. -/
abbrev Headers := List Header

namespace Headers

/-- All values of a name, in order. -/
def values (headers : Headers) (name : Name) : List (List UInt8) :=
  (headers.filter (·.name = name)).map Header.value

/-- Makes `h` the only field of its name. -/
def put (headers : Headers) (h : Header) : Headers :=
  headers.filter (·.name ≠ h.name) ++ [h]

end Headers

structure Request where
  method : Method := .get
  uri : Uri
  headers : Headers := []
  body : List UInt8 := []
deriving DecidableEq, Repr

structure Response where
  status : Status
  headers : Headers := []
  body : List UInt8 := []
deriving DecidableEq, Repr

end HttpAuth
