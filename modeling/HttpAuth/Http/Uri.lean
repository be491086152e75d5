import HttpAuth.Text.Ascii
import HttpAuth.Text.Utf8

namespace HttpAuth

/-- An absolute URI, an authority alone, or a path alone. The parts are kept as they were written, except that a
fragment is dropped. -/
structure Uri where
  scheme? : Option String := none
  authority? : Option String := none
  path : String := ""
  query? : Option String := none
deriving DecidableEq, Repr, Inhabited

namespace Uri

/-- Longer texts are refused. The length counts bytes. -/
def maxLength : Nat := 65534

def maxSchemeLength : Nat := 64

def isSchemeChar (c : Char) : Bool := c.isAlphanum || c ∈ ['+', '-', '.', '~']

def isAuthorityChar (c : Char) : Bool :=
  c.isAlphanum ||
    c ∈ ['!', '$', '&', '\'', '(', ')', '*', '+', ',', '-', '.', ';', '=', '_', '~']

/-- All visible characters but `#`, `<`, `>`, `?` and the backquote, and everything beyond ASCII. -/
def isPathChar (c : Char) : Bool :=
  0x21 ≤ c.toNat && c ≠ '#' && c ≠ '<' && c ≠ '>' && c ≠ '?' && c.toNat ≠ 0x60

/-- All visible characters but the double quote, `#`, `<` and `>`, and everything beyond ASCII. -/
def isQueryChar (c : Char) : Bool :=
  0x21 ≤ c.toNat && c ≠ '"' && c ≠ '#' && c ≠ '<' && c ≠ '>'

/-- Splits off a scheme with the `://` behind it. The two common schemes are put in lower case. -/
def splitScheme (cs : List Char) : Option String × List Char :=
  if Ascii.sameLetters (cs.take 7) "http://".toList then (some "http", cs.drop 7)
  else if Ascii.sameLetters (cs.take 8) "https://".toList then (some "https", cs.drop 8)
  else
    let name := cs.takeWhile isSchemeChar
    match cs.dropWhile isSchemeChar with
    | ':' :: '/' :: '/' :: rest =>
      if name.length ≤ maxSchemeLength then (some (String.ofList name), rest) else (none, cs)
    | _ => (none, cs)

/-- What has been seen of an authority since its start, or since user info or a bracketed host ended. -/
structure AuthorityScan where
  colons : Nat := 0
  opened : Bool := false
  closed : Bool := false
  percent : Bool := false
deriving DecidableEq, Repr

namespace AuthorityScan

def maxColons : Nat := 8

def step (s : AuthorityScan) (c : Char) : Option AuthorityScan :=
  match c with
  | ':' => if s.colons < maxColons then some { s with colons := s.colons + 1 } else none
  | '[' => if s.percent || s.opened then none else some { s with opened := true }
  | ']' =>
    if s.opened && !s.closed then some { s with closed := true, colons := 0, percent := false }
    else none
  | '@' => some { s with colons := 0, percent := false }
  | '%' => some { s with percent := true }
  | c => if isAuthorityChar c then some s else none

/-- At most a port is left after host and user info; percent signs belong to user info or brackets. -/
def isComplete (s : AuthorityScan) : Bool := s.opened == s.closed && s.colons ≤ 1 && !s.percent

end AuthorityScan

def isAuthority (cs : List Char) : Bool :=
  match cs.foldlM AuthorityScan.step {} with
  | none => false
  | some s => s.isComplete && cs.getLast? ≠ some '@'

def endsAuthority (c : Char) : Bool := c = '/' || c = '?' || c = '#'

/-- A path with the query behind it. -/
def parsePath? (cs : List Char) : Option (String × Option String) :=
  let path := cs.takeWhile fun c => c ≠ '?' && c ≠ '#'
  if path.all isPathChar then
    match cs.dropWhile fun c => c ≠ '?' && c ≠ '#' with
    | '?' :: rest =>
      let query := rest.takeWhile (· ≠ '#')
      if query.all isQueryChar then some (String.ofList path, some (String.ofList query)) else none
    | _ => some (String.ofList path, none)
  else none

def parse? (s : String) : Option Uri :=
  let cs := s.toList
  if s.utf8ByteSize > maxLength then none
  else match cs with
    | [] => none
    | ['*'] => some { path := "*" }
    | '/' :: _ => (parsePath? cs).map fun (path, query) => { path := path, query? := query }
    | _ =>
      let (scheme, afterScheme) := splitScheme cs
      let authority := afterScheme.takeWhile (!endsAuthority ·)
      let rest := afterScheme.dropWhile (!endsAuthority ·)
      if authority.isEmpty || !isAuthority authority then none
      else match scheme with
        | none => if rest.isEmpty then some { authority? := some (String.ofList authority) } else none
        | some _ =>
          (parsePath? rest).map fun (path, query) =>
            { scheme? := scheme, authority? := some (String.ofList authority), path := path,
              query? := query }

/-- The path as printed: an absolute URI has one. -/
def printedPath (u : Uri) : String :=
  if u.path.isEmpty && (u.scheme?.isSome || u.query?.isSome) then "/" else u.path

def text (u : Uri) : String :=
  (match u.scheme? with
    | some scheme => scheme ++ "://"
    | none => "") ++
  u.authority?.getD "" ++ u.printedPath ++
  (match u.query? with
    | some query => "?" ++ query
    | none => "")

/-- What follows the last `c`, or all if there is none. -/
def afterLast (c : Char) (cs : List Char) : List Char := (cs.reverse.takeWhile (· ≠ c)).reverse

/-- Without user info and port. An address in brackets keeps them. -/
def hostOf (authority : List Char) : List Char :=
  match afterLast '@' authority with
  | '[' :: rest => '[' :: rest.takeWhile (· ≠ ']') ++ [']']
  | hostPort => hostPort.takeWhile (· ≠ ':')

def maxPort : Nat := 65535

/-- Decimal digits behind the last colon, perhaps after a plus sign. Any other text is no port. -/
def portOf? (authority : List Char) : Option Nat :=
  if ':' ∈ authority then
    let digits := match afterLast ':' authority with
      | '+' :: rest => rest
      | all => all
    if digits.isEmpty then none else (Ascii.number? 10 digits).filter (· ≤ maxPort)
  else none

def host? (u : Uri) : Option String :=
  u.authority?.map fun a => String.ofList (hostOf a.toList)

def port? (u : Uri) : Option Nat := u.authority?.bind fun a => portOf? a.toList

/-- The host with its port, under which everything learned about a server is kept. -/
def hostKey? (u : Uri) : Option String :=
  u.host?.map fun host =>
    match u.port? with
    | some port => host ++ ":" ++ toString port
    | none => host

end Uri

end HttpAuth
