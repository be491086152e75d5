import HttpAuth.Url.Basic
import HttpAuth.Url.Host

namespace HttpAuth.Url

inductive SchemeKind where
  | file
  /-- A scheme whose URLs always have a host. -/
  | special
  | other
deriving DecidableEq, Repr

namespace SchemeKind

def ofScheme (scheme : String) : SchemeKind :=
  if scheme = "file" then .file
  else if scheme ∈ ["http", "https", "ws", "wss", "ftp"] then .special
  else .other

/-- Backslashes count as slashes. -/
def foldsBackslash (k : SchemeKind) : Bool := k ≠ .other

def isSlash (k : SchemeKind) (c : Char) : Bool := c = '/' || (c = '\\' && k.foldsBackslash)

def endsAuthority (k : SchemeKind) (c : Char) : Bool := k.isSlash c || c = '?' || c = '#'

end SchemeKind

def defaultPort? (scheme : String) : Option Nat :=
  match scheme with
  | "http" | "ws" => some 80
  | "https" | "wss" => some 443
  | "ftp" => some 21
  | _ => none

def isBlankOrControl (c : Char) : Bool := c.toNat ≤ 0x20

def isLineBreak (c : Char) : Bool := c = '\t' || c = '\n' || c = '\r'

/-- The text that counts. -/
def cleaned (s : String) : List Char :=
  let front := s.toList.dropWhile isBlankOrControl
  ((front.reverse.dropWhile isBlankOrControl).reverse).filter (!isLineBreak ·)

def isSchemeChar (c : Char) : Bool := c.isAlphanum || c ∈ ['+', '-', '.']

/-- The scheme in lower case, and what follows its colon. -/
def splitScheme? (cs : List Char) : Option (String × List Char) :=
  match cs with
  | c :: _ =>
    if c.isAlpha then
      match cs.dropWhile isSchemeChar with
      | ':' :: rest => some (String.ofList ((cs.takeWhile isSchemeChar).map Char.toLower), rest)
      | _ => none
    else none
  | [] => none

/-- What stands before and after the last `@` of an authority. -/
def splitUserInfo (authority : List Char) : Option (List Char) × List Char :=
  if '@' ∈ authority then
    let host := (authority.reverse.takeWhile (· ≠ '@')).reverse
    (some (authority.take (authority.length - host.length - 1)), host)
  else (none, authority)

/-- A colon in brackets belongs to the host. -/
def splitPort (cs : List Char) (inBrackets : Bool := false) : List Char × Option (List Char) :=
  match cs with
  | [] => ([], none)
  | c :: rest =>
    if c = ':' && !inBrackets then ([], some rest)
    else
      let (host, port) := splitPort rest (if c = '[' then true else if c = ']' then false else inBrackets)
      (c :: host, port)

def maxPort : Nat := 65535

/-- Digits up to a character that may follow an authority; the rest is returned. A port that the scheme
implies is left out. -/
def parsePort? (scheme : String) (cs : List Char) : Option (Option Nat × List Char) := do
  let digits := cs.takeWhile Char.isDigit
  let rest := cs.dropWhile Char.isDigit
  let number ← (Ascii.number? 10 digits).filter (· ≤ maxPort)
  if rest.isEmpty || rest.head? = some '\\' then
    let port := if digits.isEmpty || some number = defaultPort? scheme then none else some number
    some (port, rest)
  else none

/-- A letter with a colon or a bar, as at the front of a path on a drive. -/
def isDriveLetter (segment : List Char) : Bool :=
  match segment with
  | [letter, mark] => letter.isAlpha && (mark = ':' || mark = '|')
  | _ => false

/-- A drive at the front, with nothing or a separator behind it. -/
def startsWithDriveLetter (segment : List Char) : Bool :=
  isDriveLetter (segment.take 2) &&
    (match segment.drop 2 with
      | [] => true
      | c :: _ => c ∈ ['/', '\\', '?', '#'])

def isSingleDot (segment : List Char) : Bool :=
  String.ofList (segment.map Char.toLower) ∈ [".", "%2e"]

def isDoubleDot (segment : List Char) : Bool :=
  String.ofList (segment.map Char.toLower) ∈ ["..", ".%2e", "%2e.", "%2e%2e"]

/-- The pieces between slashes, at least one. -/
def splitSegments (k : SchemeKind) (cs : List Char) : List (List Char) := cs.splitOnP k.isSlash

/-- Goes up one directory, but not above the root nor above a drive. -/
def goUp (directories : List (List Char)) : List (List Char) :=
  match directories with
  | [] => []
  | last :: rest => if startsWithDriveLetter last then directories else rest

/-- Resolves dots. The directories above the segment come latest first; the result ends with the last
segment, which is empty if the path ends with a slash. -/
def resolve (directories : List (List Char)) : List (List Char) → List (List Char)
  | [] => directories.reverse
  | [last] =>
    if isDoubleDot last then (goUp directories).reverse ++ [[]]
    else if isSingleDot last then directories.reverse ++ [[]]
    else directories.reverse ++ [last]
  | segment :: rest =>
    if isDoubleDot segment then resolve (goUp directories) rest
    else if isSingleDot segment then resolve directories rest
    else resolve (segment :: directories) rest

def pathOfSegments (segments : List (List Char)) : String :=
  String.ofList (segments.flatMap fun s => '/' :: s)

def encodePath (cs : List Char) : List Char := cs.flatMap (Percent.encodeChar Percent.inPath)

/-- The path behind an authority, or behind the colon of a URL without one: `cs` is what follows the first
slash. -/
def parsePath (k : SchemeKind) (cs : List Char) : String :=
  pathOfSegments (resolve [] ((splitSegments k cs).map encodePath))

/-- A drive is written with a colon. -/
def normalDrive (segment : List Char) : List Char :=
  if isDriveLetter segment then segment.take 1 ++ [':'] else segment

/-- What follows a drive at the front of a path is put behind a slash. -/
def detachDrive (segment : List Char) : List Char :=
  match segment with
  | letter :: ':' :: next :: rest =>
    if letter.isAlpha then letter :: ':' :: '/' :: next :: rest else segment
  | _ => segment

/-- A path of a file URL, and whether it names a drive, which takes the place of the host. Slashes at the
front count once. -/
def parseFilePath (cs : List Char) : String × Bool :=
  let segments := (splitSegments .file cs).map encodePath
  let onDrive := segments.any isDriveLetter
  let detached := match segments.map normalDrive with
    | first :: rest => detachDrive first :: rest
    | [] => []
  let text := (pathOfSegments (resolve [] detached)).toList
  (String.ofList ('/' :: text.dropWhile (· = '/')), onDrive)

/-- What stands before the query, and query and fragment without their marks. -/
def splitTail (cs : List Char) : List Char × Option (List Char) × Option (List Char) :=
  let beforeFragment := cs.takeWhile (· ≠ '#')
  let fragment := match cs.dropWhile (· ≠ '#') with
    | _ :: rest => some rest
    | [] => none
  let front := beforeFragment.takeWhile (· ≠ '?')
  let query := match beforeFragment.dropWhile (· ≠ '?') with
    | _ :: rest => some rest
    | [] => none
  (front, query, fragment)

/-- User name and password, percent-encoded. -/
def parseUserInfo (cs : List Char) : String × String :=
  let name := cs.takeWhile (· ≠ ':')
  let password := match cs.dropWhile (· ≠ ':') with
    | _ :: rest => rest
    | [] => []
  (Percent.encode Percent.inUserInfo name, Percent.encode Percent.inUserInfo password)

/-- Reads an authority and the path behind it, both of which follow two slashes. Nothing may follow an empty
host with empty user info; `isAll` says that no query or fragment does. -/
def parseAuthority? (k : SchemeKind) (scheme : String) (isAll : Bool) (cs : List Char) : Option Url := do
  let authority := cs.takeWhile (!k.isSlash ·)
  let path := cs.dropWhile (!k.isSlash ·)
  let (userInfo?, hostPort) := splitUserInfo authority
  let (username, password) := parseUserInfo (userInfo?.getD [])
  let (hostText, portText?) := splitPort hostPort
  let ended := isAll && path.isEmpty
  if hostText.isEmpty && (portText?.isSome || k = .special || (userInfo? = some [] && !ended)) then none
  else
    let host ← if k = .special then Host.parse? hostText else Host.parseOpaque? hostText
    if host.isEmpty && !(username.isEmpty && password.isEmpty) then none
    else
      let (port?, rest) ← (portText?.map (parsePort? scheme)).getD (some (none, []))
      let pathText :=
        match rest ++ path with
        | [] => if k = .special then parsePath k [] else ""
        | c :: after => if k.isSlash c then parsePath k after else parsePath k (c :: after)
      some { scheme := scheme, username := username, password := password, host? := some host,
             port? := port?, path := pathText }

/-- Reads what follows two slashes of a file URL. -/
def parseFile? (cs : List Char) : Option Url := do
  let hostText := cs.takeWhile (!SchemeKind.file.isSlash ·)
  let path := cs.dropWhile (!SchemeKind.file.isSlash ·)
  let afterSlash (cs : List Char) : List Char :=
    match cs with
    | c :: rest => if SchemeKind.file.isSlash c then rest else c :: rest
    | [] => []
  if isDriveLetter hostText then
    some { scheme := "file", host? := some "", path := (parseFilePath cs).1 }
  else
    let host ← if hostText.isEmpty then some "" else Host.parse? hostText
    let (pathText, onDrive) := parseFilePath (afterSlash path)
    some { scheme := "file", host? := some (if host = "localhost" || onDrive then "" else host),
           path := pathText }

/-- Reads the part between scheme and query. -/
def parseBody? (scheme : String) (isAll : Bool) (cs : List Char) : Option Url :=
  let k := SchemeKind.ofScheme scheme
  match k with
  | .special => parseAuthority? k scheme isAll (cs.dropWhile k.isSlash)
  | .file =>
    match cs with
    | a :: b :: rest =>
      if k.isSlash a && k.isSlash b then parseFile? rest
      else some { scheme := scheme, host? := some "",
                  path := (parseFilePath (if k.isSlash a then b :: rest else cs)).1 }
    | _ => some { scheme := scheme, host? := some "",
                  path := (parseFilePath (cs.filter (!k.isSlash ·))).1 }
  | .other =>
    match cs with
    | '/' :: '/' :: rest => parseAuthority? k scheme isAll rest
    | '/' :: rest => some { scheme := scheme, path := parsePath k rest }
    | _ => some { scheme := scheme, path := Percent.encode Percent.isControl cs }

/-- Reads an absolute URL. Blanks around it and line breaks within it are ignored. -/
def parse? (s : String) : Option Url := do
  let (scheme, afterScheme) ← splitScheme? (cleaned s)
  let (body, query?, fragment?) := splitTail afterScheme
  let url ← parseBody? scheme (query?.isNone && fragment?.isNone) body
  let inQuery := if SchemeKind.ofScheme scheme = .other then Percent.inQuery else Percent.inSpecialQuery
  some { url with
    query? := query?.map (Percent.encode inQuery)
    fragment? := fragment?.map (Percent.encode Percent.inFragment) }

end HttpAuth.Url
