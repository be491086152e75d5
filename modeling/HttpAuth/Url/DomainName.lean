import HttpAuth.Text.Direction
import HttpAuth.Text.Joining
import HttpAuth.Text.Normal
import HttpAuth.Url.DomainTable
import HttpAuth.Url.Punycode

namespace HttpAuth.DomainName

open Text (Direction direction inRanges valueAt)

/-- ASCII characters that no domain name has. -/
def isForbidden (c : Char) : Bool :=
  c.toNat ≤ 0x20 || c.toNat = 0x7F ||
    c ∈ ['%', '#', '/', ':', '<', '>', '?', '@', '[', '\\', ']', '^', '|']

def isAscii (label : List Char) : Bool := label.all (·.toNat < 0x80)

/-- Whether a character may stand in a folded label. -/
def isPlain (c : Char) : Bool := inRanges plainRanges c.toNat

/-- What a character becomes, or none if it may not stand in a domain name. -/
def fold? (c : Char) : Option (List Char) :=
  let n := c.toNat
  if n < 0x80 then some [c.toLower]
  else if isPlain c then some [c]
  else if inRanges ignoredRanges n then some []
  else match shiftedRuns.find? fun (first, last, step, _) => first ≤ n && n ≤ last && (n - first) % step = 0 with
    | some (first, _, _, target) => some [Char.ofNat (target + (n - first))]
    | none =>
      match valueAt folded n, valueAt foldedToMany n with
      | some m, _ => some [Char.ofNat m]
      | none, some codes => some (codes.map Char.ofNat)
      | none, none => if Text.normal [c] = [c] then none else some [c]

def foldAll? (name : List Char) : Option (List Char) :=
  (name.mapM fold?).map fun parts => Text.normal parts.flatten

/-- The class of marks that make a consonant end without a vowel. -/
def viramaClass : Nat := 9

def nonJoiner : Char := '\u200C'

def joiner : Char := '\u200D'

def joinsAfter (n : Nat) : Bool := inRanges Text.joinsBoth n || inRanges Text.joinsFollowing n

def joinsBefore (n : Nat) : Bool := inRanges Text.joinsBoth n || inRanges Text.joinsPreceding n

/-- The first character that joining does not pass over joins. -/
def meetsJoining (joins : Nat → Bool) (cs : List Char) : Bool :=
  match cs.dropWhile fun c => inRanges Text.joinsThrough c.toNat with
  | c :: _ => joins c.toNat
  | [] => false

/-- An invisible joiner may stand behind a virama only, and an invisible non-joiner there or between letters
that would join. `before` holds the characters in front, latest first. -/
def joinersFit (before : List Char) : List Char → Bool
  | [] => true
  | c :: rest =>
    let afterVirama := match before with
      | b :: _ => Text.classOf b.toNat = viramaClass
      | [] => false
    let fits :=
      if c = joiner then afterVirama
      else if c = nonJoiner then
        afterVirama || (meetsJoining joinsAfter before && meetsJoining joinsBefore rest)
      else true
    fits && joinersFit (c :: before) rest

/-- Whether a label with characters beyond ASCII is one that folding may yield. -/
def isLabel (label : List Char) : Bool :=
  Text.normal label = label && label.all isPlain &&
    (match label with
      | c :: _ => !inRanges Text.combiningMarks c.toNat
      | [] => false) &&
    joinersFit [] label

def acePrefix : List Char := "xn--".toList

/-- The most characters of a label that are written in ASCII. -/
def maxEncoded : Nat := 1000

/-- The most characters that a label may have behind the prefix. -/
def maxDecoded : Nat := 2000

/-- A label that stands in ASCII form is taken back to its own. -/
def plainLabel? (label : List Char) : Option (List Char) :=
  if label.take 4 = acePrefix then do
    let rest := label.drop 4
    let decoded ← if rest.length ≤ maxDecoded then Punycode.decode? rest else none
    if isAscii decoded || decoded.take 4 = acePrefix || !isLabel decoded then none else some decoded
  else if isAscii label || isLabel label then some label
  else none

def asciiLabel? (label : List Char) : Option (List Char) :=
  if isAscii label then some label
  else if label.length ≤ maxEncoded then some (acePrefix ++ Punycode.encode label)
  else none

def directions (label : List Char) : List Direction := label.map (direction ·.toNat)

def hasRightToLeft (label : List Char) : Bool :=
  !isAscii label && (directions label).any fun d => d = .rightToLeft || d = .arabicNumber

/-- Without the marks at its end. -/
def lastDirection (ds : List Direction) : Option Direction :=
  (ds.reverse.dropWhile (· = .mark)).head?

/-- Whether the characters of a label stay in order when it stands among text of the other direction. -/
def keepsOrder (label : List Char) : Bool :=
  let ds := directions label
  match ds.head? with
  | none => true
  | some .rightToLeft =>
    ds.all (fun d => d ≠ .leftToRight && d ≠ .blank) &&
      lastDirection ds ∈ [some .rightToLeft, some .number, some .arabicNumber] &&
      !(ds.contains .number && ds.contains .arabicNumber)
  | some .leftToRight =>
    ds.all (fun d => d = .leftToRight || d = .number || d = .neutral || d = .mark) &&
      lastDirection ds ∈ [some .leftToRight, some .number]
  | some _ => false

/-- The name in ASCII, if it is a domain name. -/
def toAscii? (name : List Char) : Option (List Char) := do
  let folded ← foldAll? name
  let labels ← (folded.splitOn '.').mapM plainLabel?
  let ascii := ['.'].intercalate (← labels.mapM asciiLabel?)
  if ascii.any isForbidden || (labels.any hasRightToLeft && !labels.all keepsOrder) then none
  else some ascii

end HttpAuth.DomainName
