import HttpAuth.Text.CombiningClass
import HttpAuth.Text.Decomposition

namespace HttpAuth.Text

namespace Hangul

def firstSyllable : Nat := 0xAC00

def firstLead : Nat := 0x1100

def firstVowel : Nat := 0x1161

/-- One before the first trailing letter, so that a syllable without one has number zero. -/
def tailBase : Nat := 0x11A7

def leads : Nat := 19

def vowels : Nat := 21

def tails : Nat := 28

def isSyllable (n : Nat) : Bool := firstSyllable ≤ n && n < firstSyllable + leads * vowels * tails

/-- The letters of a syllable. -/
def letters (n : Nat) : List Nat :=
  let index := n - firstSyllable
  let front := [firstLead + index / (vowels * tails), firstVowel + index % (vowels * tails) / tails]
  if index % tails = 0 then front else front ++ [tailBase + index % tails]

/-- A lead and a vowel, or a syllable without trailing letter and such a letter, make a syllable. -/
def compose? (a b : Nat) : Option Nat :=
  if firstLead ≤ a && a < firstLead + leads && firstVowel ≤ b && b < firstVowel + vowels then
    some (firstSyllable + ((a - firstLead) * vowels + (b - firstVowel)) * tails)
  else if isSyllable a && (a - firstSyllable) % tails = 0 && tailBase < b && b < tailBase + tails then
    some (a + (b - tailBase))
  else none

end Hangul

/-- No character is composed in more steps. -/
def maxDepth : Nat := 8

/-- Takes a character apart as far as it goes. -/
def decomposeWithin : (depth : Nat) → Nat → List Nat
  | 0, n => [n]
  | depth + 1, n =>
    if Hangul.isSyllable n then Hangul.letters n
    else match valueAt composites n with
      | some (a, b) => decomposeWithin depth a ++ [b]
      | none =>
        match valueAt replaced n with
        | some m => [m]
        | none => (valueAt expanded n).getD [n]

def decompose (n : Nat) : List Nat := decomposeWithin maxDepth n

/-- Puts a mark behind those of its class and of lower classes; `marks` is in order. -/
def insertMark (n : Nat) (marks : List Nat) : List Nat :=
  let (low, high) := (marks.takeWhile (classOf · ≤ classOf n), marks.dropWhile (classOf · ≤ classOf n))
  low ++ n :: high

/-- Sorts every run of marks by class. `marks` is the run that is being read. -/
def orderMarks (marks : List Nat) : List Nat → List Nat
  | [] => marks
  | n :: rest =>
    if classOf n = 0 then marks ++ n :: orderMarks [] rest else orderMarks (insertMark n marks) rest

/-- The character that two make up. -/
def composePair? (a b : Nat) : Option Nat :=
  (Hangul.compose? a b).or ((composites.find? (·.2 = (a, b))).map Prod.fst)

/-- Joins characters to the base in front of them. Between the two stand the marks in `kept`, which come
latest first; one of the same class, or one without a class, keeps them apart. -/
def compose (base : Nat) (kept : List Nat) : List Nat → List Nat
  | [] => base :: kept.reverse
  | n :: rest =>
    let blocked := match kept with
      | [] => false
      | m :: _ => classOf n ≤ classOf m
    match if blocked then none else composePair? base n with
    | some joined => compose joined kept rest
    | none =>
      if classOf n = 0 then base :: kept.reverse ++ compose n [] rest
      else compose base (n :: kept) rest

/-- Starts at the first character that can be a base. -/
def composeAll : List Nat → List Nat
  | [] => []
  | n :: rest => if classOf n = 0 then compose n [] rest else n :: composeAll rest

/-- The first mark. A character before it is in normal form, and so is text of such characters only. -/
def firstMark : Nat := 0x300

def normal (cs : List Char) : List Char :=
  if cs.all (·.toNat < firstMark) then cs
  else (composeAll (orderMarks [] (cs.flatMap fun c => decompose c.toNat))).map Char.ofNat

end HttpAuth.Text
