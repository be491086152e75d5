import HttpAuth.Text.Blank
import HttpAuth.Time.Instant

namespace HttpAuth.Time

/-- A reader of the front of a text, which may fail. -/
abbrev Reader := StateT (List Char) Option

namespace Reader

def skipBlanks : Reader Unit := modify (·.dropWhile Text.isBlank)

/-- The next character, if `accept` holds of it. -/
def char (accept : Char → Bool) : Reader Char := fun cs =>
  match cs with
  | c :: rest => if accept c then some (c, rest) else none
  | [] => none

/-- A number of at least one and at most `limit` digits. -/
def digits (limit : Nat) : Reader Nat := fun cs =>
  let front := (cs.take limit).takeWhile Char.isDigit
  if front.isEmpty then none
  else (Ascii.number? 10 front).map fun n => (n, cs.drop front.length)

/-- All digits that follow. -/
def allDigits : Reader Nat := fun cs => digits cs.length cs

def number (limit : Nat) : Reader Nat := do
  skipBlanks
  digits limit

/-- Four digits at most, or any number of them behind a sign. -/
def year : Reader Int := do
  skipBlanks
  match (← get).head? with
  | some '-' => do
    let _ ← char (· = '-')
    return -(← allDigits)
  | some '+' => do
    let _ ← char (· = '+')
    return ← allDigits
  | _ => return ← digits 4

/-- Blanks, then the separator. -/
def separator (c : Char) : Reader Unit := do
  skipBlanks
  let _ ← char (· = c)

/-- Nanoseconds behind a point; digits after the ninth do not count. -/
def fraction : Reader Nat := do
  match (← get).head? with
  | some '.' => do
    let _ ← char (· = '.')
    let before := (← get).length
    let n ← digits 9
    let taken := before - (← get).length
    modify (·.dropWhile Char.isDigit)
    return n * Nat.pow 10 (9 - taken)
  | _ => return 0

def twoDigits : Reader Nat := do
  let a ← char Char.isDigit
  let b ← char Char.isDigit
  return (a.toNat - '0'.toNat) * 10 + (b.toNat - '0'.toNat)

/-- Seconds east of universal time: `Z`, `UTC`, or a sign with hours and minutes. -/
def offset : Reader Int := do
  let cs ← get
  if Ascii.sameLetters (cs.take 3) "UTC".toList then
    set (cs.drop 3)
    return 0
  else match cs with
    | 'Z' :: rest | 'z' :: rest => do
      set rest
      return 0
    | _ => do
      let sign ← char fun c => c = '+' || c = '-' || c = '\u2212'
      let hours ← twoDigits
      modify (·.dropWhile fun c => c = ':' || Text.isBlank c)
      let minutes ← twoDigits
      guard (minutes < 60)
      let seconds : Int := hours * 3600 + minutes * 60
      return if sign = '+' then seconds else -seconds

end Reader

/-- A date and a time of day by the clock of a place, and that place's offset. -/
structure LocalTime where
  date : Date
  hour : Nat
  minute : Nat
  second : Nat
  nano : Nat
  offset : Int
deriving DecidableEq, Repr

namespace LocalTime

def read : Reader LocalTime := do
  let year ← Reader.year
  Reader.separator '-'
  let month ← Reader.number 2
  Reader.separator '-'
  let day ← Reader.number 2
  let _ ← Reader.char fun c => c = 'T' || c = 't' || c = ' '
  let hour ← Reader.number 2
  Reader.separator ':'
  let minute ← Reader.number 2
  Reader.separator ':'
  let second ← Reader.number 2
  let nano ← Reader.fraction
  Reader.skipBlanks
  let offset ← Reader.offset
  Reader.skipBlanks
  return ⟨⟨year, month, day⟩, hour, minute, second, nano, offset⟩

def firstYear : Int := -262143

def lastYear : Int := 262142

/-- The second 60 is a leap second, whatever the minute. -/
def isValid (t : LocalTime) : Bool :=
  t.date.isValid && firstYear ≤ t.date.year && t.date.year ≤ lastYear && t.hour < 24 &&
    t.minute < 60 && t.second ≤ 60 && t.offset.natAbs < 86400

def instant? (t : LocalTime) : Option Instant :=
  let isLeap := t.second = 60
  let second := if isLeap then 59 else t.second
  let secondOfDay : Int := t.hour * 3600 + t.minute * 60 + second
  Instant.ofUnix? (t.date.toDays * secondsPerDay + secondOfDay - t.offset)
    (t.nano + (if isLeap then nanosPerSecond else 0))

end LocalTime

/-- Reads a whole text as an instant. Numbers need no zeros in front, blanks may stand between the parts, and
years may have a sign and any length. -/
def Instant.parse? (s : String) : Option Instant :=
  match LocalTime.read.run s.toList with
  | some (t, []) => if t.isValid then t.instant? else none
  | _ => none

end HttpAuth.Time
