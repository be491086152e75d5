import HttpAuth.Text.Ascii
import HttpAuth.Time.Calendar

namespace HttpAuth.Time

def secondsPerDay : Int := 86400

def nanosPerSecond : Nat := 1000000000

/-- A length of time, which may be negative. -/
structure Span where
  nanos : Int
deriving DecidableEq, Repr

namespace Span

def ofSeconds (n : Int) : Span := ⟨n * nanosPerSecond⟩

def ofMillis (n : Int) : Span := ⟨n * 1000000⟩

/-- The longest span of whole seconds. It is what a signed count of milliseconds in 64 bits has room for. -/
def maxSeconds : Int := 9223372036854775

/-- A number of seconds that is not too large either way. -/
def ofSeconds? (n : Int) : Option Span :=
  if -maxSeconds ≤ n ∧ n ≤ maxSeconds then some (ofSeconds n) else none

end Span

/-- The first second of the year -262143. -/
def firstSecond : Int := -8334601228800

/-- The last second of the year 262142. -/
def lastSecond : Int := 8210266876799

/-- `second` counts from 1970. In a leap second `nano` is at least a billion. -/
structure Instant where
  second : Int
  nano : Nat
  first_le : firstSecond ≤ second
  le_last : second ≤ lastSecond
  nano_lt : nano < 2 * nanosPerSecond
deriving DecidableEq

namespace Instant

def ofUnix? (second : Int) (nano : Nat) : Option Instant :=
  if h : firstSecond ≤ second ∧ second ≤ lastSecond ∧ nano < 2 * nanosPerSecond then
    some ⟨second, nano, h.1, h.2.1, h.2.2⟩
  else none

def inLeapSecond (i : Instant) : Prop := nanosPerSecond ≤ i.nano

instance (i : Instant) : Decidable i.inLeapSecond := inferInstanceAs (Decidable (_ ≤ _))

/-- Nanoseconds since 1970, a leap second counted like the second that follows it. -/
def unixNanos (i : Instant) : Int := i.second * nanosPerSecond + i.nano

def ofUnixNanos? (n : Int) : Option Instant :=
  ofUnix? (n / nanosPerSecond) (n % nanosPerSecond).toNat

def Before (a b : Instant) : Prop := a.second < b.second ∨ (a.second = b.second ∧ a.nano < b.nano)

instance (a b : Instant) : Decidable (Before a b) := inferInstanceAs (Decidable (_ ∨ _))

/-- The sum, if it is an instant. From inside a leap second a short span may lead to a place in the same
second; a longer one forward counts the leap second out, and one backward counts it in. -/
def add? (i : Instant) (d : Span) : Option Instant :=
  if i.inLeapSecond ∧ -nanosPerSecond < d.nanos then
    if i.nano + d.nanos < 2 * nanosPerSecond then ofUnix? i.second (i.nano + d.nanos).toNat
    else ofUnixNanos? (i.unixNanos + d.nanos - nanosPerSecond)
  else ofUnixNanos? (i.unixNanos + d.nanos)

end Instant

/-- Four digits for the years of ordinary use, a sign before all others. -/
def yearText (year : Int) : String :=
  if 0 ≤ year ∧ year ≤ 9999 then Ascii.padded 4 year.toNat
  else (if year < 0 then "-" else "+") ++ Ascii.padded 4 year.natAbs

def dateText (d : Date) : String :=
  yearText d.year ++ "-" ++ Ascii.padded 2 d.month ++ "-" ++ Ascii.padded 2 d.day

/-- How many digits of a fraction of a second are written. -/
inductive Precision where
  /-- The fewest of none, three, six and nine that lose nothing. -/
  | exact
  | nanoseconds
deriving DecidableEq, Repr

def fractionText (p : Precision) (nano : Nat) : String :=
  match p with
  | .nanoseconds => "." ++ Ascii.padded 9 nano
  | .exact =>
    if nano = 0 then ""
    else if nano % 1000000 = 0 then "." ++ Ascii.padded 3 (nano / 1000000)
    else if nano % 1000 = 0 then "." ++ Ascii.padded 6 (nano / 1000)
    else "." ++ Ascii.padded 9 nano

/-- Date and time of day with a `Z`. A leap second is written as one second more than the one before. -/
def Instant.text (i : Instant) (p : Precision := .exact) : String :=
  let date := Date.ofDays (i.second / secondsPerDay)
  let secondOfDay := (i.second % secondsPerDay).toNat
  let second := secondOfDay % 60 + (if i.inLeapSecond then 1 else 0)
  dateText date ++ "T" ++ Ascii.padded 2 (secondOfDay / 3600) ++ ":" ++
    Ascii.padded 2 (secondOfDay / 60 % 60) ++ ":" ++ Ascii.padded 2 second ++
    fractionText p (i.nano % nanosPerSecond) ++ "Z"

end HttpAuth.Time
