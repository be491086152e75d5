import HttpAuth.Text.Ascii

namespace HttpAuth.Punycode

def base : Nat := 36

/-- The least and the greatest value at which a digit ends a number. -/
def minThreshold : Nat := 1

def maxThreshold : Nat := 26

def initialBias : Nat := 72

/-- The first character beyond ASCII. -/
def initialCode : Nat := 0x80

def digit (n : Nat) : Char :=
  if n < 26 then Char.ofNat ('a'.toNat + n) else Char.ofNat ('0'.toNat + (n - 26))

def digitValue? (c : Char) : Option Nat :=
  if 'a' ≤ c ∧ c ≤ 'z' then some (c.toNat - 'a'.toNat)
  else if '0' ≤ c ∧ c ≤ '9' then some (c.toNat - '0'.toNat + 26)
  else none

/-- The threshold of the digit at a position, counted in multiples of the base. -/
def threshold (position bias : Nat) : Nat :=
  min (max minThreshold (position - bias)) maxThreshold

/-- Divides until the step is small, counting positions. -/
def shrink (delta position : Nat) : Nat :=
  if (base - minThreshold) * maxThreshold / 2 < delta then
    shrink (delta / (base - minThreshold)) (position + base)
  else position + (base - minThreshold + 1) * delta / (delta + 38)
termination_by delta
decreasing_by
  simp only [base, minThreshold, maxThreshold] at *
  exact Nat.div_lt_self (by omega) (by omega)

/-- The bias after a step, which follows the size of the steps so far. -/
def adapt (delta length : Nat) (first : Bool) : Nat :=
  let halved := if first then delta / 700 else delta / 2
  shrink (halved + halved / length) 0

/-- The digits of a number, found within `fuel` positions. -/
def encodeNumber : (fuel : Nat) → (n position bias : Nat) → List Char
  | 0, _, _, _ => []
  | fuel + 1, n, position, bias =>
    let t := threshold position bias
    if n < t then [digit n]
    else digit (t + (n - t) % (base - t)) :: encodeNumber fuel ((n - t) / (base - t)) (position + base) bias

/-- Where the encoder stands: the steps counted since the last number, the bias, how many characters have
been written, and what has been written, latest first. -/
structure EncoderState where
  delta : Nat
  bias : Nat
  handled : Nat
  output : List Char

/-- Passes over the label once for the characters with the code `code`. -/
def encodePass (code plain : Nat) (s : EncoderState) : List Nat → EncoderState
  | [] => s
  | c :: rest =>
    let next :=
      if c < code then { s with delta := s.delta + 1 }
      else if c = code then
        let digits := encodeNumber (s.delta + 1) s.delta base s.bias
        { delta := 0, bias := adapt s.delta (s.handled + 1) (s.handled = plain),
          handled := s.handled + 1, output := digits.reverse ++ s.output }
      else s
    encodePass code plain next rest

/-- Writes the characters beyond ASCII in ascending order of their codes. -/
def encodeCodes (label : List Nat) (plain : Nat) : (codes : List Nat) → (last : Nat) → EncoderState → EncoderState
  | [], _, s => s
  | code :: rest, last, s =>
    let start := { s with delta := s.delta + (code - last) * (s.handled + 1) }
    let passed := encodePass code plain start label
    encodeCodes label plain rest (code + 1) { passed with delta := passed.delta + 1 }

/-- The ASCII characters first, then where the others are inserted, as numbers in a base of thirty-six whose
digits end a number early. -/
def encode (label : List Char) : List Char :=
  let codes := label.map Char.toNat
  let plain := label.filter (·.toNat < initialCode)
  let others := ((codes.filter (initialCode ≤ ·)).mergeSort (· ≤ ·)).eraseDups
  let front := if plain.isEmpty then [] else plain ++ ['-']
  let start : EncoderState := ⟨0, initialBias, plain.length, []⟩
  front ++ (encodeCodes codes plain.length others initialCode start).output.reverse

/-- Reads a number: its value, and the digits behind it. -/
def decodeNumber (value weight position bias : Nat) : List Char → Option (Nat × List Char)
  | [] => none
  | c :: rest =>
    match digitValue? c with
    | none => none
    | some d =>
      let t := threshold position bias
      if d < t then some (value + d * weight, rest)
      else decodeNumber (value + d * weight) (weight * (base - t)) (position + base) bias rest

theorem length_decodeNumber_lt {value weight position bias : Nat} {digits rest : List Char} {n : Nat}
    (h : decodeNumber value weight position bias digits = some (n, rest)) :
    rest.length < digits.length := by
  induction digits generalizing value weight position with
  | nil => simp [decodeNumber] at h
  | cons c tail ih =>
    simp only [decodeNumber] at h
    split at h
    · simp at h
    · split at h
      · simp only [Option.some.injEq, Prod.mk.injEq] at h
        obtain ⟨-, rfl⟩ := h
        simp
      · exact Nat.lt_trans (ih h) (by simp)

/-- Inserts the characters that the digits name. -/
def decodeFrom (output : List Nat) (code index bias : Nat) (first : Bool) (digits : List Char) :
    Option (List Nat) :=
  if digits.isEmpty then some output
  else
    match _h : decodeNumber 0 1 base bias digits with
    | none => none
    | some (step, rest) =>
      let length := output.length + 1
      let position := index + step
      let next := code + position / length
      if next ≤ 0x10FFFF ∧ ¬ (0xD800 ≤ next ∧ next ≤ 0xDFFF) then
        let place := position % length
        decodeFrom (output.take place ++ next :: output.drop place) next (place + 1)
          (adapt step length first) false rest
      else none
termination_by digits.length
decreasing_by exact length_decodeNumber_lt _h

/-- ASCII characters stand before the last hyphen. -/
def decode? (label : List Char) : Option (List Char) :=
  let digits := (label.reverse.takeWhile (· ≠ '-')).reverse
  let front := label.take (label.length - digits.length - 1)
  (decodeFrom (front.map Char.toNat) initialCode 0 initialBias true digits).map (·.map Char.ofNat)

end HttpAuth.Punycode
