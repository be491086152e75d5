namespace HttpAuth.Utf8

def encodeChar (c : Char) : List UInt8 :=
  let n := c.toNat
  if n < 0x80 then [UInt8.ofNat n]
  else if n < 0x800 then
    [UInt8.ofNat (0xC0 + n / 0x40), UInt8.ofNat (0x80 + n % 0x40)]
  else if n < 0x10000 then
    [UInt8.ofNat (0xE0 + n / 0x1000), UInt8.ofNat (0x80 + n / 0x40 % 0x40),
      UInt8.ofNat (0x80 + n % 0x40)]
  else
    [UInt8.ofNat (0xF0 + n / 0x40000), UInt8.ofNat (0x80 + n / 0x1000 % 0x40),
      UInt8.ofNat (0x80 + n / 0x40 % 0x40), UInt8.ofNat (0x80 + n % 0x40)]

def encodeChars (cs : List Char) : List UInt8 := cs.flatMap encodeChar

def encode (s : String) : List UInt8 := encodeChars s.toList

/-- What a lead byte announces: its payload, how many bytes follow, and the range of the first of them. -/
structure Lead where
  payload : Nat
  more : Nat
  low : Nat
  high : Nat
deriving DecidableEq, Repr

/-- The narrowed ranges keep out overlong forms, surrogates and numbers above U+10FFFF. -/
def lead? (n : Nat) : Option Lead :=
  if n < 0xC2 then none
  else if n < 0xE0 then some ⟨n - 0xC0, 1, 0x80, 0xBF⟩
  else if n = 0xE0 then some ⟨0, 2, 0xA0, 0xBF⟩
  else if n = 0xED then some ⟨0xD, 2, 0x80, 0x9F⟩
  else if n < 0xF0 then some ⟨n - 0xE0, 2, 0x80, 0xBF⟩
  else if n = 0xF0 then some ⟨0, 3, 0x90, 0xBF⟩
  else if n < 0xF4 then some ⟨n - 0xF0, 3, 0x80, 0xBF⟩
  else if n = 0xF4 then some ⟨4, 3, 0x80, 0x8F⟩
  else none

/-- Reads up to `more` continuation bytes onto `number`: the number if all are there, and how many bytes
were good. -/
def readTail (number : Nat) : (more : Nat) → (low high : Nat) → List UInt8 → Option Nat × Nat
  | 0, _, _, _ => (some number, 0)
  | _ + 1, _, _, [] => (none, 0)
  | more + 1, low, high, b :: rest =>
    if low ≤ b.toNat ∧ b.toNat ≤ high then
      let (result, taken) := readTail (number * 0x40 + b.toNat % 0x40) more 0x80 0xBF rest
      (result, taken + 1)
    else (none, 0)

/-- The character at the head of `b :: rest`, or none if it is damaged, and how many bytes of `rest`
belong to it. -/
def readChar (b : UInt8) (rest : List UInt8) : Option Char × Nat :=
  if b.toNat < 0x80 then (some (Char.ofNat b.toNat), 0)
  else match lead? b.toNat with
    | none => (none, 0)
    | some l =>
      let (number, taken) := readTail l.payload l.more l.low l.high rest
      (number.map Char.ofNat, taken)

/-- A character, or none for a damaged stretch, with the number of bytes it takes. -/
structure Segment where
  char? : Option Char
  width : Nat
deriving DecidableEq, Repr

def segments : List UInt8 → List Segment
  | [] => []
  | b :: rest =>
    let (c, taken) := readChar b rest
    ⟨c, taken + 1⟩ :: segments (rest.drop taken)
termination_by bytes => bytes.length
decreasing_by
  rw [List.length_drop, List.length_cons]
  exact Nat.lt_succ_of_le (Nat.sub_le ..)

def replacement : Char := '\uFFFD'

/-- Lenient reading: one U+FFFD for each damaged stretch. -/
def decodeLossy (bytes : List UInt8) : String :=
  String.ofList ((segments bytes).map fun s => s.char?.getD replacement)

/-- Strict reading: every segment has to be a character. -/
def decodeChars? (bytes : List UInt8) : Option (List Char) := (segments bytes).mapM Segment.char?

def decode? (bytes : List UInt8) : Option String := (decodeChars? bytes).map String.ofList

/-- How many bytes the segments before the first damaged one take. -/
def soundWidth : List Segment → Nat
  | [] => 0
  | s :: rest => if s.char?.isSome then s.width + soundWidth rest else 0

/-- The length of the longest prefix that is whole characters. -/
def validLength (bytes : List UInt8) : Nat := soundWidth (segments bytes)

def isValid (bytes : List UInt8) : Bool := (segments bytes).all (·.char?.isSome)

end HttpAuth.Utf8
