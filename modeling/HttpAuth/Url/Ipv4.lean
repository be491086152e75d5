import HttpAuth.Text.Ascii

namespace HttpAuth.Ipv4

/-- A number behind `0x` is hexadecimal, one behind another zero octal; nothing behind these is zero. -/
def number? (cs : List Char) : Option Nat :=
  match cs with
  | [] => none
  | '0' :: 'x' :: digits => Ascii.number? 16 digits
  | '0' :: 'X' :: digits => Ascii.number? 16 digits
  | '0' :: d :: digits => Ascii.number? 8 (d :: digits)
  | digits => Ascii.number? 10 digits

/-- The parts between dots; one dot at the end is ignored. -/
def parts (host : List Char) : List (List Char) :=
  let all := host.splitOn '.'
  if all.getLast? = some [] then all.dropLast else all

/-- A host whose last part is a number is an address or an error. -/
def looksLikeAddress (host : List Char) : Bool :=
  match (parts host).getLast? with
  | none => false
  | some last => !last.isEmpty && (last.all Char.isDigit || (number? last).isSome)

/-- The lowest `count` bytes of a number, the highest of them first. -/
def lowBytes : (count : Nat) → Nat → List Nat
  | 0, _ => []
  | count + 1, n => lowBytes count (n / 256) ++ [n % 256]

/-- One to four numbers, the last of which fills the bytes that are left. -/
def parse? (host : List Char) : Option (List Nat) := do
  let numbers ← (parts host).mapM number?
  let front := numbers.dropLast
  let last ← numbers.getLast?
  let left := 4 - front.length
  if numbers.length ≤ 4 ∧ front.all (· ≤ 255) ∧ last < Nat.pow 256 left then
    some (front ++ lowBytes left last)
  else none

def text (bytes : List Nat) : String := ".".intercalate (bytes.map toString)

end HttpAuth.Ipv4
