import HttpAuth.Text.Ascii

namespace HttpAuth.Ipv6

/-- Decimal without zeros in front, at most 255. -/
def dottedByte? (cs : List Char) : Option Nat :=
  match cs with
  | [] => none
  | '0' :: _ :: _ => none
  | digits => (Ascii.number? 10 digits).filter (· ≤ 255)

/-- The two groups that an IPv4 address stands for. -/
def dotted? (cs : List Char) : Option (Nat × Nat) :=
  match (cs.splitOn '.').mapM dottedByte? with
  | some [a, b, c, d] => some (a * 256 + b, c * 256 + d)
  | _ => none

/-- Groups read so far, latest first, and how many of them stand before the end of the gap. -/
structure Partial where
  groups : List Nat := []
  gap? : Option Nat := none

/-- Reads groups from where one may begin. -/
def readGroups (cs : List Char) (p : Partial) : Option Partial :=
  match cs with
  | [] => some p
  | ':' :: rest =>
    if p.groups.length < 8 ∧ p.gap?.isNone then
      readGroups rest { groups := 0 :: p.groups, gap? := some (p.groups.length + 1) }
    else none
  | c :: rest =>
    let digits := ((c :: rest).take 4).takeWhile Ascii.isHexDigit
    if p.groups.length < 8 then
      match Ascii.number? 16 digits with
      | none => none
      | some value =>
        match _h : (c :: rest).drop digits.length with
        | [] => some { p with groups := value :: p.groups }
        | ':' :: next :: after => readGroups (next :: after) { p with groups := value :: p.groups }
        | '.' :: _ =>
          if p.groups.length ≤ 6 then
            (dotted? (c :: rest)).map fun (high, low) => { p with groups := low :: high :: p.groups }
          else none
        | _ => none
    else none
termination_by cs.length
decreasing_by
  · simp
  · have := congrArg List.length _h
    simp only [List.length_drop, List.length_cons] at this ⊢
    omega

/-- Puts groups of zero at the end of the gap. -/
def Partial.complete? (p : Partial) : Option (List Nat) :=
  let groups := p.groups.reverse
  match p.gap? with
  | none => if groups.length = 8 then some groups else none
  | some n => some (groups.take n ++ List.replicate (8 - groups.length) 0 ++ groups.drop n)

/-- Eight groups of sixteen bits between colons. `::` stands for one or more groups of zero, and the last two
groups may be written as an IPv4 address. -/
def parse? (cs : List Char) : Option (List Nat) :=
  match cs with
  | [] => none
  | ':' :: ':' :: rest => (readGroups rest ⟨[0], some 1⟩).bind Partial.complete?
  | ':' :: _ => none
  | cs => (readGroups cs {}).bind Partial.complete?

/-- How many groups of zero the list begins with. -/
def zeroRun (groups : List Nat) : Nat := (groups.takeWhile (· = 0)).length

/-- Start and length of the first longest run of zeros. -/
def longestRun (groups : List Nat) : Nat × Nat :=
  (List.range groups.length).foldl
    (fun best i =>
      let run := zeroRun (groups.drop i)
      if best.2 < run then (i, run) else best)
    (0, 0)

def joined (groups : List Nat) : String := ":".intercalate (groups.map Ascii.hex)

/-- A run of at least two groups of zero is left out. -/
def text (groups : List Nat) : String :=
  let (start, length) := longestRun groups
  if length < 2 then joined groups
  else joined (groups.take start) ++ "::" ++ joined (groups.drop (start + length))

end HttpAuth.Ipv6
