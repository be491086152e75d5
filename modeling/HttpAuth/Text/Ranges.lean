namespace HttpAuth.Text

/-- An index from `low` up to `high` at which `place` is `.eq`, where `place i` says on which side of the
entry at `i` the number that is sought lies. -/
def searchBetween (place : Nat → Ordering) (low high : Nat) : Option Nat :=
  if _h : low < high then
    let middle := low + (high - low) / 2
    match place middle with
    | .lt => searchBetween place low middle
    | .gt => searchBetween place (middle + 1) high
    | .eq => some middle
  else none
termination_by high - low
decreasing_by all_goals omega

/-- On which side of an interval `n` lies. -/
def placeOf (n first last : Nat) : Ordering :=
  if n < first then .lt else if last < n then .gt else .eq

def inRanges (table : Array (Nat × Nat)) (n : Nat) : Bool :=
  (searchBetween
    (fun i =>
      let (first, last) := table.getD i (0, 0)
      placeOf n first last)
    0 table.size).isSome

/-- The value of the interval that `n` lies in. -/
def valueInRanges {α : Type} [Inhabited α] (table : Array (Nat × Nat × α)) (n : Nat) : Option α :=
  (searchBetween
    (fun i =>
      let (first, last, _) := table.getD i default
      placeOf n first last)
    0 table.size).bind fun i => table[i]?.map fun e => e.2.2

/-- The value of the number `n`. -/
def valueAt {α : Type} [Inhabited α] (table : Array (Nat × α)) (n : Nat) : Option α :=
  (searchBetween
    (fun i =>
      let (key, _) := table.getD i default
      placeOf n key key)
    0 table.size).bind fun i => table[i]?.map Prod.snd

end HttpAuth.Text
