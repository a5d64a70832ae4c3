import Arcade.Fault

/-!
# Rows in order

Where two items can be in no order, or comparing them can fail, the outcome of sorting depends on
which items are compared. So each search says which ones it looks at.

The items at the head of a list that are in order already are taken as they are, or turned around if
they are strictly in reverse. A further item is inserted at a place that is found by bisection,
behind the items that it does not come before. How many items at the head of a row pass a test is
found in leaps of growing size, and by bisection between the last two of them.
-/

namespace Arcade.Sorting

variable {α : Type} (before : α → α → Except Fault Bool)

/-- The items that continue a row in order after its last item, and the rest. -/
def rising (last : α) : List α → Except Fault (List α × List α)
  | [] => .ok ([], [])
  | x :: rest => do
    if ← before x last then return ([], x :: rest)
    let (row, rest) ← rising x rest
    return (x :: row, rest)

/-- The items that continue a row strictly in reverse after its last item, and the rest. -/
def falling (last : α) : List α → Except Fault (List α × List α)
  | [] => .ok ([], [])
  | x :: rest => do
    unless ← before x last do return ([], x :: rest)
    let (row, rest) ← falling x rest
    return (x :: row, rest)

/-- The items at the head that are in order or strictly in reverse, put in order, and the rest. -/
def headRow : List α → Except Fault (List α × List α)
  | x :: y :: rest => do
    if ← before y x then
      let (row, rest) ← falling before y rest
      return ((x :: y :: row).reverse, rest)
    else
      let (row, rest) ← rising before y rest
      return (x :: y :: row, rest)
  | items => .ok (items, [])

/-! ## Searching a row -/

/-- The end of a row at which counting its items starts. -/
inductive Side where
  | front
  | back
deriving DecidableEq, Repr

/-- The place halfway between two places, the one behind the middle if both are as near. What is
behind depends on the end from which places are counted. -/
def Side.middle : Side → Nat → Nat → Nat
  | .front, low, high => low + (high - low) / 2
  | .back, low, high => high - 1 - (high - low) / 2

/-- The place between two places up to which the items of a row pass a test. The fuel is at least
the distance of the places. -/
def bisect (side : Side) (passes : α → Except Fault Bool) (row : List α) :
    Nat → Nat → Nat → Except Fault Nat
  | 0, low, _ => .ok low
  | fuel + 1, low, high =>
    if low < high then
      let middle := side.middle low high
      match row[middle]? with
      | none => .ok low
      | some x => do
        if ← passes x then bisect side passes row fuel (middle + 1) high
        else bisect side passes row fuel low middle
    else .ok low

/-- The last place found to pass a test, in leaps from the given one, and the next place of a leap
or the end of the row. -/
def leap (passes : α → Except Fault Bool) (row : List α) :
    Nat → Nat → Nat → Except Fault (Nat × Nat)
  | 0, last, _ => .ok (last, row.length)
  | fuel + 1, last, next =>
    match row[next]? with
    | none => .ok (last, row.length)
    | some x => do
      if ← passes x then leap passes row fuel next (2 * next + 1) else return (last, next)

/-- The number of items at the head of a row that pass a test. -/
def reach (side : Side) (passes : α → Except Fault Bool) (row : List α) : Except Fault Nat :=
  match row with
  | [] => .ok 0
  | x :: _ => do
    unless ← passes x do return 0
    let (last, next) ← leap passes row row.length 0 1
    bisect side passes row row.length (last + 1) next

/-- A row with an item inserted. -/
def inserted (row : List α) (x : α) : Except Fault (List α) := do
  let i ← bisect .front (fun y => do return !(← before x y)) row row.length 0 row.length
  return row.take i ++ x :: row.drop i

end Arcade.Sorting
