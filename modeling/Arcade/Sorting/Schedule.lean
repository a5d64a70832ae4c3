import Arcade.Sorting.Merge

/-!
# Sorting what may not compare

A list is cut into rows: what is in order already, filled up by insertion to a least length. A list
of fewer than 64 items is a single row. Longer lists have a power of two of rows of the least
length, or a few less.

The rows are merged as in a tree over the list. The depth of the boundary between two rows is the
first binary digit in which their middles differ, as parts of the list. A row is merged with the one
after it before a boundary behind them is reached that is less deep. In the end what is left is
merged from the back, a shorter row first.
-/

namespace Arcade.Sorting

variable {α : Type} (before : α → α → Except Fault Bool)

/-- The least length of the rows of a list with `n` items: its first six binary digits, rounded up.
`more` tells whether digits that were dropped have a one. -/
def leastLength (n : Nat) (more : Bool) : Nat :=
  if 64 ≤ n then leastLength (n / 2) (more || n % 2 == 1) else if more then n + 1 else n
termination_by n
decreasing_by omega

/-- The first binary digit in which two parts of a whole differ. The fuel bounds its place. -/
def firstDifference (whole : Nat) : Nat → Nat → Nat → Nat
  | 0, _, _ => 0
  | fuel + 1, a, b =>
    if whole ≤ a then firstDifference whole fuel (2 * (a - whole)) (2 * (b - whole)) + 1
    else if whole ≤ b then 1
    else firstDifference whole fuel (2 * a) (2 * b) + 1

/-- The depth of the boundary between two neighbouring rows of a list, the first of which starts at
a place. Twice the middles are whole numbers. -/
def boundaryDepth (whole start first second : Nat) : Nat :=
  firstDifference whole (whole + 2) (2 * start + first) (2 * start + first + (first + second))

/-- A row with the depth of the boundary behind it, if this has been reached. -/
structure Run (α : Type) where
  row : List α
  depth : Nat := 0

/-- The number of items in some rows. -/
def itemCount (runs : List (Run α)) : Nat :=
  runs.foldl (fun n r => n + r.row.length) 0

/-- Merges the last rows, which come first here, as long as the boundary between them is deeper. -/
def mergeDeeper (depth : Nat) : List (Run α) → Nat → Except Fault (List (Run α) × Nat)
  | z :: y :: rest, patience =>
    if depth < y.depth then do
      let (row, patience) ← merge before patience y.row z.row
      mergeDeeper depth ({ row } :: rest) patience
    else .ok (z :: y :: rest, patience)
  | runs, patience => .ok (runs, patience)
termination_by runs => runs.length

/-- Adds a row behind the others, which are merged so far as its boundary demands. -/
def addRow (whole : Nat) (runs : List (Run α)) (patience : Nat) (row : List α) :
    Except Fault (List (Run α) × Nat) :=
  match runs with
  | [] => .ok ([{ row }], patience)
  | z :: rest => do
    let depth := boundaryDepth whole (itemCount rest) z.row.length row.length
    let (runs, patience) ← mergeDeeper before depth runs patience
    match runs with
    | [] => return ([{ row }], patience)
    | z :: rest => return ({ row } :: { z with depth } :: rest, patience)

/-- Adds all rows of the items that are left. The fuel is more than their number. -/
def addRows (whole : Nat) :
    Nat → List α → List (Run α) → Nat → Except Fault (List (Run α) × Nat)
  | 0, _, runs, patience => .ok (runs, patience)
  | _, [], runs, patience => .ok (runs, patience)
  | fuel + 1, items, runs, patience => do
    let (row, rest) ← headRow before items
    let missing := leastLength whole false - row.length
    let row ← (rest.take missing).foldlM (inserted before) row
    let (runs, patience) ← addRow before whole runs patience row
    addRows whole fuel (rest.drop missing) runs patience

/-- Merges all rows, of which the last comes first. -/
def mergeAll : List (Run α) → Nat → Except Fault (List α)
  | [], _ => .ok []
  | [z], _ => .ok z.row
  | [z, y], patience => do return (← merge before patience y.row z.row).1
  | z :: y :: x :: rest, patience => do
    if x.row.length < z.row.length then
      let (row, patience) ← merge before patience x.row y.row
      mergeAll (z :: { row } :: rest) patience
    else
      let (row, patience) ← merge before patience y.row z.row
      mergeAll ({ row } :: x :: rest) patience
termination_by runs => runs.length

/-- The items in order, as far as they compare. -/
def sort (items : List α) : Except Fault (List α) := do
  let (runs, patience) ← addRows before items.length (items.length + 1) items [] longStretch
  mergeAll before runs patience

end Arcade.Sorting
