import Arcade.Sorting.Row

/-!
# Merging rows

Two neighbouring rows are merged at the end where the shorter one lies: the shorter one is held
aside, and the heads of both rows, counted from that end, are compared again and again. What stands
before all of the second row or behind all of the first one is left where it is. Of items in no
order the one of the first row comes first.

When one row has given many items on end, whole stretches of both rows are looked for instead, until
the stretches become short. How many items it takes is the patience, which shrinks while stretches
are long and grows when they become short. It is kept from one merge to the next.

Merging is settled once the other row is used up or a single item is held: this is the last one.
-/

namespace Arcade.Sorting

variable {α : Type} (before : α → α → Except Fault Bool)

/-- The length from which on a stretch is long, and the patience at the start. -/
def longStretch : Nat := 7

/-- Two rows that are being merged, and what they have given so far, the last item first. -/
structure Rows (α : Type) where
  given : List α := []
  held : List α
  other : List α

namespace Rows

/-- The rows after the held row has given its first items. -/
def giveHeld (n : Nat) (r : Rows α) : Rows α :=
  { r with given := (r.held.take n).reverse ++ r.given, held := r.held.drop n }

/-- The rows after the other row has given its first items. -/
def giveOther (n : Nat) (r : Rows α) : Rows α :=
  { r with given := (r.other.take n).reverse ++ r.given, other := r.other.drop n }

/-- The heads of both rows, unless merging is settled. -/
def heads? (r : Rows α) : Option (α × α) :=
  match r.held, r.other with
  | h :: _ :: _, o :: _ => some (h, o)
  | _, _ => none

/-- The merged row of rows that are settled. -/
def merged (r : Rows α) : List α := r.given.reverse ++ r.other ++ r.held

end Rows

/-- Whether the head of the other row is next. From the front the first row is held, and from the
back the second one. -/
def isOtherNext (side : Side) (held other : α) : Except Fault Bool :=
  match side with
  | .front => before other held
  | .back => before held other

/-- Gives the items of the held row that come before the head of the other row, and that head. The
number of the former is returned. -/
def stretchHeld (side : Side) (r : Rows α) : Except Fault (Rows α × Nat) :=
  match r.heads? with
  | none => .ok (r, 0)
  | some (_, o) => do
    let n ← reach side (fun h => do return !(← isOtherNext before side h o)) r.held
    let r := r.giveHeld n
    return (if r.heads?.isSome then r.giveOther 1 else r, n)

/-- Gives the items of the other row that come before the head of the held row, and that head. -/
def stretchOther (side : Side) (r : Rows α) : Except Fault (Rows α × Nat) :=
  match r.heads? with
  | none => .ok (r, 0)
  | some (h, _) => do
    let n ← reach side (isOtherNext before side h) r.other
    let r := r.giveOther n
    return (if r.heads?.isSome then r.giveHeld 1 else r, n)

/-- Gives a stretch of the first row and one of the second. The length of the longer is returned. -/
def stretchBoth (side : Side) (r : Rows α) : Except Fault (Rows α × Nat) :=
  match side with
  | .front => do
    let (r, m) ← stretchHeld before side r
    let (r, n) ← stretchOther before side r
    return (r, max m n)
  | .back => do
    let (r, m) ← stretchOther before side r
    let (r, n) ← stretchHeld before side r
    return (r, max m n)

mutual

/-- Gives single items until the rows are settled. The numbers of items that the held and the other
row have given on end are counted. The fuel is more than the number of items left. -/
def giveSingly (side : Side) : Nat → Nat → Nat → Nat → Rows α → Except Fault (Rows α × Nat)
  | 0, _, _, patience, r => .ok (r, patience)
  | fuel + 1, helds, others, patience, r =>
    match r.heads? with
    | none => .ok (r, patience)
    | some (h, o) => do
      if ← isOtherNext before side h o then
        if others + 1 < patience then
          giveSingly side fuel 0 (others + 1) patience (r.giveOther 1)
        else giveStretches side fuel patience (r.giveOther 1)
      else if helds + 1 < patience then
        giveSingly side fuel (helds + 1) 0 patience (r.giveHeld 1)
      else giveStretches side fuel patience (r.giveHeld 1)

/-- Gives whole stretches until the rows are settled. -/
def giveStretches (side : Side) : Nat → Nat → Rows α → Except Fault (Rows α × Nat)
  | 0, patience, r => .ok (r, patience)
  | fuel + 1, patience, r => do
    let (r, n) ← stretchBoth before side r
    if r.heads?.isNone then return (r, patience)
    else if longStretch ≤ n then giveStretches side fuel (max 1 (patience - 1)) r
    else giveSingly side fuel 0 0 (patience + 1) r

end

/-- Settles two rows of which the head of the other one is known to be first. -/
def settle (side : Side) (patience : Nat) (r : Rows α) : Except Fault (List α × Nat) := do
  let fuel := r.held.length + r.other.length + 1
  let (r, patience) ← giveSingly before side fuel 0 0 patience (r.giveOther 1)
  return (r.merged, patience)

/-- Merges two neighbouring rows. The patience afterwards is returned too. -/
def merge (patience : Nat) (first second : List α) : Except Fault (List α × Nat) :=
  match second with
  | [] => .ok (first, patience)
  | y :: _ => do
    let n ← reach .front (fun x => do return !(← before y x)) first
    let first' := first.drop n
    match first'.getLast? with
    | none => return (first ++ second, patience)
    | some x =>
      let m ← reach .back (fun y => do return !(← before y x)) second.reverse
      let second' := second.take (second.length - m)
      let (middle, patience) ←
        if first'.length ≤ second'.length then
          settle before .front patience { held := first', other := second' }
        else do
          let (row, patience) ←
            settle before .back patience { held := second'.reverse, other := first'.reverse }
          pure (row.reverse, patience)
      return (first.take n ++ middle ++ second.drop (second.length - m), patience)

end Arcade.Sorting
