import Arcade.Calendar.Timestamp
import Arcade.Challenge.Basic

/-!
# Generations of challenges

All challenges of a day form a generation that ends at the next midnight. A generation is due for
replacement once the day it was made for is over, which its first challenge tells; so is a list of
challenges that is empty or whose end cannot be read. A challenge expires at the instant that it
names.
-/

namespace Arcade.Challenge

/-- The challenges of the day of an instant. -/
def generation (now : Instant) : Except Fault (List Challenge) := do
  let expiresAt := (← now.nextMidnight).timestamp
  return catalog.map fun d => ofDesign d expiresAt

/-- Whether the challenges are to be replaced on the day of an instant. -/
def needsRefresh (challenges : List Challenge) (now : Instant) : Except Fault Bool :=
  match challenges with
  | [] => .ok true
  | c :: _ => do
    match ← Timestamp.read c.expiresAt with
    | some expires => return decide (expires ≤ now.startOfDay)
    | none => return true

/-- A new generation if the challenges are to be replaced. -/
def replacement? (challenges : List Challenge) (now : Instant) :
    Except Fault (Option (List Challenge)) := do
  if ← needsRefresh challenges now then
    return some (← generation now)
  else return none

/-- The challenges, or a new generation if they are to be replaced. -/
def refreshed (challenges : List Challenge) (now : Instant) : Except Fault (List Challenge) := do
  return (← replacement? challenges now).getD challenges

/-- Whether a challenge can no longer be completed. -/
def isExpired (c : Challenge) (now : Instant) : Except Fault Bool := do
  match ← Timestamp.read c.expiresAt with
  | some expires => return decide (expires ≤ now)
  | none => return true

end Arcade.Challenge
