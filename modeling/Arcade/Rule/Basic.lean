import Arcade.Json.Display
import Arcade.Json.Order

/-!
# Rules for badges and challenges

A rule says when a badge is earned or a challenge is met. Most rules look at the stat record of one
game and ask that all their conditions hold there. The others compare a count over all games,
badges or challenges with a bound.

A condition compares one stat with a bound. A stat that was never recorded counts as zero, or, where
lower results are better, as worse than any result. Stats of that second kind are seeded with zero,
so zero counts as never recorded there.
-/

namespace Arcade

/-- The ways in which a stat or a count is compared with its bound. -/
inductive Comparator where
  | atLeast
  | above
  | atMost
  | equal
deriving DecidableEq, Repr

namespace Comparator

/-- The sign of a comparison. -/
def symbol : Comparator → String
  | .atLeast => ">="
  | .above => ">"
  | .atMost => "<="
  | .equal => "=="

/-- The comparison with a sign. -/
def ofJson (sign : Json) : Except Fault Comparator :=
  match [atLeast, above, atMost, equal].find? fun c => sign = .str c.symbol with
  | some c => .ok c
  | none => if sign.isKey then .error (.unknownComparator sign.text) else .error .wrongKind

/-- Whether a number compares as asked with a bound. -/
def holds (c : Comparator) (value bound : Number) : Bool :=
  match c with
  | .atLeast => bound.le value
  | .above => bound.lt value
  | .atMost => value.le bound
  | .equal => value.same bound

/-- Whether values in an order compare as asked. -/
def accepts (c : Comparator) : Option Ordering → Bool
  | some .lt => c = .atMost
  | some .eq => c ≠ .above
  | some .gt => c = .atLeast || c = .above
  | none => false

/-- Whether a value compares as asked with a bound. All values are equal or not, but not all can be
compared otherwise. -/
def relates (c : Comparator) (value bound : Json) : Except Fault Bool :=
  match c with
  | .equal => .ok (value.equal bound)
  | c => do return c.accepts (← value.relate bound)

theorem ofJson_symbol (c : Comparator) : ofJson (.str c.symbol) = .ok c := by
  cases c <;> rfl

end Comparator

/-- A bound on one stat, with what stands for a stat that was not recorded. -/
structure Threshold where
  field : String
  comparator : Comparator
  bound : Json
  missing : Json
  /-- Whether a recorded zero counts as not recorded. -/
  zeroIsMissing : Bool
deriving DecidableEq, Repr

/-- What a rule asks of one stat record. -/
inductive Condition where
  | threshold (t : Threshold)
  /-- The best or the current streak is at least `n`. -/
  | streak (n : Json)
deriving DecidableEq, Repr

namespace Threshold

/-- What stands for a result where lower is better and none was recorded. -/
def unrecorded : Json := .num (.float Double.infinity)

def atLeast (field : String) (n : Json) : Threshold := ⟨field, .atLeast, n, 0, false⟩

def above (field : String) (n : Json) : Threshold := ⟨field, .above, n, 0, false⟩

/-- The best result, where lower is better, is at most `n`. -/
def atMost (field : String) (n : Json) : Threshold := ⟨field, .atMost, n, unrecorded, true⟩

def exactly (field : String) (n : Json) : Threshold := ⟨field, .equal, n, 0, false⟩

/-- The best result, where lower is better, is exactly `n`. -/
def bestExactly (field : String) (n : Json) : Threshold := ⟨field, .equal, n, unrecorded, true⟩

/-- The threshold as shown to people who maintain rules. -/
def text (t : Threshold) : String :=
  "Threshold(" ++ t.field ++ " " ++ t.comparator.symbol ++ " " ++ t.bound.text ++ ")"

end Threshold

namespace Condition

def least (field : String) (n : Number) : Condition := .threshold (.atLeast field (.num n))

def exceeds (field : String) (n : Number) : Condition := .threshold (.above field (.num n))

def best (field : String) (n : Number) : Condition := .threshold (.atMost field (.num n))

def just (field : String) (n : Number) : Condition := .threshold (.exactly field (.num n))

def bestJust (field : String) (n : Number) : Condition := .threshold (.bestExactly field (.num n))

/-- A count that is at most `n`, where nothing recorded counts as zero. -/
def upTo (field : String) (n : Number) : Condition :=
  .threshold ⟨field, .atMost, .num n, 0, false⟩

/-- The condition as shown to people who maintain rules. -/
def text : Condition → String
  | .threshold t => t.text
  | .streak n => "StreakAtLeast(" ++ n.text ++ ")"

end Condition

/-- The counts over all games, badges and challenges. -/
inductive Measure where
  /-- Games with at least one play. -/
  | gamesPlayed
  | totalPlays
  /-- Badges that are unlocked now. -/
  | badgesUnlocked
  /-- Challenges completed since the last reset. -/
  | challengesCompleted
  /-- Badges unlocked since the last reset. -/
  | badgeUnlocks
  /-- Challenges completed in the current generation. -/
  | generationCompleted
deriving DecidableEq, Repr

/-- All measures. -/
def Measure.all : List Measure :=
  [.gamesPlayed, .totalPlays, .badgesUnlocked, .challengesCompleted, .badgeUnlocks,
    .generationCompleted]

/-- The name of a measure as shown to people who maintain rules. -/
def Measure.name : Measure → String
  | .gamesPlayed => "games_played"
  | .totalPlays => "total_plays"
  | .badgesUnlocked => "badges_unlocked"
  | .challengesCompleted => "lifetime_challenges_completed"
  | .badgeUnlocks => "lifetime_badge_unlocks"
  | .generationCompleted => "generation_challenges_completed"

/-- When a badge is earned or a challenge is met. -/
inductive Rule where
  /-- All conditions hold for the record of one game. -/
  | record (game : String) (conditions : List Condition)
  /-- A count compares as asked with a bound. -/
  | counts (measure : Measure) (comparator : Comparator) (bound : Number)
deriving DecidableEq, Repr

/-- The rule as shown to people who maintain rules. -/
def Rule.text : Rule → String
  | .record game conditions =>
    "StatRule(" ++ game ++ ", " ++ ", ".intercalate (conditions.map Condition.text) ++ ")"
  | .counts measure comparator bound =>
    "SnapshotRule(" ++ measure.name ++ " " ++ comparator.symbol ++ " " ++ bound.text ++ ")"

end Arcade
