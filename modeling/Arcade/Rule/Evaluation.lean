import Arcade.Progress.Document
import Arcade.Rule.Basic

/-!
# Evaluating rules

Rules are evaluated over a snapshot of all progress, in which the record of a game may be any value
at all, and the counts since the last reset any number. A rule that stumbles over a value that it
cannot use does not hold, and it does not keep other rules from being evaluated.
-/

namespace Arcade

/-- Progress as rules see it. -/
structure Snapshot where
  records : Dict Json
  badges : List Badge
  challenges : List Challenge
  /-- The badges unlocked since the last reset. -/
  badgesUnlocked : Number
  /-- The challenges completed since the last reset. -/
  challengesCompleted : Number

namespace Document

/-- The document as rules see it. -/
def snapshot (d : Document) : Snapshot where
  records := d.progress.mapValues fun _ r => r.toJson
  badges := d.badges
  challenges := d.challenges
  badgesUnlocked := .int d.tally.badgesUnlocked
  challengesCompleted := .int d.tally.challengesCompleted

end Document

namespace Threshold

/-- The value to compare: the stat, or what stands for a stat that was not recorded. -/
def read (t : Threshold) (record : Json) : Except Fault Json := do
  match ← record.member? t.field with
  | none | some .null => return t.missing
  | some value => return if t.zeroIsMissing && value.equal 0 then t.missing else value

/-- Whether the threshold holds for a record. -/
def holds (t : Threshold) (record : Json) : Except Fault Bool := do
  t.comparator.relates (← t.read record) t.bound

end Threshold

/-- A stat to compare, zero if it was not recorded or is empty. -/
def Json.valueOrZero (record : Json) (field : String) : Except Fault Json := do
  match ← record.member? field with
  | some value => return if value.truthy then value else 0
  | none => return 0

/-- A stat to add. -/
def Json.statOrZero (record : Json) (field : String) : Except Fault Number := do
  (← record.valueOrZero field).number

/-- Whether a condition holds for a record. -/
def Condition.holds (c : Condition) (record : Json) : Except Fault Bool :=
  match c with
  | .threshold t => t.holds record
  | .streak n => do
    let best ← record.valueOrZero "bestStreak"
    let current ← record.valueOrZero "streak"
    let isBetter ← Comparator.above.relates current best
    Comparator.atLeast.relates (if isBetter then current else best) n

namespace Measure

/-- The number of games with at least one play. -/
def countPlayed : List Json → Except Fault Nat
  | [] => .ok 0
  | record :: rest => do
    let plays ← record.statOrZero "plays"
    return (if Number.lt 0 plays then 1 else 0) + (← countPlayed rest)

/-- The sum of all plays, added from the left. -/
def sumPlays (sum : Number) : List Json → Except Fault Number
  | [] => .ok sum
  | record :: rest => do
    let plays ← record.statOrZero "plays"
    sumPlays (← sum.add plays) rest

/-- The value of a measure. -/
def value (m : Measure) (s : Snapshot) : Except Fault Number :=
  match m with
  | .gamesPlayed => do return .int (← countPlayed s.records.values)
  | .totalPlays => sumPlays 0 s.records.values
  | .badgesUnlocked => .ok (.int (s.badges.countP (·.unlocked)))
  | .challengesCompleted => .ok s.challengesCompleted
  | .badgeUnlocks => .ok s.badgesUnlocked
  | .generationCompleted => .ok (.int (s.challenges.countP (·.completed)))

end Measure

namespace Rule

/-- Whether all conditions hold, tried in order. -/
def allHold (record : Json) : List Condition → Except Fault Bool
  | [] => .ok true
  | c :: rest => do if ← c.holds record then allHold record rest else return false

/-- The record that conditions look at: an empty one in place of what is missing or empty. -/
def recordOf (s : Snapshot) (game : String) : Json :=
  match s.records.get? game with
  | some found => if found.truthy then found else .obj []
  | none => .obj []

/-- What a rule says about a snapshot. -/
def eval (r : Rule) (s : Snapshot) : Except Fault Bool :=
  match r with
  | .record game conditions => allHold (recordOf s game) conditions
  | .counts measure comparator bound => do return comparator.holds (← measure.value s) bound

/-- Whether a rule holds; one that fails does not. -/
def holds (r : Rule) (s : Snapshot) : Bool :=
  match r.eval s with
  | .ok b => b
  | .error _ => false

end Rule

namespace Snapshot

/-- Whether the rule for an identifier, if there is one, holds. -/
def satisfies (s : Snapshot) (rule? : String → Option Rule) (id : String) : Bool :=
  match rule? id with
  | some r => r.holds s
  | none => false

/-- The identifiers of the locked badges that are earned. -/
def earnedBadges (s : Snapshot) : List String :=
  ((s.badges.filter (!·.unlocked)).map Badge.id).filter (s.satisfies Badge.rule?)

/-- The identifiers of the open challenges that are met. -/
def metChallenges (s : Snapshot) : List String :=
  ((s.challenges.filter (!·.completed)).map Challenge.id).filter (s.satisfies Challenge.rule?)

end Snapshot

end Arcade
