import Arcade.Json.Basic

/-!
# Tallies

The tally counts what a player did over all games since the last reset, in total and day by day. A
stored count that is missing or cannot be read is zero, as is a negative one.
-/

namespace Arcade

/-- What was done on one day. -/
structure DayLog where
  gamesPlayed : Nat := 0
  /-- In seconds. -/
  timeSpent : Nat := 0
  coinsEarned : Nat := 0
deriving DecidableEq, Repr

/-- What was done since the last reset. -/
structure Tally where
  totalPlays : Nat := 0
  /-- In seconds. -/
  totalTime : Nat := 0
  badgesUnlocked : Nat := 0
  challengesCompleted : Nat := 0
  totalCoins : Nat := 0
  days : Dict DayLog := Dict.empty
deriving DecidableEq, Repr

namespace Tally

/-- A stored count. Only a number beyond all integers is a fault. -/
def count (v : Json) (name : String) : Except Fault Nat := do
  match ← v.member? name with
  | none | some .null => return 0
  | some value =>
    match value.toInt with
    | .ok n => return n.toNat
    | .error .outOfRange => throw .outOfRange
    | .error _ => return 0

end Tally

namespace DayLog

/-- The day that a stored value stands for. -/
def ofJson (v : Json) : Except Fault DayLog := do
  return {
    gamesPlayed := ← Tally.count v "gamesPlayed"
    timeSpent := ← Tally.count v "timeSpent"
    coinsEarned := ← Tally.count v "coinsEarned"
  }

def toJson (d : DayLog) : Json :=
  .obj [("gamesPlayed", .int d.gamesPlayed), ("timeSpent", .int d.timeSpent),
    ("coinsEarned", .int d.coinsEarned)]

end DayLog

namespace Tally

/-- The days that are stored as objects. -/
def daysOfJson : List (String × Json) → Except Fault (List (String × DayLog))
  | [] => return []
  | (day, .obj members) :: rest => do
    let log ← DayLog.ofJson (.obj members)
    return (day, log) :: (← daysOfJson rest)
  | _ :: rest => daysOfJson rest

/-- The tally that a stored value stands for; what is not an object is an empty tally. -/
def ofJson (v : Json) : Except Fault Tally := do
  let v := match v with
    | .obj members => .obj members
    | _ => .obj []
  let logs := match ← v.member? "dailyLogs" with
    | some (.obj members) => members
    | _ => []
  return {
    totalPlays := ← count v "totalPlays"
    totalTime := ← count v "totalTime"
    badgesUnlocked := ← count v "badgesUnlocked"
    challengesCompleted := ← count v "challengesCompleted"
    totalCoins := ← count v "totalCoins"
    days := Dict.ofList (← daysOfJson logs)
  }

def toJson (t : Tally) : Json :=
  .obj [("totalPlays", .int t.totalPlays), ("totalTime", .int t.totalTime),
    ("badgesUnlocked", .int t.badgesUnlocked), ("challengesCompleted", .int t.challengesCompleted),
    ("totalCoins", .int t.totalCoins),
    ("dailyLogs", .obj (t.days.entries.map fun e => (e.1, e.2.toJson)))]

end Tally

end Arcade
