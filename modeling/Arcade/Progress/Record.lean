import Arcade.Json.Basic

/-!
# Stat records

The progress in one game is a record of named stats. The names are a closed vocabulary. All stats
but the coins per second are counters. A record that comes from outside is cleaned: what is not a
known name with a number is dropped, a negative number becomes zero, and a counter without a
fraction becomes an integer.
-/

namespace Arcade

/-- The stats of one game. -/
abbrev StatRecord := Dict Number

namespace StatRecord

/-- The names of stats. -/
def fields : List String :=
  ["plays", "wins", "losses", "draws", "score", "bestScore", "bestTime", "bestMoves", "level",
    "solved", "hintsUsed", "coins", "cps", "clicks", "timeSpent", "streak", "bestStreak"]

/-- The stats that may have a fraction by their nature. -/
def fractional : List String := ["cps"]

/-- A negative number becomes zero. -/
def atLeastZero (n : Number) : Number := if n.lt 0 then 0 else n

/-- A number without a fraction becomes an integer. -/
def whole (n : Number) : Number :=
  match n with
  | .int n => .int n
  | .float x => if Double.isIntegral x then .int ((Double.truncate? x).getD 0) else .float x

/-- The stat that a value from outside is kept as, if it is kept. -/
def clean? (name : String) (value : Json) : Option Number :=
  if name ∈ fields then
    match value with
    | .num n =>
      let n := atLeastZero n
      some (if name ∈ fractional then n else whole n)
    | _ => none
  else none

/-- The record of the entries that are kept. -/
def ofEntries (entries : List (String × Json)) : StatRecord :=
  Dict.ofList (entries.filterMap fun e => (clean? e.1 e.2).map fun n => (e.1, n))

/-- The record that a value from outside is kept as; what is not an object has no stats. -/
def ofJson : Json → StatRecord
  | .obj members => ofEntries members
  | _ => Dict.empty

def toJson (r : StatRecord) : Json :=
  .obj (r.entries.map fun e => (e.1, .num e.2))

end StatRecord

end Arcade
