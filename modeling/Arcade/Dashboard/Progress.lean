import Arcade.Number.Total
import Arcade.Progress.Document

/-!
# Progress at a glance

How many badges are unlocked, how many challenges of the generation are completed, what coins they
bring and brought, and which game is played most and best. Shares are told in whole percent, a half
being rounded up.
-/

namespace Arcade.Dashboard

/-- A number rounded to an integer, a half being rounded up. -/
def roundHalfUp (n : Number) : Except Fault Int := do
  (← n.add (.float 0.5)).toInt

/-- A share in percent, zero of nothing. -/
def percent (part whole : Nat) : Except Fault Int :=
  if whole = 0 then .ok 0
  else do roundHalfUp (.float (← Number.div (.int (part * 100)) (.int whole)))

/-- How far a list is done: the number done, the number of all and the share in percent. -/
structure Share where
  part : Nat
  whole : Nat
  percent : Int
deriving DecidableEq, Repr

def share (part whole : Nat) : Except Fault Share := do
  return ⟨part, whole, ← percent part whole⟩

/-- The share of badges that are unlocked. -/
def badgeProgress (d : Document) : Except Fault Share :=
  share (d.badges.countP (·.unlocked)) d.badges.length

/-- The share of challenges of the generation that are completed. -/
def challengeProgress (d : Document) : Except Fault Share :=
  share (d.challenges.countP (·.completed)) d.challenges.length

/-- The coins that the open challenges bring. -/
def coinsAvailable (d : Document) : Nat :=
  total ((d.challenges.filter (!·.completed)).map Challenge.rewardCoins)

/-- The coins that the completed challenges of the generation brought. -/
def coinsEarned (d : Document) : Nat :=
  total ((d.challenges.filter (·.completed)).map Challenge.rewardCoins)

/-! ## Games -/

/-- A stat, zero if it is not recorded. -/
def stat (r : StatRecord) (field : String) : Number := (r.get? field).getD 0

/-- The first entry with the highest number above a bound. -/
def highest (bound : Number) : List (String × Number) → Option (String × Number)
  | [] => none
  | e :: rest =>
    if bound.lt e.2 then some ((highest e.2 rest).getD e) else highest bound rest

/-- The name of the game with most plays. -/
def mostPlayedGame (d : Document) : String :=
  match highest 0 (d.progress.entries.map fun e => (e.1, stat e.2 "plays")) with
  | some (game, _) => Game.displayName game
  | none => "None yet"

/-- The win rate of a record with wins and plays. -/
def winRate? (r : StatRecord) : Except Fault (Option Float) :=
  let wins := stat r "wins"
  let plays := stat r "plays"
  if wins.isZero || plays.isZero then .ok none
  else do return some (← wins.div plays)

/-- The best result so far: the number to beat and the words for it. -/
structure Highlight where
  metric : Number
  words : String

/-- The best win rate over the entries, told in percent. -/
def bestWinRate (best : Option Highlight) :
    List (String × StatRecord) → Except Fault (Option Highlight)
  | [] => .ok best
  | (game, r) :: rest => do
    match ← winRate? r with
    | none => bestWinRate best rest
    | some rate =>
      let bound := (best.map Highlight.metric).getD (.float 0.0)
      if bound.lt (.float rate) then
        let percent ← roundHalfUp (.float (rate * 100.0))
        let words := Game.displayName game ++ " (" ++ toString percent ++ "% win rate)"
        bestWinRate (some ⟨.float rate, words⟩) rest
      else bestWinRate best rest

/-- What a game without wins is measured by, and the words for a result; games that are not
measured and results that are not recorded have none. -/
def specialMetric? (game : String) (r : StatRecord) :
    Except Fault (Option (Number × Except Fault String)) :=
  let name := Game.displayName game
  let measured (field : String) (metric : Number → Except Fault (Number × Except Fault String)) :
      Except Fault (Option (Number × Except Fault String)) :=
    let n := stat r field
    if n.isZero then .ok none else do return some (← metric n)
  if game = "reaction-speed" then
    measured "bestTime" fun time => do
      let speed ← (Number.int 100).sub (.float (← time.div 5))
      let metric := Number.max 0 speed
      return (metric, do
        return name ++ " (" ++ toString (← roundHalfUp metric) ++ "% speed)")
  else if game = "memory-match" then
    measured "level" fun level => do
      return (← level.mul 25, .ok (name ++ " (Level " ++ level.text ++ ")"))
  else if game = "trivia-quiz" then
    measured "bestScore" fun score => do
      return (← score.mul 20, .ok (name ++ " (Best Score " ++ score.text ++ ")"))
  else .ok none

/-- The best result in the games that are measured in their own way. -/
def bestSpecial (best : Option Highlight) :
    List (String × StatRecord) → Except Fault (Option Highlight)
  | [] => .ok best
  | (game, r) :: rest => do
    match ← specialMetric? game r with
    | none => bestSpecial best rest
    | some (metric, words) =>
      let bound := (best.map Highlight.metric).getD (.float 0.0)
      if bound.lt metric then
        bestSpecial (some ⟨metric, ← words⟩) rest
      else bestSpecial best rest

/-- The best performance in one line: the best win rate or, without one, the best result in the
games that are measured in their own way. -/
def bestPerformance (d : Document) : Except Fault String := do
  match ← bestWinRate none d.progress.entries with
  | some best => return best.words
  | none =>
    match ← bestSpecial none d.progress.entries with
    | some best => return best.words
    | none => return "No competitive games played yet"

/-! ## Days -/

/-- The days with the given names in order, at most so many of the last ones. Zero leaves all, and
a negative number leaves out that many of the first. -/
def lastDays (days : Int) (names : List String) : List String :=
  if 0 < days then names.drop (names.length - days.toNat)
  else names.drop (-days).toNat

/-- What was done on the last days, the oldest first. -/
def dailyActivity (d : Document) (days : Int) : List (String × DayLog) :=
  let names := d.tally.days.names.mergeSort Text.le
  (lastDays days names).filterMap fun day => (d.tally.days.get? day).map fun log => (day, log)

/-- The number of days that a value asks for. -/
def daysOf : Json → Except Fault Int
  | .num (.int n) => .ok n
  | .bool b => .ok (if b then 1 else 0)
  | _ => .error .wrongKind

end Arcade.Dashboard
