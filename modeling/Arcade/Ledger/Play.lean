import Arcade.Ledger.Opening

/-!
# Playing

What a game reports: new values of stats, a play, time that was spent and a round that was won or
lost. Plays and time are counted for the game, in total and for the day.
-/

namespace Arcade

namespace Document

/-- The document with another record of a game. -/
def withRecord (d : Document) (game : String) (record : StatRecord) : Document :=
  { d with progress := d.progress.insert game record }

/-- The document with the log of the day changed. -/
def changeDay (d : Document) (now : Instant) (change : DayLog → DayLog) : Document :=
  let log := (d.tally.days.get? now.dayKey).getD {}
  { d with tally := { d.tally with days := d.tally.days.insert now.dayKey (change log) } }

/-- A stat of a game, zero if it is not recorded. -/
def stat (d : Document) (game field : String) : Number :=
  ((d.record game).get? field).getD 0

/-- The document with a stat of a game set. -/
def setStat (d : Document) (game field : String) (value : Number) : Document :=
  d.withRecord game ((d.record game).insert field value)

/-- The document after one more play of a game. -/
def countPlay (d : Document) (game : String) (now : Instant) : Document :=
  let d := d.setStat game "plays" (d.stat game "plays").succ
  let d := { d with tally := { d.tally with totalPlays := d.tally.totalPlays + 1 } }
  d.changeDay now fun log => { log with gamesPlayed := log.gamesPlayed + 1 }

/-- The document after some seconds with a game. -/
def addTime (d : Document) (game : String) (seconds : Nat) (now : Instant) :
    Except Fault Document := do
  let d := d.setStat game "timeSpent" (← (d.stat game "timeSpent").add (.int seconds))
  let d := { d with tally := { d.tally with totalTime := d.tally.totalTime + seconds } }
  return d.changeDay now fun log => { log with timeSpent := log.timeSpent + seconds }

/-- The document after a round: a win prolongs the streak, a loss ends it, and a draw leaves it. -/
def addRound (d : Document) (game : String) (won : Option Bool) : Document :=
  let streak := match won with
    | some true => (d.stat game "streak").succ
    | some false => 0
    | none => d.stat game "streak"
  (d.setStat game "streak" streak).setStat game "bestStreak"
    ((d.stat game "bestStreak").max streak)

end Document

namespace Shelf

/-- Merges new values of stats into the record of a game. Values that are not stats are dropped, and
nothing is written if none are left. -/
def update (game : String) (values : Json) : Act Shelf Unit := do
  let kept := StatRecord.ofJson values
  unless kept.entries = [] do
    let d := (← get).ledger.document
    keep (d.withRecord game ((d.record game).insertAll kept.entries))

/-- Counts a play of a game. -/
def countPlay (game : String) (now : Instant) : Act Shelf Unit := do
  keep ((← get).ledger.document.countPlay game now)

/-- Counts time that was spent with a game, in whole seconds. No time and negative times are not
counted. -/
def addTime (game : String) (seconds : Json) (now : Instant) : Act Shelf Unit := do
  let n ← Act.lift seconds.number
  unless n.le 0 do
    let whole ← Act.lift n.toInt
    keep (← Act.lift ((← get).ledger.document.addTime game whole.toNat now))

/-- Counts a round of a game and returns the streak. -/
def addRound (game : String) (won : Option Bool) : Act Shelf Number := do
  keep ((← get).ledger.document.addRound game won)
  return (← get).ledger.document.stat game "streak"

end Shelf

end Arcade
