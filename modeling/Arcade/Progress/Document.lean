import Arcade.Badge.Basic
import Arcade.Challenge.Basic
import Arcade.Game.Registry
import Arcade.Progress.Record
import Arcade.Progress.Tally

/-!
# Progress documents

All progress of a player is one document: the stat records by game, the badges, the challenges of
the current generation and the tally. Reading a stored document fails only if its outer shape is
wrong. Inside, badges that cannot be read are left out, and one challenge that cannot be read
empties the list of challenges, which are made anew every day.
-/

namespace Arcade

/-- All progress of a player. -/
structure Document where
  progress : Dict StatRecord
  badges : List Badge
  challenges : List Challenge
  tally : Tally
deriving DecidableEq, Repr

namespace Document

/-- The record of a game that a player starts with. -/
def startRecord (g : Game) : StatRecord :=
  Dict.ofList (g.defaults.map fun e => (e.1, .int e.2))

/-- The document of a new player. -/
def fresh (challenges : List Challenge) : Document where
  progress := Dict.ofList (Game.registry.map fun g => (g.id, startRecord g))
  badges := Badge.fresh
  challenges := challenges
  tally := {}

/-- The badges of a stored list that can be read. -/
def badgesOfJson : Json → Except Fault (List Badge)
  | .arr entries => .ok (entries.filterMap fun e => (Badge.ofJson e).toOption)
  | _ => .error .badgesNotList

/-- The challenges of a stored list, or none if one of them cannot be read. Only a reward beyond
all integers is a fault. -/
def challengesOfJson : Json → Except Fault (List Challenge)
  | .arr entries =>
    match entries.mapM Challenge.ofJson with
    | .ok challenges => .ok challenges
    | .error .outOfRange => .error .outOfRange
    | .error _ => .ok []
  | _ => .ok []

/-- The document that a stored value stands for. -/
def ofJson (v : Json) : Except Fault Document := do
  match v with
  | .obj members =>
    let progress ← match ← v.required "gameProgress" with
      | .obj games => pure games
      | _ => throw .progressNotObject
    let badges ← badgesOfJson (← v.required "badges")
    let challenges ← challengesOfJson ((valueAt? "challenges" members).getD (.arr []))
    let tally ← Tally.ofJson ((valueAt? "sessionStats" members).getD (.obj []))
    return {
      progress := Dict.ofList (progress.map fun e => (e.1, StatRecord.ofJson e.2))
      badges := badges
      challenges := challenges
      tally := tally
    }
  | _ => throw .documentNotObject

def toJson (d : Document) : Json :=
  .obj [("gameProgress", .obj (d.progress.entries.map fun e => (e.1, e.2.toJson))),
    ("badges", .arr (d.badges.map Badge.toJson)),
    ("challenges", .arr (d.challenges.map Challenge.toJson)),
    ("sessionStats", d.tally.toJson)]

/-- The first badge with an identifier. -/
def badge? (d : Document) (id : String) : Option Badge :=
  d.badges.find? (·.id = id)

/-- The first challenge with an identifier. -/
def challenge? (d : Document) (id : String) : Option Challenge :=
  d.challenges.find? (·.id = id)

/-- The record of a game, empty if there is none. -/
def record (d : Document) (game : String) : StatRecord :=
  (d.progress.get? game).getD Dict.empty

end Document

end Arcade
