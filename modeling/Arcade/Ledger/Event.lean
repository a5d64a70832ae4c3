import Arcade.Json.Display

/-!
# Events of the ledger

The ledger tells its listeners what happened: a badge was unlocked, a challenge was completed, the
challenges were replaced, or all progress was reset or imported.
-/

namespace Arcade

/-- The kinds of events. -/
inductive EventKind where
  | badgeUnlocked
  | challengeCompleted
  | challengesRefreshed
  | dataReset
  | dataImported
deriving DecidableEq, Repr

namespace EventKind

def name : EventKind → String
  | .badgeUnlocked => "badge_unlocked"
  | .challengeCompleted => "challenge_completed"
  | .challengesRefreshed => "challenges_refreshed"
  | .dataReset => "data_reset"
  | .dataImported => "data_imported"

def all : List EventKind :=
  [badgeUnlocked, challengeCompleted, challengesRefreshed, dataReset, dataImported]

def ofName? (name : String) : Option EventKind := all.find? (·.name = name)

end EventKind

/-- What happened, to which badge or challenge, and more about it. -/
structure Event where
  kind : EventKind
  itemId : Option String := none
  title : Json := .null
  details : List (String × Json) := []
deriving DecidableEq, Repr

/-- The event as a short notice to the player. -/
def Event.message (e : Event) : String :=
  match e.kind with
  | .badgeUnlocked => "Badge Unlocked: " ++ e.title.text
  | .challengeCompleted =>
    "Challenge Completed: " ++ e.title.text ++ " (+" ++
      ((valueAt? "reward_coins" e.details).getD (.int 0)).text ++ " coins)"
  | .challengesRefreshed => "Daily challenges refreshed"
  | .dataReset => "All progress has been reset"
  | .dataImported => "Progress data imported"

end Arcade
