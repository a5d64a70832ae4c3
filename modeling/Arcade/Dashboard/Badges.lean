import Arcade.Calendar.Timestamp
import Arcade.Json.Order
import Arcade.Progress.Document
import Arcade.Sorting.Schedule
import Arcade.Text.Search

/-!
# The badge screen

Badges are grouped by game, filtered by a tab and by words, and sorted in one of four orders. All
sorting is stable: badges that the order does not tell apart stay as they were. Badges with texts
that are not texts can be listed, but not searched or sorted by them.
-/

namespace Arcade.Dashboard

/-! ## Groups -/

/-- Adds a badge to the group of its game, or as a new group at the end. -/
def addToGroup (b : Badge) : List (Json × List Badge) → List (Json × List Badge)
  | [] => [(b.game, [b])]
  | g :: rest =>
    if g.1.sameKey b.game then (g.1, g.2 ++ [b]) :: rest else g :: addToGroup b rest

/-- The badges in groups by game, in order of first occurrence. -/
def badgesByGame (badges : List Badge) : Except Fault (List (Json × List Badge)) :=
  if badges.all (·.game.isKey) then .ok (badges.foldl (fun groups b => addToGroup b groups) [])
  else .error .wrongKind

/-! ## Filters -/

/-- Whether a badge is on a tab: all badges, the unlocked, the locked, or those of one game. -/
def isOnTab (tab : Json) (b : Badge) : Bool :=
  if tab = .str "unlocked" then b.unlocked
  else if tab = .str "locked" then !b.unlocked
  else tab = .str "all" || b.game.equal tab

/-- Whether one of the texts, tried in order, holds the words in any case. -/
def anyHolds (words : String) : List Json → Except Fault Bool
  | [] => .ok false
  | v :: rest => do
    let s ← v.string
    if Text.mentions (Text.lower s) words then return true else anyHolds words rest

/-- Whether a badge is found by words. -/
def isFound (words : String) (b : Badge) : Except Fault Bool :=
  anyHolds words [b.title, b.description, b.game, b.requirement]

/-- The badges on a tab that are found by a query; an empty query finds all. -/
def filterBadges (badges : List Badge) (tab query : Json) : Except Fault (List Badge) := do
  let onTab := badges.filter (isOnTab tab)
  let words := Text.lower (Text.trim (← query.string))
  if words = "" then return onTab else onTab.filterM (isFound words)

/-! ## Orders -/

/-- The orders of the badge screen. -/
inductive BadgeOrder where
  /-- Unlocked badges first, each part by game. -/
  | standard
  | newest
  | oldest
  | alphabetical
deriving DecidableEq, Repr

def BadgeOrder.ofJson (v : Json) : Except Fault BadgeOrder :=
  match v with
  | .str "default" => .ok .standard
  | .str "newest" => .ok .newest
  | .str "oldest" => .ok .oldest
  | .str "alphabetical" => .ok .alphabetical
  | v => .error (.unknownOrder v.text)

/-- Pairs each badge with a key. -/
def withKeys (key : Badge → Except Fault α) (badges : List Badge) :
    Except Fault (List (α × Badge)) :=
  badges.mapM fun b => do return (← key b, b)

/-- Sorts pairs by their keys and drops the keys. -/
def sortByKey (le : α → α → Bool) (pairs : List (α × Badge)) : List Badge :=
  (pairs.mergeSort fun a b => le a.1 b.1).map Prod.snd

/-- The time of unlocking, the earliest of all where none can be read. -/
def unlockTime (b : Badge) : Except Fault Instant := do
  return (← Timestamp.ofJson b.unlockedAt).getD Instant.first

/-- Whether two badges compare in the standard order. -/
def comparable (a b : Badge) : Bool :=
  a.unlocked != b.unlocked || (a.game.compare? b.game).isSome

/-- The standard order: the unlocked before the locked, each by game. -/
def standardLe (a b : Badge) : Bool :=
  if a.unlocked = b.unlocked then a.game.compare? b.game != some .gt else a.unlocked

/-- Whether a badge comes before another one in the standard order. -/
def standardBefore (a b : Badge) : Except Fault Bool :=
  if a.unlocked = b.unlocked then a.game.before b.game else .ok a.unlocked

/-- Whether all pairs from the list are related. -/
def allPairs (r : α → α → Bool) : List α → Bool
  | [] => true
  | x :: xs => xs.all (r x) && allPairs r xs

/-- The badges in an order. -/
def sortBadges (badges : List Badge) (order : BadgeOrder) : Except Fault (List Badge) :=
  match order with
  | .alphabetical => do
    let pairs ← withKeys (fun b => do return Text.lower (← b.title.string)) badges
    return sortByKey Text.le pairs
  | .oldest => do
    let pairs ← withKeys unlockTime (badges.filter (·.unlocked))
    return sortByKey (fun a b => decide (a ≤ b)) pairs ++ badges.filter (!·.unlocked)
  | .newest => do
    let pairs ← withKeys unlockTime (badges.filter (·.unlocked))
    return sortByKey (fun a b => decide (b ≤ a)) pairs ++ badges.filter (!·.unlocked)
  | .standard =>
    if allPairs comparable badges then .ok (badges.mergeSort standardLe)
    else Sorting.sort standardBefore badges

end Arcade.Dashboard
