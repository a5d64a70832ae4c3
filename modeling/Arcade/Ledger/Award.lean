import Arcade.Ledger.Play
import Arcade.Rule.Evaluation

/-!
# Badges and challenges of a ledger

A badge is unlocked once and for all, and a challenge is completed once in its generation and only
before its end. Completing a challenge brings its coins. Checking applies all rules at once, and
again as long as a badge was unlocked, because some badges are earned with other badges.
-/

namespace Arcade

/-- The list with the first item that satisfies `p` changed. -/
def changeFirst {α : Type} (p : α → Bool) (change : α → α) : List α → List α
  | [] => []
  | x :: rest => if p x then change x :: rest else x :: changeFirst p change rest

/-- The event of a badge that was unlocked. -/
def Event.ofBadge (b : Badge) : Event where
  kind := .badgeUnlocked
  itemId := some b.id
  title := b.title
  details := [("description", b.description), ("icon", b.icon)]

/-- The event of a challenge that was completed. -/
def Event.ofChallenge (c : Challenge) : Event where
  kind := .challengeCompleted
  itemId := some c.id
  title := c.title
  details := [("reward_coins", .int c.rewardCoins)]

namespace Document

/-- The document with the first badge of an identifier unlocked. -/
def unlock (d : Document) (id : String) (now : Instant) : Document :=
  { d with
    badges := changeFirst (·.id = id)
      (fun b => { b with unlocked := true, unlockedAt := .str now.timestamp }) d.badges
    tally := { d.tally with badgesUnlocked := d.tally.badgesUnlocked + 1 } }

/-- The document with the first challenge of an identifier completed and its coins earned. -/
def complete (d : Document) (id : String) (coins : Nat) (now : Instant) : Document :=
  let d := { d with
    challenges := changeFirst (·.id = id)
      (fun c => { c with completed := true, completedAt := .str now.timestamp }) d.challenges
    tally := { d.tally with
      challengesCompleted := d.tally.challengesCompleted + 1
      totalCoins := d.tally.totalCoins + coins } }
  d.changeDay now fun log => { log with coinsEarned := log.coinsEarned + coins }

end Document

namespace Shelf

/-- Unlocks a badge, unless it is unknown or unlocked already. -/
def unlock (id : String) (now : Instant) : Act Shelf (Option Event) := do
  let d := (← get).ledger.document
  match d.badge? id with
  | none => return none
  | some b =>
    if b.unlocked then return none
    else
      let event := Event.ofBadge b
      keep (d.unlock id now)
      modify fun s => s.emit event
      return some event

/-- Completes a challenge, unless it is unknown, completed already or past its end. -/
def complete (id : String) (now : Instant) : Act Shelf (Option Event) := do
  let d := (← get).ledger.document
  match d.challenge? id with
  | none => return none
  | some c =>
    if c.completed then return none
    else if ← Act.lift (c.isExpired now) then return none
    else
      let event := Event.ofChallenge c
      keep (d.complete id c.rewardCoins now)
      modify fun s => s.emit event
      return some event

/-- Takes the document of a new player. -/
def reset (now : Instant) : Act Shelf Unit := do
  let d ← Act.lift (Document.freshOn now)
  keep (d.withDay now)
  modify fun s => s.emit { kind := .dataReset }

/-- Puts other challenges into the document. -/
def replaceChallenges (challenges : List Challenge) : Act Shelf Unit := do
  keep { (← get).ledger.document with challenges := challenges }
  modify fun s => s.emit { kind := .challengesRefreshed }

/-- Takes a new generation of challenges. -/
def refreshChallenges (now : Instant) : Act Shelf Unit := do
  replaceChallenges (← Act.lift (Challenge.generation now))

/-- Takes a new generation of challenges if it is due, and tells whether it was. -/
def ensureFresh (now : Instant) : Act Shelf Bool := do
  match ← Act.lift (Challenge.replacement? (← get).ledger.document.challenges now) with
  | some challenges =>
    replaceChallenges challenges
    return true
  | none => return false

/-! ## Checking the rules -/

/-- Unlocks badges one after the other and returns the events. -/
def unlockAll (now : Instant) : List String → Act Shelf (List Event)
  | [] => return []
  | id :: rest => do
    let event ← unlock id now
    return event.toList ++ (← unlockAll now rest)

/-- Unlocks all badges that are earned, in the order of the document. -/
def unlockEarned (now : Instant) : Act Shelf (List Event) := do
  let d := (← get).ledger.document
  let earned := d.snapshot.earnedBadges
  unlockAll now ((d.badges.map Badge.id).filter (· ∈ earned))

/-- Unlocks earned badges until none is earned. The fuel bounds the number of rounds. -/
def unlockRounds (now : Instant) : Nat → Act Shelf (List Event)
  | 0 => return []
  | fuel + 1 => do
    let events ← unlockEarned now
    if events = [] then return []
    return events ++ (← unlockRounds now fuel)

/-- Unlocks all badges that are earned, also with the badges unlocked on the way. Every round but
the last unlocks a badge, so there are at most as many rounds as badges and one. -/
def checkBadges (now : Instant) : Act Shelf (List Event) := do
  unlockRounds now ((← get).ledger.document.badges.length + 1)

/-- Completes challenges one after the other and returns the events. -/
def completeAll (now : Instant) : List String → Act Shelf (List Event)
  | [] => return []
  | id :: rest => do
    let event ← complete id now
    return event.toList ++ (← completeAll now rest)

/-- Completes all challenges that are met, in the order of the document, once the challenges are not
due for replacement. -/
def checkChallenges (now : Instant) : Act Shelf (List Event) := do
  let _ ← ensureFresh now
  let d := (← get).ledger.document
  let met := d.snapshot.metChallenges
  completeAll now ((d.challenges.map Challenge.id).filter (· ∈ met))

/-- Checks badges and challenges until neither changes. The fuel bounds the number of rounds. -/
def settleRounds (now : Instant) : Nat → Act Shelf (List Event)
  | 0 => return []
  | fuel + 1 => do
    let badges ← checkBadges now
    let events := badges ++ (← checkChallenges now)
    if events = [] then return []
    return events ++ (← settleRounds now fuel)

/-- Checks badges and challenges until neither changes: completed challenges earn badges. Every
round but the last unlocks a badge or completes a challenge of the current generation or of the
one that replaces it. -/
def settle (now : Instant) : Act Shelf (List Event) := do
  let d := (← get).ledger.document
  settleRounds now (d.badges.length + d.challenges.length + Challenge.catalog.length + 2)

end Shelf

end Arcade
