import Arcade.Proofs.Ledger.Awards
import Arcade.Proofs.Ledger.Errand

/-!
# Mutations

A mutation is an operation on one item: the record of a game, a badge or a challenge. What it
answers and what it makes of the item depends on that item alone. To everything else it only adds:
to the counts of the tally and to the log of the day.
-/

namespace Arcade

/-! ## What is counted -/

namespace DayLog

def add (a b : DayLog) : DayLog where
  gamesPlayed := a.gamesPlayed + b.gamesPlayed
  timeSpent := a.timeSpent + b.timeSpent
  coinsEarned := a.coinsEarned + b.coinsEarned

theorem add_right_comm (a b c : DayLog) : (a.add b).add c = (a.add c).add b := by
  simp only [add, Nat.add_right_comm]

end DayLog

/-- What a mutation adds to the tally. -/
structure Gain where
  plays : Nat := 0
  time : Nat := 0
  badges : Nat := 0
  challenges : Nat := 0
  coins : Nat := 0
  /-- What is added to the log of the day, if that log is touched. -/
  daily : Option DayLog := none
deriving DecidableEq

namespace Tally

/-- The tally with something gained on a day. -/
def gain (t : Tally) (g : Gain) (day : String) : Tally where
  totalPlays := t.totalPlays + g.plays
  totalTime := t.totalTime + g.time
  badgesUnlocked := t.badgesUnlocked + g.badges
  challengesCompleted := t.challengesCompleted + g.challenges
  totalCoins := t.totalCoins + g.coins
  days := g.daily.elim t.days fun log => t.days.insert day (((t.days.get? day).getD {}).add log)

/-- It does not matter what is gained first. -/
theorem gain_right_comm (t : Tally) (g g' : Gain) (day : String) :
    (t.gain g day).gain g' day = (t.gain g' day).gain g day := by
  unfold gain
  congr 1
  · exact Nat.add_right_comm ..
  · exact Nat.add_right_comm ..
  · exact Nat.add_right_comm ..
  · exact Nat.add_right_comm ..
  · exact Nat.add_right_comm ..
  · cases g.daily with
    | none => rfl
    | some log =>
      cases g'.daily with
      | none => rfl
      | some log' =>
        simp only [Option.elim_some, Dict.get?_insert_self, Option.getD_some, Dict.insert_insert,
          DayLog.add_right_comm]

end Tally

/-! ## Items -/

/-- What a mutation is about. -/
inductive Item where
  | game (name : String)
  | badge (id : String)
  | challenge (id : String)
deriving DecidableEq

/-- A change of one item, with what is gained. -/
inductive Alteration where
  | record (game : String) (stats : StatRecord) (gain : Gain)
  | unlock (id : String)
  | complete (id : String) (coins : Nat)
deriving DecidableEq

namespace Alteration

def item : Alteration → Item
  | record game _ _ => .game game
  | unlock id => .badge id
  | complete id _ => .challenge id

def gain : Alteration → Gain
  | record _ _ gain => gain
  | unlock _ => { badges := 1 }
  | complete _ coins =>
    { challenges := 1, coins := coins, daily := some { coinsEarned := coins } }

/-- The records of all games after a change of one item. -/
def progress : Alteration → Dict StatRecord → Dict StatRecord
  | .record game stats _ => fun progress => progress.insert game stats
  | _ => id

def badges (now : Instant) : Alteration → List Badge → List Badge
  | .unlock id => changeFirst (·.id = id) (·.unlockedOn now)
  | _ => id

def challenges (now : Instant) : Alteration → List Challenge → List Challenge
  | .complete id _ => changeFirst (·.id = id) (·.completedOn now)
  | _ => id

end Alteration

namespace Document

/-- The document with one item changed. -/
def alter (d : Document) (now : Instant) (a : Alteration) : Document where
  progress := a.progress d.progress
  badges := a.badges now d.badges
  challenges := a.challenges now d.challenges
  tally := d.tally.gain a.gain now.dayKey

/-- The streak of a game after a round. -/
def streakAfter (d : Document) (game : String) (won : Option Bool) : Number :=
  match won with
  | some true => (d.stat game "streak").succ
  | some false => 0
  | none => d.stat game "streak"

variable (d : Document) (now : Instant) (game id : String)

theorem withRecord_eq_alter (record : StatRecord) :
    d.withRecord game record = d.alter now (.record game record {}) := rfl

theorem countPlay_eq_alter : d.countPlay game now = d.alter now (.record game
    ((d.record game).insert "plays" (d.stat game "plays").succ)
    { plays := 1, daily := some { gamesPlayed := 1 } }) := rfl

theorem unlock_eq_alter : d.unlock id now = d.alter now (.unlock id) := rfl

theorem complete_eq_alter (coins : Nat) :
    d.complete id coins now = d.alter now (.complete id coins) := rfl

theorem addTime_eq_alter (seconds : Nat) : d.addTime game seconds now =
    ((d.stat game "timeSpent").add (.int seconds)).map fun sum =>
      d.alter now (.record game ((d.record game).insert "timeSpent" sum)
        { time := seconds, daily := some { timeSpent := seconds } }) := by
  unfold addTime
  cases (d.stat game "timeSpent").add (.int seconds) <;> rfl

theorem addRound_eq_alter (won : Option Bool) :
    d.addRound game won = d.alter now (.record game
      (((d.record game).insert "streak" (d.streakAfter game won)).insert "bestStreak"
        ((d.stat game "bestStreak").max (d.streakAfter game won))) {}) := by
  unfold addRound setStat withRecord record alter streakAfter
  simp only [Dict.get?_insert_self, Option.getD_some, Dict.insert_insert]
  rfl

/-- The streak of a game after a round is the one that was counted. -/
theorem stat_addRound (won : Option Bool) :
    (d.addRound game won).stat game "streak" = d.streakAfter game won := by
  have hne : ("streak" : String) ≠ "bestStreak" := by decide
  rw [addRound_eq_alter _ default, stat, record, alter, Alteration.progress,
    Dict.get?_insert_self, Option.getD_some, Dict.get?_insert_of_ne hne, Dict.get?_insert_self]
  rfl

end Document

/-! ## Mutations -/

/-- The operations on one item. -/
inductive Mutation where
  | update (game : String) (values : Json)
  | countPlay (game : String)
  | addTime (game : String) (seconds : Json)
  | addRound (game : String) (won : Option Bool)
  | unlock (id : String)
  | complete (id : String)
deriving DecidableEq, Repr

/-- What a mutation decides on: its answer, and the change that it makes, if any. -/
abbrev Decision := Except Fault (Operation.Answer × Option Alteration)

namespace Mutation

def operation : Mutation → Operation
  | update game values => .update game values
  | countPlay game => .countPlay game
  | addTime game seconds => .addTime game seconds
  | addRound game won => .addRound game won
  | unlock id => .unlock id
  | complete id => .complete id

def item : Mutation → Item
  | update game _ | countPlay game | addTime game _ | addRound game _ => .game game
  | unlock id => .badge id
  | complete id => .challenge id

/-- The whole seconds of a time that is counted. -/
def wholeSeconds (seconds : Json) : Except Fault (Option Nat) := do
  let n ← seconds.number
  if n.le 0 then return none
  return some (← n.toInt).toNat

/-- What a mutation of a document decides on. -/
def decide (now : Instant) (d : Document) : Mutation → Decision
  | update game values =>
    let kept := StatRecord.ofJson values
    return (.done, if kept.entries = [] then none else
      some (.record game ((d.record game).insertAll kept.entries) {}))
  | countPlay game =>
    return (.done, some (.record game ((d.record game).insert "plays" (d.stat game "plays").succ)
      { plays := 1, daily := some { gamesPlayed := 1 } }))
  | addTime game seconds =>
    match wholeSeconds seconds with
    | .error e => .error e
    | .ok none => .ok (.done, none)
    | .ok (some whole) => ((d.stat game "timeSpent").add (.int whole)).map fun sum =>
      (.done, some (.record game ((d.record game).insert "timeSpent" sum)
        { time := whole, daily := some { timeSpent := whole } }))
  | addRound game won =>
    let streak := d.streakAfter game won
    return (.streak streak, some (.record game (((d.record game).insert "streak" streak).insert
      "bestStreak" ((d.stat game "bestStreak").max streak)) {}))
  | unlock id =>
    match d.badge? id with
    | none => return (.award none, none)
    | some b =>
      if b.unlocked then return (.award none, none)
      else return (.award (some (.ofBadge b)), some (.unlock id))
  | complete id =>
    match d.challenge? id with
    | none => return (.award none, none)
    | some c => do
      if c.completed then return (.award none, none)
      else if ← c.isExpired now then return (.award none, none)
      else return (.award (some (.ofChallenge c)), some (.complete id c.rewardCoins))

/-- What a mutation decides to change is its item. -/
theorem item_of_decide {m : Mutation} {d : Document} {now : Instant} {x : Operation.Answer}
    {a : Alteration} (h : m.decide now d = .ok (x, some a)) : a.item = m.item := by
  unfold decide at h
  cases m with
  | update game values =>
    dsimp only at h
    split at h <;> cases h
    rfl
  | countPlay game =>
    cases h
    rfl
  | addTime game seconds =>
    dsimp only at h
    split at h
    · cases h
    · cases h
    · -- A time that cannot be added decides nothing.
      cases hsum : (d.stat game "timeSpent").add (.int _) with
      | error e =>
        rw [hsum] at h
        cases h
      | ok sum =>
        rw [hsum] at h
        cases h
        rfl
  | addRound game won =>
    cases h
    rfl
  | unlock id =>
    dsimp only at h
    split at h
    · cases h
    · split at h <;> cases h
      rfl
  | complete id =>
    dsimp only at h
    split at h
    · cases h
    · split at h
      · cases h
      · obtain ⟨expired, -, h⟩ := bind_eq_ok.1 h
        cases expired <;> cases h
        rfl

end Mutation

/-- The event that is told with an answer. -/
def Operation.Answer.told : Operation.Answer → Option Event
  | .award event => event
  | _ => none

namespace Decision

/-- The act that carries a decision on a document out. -/
def carryOut (now : Instant) (d : Document) : Decision → Act Shelf Operation.Answer
  | .error e => throw e
  | .ok (x, none) => return x
  | .ok (x, some a) => do
    Shelf.keep (d.alter now a)
    match x.told with
    | some e => modify fun s => s.emit e
    | none => pure ()
    return x

/-- The change that is decided on, if any. -/
def change? : Decision → Option Alteration
  | .ok (_, change) => change
  | .error _ => none

/-- The document once a decision on it is carried out. -/
def result (now : Instant) (d : Document) (r : Decision) : Document :=
  r.change?.elim d (d.alter now)

/-- The strokes that carry a decision on a document out. -/
def script (now : Instant) (d : Document) : Decision → List Stroke
  | .ok (x, some a) => .write (d.alter now a) :: x.told.toList.map .tell
  | _ => []

theorem writes_script (now : Instant) (d : Document) (r : Decision) :
    Stroke.writes (r.script now d) = r.change?.toList.map (d.alter now) := by
  rcases r with e | ⟨x, _ | a⟩
  · rfl
  · rfl
  · rw [script]
    cases x.told <;> rfl

theorem leave_script (now : Instant) (d : Document) (r : Decision) :
    Stroke.leave d (r.script now d) = r.result now d := by
  rw [Stroke.leave_eq, writes_script, result]
  cases r.change? <;> rfl

end Decision

namespace Shelf

variable {s : Shelf} {now : Instant}

theorem outcome_carryOut (x : Operation.Answer) (a : Alteration) (now : Instant) (s : Shelf) :
    (Decision.carryOut now s.ledger.document (.ok (x, some a))).outcome s =
      match (keep (s.ledger.document.alter now a)).outcome s with
      | (.ok (), t) => (.ok x, x.told.elim t t.emit)
      | (.error e, t) => (.error e, t) := by
  unfold Decision.carryOut
  rw [Act.outcome_bind]
  obtain ⟨_ | _, t⟩ := (keep (s.ledger.document.alter now a)).outcome s
  · rfl
  · dsimp only
    cases x.told <;> rfl

theorem outcome_get_bind {α : Type} (f : Shelf → Act Shelf α) (s : Shelf) :
    (get >>= f).outcome s = (f s).outcome s := by
  rw [Act.outcome_bind, Act.outcome_get]

theorem outcome_addTime (game : String) (seconds : Json) (now : Instant) (s : Shelf) :
    (addTime game seconds now).outcome s =
      match Mutation.wholeSeconds seconds with
      | .error e => (.error e, s)
      | .ok none => (.ok (), s)
      | .ok (some whole) => (do
          keep (← Act.lift (s.ledger.document.addTime game whole now))).outcome s := by
  unfold addTime
  rw [Act.outcome_bind, Act.outcome_lift]
  cases hn : seconds.number with
  | error e =>
    have hwhole : Mutation.wholeSeconds seconds = .error e := bind_eq_error.2 (.inl hn)
    rw [hwhole]
  | ok n =>
    dsimp only
    by_cases hle : n.le 0 = true
    · have hwhole : Mutation.wholeSeconds seconds = .ok none :=
        bind_eq_ok.2 ⟨n, hn, if_pos hle⟩
      rw [if_pos hle, hwhole]
      rfl
    · rw [if_neg hle, Act.outcome_bind, Act.outcome_lift]
      cases hi : n.toInt with
      | error e =>
        have hwhole : Mutation.wholeSeconds seconds = .error e :=
          bind_eq_error.2 (.inr ⟨n, hn, (if_neg hle).trans (bind_eq_error.2 (.inl hi))⟩)
        rw [hwhole]
      | ok i =>
        have hwhole : Mutation.wholeSeconds seconds = .ok (some i.toNat) :=
          bind_eq_ok.2 ⟨n, hn, (if_neg hle).trans (bind_eq_ok.2 ⟨i, hi, rfl⟩)⟩
        rw [hwhole]
        exact outcome_get_bind _ s

/-- Keeping an altered document and answering is carrying the alteration out, unless there is
something to tell. -/
theorem outcome_keep_map {x : Operation.Answer} (hx : x.told = none) (a : Alteration)
    (now : Instant) (s : Shelf) :
    ((fun _ => x) <$> keep (s.ledger.document.alter now a)).outcome s =
      (Decision.carryOut now s.ledger.document (.ok (x, some a))).outcome s := by
  rw [outcome_carryOut, hx, Act.outcome_map]
  obtain ⟨_ | _, t⟩ := (keep (s.ledger.document.alter now a)).outcome s <;> rfl

/-- Keeping an altered document and telling of it is carrying the alteration out. -/
theorem outcome_keep_tell (e : Event) (a : Alteration) (now : Instant) (s : Shelf) :
    (Operation.Answer.award <$> (keep (s.ledger.document.alter now a) >>= fun _ => do
      modify fun s => s.emit e
      return some e)).outcome s =
      (Decision.carryOut now s.ledger.document (.ok (.award (some e), some a))).outcome s := by
  rw [outcome_carryOut, Act.outcome_map, Act.outcome_bind]
  obtain ⟨_ | _, t⟩ := (keep (s.ledger.document.alter now a)).outcome s <;> rfl

/-- Whether a mutation of a shelf carries out what it decides on. -/
def CarriesOut (s : Shelf) (now : Instant) (m : Mutation) : Prop :=
  (m.operation.answer now).outcome s =
    ((m.decide now s.ledger.document).carryOut now s.ledger.document).outcome s

theorem carriesOut_update (game : String) (values : Json) :
    s.CarriesOut now (.update game values) := by
  unfold CarriesOut Mutation.operation Operation.answer Mutation.decide
  dsimp only
  rw [Act.outcome_map, Shelf.update]
  dsimp only
  split
  · rfl
  · rw [outcome_get_bind, Document.withRecord_eq_alter _ now, ← Act.outcome_map]
    exact outcome_keep_map rfl _ now s

theorem carriesOut_countPlay (game : String) : s.CarriesOut now (.countPlay game) := by
  unfold CarriesOut Mutation.operation Operation.answer
  dsimp only
  rw [Act.outcome_map, Shelf.countPlay, outcome_get_bind, Document.countPlay_eq_alter,
    ← Act.outcome_map]
  exact outcome_keep_map rfl _ now s

theorem carriesOut_addTime (game : String) (seconds : Json) :
    s.CarriesOut now (.addTime game seconds) := by
  unfold CarriesOut Mutation.operation Operation.answer Mutation.decide
  dsimp only
  rw [Act.outcome_map, outcome_addTime]
  cases Mutation.wholeSeconds seconds with
  | error e => rfl
  | ok counted =>
    cases counted with
    | none => rfl
    | some whole =>
      dsimp only
      rw [Document.addTime_eq_alter]
      cases (s.ledger.document.stat game "timeSpent").add (.int whole) with
      | error e => rfl
      | ok sum =>
        rw [Except.map, Act.outcome_bind, Act.outcome_lift, ← Act.outcome_map]
        exact outcome_keep_map rfl _ now s

theorem carriesOut_addRound (game : String) (won : Option Bool) :
    s.CarriesOut now (.addRound game won) := by
  unfold CarriesOut Mutation.operation Operation.answer
  dsimp only
  rw [Act.outcome_map, Shelf.addRound, outcome_get_bind]
  refine Eq.trans ?_ (outcome_carryOut _ _ now s).symm
  -- The streak is read from what was kept, and that is the document of the round.
  have hdoc := keep_document (s.ledger.document.addRound game won) s
  rw [← Document.addRound_eq_alter, Act.outcome_bind]
  generalize (keep _).outcome s = r at hdoc ⊢
  obtain ⟨_ | _, t⟩ := r
  · rfl
  · dsimp only at hdoc ⊢
    rw [outcome_get_bind, hdoc, Document.stat_addRound]
    rfl

theorem carriesOut_unlock (id : String) : s.CarriesOut now (.unlock id) := by
  unfold CarriesOut Mutation.operation Operation.answer Mutation.decide
  dsimp only
  rw [Act.outcome_map, Shelf.unlock, outcome_get_bind]
  dsimp only
  cases s.ledger.document.badge? id with
  | none => rfl
  | some b =>
    dsimp only
    split
    · rfl
    · rw [Document.unlock_eq_alter, ← Act.outcome_map]
      exact outcome_keep_tell (.ofBadge b) _ now s

theorem carriesOut_complete (id : String) : s.CarriesOut now (.complete id) := by
  unfold CarriesOut Mutation.operation Operation.answer Mutation.decide
  dsimp only
  rw [Act.outcome_map, Shelf.complete, outcome_get_bind]
  dsimp only
  cases s.ledger.document.challenge? id with
  | none => rfl
  | some c =>
    dsimp only
    split
    · rfl
    · rw [Act.outcome_bind, Act.outcome_lift]
      cases c.isExpired now with
      | error e => rfl
      | ok expired =>
        cases expired with
        | true => rfl
        | false =>
          dsimp only
          rw [if_neg Bool.false_ne_true, Document.complete_eq_alter, ← Act.outcome_map]
          exact outcome_keep_tell (.ofChallenge c) _ now s

/-- A mutation carries out what it decides on. -/
theorem outcome_mutation (m : Mutation) (now : Instant) (s : Shelf) :
    (m.operation.answer now).outcome s =
      ((m.decide now s.ledger.document).carryOut now s.ledger.document).outcome s := by
  cases m with
  | update game values => exact carriesOut_update game values
  | countPlay game => exact carriesOut_countPlay game
  | addTime game seconds => exact carriesOut_addTime game seconds
  | addRound game won => exact carriesOut_addRound game won
  | unlock id => exact carriesOut_unlock id
  | complete id => exact carriesOut_complete id

/-- The document after a mutation is what was decided on, whatever becomes of the write. -/
theorem document_mutation (m : Mutation) (now : Instant) (s : Shelf) :
    ((m.operation.answer now).outcome s).2.ledger.document =
      (m.decide now s.ledger.document).result now s.ledger.document := by
  rw [outcome_mutation]
  rcases m.decide now s.ledger.document with e | ⟨x, _ | a⟩
  · rfl
  · rfl
  · have hdoc := keep_document (s.ledger.document.alter now a) s
    rw [outcome_carryOut]
    generalize (keep _).outcome s = r at hdoc ⊢
    obtain ⟨_ | _, t⟩ := r
    · exact hdoc
    · refine Eq.trans ?_ hdoc
      cases x.told with
      | none => rfl
      | some e => exact emit_document t e

/-- On a writable ledger a decision is carried out by its strokes. -/
theorem Writable.outcome_carryOut (hs : s.Writable) (r : Decision) (now : Instant) :
    (r.carryOut now s.ledger.document).outcome s =
      (r.map Prod.fst, s.play (r.script now s.ledger.document)) := by
  rcases r with e | ⟨x, _ | a⟩
  · rfl
  · rfl
  · rw [Shelf.outcome_carryOut, hs.outcome_keep, Decision.script, play_cons]
    cases x.told <;> rfl

end Shelf

end Arcade
