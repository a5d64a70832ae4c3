import Mathlib.Logic.Relation
import Arcade.Ledger.Award

/-!
# How the ledger changes

Whatever is asked of a ledger at work, its document only moves by changes of a few kinds, each of
which is written to the storage at once, and between them listeners are told events. So what every
such change keeps is kept by every act, whether or not the act ends with a fault and whether or not
the writes succeed.
-/

namespace Arcade

open Relation

/-- The changes of a document at an instant that do not come from playing. -/
inductive Document.Tending (now : Instant) (d : Document) : Document → Prop
  | unlock {id : String} {b : Badge} (found : d.badge? id = some b) (locked : b.unlocked = false) :
      Tending now d (d.unlock id now)
  | complete {id : String} {c : Challenge} (found : d.challenge? id = some c)
      (isOpen : c.completed = false) (current : c.isExpired now = .ok false) :
      Tending now d (d.complete id c.rewardCoins now)
  | renew {challenges : List Challenge} (h : Challenge.generation now = .ok challenges) :
      Tending now d { d with challenges := challenges }
  | reset {d' : Document} (h : Document.freshOn now = .ok d') : Tending now d (d'.withDay now)

/-- The changes of a document at an instant. -/
inductive Document.Change (now : Instant) (d : Document) : Document → Prop
  | update (game : String) (values : Json) :
      Change now d (d.withRecord game
        ((d.record game).insertAll (StatRecord.ofJson values).entries))
  | countPlay (game : String) : Change now d (d.countPlay game now)
  | addTime {game : String} {seconds : Nat} {d' : Document}
      (h : d.addTime game seconds now = .ok d') : Change now d d'
  | addRound (game : String) (won : Option Bool) : Change now d (d.addRound game won)
  | unlock {id : String} {b : Badge} (found : d.badge? id = some b) (locked : b.unlocked = false) :
      Change now d (d.unlock id now)
  | complete {id : String} {c : Challenge} (found : d.challenge? id = some c)
      (isOpen : c.completed = false) (current : c.isExpired now = .ok false) :
      Change now d (d.complete id c.rewardCoins now)
  | renew {challenges : List Challenge} (h : Challenge.generation now = .ok challenges) :
      Change now d { d with challenges := challenges }
  | reset {d' : Document} (h : Document.freshOn now = .ok d') : Change now d (d'.withDay now)

theorem Document.Tending.change {now : Instant} {d d' : Document} (h : Tending now d d') :
    Change now d d' := by
  cases h with
  | unlock found locked => exact .unlock found locked
  | complete found isOpen current => exact .complete found isOpen current
  | renew h => exact .renew h
  | reset h => exact .reset h

namespace Document

variable {now : Instant} {d d' : Document}

theorem mem_days_withDay {day : String} : day ∈ (d.withDay now).tally.days.names ↔
    day = now.dayKey ∨ day ∈ d.tally.days.names :=
  Dict.names_insertNew

theorem days_freshOn (h : freshOn now = .ok d) : d.tally.days.names = [] := by
  obtain ⟨challenges, -, h⟩ := bind_eq_ok.1 h
  obtain rfl := Except.ok.inj h
  rfl

/-- A change opens no log but that of the day. -/
theorem Change.mem_days (hc : Change now d d') {day : String}
    (h : day ∈ d'.tally.days.names) : day = now.dayKey ∨ day ∈ d.tally.days.names := by
  cases hc with
  | update game values => exact .inr h
  | countPlay game => exact Dict.mem_names_insert.1 h
  | addTime ht =>
    obtain ⟨n, -, ht⟩ := bind_eq_ok.1 ht
    obtain rfl := Except.ok.inj ht
    exact Dict.mem_names_insert.1 h
  | addRound game won => exact .inr h
  | unlock found locked => exact .inr h
  | complete found isOpen current => exact Dict.mem_names_insert.1 h
  | renew hg => exact .inr h
  | reset hf =>
    rcases mem_days_withDay.1 h with rfl | h
    · exact .inl rfl
    · rw [days_freshOn hf] at h
      cases h

end Document

namespace Shelf

/-- One move of a shelf: a change of the document that is written, or an event that is told. -/
def Move (change : Document → Document → Prop) (s t : Shelf) : Prop :=
  (∃ d, change s.ledger.document d ∧ t = ((keep d).outcome s).2) ∨ ∃ e, t = s.emit e

/-- Any number of moves. -/
def Moves (change : Document → Document → Prop) : Shelf → Shelf → Prop :=
  ReflTransGen (Move change)

variable {change : Document → Document → Prop} {s t u : Shelf}

theorem Moves.refl (s : Shelf) : Moves change s s := ReflTransGen.refl

theorem Moves.trans (h : Moves change s t) (h' : Moves change t u) : Moves change s u :=
  ReflTransGen.trans h h'

theorem Moves.keep {d : Document} (h : change s.ledger.document d) :
    Moves change s ((keep d).outcome s).2 :=
  ReflTransGen.single (.inl ⟨d, h, rfl⟩)

theorem Moves.emit (s : Shelf) (e : Event) : Moves change s (s.emit e) :=
  ReflTransGen.single (.inr ⟨e, rfl⟩)

/-- What is kept by each change with its write and by each event is kept by all moves. -/
theorem Moves.preserve {P : Shelf → Prop}
    (hkeep : ∀ s d, P s → change s.ledger.document d → P ((Shelf.keep d).outcome s).2)
    (hemit : ∀ s e, P s → P (s.emit e)) (h : Moves change s t) (hs : P s) : P t := by
  induction h with
  | refl => exact hs
  | tail _ hm ih =>
    rcases hm with ⟨d, hd, rfl⟩ | ⟨e, rfl⟩
    · exact hkeep _ d ih hd
    · exact hemit _ e ih

/-! ## Acts that move -/

/-- Whether an act only moves the shelf, from wherever it starts and however it ends. -/
def Steady {α : Type} (change : Document → Document → Prop) (a : Act Shelf α) : Prop :=
  ∀ s, Moves change s (a.outcome s).2

variable {α β : Type}

theorem Steady.mono {change' : Document → Document → Prop} {a : Act Shelf α}
    (h : Steady change a) (hc : ∀ {d d'}, change d d' → change' d d') : Steady change' a :=
  fun s => ReflTransGen.mono (fun _ _ => Or.imp_left fun ⟨d, hd, ht⟩ => ⟨d, hc hd, ht⟩) _ _ (h s)

theorem steady_pure (x : α) : Steady change (pure x : Act Shelf α) := fun s => Moves.refl s

theorem steady_lift (r : Except Fault α) : Steady change (Act.lift r : Act Shelf α) :=
  fun s => Moves.refl s

theorem steady_get : Steady change (get : Act Shelf Shelf) := fun s => Moves.refl s

theorem steady_emit (e : Event) : Steady change (modify fun s => s.emit e : Act Shelf PUnit) :=
  fun s => Moves.emit s e

theorem Steady.bind {a : Act Shelf α} {f : α → Act Shelf β} (ha : Steady change a)
    (hf : ∀ x, Steady change (f x)) : Steady change (a >>= f) := by
  intro s
  have ht := ha s
  rw [Act.outcome_bind]
  cases h : a.outcome s with
  | mk r t =>
    rw [h] at ht
    cases r with
    | ok x => exact ht.trans (hf x t)
    | error e => exact ht

/-- An act that starts by looking at the shelf. -/
theorem moves_get_bind {f : Shelf → Act Shelf β} (s : Shelf)
    (h : Moves change s ((f s).outcome s).2) : Moves change s ((get >>= f).outcome s).2 := by
  rw [Act.outcome_bind, Act.outcome_get]
  exact h

/-- An act that starts with a result that does not depend on the shelf. -/
theorem moves_lift_bind {r : Except Fault α} {f : α → Act Shelf β} (s : Shelf)
    (h : ∀ x, r = .ok x → Moves change s ((f x).outcome s).2) :
    Moves change s ((Act.lift r >>= f).outcome s).2 := by
  rw [Act.outcome_bind, Act.outcome_lift]
  cases r with
  | ok x => exact h x rfl
  | error e => exact Moves.refl s

/-- A change that is written, and something afterwards. -/
theorem moves_keep_bind {d : Document} {f : Unit → Act Shelf β} {s : Shelf}
    (h : change s.ledger.document d) (hf : ∀ x, Steady change (f x)) :
    Moves change s ((keep d >>= f).outcome s).2 := by
  rw [Act.outcome_bind]
  have ht := Moves.keep h
  cases hk : (keep d).outcome s with
  | mk r t =>
    rw [hk] at ht
    cases r with
    | ok x => exact ht.trans (hf x t)
    | error e => exact ht

section Instant

variable {now : Instant}

theorem steady_update (game : String) (values : Json) :
    Steady (Document.Change now) (update game values) := by
  intro s
  unfold update
  dsimp only
  split
  · exact Moves.refl s
  · exact moves_get_bind s (Moves.keep (.update game values))

theorem steady_countPlay (game : String) : Steady (Document.Change now) (countPlay game now) :=
  fun s => moves_get_bind s (Moves.keep (.countPlay game))

theorem steady_addTime (game : String) (seconds : Json) :
    Steady (Document.Change now) (addTime game seconds now) := by
  refine (steady_lift _).bind fun n => ?_
  split
  · exact steady_pure _
  · exact (steady_lift _).bind fun whole s => moves_get_bind s
      (moves_lift_bind s fun d hd => Moves.keep (.addTime hd))

theorem steady_addRound (game : String) (won : Option Bool) :
    Steady (Document.Change now) (addRound game won) := fun s =>
  moves_get_bind s (moves_keep_bind (.addRound game won) fun _ =>
    steady_get.bind fun _ => steady_pure _)

theorem steady_unlock (id : String) : Steady (Document.Tending now) (unlock id now) := by
  intro s
  refine moves_get_bind s ?_
  dsimp only
  split
  · exact Moves.refl s
  · rename_i b hb
    split
    · exact Moves.refl s
    · rename_i hl
      exact moves_keep_bind (.unlock hb (by simpa using hl)) fun _ =>
        (steady_emit _).bind fun _ => steady_pure _

theorem steady_complete (id : String) : Steady (Document.Tending now) (complete id now) := by
  intro s
  refine moves_get_bind s ?_
  dsimp only
  split
  · exact Moves.refl s
  · rename_i c hc
    split
    · exact Moves.refl s
    · rename_i ho
      refine moves_lift_bind s fun expired he => ?_
      cases expired with
      | true => exact Moves.refl s
      | false =>
        exact moves_keep_bind (.complete hc (by simpa using ho) he) fun _ =>
          (steady_emit _).bind fun _ => steady_pure _

theorem steady_reset : Steady (Document.Tending now) (reset now) := by
  intro s
  unfold reset
  exact moves_lift_bind s fun d hd => moves_keep_bind (.reset hd) fun _ => steady_emit _

theorem steady_replaceChallenges {challenges : List Challenge}
    (h : Challenge.generation now = .ok challenges) :
    Steady (Document.Tending now) (replaceChallenges challenges) := fun s =>
  moves_get_bind s (moves_keep_bind (.renew h) fun _ => steady_emit _)

theorem steady_refreshChallenges : Steady (Document.Tending now) (refreshChallenges now) := by
  intro s
  unfold refreshChallenges
  exact moves_lift_bind s fun challenges hc => steady_replaceChallenges hc s

end Instant

end Shelf

namespace Challenge

/-- Challenges are only ever replaced by a new generation. -/
theorem generation_of_replacement? {challenges replaced : List Challenge} {now : Instant}
    (h : replacement? challenges now = .ok (some replaced)) : generation now = .ok replaced := by
  obtain ⟨due, hdue, h⟩ := bind_eq_ok.1 h
  cases due with
  | false => cases h
  | true =>
    obtain ⟨g, hg, h⟩ := bind_eq_ok.1 h
    cases h
    exact hg

end Challenge

namespace Shelf

variable {now : Instant}

theorem steady_ensureFresh : Steady (Document.Tending now) (ensureFresh now) := by
  intro s
  refine moves_get_bind s (moves_lift_bind s fun replaced hr => ?_)
  cases replaced with
  | none => exact Moves.refl s
  | some challenges =>
    exact (steady_replaceChallenges (Challenge.generation_of_replacement? hr)).bind
      (fun _ => steady_pure _) s

/-! ## Checking the rules -/

theorem steady_unlockAll (ids : List String) :
    Steady (Document.Tending now) (unlockAll now ids) := by
  induction ids with
  | nil => exact steady_pure _
  | cons id rest ih =>
    exact (steady_unlock id).bind fun _ => ih.bind fun _ => steady_pure _

theorem steady_unlockEarned : Steady (Document.Tending now) (unlockEarned now) :=
  steady_get.bind fun _ => steady_unlockAll _

theorem steady_unlockRounds (fuel : Nat) : Steady (Document.Tending now) (unlockRounds now fuel) := by
  induction fuel with
  | zero => exact steady_pure _
  | succ fuel ih =>
    refine steady_unlockEarned.bind fun events => ?_
    split
    · exact steady_pure _
    · exact ih.bind fun _ => steady_pure _

theorem steady_checkBadges : Steady (Document.Tending now) (checkBadges now) :=
  steady_get.bind fun _ => steady_unlockRounds _

theorem steady_completeAll (ids : List String) :
    Steady (Document.Tending now) (completeAll now ids) := by
  induction ids with
  | nil => exact steady_pure _
  | cons id rest ih =>
    exact (steady_complete id).bind fun _ => ih.bind fun _ => steady_pure _

theorem steady_checkChallenges : Steady (Document.Tending now) (checkChallenges now) :=
  steady_ensureFresh.bind fun _ => steady_get.bind fun _ => steady_completeAll _

theorem steady_settleRounds (fuel : Nat) : Steady (Document.Tending now) (settleRounds now fuel) := by
  induction fuel with
  | zero => exact steady_pure _
  | succ fuel ih =>
    refine steady_checkBadges.bind fun badges => steady_checkChallenges.bind fun more => ?_
    dsimp only
    split
    · exact steady_pure _
    · exact ih.bind fun _ => steady_pure _

theorem steady_settle : Steady (Document.Tending now) (settle now) :=
  steady_get.bind fun _ => steady_settleRounds _

end Shelf

end Arcade
