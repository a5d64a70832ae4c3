import Arcade.Proofs.Ledger.Change
import Arcade.Proofs.Ledger.Strokes

/-!
# The chronicle of a ledger

What happens to the badges and the challenges of a ledger is announced: a document in which a badge
was unlocked, a challenge completed, or the challenges or everything replaced is written, and then
listeners are told of it before anything else is written. What is written without being announced
leaves the badges, the challenges and the coins alone. A chronicle is a list of strokes of that
kind, and every act on a working ledger does such a list of strokes.
-/

namespace Arcade

/-! ## Chronicles -/

namespace Document

/-- A change that leaves the badges, the challenges and the coins alone. -/
structure Quiet (d d' : Document) : Prop where
  badges : d'.badges = d.badges
  challenges : d'.challenges = d.challenges
  coins : d'.tally.totalCoins = d.tally.totalCoins

/-- A change of which listeners are told by an event. -/
inductive Announced (d : Document) : Event → Document → Prop
  | unlock {id : String} {b : Badge} {now : Instant} (found : d.badge? id = some b)
      (locked : b.unlocked = false) : Announced d (.ofBadge b) (d.unlock id now)
  | complete {id : String} {c : Challenge} {now : Instant} (found : d.challenge? id = some c)
      (isOpen : c.completed = false) (current : c.isExpired now = .ok false) :
      Announced d (.ofChallenge c) (d.complete id c.rewardCoins now)
  | refresh {challenges : List Challenge} {now : Instant}
      (h : Challenge.generation now = .ok challenges) :
      Announced d { kind := .challengesRefreshed } { d with challenges := challenges }
  | reset {d' : Document} {now : Instant} (h : freshOn now = .ok d') :
      Announced d { kind := .dataReset } (d'.withDay now)
  | takeOver {text : Json} {e f : Document} {now : Instant} (h : read text = .ok e)
      (hf : e.broughtUp now = .ok f) : Announced d { kind := .dataImported } (f.withDay now)

theorem quiet_addTime {d d' : Document} {game : String} {seconds : Nat} {now : Instant}
    (h : d.addTime game seconds now = .ok d') : d.Quiet d' := by
  obtain ⟨n, -, h⟩ := bind_eq_ok.1 h
  cases h
  exact ⟨rfl, rfl, rfl⟩

end Document

open Stroke

/-- Strokes from a document on in which every change but quiet ones is announced at once, and
nothing else is. -/
inductive Chronicle : Document → List Stroke → Prop
  | nil (d : Document) : Chronicle d []
  | quiet {d d' : Document} {rest : List Stroke} (h : d.Quiet d') (hrest : Chronicle d' rest) :
      Chronicle d (.write d' :: rest)
  | announced {d d' : Document} {e : Event} {rest : List Stroke} (h : d.Announced e d')
      (hrest : Chronicle d' rest) : Chronicle d (.write d' :: .tell e :: rest)

theorem Chronicle.append {d : Document} {script more : List Stroke} (h : Chronicle d script)
    (h' : Chronicle (leave d script) more) : Chronicle d (script ++ more) := by
  induction h with
  | nil d => exact h'
  | quiet h _ ih => exact .quiet h (ih h')
  | announced h _ ih => exact .announced h (ih h')

/-- An event that tells of a badge or a challenge. -/
def Event.isAward (e : Event) : Bool :=
  decide (e.kind = .badgeUnlocked ∨ e.kind = .challengeCompleted)

namespace Shelf

variable {α β : Type} {d : Document} {now : Instant} {R : List Event → Except Fault α → Prop}
  {R' : List Event → Except Fault β → Prop}

/-- An act chronicles if from every document it does the strokes of a chronicle, whatever becomes of
its writes, and what it tells is as required for the way it ends. -/
def Chronicles (R : List Event → Except Fault α → Prop) (a : Act Shelf α) : Prop :=
  ∀ d, Performs d (fun script r => Chronicle d script ∧ R (tells script) r) a

theorem Chronicles.mono {R' : List Event → Except Fault α → Prop} {a : Act Shelf α}
    (h : Chronicles R a) (hr : ∀ told r, R told r → R' told r) : Chronicles R' a :=
  fun d => (h d).mono fun _ _ h => ⟨h.1, hr _ _ h.2⟩

theorem chronicles_pure {x : α} (h : R [] (.ok x)) : Chronicles R (pure x) :=
  fun d => performs_pure ⟨.nil d, h⟩

theorem Chronicles.bind {a : Act Shelf α} {f : α → Act Shelf β} (ha : Chronicles R a)
    (hf : ∀ told x, R told (.ok x) → Chronicles (fun more r => R' (told ++ more) r) (f x))
    (herror : ∀ told e, R told (.error e) → R' told (.error e)) : Chronicles R' (a >>= f) := by
  intro d
  refine (ha d).bind (fun script x h => ?_) fun script e h => ⟨h.1, herror _ e h.2⟩
  refine (hf _ x h.2 (leave d script)).mono fun more r hmore => ⟨h.1.append hmore.1, ?_⟩
  rw [tells_append]
  exact hmore.2

theorem Chronicles.map {a : Act Shelf α} (g : α → β)
    (h : Chronicles (fun told r => R' told (r.map g)) a) : Chronicles R' (g <$> a) :=
  fun d => (h d).map g

/-- An act that starts by looking at the document. -/
theorem chronicles_get_bind {f : Shelf → Act Shelf α}
    (hf : ∀ s t : Shelf, s.ledger.document = t.ledger.document → f s = f t)
    (h : ∀ s, Chronicles R (f s)) : Chronicles R (get >>= f) :=
  fun d => performs_get_bind hf fun s _ => h s d

/-! ## Quiet acts -/

/-- Nothing is told, however the act ends. -/
def Untold (told : List Event) (_ : Except Fault α) : Prop := told = []

theorem chronicles_update (game : String) (values : Json) :
    Chronicles Untold (update game values) := by
  intro d
  unfold update
  dsimp only
  split
  · exact performs_pure ⟨.nil d, rfl⟩
  · refine performs_get_bind (fun s t h => by rw [h]) fun s hs => performs_keep ⟨?_, rfl⟩
    exact .quiet (hs ▸ ⟨rfl, rfl, rfl⟩) (.nil _)

theorem chronicles_countPlay (game : String) : Chronicles Untold (countPlay game now) := by
  refine fun d => performs_get_bind (fun s t h => by rw [h]) fun s hs => performs_keep ⟨?_, rfl⟩
  exact .quiet (hs ▸ ⟨rfl, rfl, rfl⟩) (.nil _)

theorem chronicles_addTime (game : String) (seconds : Json) :
    Chronicles Untold (addTime game seconds now) := by
  intro d
  refine performs_lift_bind (fun n _ => ?_) fun e _ => ⟨.nil d, rfl⟩
  split
  · exact performs_pure ⟨.nil d, rfl⟩
  · refine performs_lift_bind (fun whole _ => ?_) fun e _ => ⟨.nil d, rfl⟩
    refine performs_get_bind (fun s t h => by rw [h]) fun s hs => ?_
    refine performs_lift_bind (fun d' hd' => performs_keep ⟨?_, rfl⟩) fun e _ => ⟨.nil d, rfl⟩
    exact .quiet (hs ▸ Document.quiet_addTime hd') (.nil _)

theorem chronicles_addRound (game : String) (won : Option Bool) :
    Chronicles Untold (addRound game won) := by
  refine fun d => performs_get_bind (fun s t h => by rw [h]) fun s hs => performs_keep_bind ?_
  refine performs_get_bind (fun s t h => by rw [h]) fun s' _ => performs_pure ⟨?_, rfl⟩
  exact .quiet (hs ▸ ⟨rfl, rfl, rfl⟩) (.nil _)

/-! ## Announced acts -/

/-- An act that writes an announced change, tells of it and ends with a result. -/
theorem performs_announced {e : Event} {d' : Document} (h : d.Announced e d') {f : Act Shelf α}
    (hf : Performs d' (fun script r => script = [] ∧ R [e] r) f) :
    Performs d (fun script r => Chronicle d script ∧ R (tells script) r) (do
      keep d'
      modify fun s => s.emit e
      f) := by
  refine performs_keep_bind (performs_emit_bind (hf.mono ?_))
  rintro _ r ⟨rfl, hr⟩
  exact ⟨.announced h (.nil d'), hr⟩

/-- The event that an act returns is what is told, if it returns one, and is of a kind. -/
structure Awarded (kind : EventKind) (told : List Event) (r : Except Fault (Option Event)) :
    Prop where
  told_eq : told = r.toOption.join.toList
  kind_eq : ∀ e ∈ told, e.kind = kind

theorem Awarded.none {kind : EventKind} : Awarded kind [] (.ok none) :=
  ⟨rfl, fun _ he => absurd he List.not_mem_nil⟩

theorem Awarded.error {kind : EventKind} {e : Fault} : Awarded kind [] (.error e) :=
  ⟨rfl, fun _ he => absurd he List.not_mem_nil⟩

theorem Awarded.some {kind : EventKind} {e : Event} (h : e.kind = kind) :
    Awarded kind [e] (.ok (some e)) :=
  ⟨rfl, fun _ he => List.mem_singleton.1 he ▸ h⟩

theorem chronicles_unlock (id : String) :
    Chronicles (Awarded .badgeUnlocked) (unlock id now) := by
  refine fun d => performs_get_bind (fun s t h => by rw [h]) fun s hs => ?_
  subst hs
  dsimp only
  split
  · exact performs_pure ⟨.nil _, .none⟩
  · rename_i b hb
    split
    · exact performs_pure ⟨.nil _, .none⟩
    · rename_i hl
      exact performs_announced (.unlock hb (by simpa using hl)) (performs_pure ⟨rfl, .some rfl⟩)

theorem chronicles_complete (id : String) :
    Chronicles (Awarded .challengeCompleted) (complete id now) := by
  refine fun d => performs_get_bind (fun s t h => by rw [h]) fun s hs => ?_
  subst hs
  dsimp only
  split
  · exact performs_pure ⟨.nil _, .none⟩
  · rename_i c hc
    split
    · exact performs_pure ⟨.nil _, .none⟩
    · rename_i ho
      refine performs_lift_bind (fun expired he => ?_) fun e _ => ⟨.nil _, .error⟩
      cases expired with
      | true => exact performs_pure ⟨.nil _, .none⟩
      | false =>
        exact performs_announced (.complete hc (by simpa using ho) he)
          (performs_pure ⟨rfl, .some rfl⟩)

/-- An event of a kind is told if the act ends without a fault, and nothing else is. -/
def Signalled (kind : EventKind) (told : List Event) (r : Except Fault α) : Prop :=
  told = if r.toOption.isSome then [{ kind := kind }] else []

theorem Signalled.map {kind : EventKind} {told : List Event} {r : Except Fault α} (f : α → β)
    (h : Signalled kind told r) : Signalled kind told (r.map f) := by
  cases r <;> exact h

theorem chronicles_reset : Chronicles (Signalled .dataReset) (reset now) :=
  fun d => performs_lift_bind
    (fun _ h => performs_announced (.reset h) (performs_pure ⟨rfl, rfl⟩))
    fun _ _ => ⟨.nil d, rfl⟩

theorem chronicles_replaceChallenges {challenges : List Challenge}
    (h : Challenge.generation now = .ok challenges) :
    Chronicles (Signalled .challengesRefreshed) (replaceChallenges challenges) := by
  refine fun d => performs_get_bind (fun s t h => by rw [h]) fun s hs => ?_
  subst hs
  exact performs_announced (.refresh h) (performs_pure ⟨rfl, rfl⟩)

theorem chronicles_refreshChallenges :
    Chronicles (Signalled .challengesRefreshed) (refreshChallenges now) :=
  fun d => performs_lift_bind (fun _ h => chronicles_replaceChallenges h d)
    fun _ _ => ⟨.nil d, rfl⟩

theorem chronicles_importText (text : Json) :
    Chronicles (Signalled .dataImported) (importText text now) := by
  intro d
  unfold importText
  cases h : Document.read text with
  | error e => exact performs_throw ⟨.nil d, rfl⟩
  | ok d' =>
    refine performs_lift_bind (fun f hf => performs_announced (.takeOver h hf) ?_)
      fun e _ => ⟨.nil d, rfl⟩
    exact performs_get_bind (fun s t h => by rw [h]) fun s _ => performs_pure ⟨rfl, rfl⟩

/-- That challenges were replaced is told if the act finds them due, and nothing else is. -/
def SignalledDue (told : List Event) (r : Except Fault Bool) : Prop :=
  told = if r.toOption = some true then [{ kind := .challengesRefreshed }] else []

theorem chronicles_ensureFresh : Chronicles SignalledDue (ensureFresh now) := by
  refine fun d => performs_get_bind (fun s t h => by rw [h]) fun s hs => ?_
  refine performs_lift_bind (fun replaced hr => ?_) fun e _ => ⟨.nil d, rfl⟩
  cases replaced with
  | none => exact performs_pure ⟨.nil d, rfl⟩
  | some challenges =>
    have h : Chronicles SignalledDue (do
        replaceChallenges challenges
        return true) := by
      refine (chronicles_replaceChallenges (Challenge.generation_of_replacement? hr)).bind
        (fun told _ h => chronicles_pure ?_) fun _ _ h => h
      rw [List.append_nil]
      exact h
    exact h d

/-! ## Checking the rules -/

/-- Only events of some kinds are told, and the awards among them are those that the act returns, if
it ends without a fault. -/
structure Checks (kinds : List EventKind) (told : List Event)
    (r : Except Fault (List Event)) : Prop where
  kinds : ∀ e ∈ told, e.kind ∈ kinds
  awards : ∀ events, r = .ok events → told.filter Event.isAward = events

section Checks

variable {kinds : List EventKind} {told rest events after : List Event}

theorem Checks.nil : Checks kinds [] (.ok []) :=
  ⟨fun _ he => absurd he List.not_mem_nil, fun _ h => Except.ok.inj h⟩

theorem Checks.error {e : Fault} (h : ∀ e ∈ told, e.kind ∈ kinds) : Checks kinds told (.error e) :=
  ⟨h, fun _ h => (nomatch h)⟩

theorem Checks.append {r : Except Fault (List Event)} (h : Checks kinds told (.ok events))
    (h' : Checks kinds rest r) : Checks kinds (told ++ rest) (r.map (events ++ ·)) := by
  refine ⟨fun e he => (List.mem_append.1 he).elim (h.kinds e) (h'.kinds e), ?_⟩
  intro all hall
  cases r with
  | error e => cases hall
  | ok after =>
    cases hall
    rw [List.filter_append, h.awards _ rfl, h'.awards _ rfl]

theorem Checks.mono {kinds' : List EventKind} {r : Except Fault (List Event)}
    (h : Checks kinds told r) (hk : kinds ⊆ kinds') : Checks kinds' told r :=
  ⟨fun e he => hk (h.kinds e he), h.awards⟩

/-- An award is a check that found it. -/
theorem Awarded.checks {kind : EventKind} {event : Option Event}
    (h : Awarded kind told (.ok event)) (hk : kind ∈ kinds)
    (ha : kind = .badgeUnlocked ∨ kind = .challengeCompleted) :
    Checks kinds told (.ok event.toList) := by
  refine ⟨fun e he => h.kind_eq e he ▸ hk, ?_⟩
  rintro _ ⟨⟩
  rw [h.told_eq]
  refine List.filter_eq_self.2 fun e he => decide_eq_true ?_
  rwa [h.kind_eq e (h.told_eq ▸ he)]

/-- A check goes on with another one and returns the events of both. -/
theorem Chronicles.goOn {a : Act Shelf (List Event)} (h : Checks kinds told (.ok events))
    (ha : Chronicles (Checks kinds) a) :
    Chronicles (fun rest r => Checks kinds (told ++ rest) r) (do return events ++ (← a)) := by
  refine ha.bind (fun rest after hrest => chronicles_pure ?_) fun rest e hrest => h.append hrest
  rw [List.append_nil]
  exact h.append hrest

end Checks

theorem chronicles_unlockAll (ids : List String) :
    Chronicles (Checks [.badgeUnlocked]) (unlockAll now ids) := by
  induction ids with
  | nil => exact chronicles_pure .nil
  | cons id rest ih =>
    refine (chronicles_unlock id).bind (fun told event h => ?_) fun told e h => ?_
    · exact .goOn (h.checks List.mem_cons_self (.inl rfl)) ih
    · exact .error fun e he => h.kind_eq e he ▸ List.mem_cons_self

theorem chronicles_unlockEarned : Chronicles (Checks [.badgeUnlocked]) (unlockEarned now) :=
  chronicles_get_bind (fun s t h => by rw [h]) fun _ => chronicles_unlockAll _

theorem chronicles_unlockRounds (fuel : Nat) :
    Chronicles (Checks [.badgeUnlocked]) (unlockRounds now fuel) := by
  induction fuel with
  | zero => exact chronicles_pure .nil
  | succ fuel ih =>
    refine chronicles_unlockEarned.bind (fun told events h => ?_) fun _ _ h => h
    split
    · rename_i hnone
      refine chronicles_pure ?_
      rw [List.append_nil, ← hnone]
      exact h
    · exact .goOn h ih

theorem chronicles_checkBadges : Chronicles (Checks [.badgeUnlocked]) (checkBadges now) :=
  chronicles_get_bind (fun s t h => by rw [h]) fun _ => chronicles_unlockRounds _

theorem chronicles_completeAll (ids : List String) :
    Chronicles (Checks [.challengeCompleted, .challengesRefreshed]) (completeAll now ids) := by
  induction ids with
  | nil => exact chronicles_pure .nil
  | cons id rest ih =>
    refine (chronicles_complete id).bind (fun told event h => ?_) fun told e h => ?_
    · exact .goOn (h.checks List.mem_cons_self (.inr rfl)) ih
    · exact .error fun e he => h.kind_eq e he ▸ List.mem_cons_self

/-- Making sure that the challenges are not due makes no award. -/
theorem SignalledDue.checks {told : List Event} {r : Except Fault Bool} (h : SignalledDue told r) :
    Checks [.challengeCompleted, .challengesRefreshed] told (r.map fun _ => []) := by
  rw [SignalledDue] at h
  subst h
  split
  · exact ⟨by decide, fun events h => by cases r <;> cases h; rfl⟩
  · exact ⟨by decide, fun events h => by cases r <;> cases h; rfl⟩

theorem chronicles_checkChallenges :
    Chronicles (Checks [.challengeCompleted, .challengesRefreshed]) (checkChallenges now) := by
  refine chronicles_ensureFresh.bind (fun told _ h => ?_) fun told e h => h.checks
  refine chronicles_get_bind (fun s t h => by rw [h]) fun _ => ?_
  refine (chronicles_completeAll _).mono fun rest r hrest => ?_
  have hall := h.checks.append hrest
  cases r <;> exact hall

theorem chronicles_settleRounds (fuel : Nat) :
    Chronicles (Checks [.badgeUnlocked, .challengeCompleted, .challengesRefreshed])
      (settleRounds now fuel) := by
  induction fuel with
  | zero => exact chronicles_pure .nil
  | succ fuel ih =>
    have hbadges : Chronicles (Checks [.badgeUnlocked, .challengeCompleted, .challengesRefreshed])
        (checkBadges now) := chronicles_checkBadges.mono fun _ _ h => h.mono (by decide)
    have hchallenges :
        Chronicles (Checks [.badgeUnlocked, .challengeCompleted, .challengesRefreshed])
          (checkChallenges now) := chronicles_checkChallenges.mono fun _ _ h => h.mono (by decide)
    refine hbadges.bind (fun told badges h => ?_) fun _ _ h => h
    refine hchallenges.bind (fun rest more hmore => ?_) fun _ _ hmore => h.append hmore
    have hall : Checks _ (told ++ rest) (.ok (badges ++ more)) := h.append hmore
    simp only [← List.append_assoc]
    split
    · rename_i hnone
      refine chronicles_pure ?_
      rw [List.append_nil, ← hnone]
      exact hall
    · exact .goOn hall ih

theorem chronicles_settle :
    Chronicles (Checks [.badgeUnlocked, .challengeCompleted, .challengesRefreshed])
      (settle now) :=
  chronicles_get_bind (fun s t h => by rw [h]) fun _ => chronicles_settleRounds _

end Shelf

end Arcade
