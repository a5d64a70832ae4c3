import Mathlib.Data.List.Induction
import Arcade.Proofs.Ledger.Change

/-!
# Operations and runs

Everything that is asked of a ledger is an operation, carried out at an instant. A run carries
operations out one after the other; one that ends with a fault does not end the run, and what it
changed before stays. All operations but loading only move the shelf.
-/

namespace Arcade

/-- What a step keeps exactly if it meets a condition is kept after every part of a row of steps
exactly if each of them meets it where it is taken. -/
theorem foldl_preserve_iff {σ α : Type} {f : σ → α → σ} {P : σ → Prop} {Q : σ → α → Prop}
    (h : ∀ s x, P s → (P (f s x) ↔ Q s x)) {s : σ} (hs : P s) (steps : List α) :
    (∀ before, before <+: steps → P (before.foldl f s)) ↔
      ∀ before x, before ++ [x] <+: steps → Q (before.foldl f s) x := by
  have hconcat : ∀ before x, (before ++ [x]).foldl f s = f (before.foldl f s) x :=
    fun before x => List.foldl_append
  constructor
  · intro hall before x hx
    have hbefore := hall before ((List.prefix_append before [x]).trans hx)
    rw [← h _ _ hbefore, ← hconcat]
    exact hall _ hx
  · intro hmeets before
    induction before using List.reverseRecOn with
    | nil => exact fun _ => hs
    | append_singleton before x ih =>
      intro hx
      rw [hconcat]
      exact (h _ _ (ih ((List.prefix_append before [x]).trans hx))).2 (hmeets before x hx)

/-- What can be asked of a ledger. -/
inductive Operation where
  | load
  | importText (text : Json)
  | update (game : String) (values : Json)
  | countPlay (game : String)
  | addTime (game : String) (seconds : Json)
  | addRound (game : String) (won : Option Bool)
  | unlock (id : String)
  | complete (id : String)
  | reset
  | refreshChallenges
  | ensureFresh
  | checkBadges
  | checkChallenges
  | settle
deriving DecidableEq, Repr

namespace Operation

/-- The act of an operation at an instant, without its result. -/
def act (now : Instant) : Operation → Act Shelf Unit
  | load => discard (Shelf.load now)
  | importText text => discard (Shelf.importText text now)
  | update game values => Shelf.update game values
  | countPlay game => Shelf.countPlay game now
  | addTime game seconds => Shelf.addTime game seconds now
  | addRound game won => discard (Shelf.addRound game won)
  | unlock id => discard (Shelf.unlock id now)
  | complete id => discard (Shelf.complete id now)
  | reset => Shelf.reset now
  | refreshChallenges => Shelf.refreshChallenges now
  | ensureFresh => discard (Shelf.ensureFresh now)
  | checkBadges => discard (Shelf.checkBadges now)
  | checkChallenges => discard (Shelf.checkChallenges now)
  | settle => discard (Shelf.settle now)

/-- Whether an operation neither takes a document nor comes from playing. -/
def tends : Operation → Bool
  | unlock _ | complete _ | reset | refreshChallenges | ensureFresh | checkBadges
  | checkChallenges | settle => true
  | _ => false

/-- How an operation other than loading changes the document. -/
def Change (now : Instant) : Operation → Document → Document → Prop
  | importText text => fun _ d =>
    ∃ e f, Document.read text = .ok e ∧ e.broughtUp now = .ok f ∧ d = f.withDay now
  | _ => Document.Change now

end Operation

namespace Shelf

theorem Steady.discard {α : Type} {change : Document → Document → Prop} {a : Act Shelf α}
    (h : Steady change a) : Steady change (discard a) := by
  intro s
  rw [Act.outcome_discard]
  exact h s

theorem steady_importText (text : Json) (now : Instant) :
    Steady ((Operation.importText text).Change now) (importText text now) := by
  intro s
  unfold importText
  cases h : Document.read text with
  | error e => exact Moves.refl s
  | ok d =>
    refine moves_lift_bind s fun e he => ?_
    exact moves_keep_bind ⟨d, e, h, he, rfl⟩ fun _ =>
      (steady_emit _).bind fun _ => steady_get.bind fun _ => steady_pure _

end Shelf

/-- An operation that neither takes a document nor comes from playing changes no stats, unless it
starts anew. -/
theorem Operation.steady_tends (o : Operation) (h : o.tends = true) (now : Instant) :
    Shelf.Steady (Document.Tending now) (o.act now) := by
  cases o with
  | unlock id => exact (Shelf.steady_unlock id).discard
  | complete id => exact (Shelf.steady_complete id).discard
  | reset => exact Shelf.steady_reset
  | refreshChallenges => exact Shelf.steady_refreshChallenges
  | ensureFresh => exact Shelf.steady_ensureFresh.discard
  | checkBadges => exact Shelf.steady_checkBadges.discard
  | checkChallenges => exact Shelf.steady_checkChallenges.discard
  | settle => exact Shelf.steady_settle.discard
  | _ => cases h

/-- Every operation but loading only moves the shelf. -/
theorem Operation.steady_act (o : Operation) (h : o ≠ .load) (now : Instant) :
    Shelf.Steady (o.Change now) (o.act now) := by
  cases o with
  | load => exact absurd rfl h
  | importText text => exact (Shelf.steady_importText text now).discard
  | update game values => exact Shelf.steady_update game values
  | countPlay game => exact Shelf.steady_countPlay game
  | addTime game seconds => exact Shelf.steady_addTime game seconds
  | addRound game won => exact (Shelf.steady_addRound game won).discard
  | _ => exact (steady_tends _ rfl now).mono Document.Tending.change

namespace Shelf

theorem countPlay_document (s : Shelf) (game : String) (now : Instant) :
    (((Operation.countPlay game).act now).outcome s).2.ledger.document =
      s.ledger.document.countPlay game now := by
  change ((Shelf.countPlay game now).outcome s).2.ledger.document = _
  unfold Shelf.countPlay
  rw [Act.outcome_bind, Act.outcome_get]
  exact keep_document (s.ledger.document.countPlay game now) s

/-- The shelf after operations at their instants. -/
def run (s : Shelf) (steps : List (Operation × Instant)) : Shelf :=
  steps.foldl (fun s x => ((x.1.act x.2).outcome s).2) s

theorem run_concat (s : Shelf) (before : List (Operation × Instant)) (x : Operation × Instant) :
    s.run (before ++ [x]) = ((x.1.act x.2).outcome (s.run before)).2 := by
  rw [run, List.foldl_append]
  rfl

/-- What every operation keeps is kept by runs. -/
theorem run_preserve {P : Shelf → Prop}
    (h : ∀ s o now, P s → P ((Operation.act now o).outcome s).2) {s : Shelf} (hs : P s)
    (steps : List (Operation × Instant)) : P (s.run steps) := by
  induction steps generalizing s with
  | nil => exact hs
  | cons x rest ih => exact ih (h s x.1 x.2 hs)

/-- What an operation keeps exactly if it meets a condition is kept all the way through a run
exactly if every operation meets it, as the shelf is at that point of the run. -/
theorem run_preserve_iff {P : Shelf → Prop} {Q : Shelf → Operation → Instant → Prop}
    (h : ∀ s o now, P s → (P ((Operation.act now o).outcome s).2 ↔ Q s o now)) {s : Shelf}
    (hs : P s) (steps : List (Operation × Instant)) :
    (∀ before, before <+: steps → P (s.run before)) ↔
      ∀ before x, before ++ [x] <+: steps → Q (s.run before) x.1 x.2 :=
  foldl_preserve_iff (Q := fun s (x : Operation × Instant) => Q s x.1 x.2)
    (fun s x => h s x.1 x.2) hs steps

end Shelf

end Arcade
