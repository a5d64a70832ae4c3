import Arcade.Fault

/-!
# Acts

An act changes a state and ends with a result or a fault. A fault does not undo what was changed
before it.
-/

namespace Arcade

/-- A change of a state of type `σ` that ends with a result or a fault. -/
abbrev Act (σ : Type) := ExceptT Fault (StateM σ)

namespace Act

variable {σ τ α : Type}

/-- The result of an act that starts from a state, and the state that it leaves. -/
def outcome (a : Act σ α) (s : σ) : Except Fault α × σ := a s

/-- The act with a given outcome from every state. -/
def ofOutcome (f : σ → Except Fault α × σ) : Act σ α := fun s => f s

/-- An act on a part of the state. -/
def within (part : σ → τ) (replace : σ → τ → σ) (a : Act τ α) : Act σ α :=
  ofOutcome fun s =>
    let r := a.outcome (part s)
    (r.1, replace s r.2)

/-- Carries an act out and passes over a fault. -/
def forgive (a : Act σ Unit) : Act σ Unit :=
  ofOutcome fun s => (.ok (), (a.outcome s).2)

/-- Carries an act out and tells whether it ended without a fault. -/
def succeeds (a : Act σ Unit) : Act σ Bool :=
  ofOutcome fun s =>
    let r := a.outcome s
    (.ok r.1.toOption.isSome, r.2)

/-- The result that does not depend on the state. -/
def lift (r : Except Fault α) : Act σ α :=
  ofOutcome fun s => (r, s)

@[simp] theorem outcome_ofOutcome (f : σ → Except Fault α × σ) (s : σ) :
    (ofOutcome f).outcome s = f s := rfl

@[simp] theorem outcome_pure (x : α) (s : σ) : (pure x : Act σ α).outcome s = (.ok x, s) := rfl

@[simp] theorem outcome_throw (e : Fault) (s : σ) :
    (throw e : Act σ α).outcome s = (.error e, s) := rfl

theorem outcome_bind (a : Act σ α) (f : α → Act σ τ) (s : σ) :
    (a >>= f).outcome s =
      match a.outcome s with
      | (.ok x, t) => (f x).outcome t
      | (.error e, t) => (.error e, t) := by
  simp only [outcome, bind, ExceptT.bind, ExceptT.mk, StateT.bind, ExceptT.bindCont]
  cases h : a s with
  | mk r t => cases r <;> rfl

theorem outcome_bind_of_ok {a : Act σ α} {f : α → Act σ τ} {s t : σ} {x : α}
    (h : a.outcome s = (.ok x, t)) : (a >>= f).outcome s = (f x).outcome t := by
  rw [outcome_bind, h]

theorem outcome_bind_of_error {a : Act σ α} {f : α → Act σ τ} {s t : σ} {e : Fault}
    (h : a.outcome s = (.error e, t)) : (a >>= f).outcome s = (.error e, t) := by
  rw [outcome_bind, h]

@[simp] theorem outcome_get (s : σ) : (get : Act σ σ).outcome s = (.ok s, s) := rfl

@[simp] theorem outcome_set (s t : σ) : (set t : Act σ PUnit).outcome s = (.ok ⟨⟩, t) := rfl

@[simp] theorem outcome_modify (f : σ → σ) (s : σ) :
    (modify f : Act σ PUnit).outcome s = (.ok ⟨⟩, f s) := rfl

@[simp] theorem outcome_lift (r : Except Fault α) (s : σ) :
    (lift r : Act σ α).outcome s = (r, s) := rfl

theorem outcome_map (f : α → τ) (a : Act σ α) (s : σ) :
    (f <$> a).outcome s = ((a.outcome s).1.map f, (a.outcome s).2) := by
  simp only [outcome, Functor.map, ExceptT.map, ExceptT.mk, bind, StateT.bind]
  cases h : a s with
  | mk r t => cases r <;> rfl

@[simp] theorem outcome_discard (a : Act σ α) (s : σ) :
    (discard a : Act σ PUnit).outcome s =
      ((a.outcome s).1.map fun _ => ⟨⟩, (a.outcome s).2) := by
  change (Function.const α PUnit.unit <$> a).outcome s = _
  rw [outcome_map]

@[simp] theorem outcome_within (part : σ → τ) (replace : σ → τ → σ) (a : Act τ α) (s : σ) :
    (a.within part replace).outcome s =
      ((a.outcome (part s)).1, replace s (a.outcome (part s)).2) := rfl

@[simp] theorem outcome_succeeds (a : Act σ Unit) (s : σ) :
    a.succeeds.outcome s = (.ok (a.outcome s).1.toOption.isSome, (a.outcome s).2) := rfl

@[simp] theorem outcome_forgive (a : Act σ Unit) (s : σ) :
    a.forgive.outcome s = (.ok (), (a.outcome s).2) := rfl

end Act

end Arcade
