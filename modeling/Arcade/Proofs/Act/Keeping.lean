import Arcade.Act

/-!
# What acts keep

An act keeps a property of states if the property holds afterwards whenever it held before, no
matter with what result or fault the act ended. Acts that are composed of acts that keep a property
keep it, also where faults are forgiven.
-/

namespace Arcade.Act

variable {σ α β : Type} {P : σ → Prop}

/-- Whether a property of states outlasts an act. -/
def Keeps (P : σ → Prop) (a : Act σ α) : Prop := ∀ s, P s → P (a.outcome s).2

theorem keeps_pure (x : α) : Keeps P (pure x : Act σ α) := fun _ h => h

theorem keeps_throw (e : Fault) : Keeps P (throw e : Act σ α) := fun _ h => h

theorem keeps_lift (r : Except Fault α) : Keeps P (lift r : Act σ α) := fun _ h => h

theorem keeps_get : Keeps P (get : Act σ σ) := fun _ h => h

theorem keeps_modify {f : σ → σ} (h : ∀ s, P s → P (f s)) :
    Keeps P (modify f : Act σ PUnit) := h

/-- An act followed by another, which starts from the state and the result of the first. -/
theorem keeps_bind_of {a : Act σ α} {f : α → Act σ β} {s : σ} (h : P (a.outcome s).2)
    (hf : ∀ x t, a.outcome s = (.ok x, t) → P ((f x).outcome t).2) :
    P ((a >>= f).outcome s).2 := by
  rw [outcome_bind]
  rcases ha : a.outcome s with ⟨e | x, t⟩
  · rwa [ha] at h
  · exact hf x t ha

theorem Keeps.bind {a : Act σ α} {f : α → Act σ β} (ha : Keeps P a) (hf : ∀ x, Keeps P (f x)) :
    Keeps P (a >>= f) := by
  intro s hs
  apply keeps_bind_of (ha s hs)
  intro x t h
  have ht := ha s hs
  rw [h] at ht
  exact hf x t ht

theorem Keeps.ite {c : Prop} [Decidable c] {a b : Act σ α} (ha : Keeps P a) (hb : Keeps P b) :
    Keeps P (if c then a else b) := by
  split
  · exact ha
  · exact hb

theorem Keeps.discard {a : Act σ α} (ha : Keeps P a) : Keeps P (discard a : Act σ PUnit) := by
  intro s hs
  rw [outcome_discard]
  exact ha s hs

theorem Keeps.forgive {a : Act σ Unit} (ha : Keeps P a) : Keeps P a.forgive := ha

theorem Keeps.succeeds {a : Act σ Unit} (ha : Keeps P a) : Keeps P a.succeeds := ha

end Arcade.Act
