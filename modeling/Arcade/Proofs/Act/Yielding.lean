import Arcade.Proofs.Act.Keeping

/-!
# What acts yield

An act yields something from a state if it ends without a fault and the result and the state that
it leaves are as told. Where an act keeps a property, it is enough to know besides that it succeeds.
-/

namespace Arcade.Act

variable {σ τ α β : Type} {s : σ}

/-- Whether an act succeeds from a state, with a result and a state as told. -/
def Yields (a : Act σ α) (s : σ) (Q : α → σ → Prop) : Prop :=
  ∃ x t, a.outcome s = (.ok x, t) ∧ Q x t

theorem Yields.mono {a : Act σ α} {P Q : α → σ → Prop} (h : Yields a s P)
    (hpq : ∀ x t, P x t → Q x t) : Yields a s Q := by
  obtain ⟨x, t, ha, hx⟩ := h
  exact ⟨x, t, ha, hpq x t hx⟩

theorem Yields.bind {a : Act σ α} {f : α → Act σ β} {P : α → σ → Prop} {Q : β → σ → Prop}
    (h : Yields a s P) (hf : ∀ x t, P x t → Yields (f x) t Q) : Yields (a >>= f) s Q := by
  obtain ⟨x, t, ha, hx⟩ := h
  obtain ⟨y, u, hb, hy⟩ := hf x t hx
  exact ⟨y, u, (outcome_bind_of_ok ha).trans hb, hy⟩

theorem Yields.discard {a : Act σ α} {Q : PUnit → σ → Prop} (h : Yields a s fun _ => Q ⟨⟩) :
    Yields (discard a) s Q := by
  obtain ⟨x, t, ha, hx⟩ := h
  refine ⟨⟨⟩, t, ?_, hx⟩
  rw [outcome_discard, ha]
  rfl

theorem yields_pure {x : α} {Q : α → σ → Prop} (h : Q x s) : Yields (pure x) s Q := ⟨x, s, rfl, h⟩

theorem yields_get_bind {f : σ → Act σ β} {Q : β → σ → Prop} (h : Yields (f s) s Q) :
    Yields (get >>= f) s Q := by
  unfold Yields at h ⊢
  rwa [outcome_bind, outcome_get]

theorem yields_modify {f : σ → σ} {Q : PUnit → σ → Prop} (h : Q ⟨⟩ (f s)) :
    Yields (modify f) s Q := ⟨⟨⟩, f s, rfl, h⟩

theorem yields_lift {r : Except Fault α} {x : α} (hr : r = .ok x) {Q : α → σ → Prop} (h : Q x s) :
    Yields (lift r) s Q := ⟨x, s, by rw [outcome_lift, hr], h⟩

/-- An act on a part of the state yields what it yields on that part. -/
theorem Yields.within {part : σ → τ} {replace : σ → τ → σ} {a : Act τ α} {P : α → τ → Prop}
    (h : Yields a (part s) P) :
    Yields (a.within part replace) s fun x u => ∃ t, u = replace s t ∧ P x t := by
  obtain ⟨x, t, ha, hx⟩ := h
  exact ⟨x, replace s t, by rw [outcome_within, ha], t, rfl, hx⟩

/-! ## Acts that succeeded -/

/-- Of two acts in a row that succeeded, both did. -/
theorem outcome_bind_eq_ok {a : Act σ α} {f : α → Act σ β} {t : σ} {y : β} :
    (a >>= f).outcome s = (.ok y, t) ↔
      ∃ x u, a.outcome s = (.ok x, u) ∧ (f x).outcome u = (.ok y, t) := by
  rw [outcome_bind]
  rcases a.outcome s with ⟨e | x, u⟩
  · exact ⟨nofun, fun ⟨_, _, h, _⟩ => nomatch h⟩
  · exact ⟨fun h => ⟨x, u, rfl, h⟩, fun ⟨_, _, h, h'⟩ => by cases h; exact h'⟩

theorem outcome_lift_eq_ok {r : Except Fault α} {t : σ} {x : α} :
    (lift r : Act σ α).outcome s = (.ok x, t) ↔ r = .ok x ∧ s = t := by
  rw [outcome_lift, Prod.mk.injEq]

theorem outcome_discard_eq_ok {a : Act σ α} {t : σ} :
    (discard a : Act σ PUnit).outcome s = (.ok ⟨⟩, t) ↔ ∃ x, a.outcome s = (.ok x, t) := by
  rw [outcome_discard]
  rcases a.outcome s with ⟨e | x, u⟩
  · exact ⟨nofun, fun ⟨_, h⟩ => nomatch h⟩
  · exact ⟨fun h => ⟨x, by cases h; rfl⟩, fun ⟨_, h⟩ => by cases h; rfl⟩

/-- An act that succeeds yields what it keeps. -/
theorem Keeps.yields {P : σ → Prop} {a : Act σ α} (hk : Keeps P a)
    (hok : ∃ x, (a.outcome s).1 = .ok x) (hs : P s) : Yields a s fun _ t => P t := by
  obtain ⟨x, hx⟩ := hok
  exact ⟨x, _, Prod.ext hx rfl, hk s hs⟩

end Arcade.Act
