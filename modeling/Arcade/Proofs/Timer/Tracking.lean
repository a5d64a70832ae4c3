import Arcade.Proofs.Timer.Fitting

/-!
# Timers that a slot knows of

A slot tracks its timers as long as it is the only one that makes and cancels them: none was made
for a generation to come, and in a queue that takes cancellations none waits but the one that the
slot holds. So nothing of the slot waits there once it was cancelled, and in a stubborn queue
everything that waits is of an earlier generation. Whatever makes a queue smaller keeps this.
-/

namespace Arcade

theorem TimerQueue.mem_waiting_cancel {τ : Type} {q : TimerQueue τ} (h : q.stubborn = false)
    {id : Nat} {t : Timer τ} : t ∈ (q.cancel id).waiting ↔ t ∈ q.waiting ∧ t.id ≠ id := by
  simp [cancel, h]

namespace Slot

variable {τ : Type} {own : τ → Option Nat} {s : Slot} {q r : TimerQueue τ}

/-- Whether a slot knows of the timers of a queue that are its own. -/
structure Tracks (own : τ → Option Nat) (s : Slot) (q : TimerQueue τ) : Prop where
  past : ∀ t ∈ q.waiting, ∀ g, own t.task = some g → g ≤ s.generation
  alone : q.stubborn = false → ∀ t ∈ q.waiting, own t.task ≠ none → s.timer = some t.id

theorem tracks_of_waiting_eq_nil (h : q.waiting = []) : Tracks own s q := by
  constructor <;> simp [h]

namespace Tracks

theorem mono (h : Tracks own s q) (hwaiting : r.waiting.Sublist q.waiting)
    (hstubborn : r.stubborn = q.stubborn) : Tracks own s r where
  past t ht := h.past t (hwaiting.subset ht)
  alone hr t ht := h.alone (hstubborn ▸ hr) t (hwaiting.subset ht)

/-- Nothing of the slot waits once it was cancelled. -/
theorem foreign_of_cancel (h : Tracks own s q) (hq : q.stubborn = false) {t : Timer τ}
    (ht : t ∈ (s.cancel q).2.waiting) : own t.task = none := by
  have hmem := (waiting_cancel_sublist s q).subset ht
  refine Decidable.byContradiction fun hown => ?_
  have htimer := h.alone hq t hmem hown
  unfold cancel at ht
  rw [htimer] at ht
  exact ((TimerQueue.mem_waiting_cancel hq).mp ht).2 rfl

/-- What waits once the slot was cancelled is of an earlier generation, if it is the slot's own. -/
theorem stale_of_cancel (h : Tracks own s q) {t : Timer τ} (ht : t ∈ (s.cancel q).2.waiting) :
    own t.task ≠ some (s.cancel q).1.generation := by
  intro hg
  have hle := h.past t ((waiting_cancel_sublist s q).subset ht) _ hg
  exact Nat.not_succ_le_self _ hle

theorem cancel (h : Tracks own s q) : Tracks own (s.cancel q).1 (s.cancel q).2 where
  past t ht g hg :=
    Nat.le_succ_of_le (h.past t ((waiting_cancel_sublist s q).subset ht) g hg)
  alone hq t ht hown := by
    rw [cancel_stubborn] at hq
    exact absurd (h.foreign_of_cancel hq ht) hown

/-- A timer that is not the slot's own can be added. -/
theorem add (h : Tracks own s q) {task : τ} (htask : own task = none) (deadline : Float) :
    Tracks own s (q.add deadline task) where
  past t ht g hg := by
    rcases TimerQueue.mem_waiting_add.mp ht with ht | rfl
    · exact h.past t ht g hg
    · rw [htask] at hg
      cases hg
  alone hq t ht hown := by
    rcases TimerQueue.mem_waiting_add.mp ht with ht | rfl
    · exact h.alone hq t ht hown
    · exact absurd htask hown

theorem schedule (h : Tracks own s q) {task : Nat → τ} (htask : ∀ g, own (task g) = some g)
    (delay : Float) :
    Tracks own (s.schedule q delay task).1 (s.schedule q delay task).2 where
  past t ht g hg := by
    rcases TimerQueue.mem_waiting_add.mp ht with ht | rfl
    · exact Nat.le_succ_of_le (h.cancel.past t ht g hg)
    · rw [htask] at hg
      exact Nat.le_of_eq (Option.some.inj hg).symm
  alone hq t ht hown := by
    rcases TimerQueue.mem_waiting_add.mp ht with ht | rfl
    · have hstubborn : q.stubborn = false := by
        rw [← cancel_stubborn s q]
        exact hq
      exact absurd (h.foreign_of_cancel hstubborn ht) hown
    · rfl

/-- Another slot can be set, whose timers are not the slot's own. -/
theorem schedule_other (h : Tracks own s q) (other : Slot) {task : Nat → τ}
    (htask : ∀ g, own (task g) = none) (delay : Float) :
    Tracks own s (other.schedule q delay task).2 :=
  (h.mono (waiting_cancel_sublist other q) (cancel_stubborn other q)).add (htask _) _

/-- The slot after a timer went off, which is its own or not. -/
theorem expired (h : Tracks own s q) {t : Timer τ} (ht : t ∈ q.waiting) (time : Float) :
    Tracks own (if own t.task = some s.generation then ⟨none, none, s.generation⟩ else s)
      (q.expired t.id time) where
  past u hu g hg := by
    have hle := h.past u (TimerQueue.mem_waiting_expired.mp hu).1 g hg
    split <;> exact hle
  alone hq u hu hown := by
    obtain ⟨hu, hne⟩ := TimerQueue.mem_waiting_expired.mp hu
    have htimer := h.alone hq u hu hown
    split
    · rename_i hg
      have hheld := h.alone hq t ht (by simp [hg])
      rw [htimer] at hheld
      exact absurd (Option.some.inj hheld) hne
    · exact htimer

end Tracks

end Slot

end Arcade
