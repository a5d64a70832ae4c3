import Arcade.Proofs.Timer.Tracking

/-!
# The timer that is pending

A queue that takes cancellations holds no timer of a slot but the one that is pending. In a stubborn
queue, timers of earlier generations wait on. In both, what is pending is a single timer: the only
one of the slot's present generation.
-/

namespace Arcade

namespace Slot

variable {τ : Type} {own : τ → Option Nat} {s : Slot} {q : TimerQueue τ}

/-- Whether a slot fits a queue in which timers wait in the order in which they were made, and knows
of those that are its own. -/
structure Rules (own : τ → Option Nat) (s : Slot) (q : TimerQueue τ) : Prop where
  fits : Fits own s q
  ordered : q.waiting.Pairwise fun t u => t.id < u.id
  tracks : Tracks own s q

theorem rules_of_waiting_eq_nil (hw : q.waiting = []) (hs : s.timer = none) : Rules own s q where
  fits := fits_of_waiting_eq_nil hw hs
  ordered := by simp [hw]
  tracks := tracks_of_waiting_eq_nil hw

namespace Rules

theorem cancel (h : Rules own s q) : Rules own (s.cancel q).1 (s.cancel q).2 where
  fits := h.fits.cancel
  ordered := h.ordered.sublist (waiting_cancel_sublist s q)
  tracks := h.tracks.cancel

theorem schedule (h : Rules own s q) {task : Nat → τ} (htask : ∀ g, own (task g) = some g)
    (delay : Float) :
    Rules own (s.schedule q delay task).1 (s.schedule q delay task).2 where
  fits := h.fits.schedule htask delay
  ordered := h.cancel.fits.ordered_add h.cancel.ordered _ _
  tracks := h.tracks.schedule htask delay

/-- The slot after a timer went off, which is its own or not. -/
theorem expired (h : Rules own s q) {t : Timer τ} (ht : t ∈ q.waiting) (time : Float) :
    Rules own (if own t.task = some s.generation then ⟨none, none, s.generation⟩ else s)
      (q.expired t.id time) where
  fits := by
    split
    · rename_i hg
      exact h.fits.expired_own ht hg time
    · rename_i hg
      exact h.fits.expired_other ht hg time
  ordered := h.ordered.sublist List.filter_sublist
  tracks := h.tracks.expired ht time

theorem withTime (h : Rules own s q) (time : Float) : Rules own s { q with time := time } :=
  ⟨h.fits.withTime time, h.ordered, h.tracks.mono (List.Sublist.refl _) rfl⟩

end Rules

/-- Whether a timer is all that a slot has pending: the only one of the slot's present generation
and, unless the queue is stubborn, the only one of the slot. -/
structure Sole (own : τ → Option Nat) (s : Slot) (q : TimerQueue τ) (t : Timer τ) : Prop where
  deadline : s.deadline = some t.deadline
  present : q.waiting.filter (fun u => own u.task = some s.generation) = [t]
  only : q.stubborn = false → q.waiting.filter (fun u => (own u.task).isSome) = [t]

/-- In an ordered list, what has the number of one member is that member. -/
theorem filter_eq_singleton {ts : List (Timer τ)} (hts : ts.Pairwise fun t u => t.id < u.id)
    {p : Timer τ → Bool} {t : Timer τ} (hp : ∀ u ∈ ts, p u = true ↔ u = t) (ht : t ∈ ts) :
    ts.filter p = [t] := by
  induction ts with
  | nil => cases ht
  | cons u ts ih =>
    obtain ⟨hlt, hts⟩ := List.pairwise_cons.mp hts
    obtain ⟨hu, hrest⟩ := List.forall_mem_cons.mp hp
    by_cases heq : u = t
    · subst heq
      rw [List.filter_cons_of_pos (hu.mpr rfl)]
      refine congrArg _ (List.filter_eq_nil_iff.mpr fun v hv hpv => ?_)
      have := hlt v hv
      rw [(hrest v hv).mp hpv] at this
      exact Nat.lt_irrefl _ this
    · rw [List.filter_cons_of_neg (mt hu.mp heq)]
      exact ih hts hrest ((List.mem_cons.mp ht).resolve_left fun h => heq h.symm)

/-- What a slot keeps is all that it has pending. -/
theorem Rules.sole (h : Rules own s q) {t : Timer τ} (ht : s.kept? q = some t)
    (hd : s.deadline = some t.deadline) : Sole own s q t := by
  obtain ⟨hmem, htimer, hg⟩ := h.fits.mem_of_kept? ht
  have hsame : ∀ u ∈ q.waiting, s.timer = some u.id → u = t := by
    intro u hu hheld
    rw [htimer] at hheld
    exact h.fits.distinct u hu t hmem (Option.some.inj hheld).symm
  refine ⟨hd, filter_eq_singleton h.ordered (fun u hu => ?_) hmem,
    fun hq => filter_eq_singleton h.ordered (fun u hu => ?_) hmem⟩
  · rw [decide_eq_true_iff]
    constructor
    · intro hgu
      exact hsame u hu (h.fits.current u hu hgu)
    · rintro rfl
      exact hg
  · constructor
    · intro hown
      refine hsame u hu (h.tracks.alone hq u hu fun hnone => ?_)
      rw [hnone] at hown
      cases hown
    · rintro rfl
      rw [hg]
      rfl

end Slot

end Arcade
