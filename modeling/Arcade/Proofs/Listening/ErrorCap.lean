import Arcade.Proofs.Listening.Setbacks

/-!
# The error cap

Between two pardons, the background recognizer has no more setbacks than there are errors left to
the greatest number, and once that is reached it is not started again. Each setback before that
leaves one timer pending, which starts the recognizer again after the delay for the errors so far;
only a host that fails when it is told of the setback keeps the timer from being made.
-/

namespace Arcade

namespace Stance

/-- Whether there are at most as many errors as the greatest number, and the background recognizer
is not listened to any more once there are so many. -/
def Within (st : Stance) : Prop :=
  (st.errors : Int) ≤ st.pace.maxErrors ∧ (st.needsRestart = true → st.mode ≠ .background)

variable {st st' : Stance}

theorem needsRestart_eq_false :
    st.needsRestart = false ↔ (st.errors : Int) < st.pace.maxErrors := by
  unfold needsRestart
  rw [decide_eq_false_iff_not, Int.not_le]

theorem within_of_lt (h : (st.errors : Int) < st.pace.maxErrors) : st.Within := by
  refine ⟨Int.le_of_lt h, fun hneeds => ?_⟩
  rw [needsRestart_eq_false.mpr h] at hneeds
  cases hneeds

theorem Even.within (h : st.Even st') (hw : st.Within) : st'.Within := by
  obtain ⟨hle, hoff⟩ := hw
  unfold Within needsRestart at *
  rw [h.errors, h.pace]
  exact ⟨hle, fun hneeds hm => hoff hneeds (h.listens hm)⟩

theorem Struck.within {ok : Bool} (h : st.Struck ok st')
    (hlt : (st.errors : Int) < st.pace.maxErrors) : st'.Within := by
  refine ⟨?_, fun _ hm => ?_⟩
  · rw [h.errors, h.pace]
    omega
  · rw [h.idle] at hm
    cases hm

theorem count_true_le {xs : List Bool} (h : xs.length ≤ 1) : xs.count true ≤ 1 :=
  Nat.le_trans List.count_le_length h

theorem Attempted.within {xs : List Bool} {ok : Bool} (h : st.Attempted xs ok st')
    (hlt : (st.errors : Int) < st.pace.maxErrors) : st'.Within := by
  have hcount := count_true_le h.once
  by_cases hmem : true ∈ xs
  · refine ⟨?_, fun _ hm => ?_⟩
    · rw [h.errors, h.pace]
      omega
    · rw [h.idle hmem] at hm
      cases hm
  · refine within_of_lt ?_
    rw [h.errors, h.pace, List.count_eq_zero_of_not_mem hmem]
    exact hlt

/-- Whether a timer is all that is pending. -/
def Awaits (st : Stance) (t : Timer Task) : Prop := st.slot.Sole Task.generation? st.queue t

/-- What was scheduled last is all that is pending. -/
theorem awaits_scheduled (delay : Float) (task : ListeningTask)
    (hrules : (st.scheduled delay task).slot.Rules Task.generation?
      (st.scheduled delay task).queue) :
    ∃ t, (st.scheduled delay task).Awaits t ∧ t.task.listening? = some task ∧
      t.deadline = (st.scheduled delay task).queue.time + delay := by
  have hkept : (st.scheduled delay task).slot.kept? (st.scheduled delay task).queue =
      some ⟨(st.slot.cancel st.queue).2.made, (st.slot.cancel st.queue).2.time + delay,
        .listening (st.slot.generation + 2) task⟩ :=
    Slot.kept?_schedule st.slot st.queue delay fun generation => .listening generation task
  have htime : (st.scheduled delay task).queue.time = st.queue.time :=
    Slot.cancel_time st.slot st.queue
  refine ⟨_, hrules.sole hkept ?_, rfl, ?_⟩
  · unfold scheduled
    rw [Slot.schedule_deadline, Slot.cancel_time]
  · rw [Slot.cancel_time, htime]

/-- The recognizer comes back by a timer that is all that is pending. -/
theorem Armed.awaits (h : st.Armed) (hrules : st.slot.Rules Task.generation? st.queue)
    (hlt : (st.errors : Int) < st.pace.maxErrors) :
    ∃ t, st.Awaits t ∧ t.task.listening? = some .resume ∧
      t.deadline = st.queue.time + st.pace.backoff st.errors := by
  rcases h with hneeds | ⟨st₀, hst⟩
  · rw [needsRestart_eq_false.mpr hlt] at hneeds
    cases hneeds
  · rw [hst] at hrules
    have hawaits := awaits_scheduled _ _ hrules
    rwa [← hst] at hawaits

end Stance

namespace Scene

variable {δ : Type} {s : Scene δ}

/-- The timers of a session are kept in order, whatever happens. -/
theorem tended_rules :
    Tended fun s : Scene δ => s.session.slot.Rules Task.generation? s.room.queue where
  session _ hslot _ h := by
    rwa [hslot]
  room hroom h := by
    rwa [hroom.2.2.1]
  schedule delay task h :=
    Slot.Rules.schedule h (fun _ => rfl : ∀ generation,
      (Task.listening generation task).generation? = some generation) delay
  cancelTimer h := Slot.Rules.cancel h
  answer h := h
  giveAnswer _ h := h
  expiring time ht h := Slot.Rules.expired h ht time
  setClock time h := Slot.Rules.withTime h time

theorem Fresh.rules (h : s.Fresh) : s.session.slot.Rules Task.generation? s.room.queue := by
  obtain ⟨pace, permission, room, hwaiting, hst⟩ := h.exists_stance
  have hslot := congrArg Stance.slot hst
  have hqueue := congrArg Stance.queue hst
  dsimp only [stance] at hslot hqueue
  rw [hslot, hqueue]
  exact Slot.rules_of_waiting_eq_nil hwaiting rfl

/-! ## One occasion -/

/-- Without a pardon, only a timer starts the background recognizer, and only while there are not
too many errors. -/
theorem launches_spared {o : Occasion} (ho : ¬s.Pardons o) (hl : s.launches o ≠ []) :
    (∃ id time, o = .timer id time) ∧ (s.stance.errors : Int) < s.stance.pace.maxErrors := by
  rcases s.fares o with ⟨-, h⟩ | ⟨-, hp, -⟩ | ⟨-, h⟩ | ⟨-, xs, hchance, -⟩
  · exact absurd (launches_of_even h rfl) hl
  · exact absurd hp ho
  · exact absurd (launches_eq (by rw [h.starts, List.append_nil])) hl
  · obtain ⟨htimer, hneeds⟩ := hchance.resolve_left ho
    exact ⟨htimer, Stance.needsRestart_eq_false.mp hneeds⟩

/-- Without a pardon, the errors count the setbacks. -/
theorem errors_after {o : Occasion} (ho : ¬s.Pardons o) :
    (s.after o).stance.errors = s.stance.errors + s.setbacks o := by
  unfold setbacks
  rcases s.fares o with ⟨hl, h⟩ | ⟨-, hp, -⟩ | ⟨hl, h⟩ | ⟨hl, xs, -, h⟩
  · rw [h.errors, hl, launches_of_even h rfl]
    rfl
  · exact absurd hp ho
  · have hnone : s.launches o = [] := launches_eq (by rw [h.starts, List.append_nil])
    rw [h.errors, hl, hnone]
    rfl
  · rw [h.errors, hl, launches_eq h.starts, Bool.toNat_false, Nat.zero_add]

theorem within_after {o : Occasion} (ho : ¬s.Pardons o) (hw : s.stance.Within) :
    (s.after o).stance.Within := by
  rcases s.fares o with ⟨-, h⟩ | ⟨-, hp, -⟩ | ⟨hl, h⟩ | ⟨-, xs, hchance, h⟩
  · exact h.within hw
  · exact absurd hp ho
  · -- Only a recognizer that is listened to can be lost, and at the cap none is.
    refine h.within (Stance.needsRestart_eq_false.mp (Bool.eq_false_iff.mpr fun hneeds => ?_))
    refine hw.2 hneeds ?_
    unfold loses at hl
    split at hl
    · exact of_decide_eq_true (Bool.and_eq_true_iff.mp hl).1
    · cases hl
  · exact h.within (Stance.needsRestart_eq_false.mp (hchance.resolve_left ho).2)

/-- A setback brings the recognizer back, unless a fault comes in between. -/
theorem armed_after {o : Occasion} (hback : 0 < s.setbacks o) (hok : s.Succeeds o = true) :
    (s.after o).stance.Armed := by
  unfold setbacks at hback
  rcases s.fares o with ⟨hl, h⟩ | ⟨hl, -, h⟩ | ⟨-, h⟩ | ⟨hl, xs, -, h⟩
  · rw [hl, launches_of_even h rfl] at hback
    cases hback
  · rw [hl, launches_of_even h rfl] at hback
    cases hback
  · exact h.armed hok
  · rw [hl, launches_eq h.starts, Bool.toNat_false, Nat.zero_add] at hback
    exact h.armed (List.count_pos_iff.mp hback) hok

/-! ## Runs -/

/-- The setbacks of the background recognizer in a run. -/
def setbacksIn (s : Scene δ) : List Occasion → Nat
  | [] => 0
  | o :: os => s.setbacks o + (s.after o).setbacksIn os

theorem errors_run {os : List Occasion} (hos : s.Throughout (fun s o => ¬s.Pardons o) os) :
    (s.run os).stance.errors = s.stance.errors + s.setbacksIn os := by
  induction os generalizing s with
  | nil => rfl
  | cons o os ih =>
    rw [run_cons, ih hos.2, errors_after hos.1, Nat.add_assoc]
    rfl

theorem within_run {os : List Occasion} (hos : s.Throughout (fun s o => ¬s.Pardons o) os)
    (hw : s.stance.Within) : (s.run os).stance.Within := by
  induction os generalizing s with
  | nil => exact hw
  | cons o os ih => exact ih hos.2 (within_after hos.1 hw)

/-- What holds throughout a run holds at each of its occasions. -/
theorem Throughout.at {Q : Scene δ → Occasion → Prop} {xs ys : List Occasion} {o : Occasion}
    (h : s.Throughout Q (xs ++ o :: ys)) : Q (s.run xs) o := by
  induction xs generalizing s with
  | nil => exact h.1
  | cons x xs ih => exact ih h.2

theorem pace_run (s : Scene δ) (os : List Occasion) :
    (s.run os).stance.pace = s.stance.pace := ((tended_continues s).run (.refl s) os).1

/-- Timers start the background recognizer only while there are not too many errors. Between two
pardons it has at most as many setbacks as there are errors left, and it is not started any more
once there are too many errors. A setback that leaves fewer errors leaves a single timer pending,
which brings the recognizer back after the delay for the errors so far, unless a fault ended the
act. -/
theorem error_cap (h : s.Fresh) (past : List Occasion) :
    (∀ id time, (s.run past).launches (.timer id time) ≠ [] →
      ((s.run past).session.errors : Int) < s.session.pace.maxErrors) ∧
    (∀ os, (s.run past).Throughout (fun s o => ¬s.Pardons o) os →
      ((s.run past).session.errors : Int) < s.session.pace.maxErrors →
        ((s.run past).run os).session.errors =
            (s.run past).session.errors + (s.run past).setbacksIn os ∧
          ((s.run past).setbacksIn os : Int) ≤
            s.session.pace.maxErrors - (s.run past).session.errors ∧
          ∀ xs o ys, os = xs ++ o :: ys →
            s.session.pace.maxErrors ≤ (((s.run past).run xs).session.errors : Int) →
              ((s.run past).run xs).launches o = []) ∧
    (∀ o, 0 < (s.run past).setbacks o → (s.run past).Succeeds o = true →
      (((s.run past).after o).session.errors : Int) < s.session.pace.maxErrors →
        ∃ t, ((s.run past).after o).stance.Awaits t ∧ t.task.listening? = some .resume ∧
          t.deadline = ((s.run past).after o).room.queue.time +
            s.session.pace.backoff ((s.run past).after o).session.errors) := by
  have hpace : (s.run past).stance.pace = s.session.pace := pace_run s past
  refine ⟨fun id time hl => ?_, fun os hos hlt => ?_, fun o hback hok hlt => ?_⟩
  · have := (launches_spared (show ¬(s.run past).Pardons (.timer id time) from False.elim) hl).2
    rwa [hpace] at this
  · have hw : (s.run past).stance.Within := Stance.within_of_lt (by rwa [hpace])
    have herrors : ((s.run past).run os).session.errors = _ := errors_run hos
    have hle := (within_run hos hw).1
    rw [pace_run, hpace] at hle
    refine ⟨herrors, ?_, fun xs o ys hsplit hmax => ?_⟩
    · change (((s.run past).run os).session.errors : Int) ≤ _ at hle
      rw [herrors] at hle
      change ((((s.run past).session.errors + (s.run past).setbacksIn os : Nat)) : Int) ≤ _ at hle
      omega
    · subst hsplit
      refine Decidable.byContradiction fun hl => ?_
      have := (launches_spared hos.at hl).2
      rw [pace_run, hpace] at this
      exact absurd hmax (Int.not_le.mpr this)
  · have hpace' : ((s.run past).after o).stance.pace = s.session.pace :=
      (pace_run (s.run past) [o]).trans hpace
    have hrules := tended_rules.after (tended_rules.run h.rules past) o
    obtain ⟨t, ht, htask, hdeadline⟩ :=
      (armed_after hback hok).awaits hrules (by rw [hpace']; exact hlt)
    rw [hpace'] at hdeadline
    exact ⟨t, ht, htask, hdeadline⟩

/-- Three setbacks of a session that gives up after three, with the timers that bring the recognizer
back in between. -/
def threeSetbacks : List Occasion :=
  [.report .background 1 (.failed "network"), .timer 0 3,
    .report .background 2 (.failed "network"), .timer 1 9,
    .report .background 3 (.failed "network")]

theorem error_cap_of_welcomed :
    (((welcomed.run [.start]).run threeSetbacks).session.errors = 3 ∧
        (welcomed.run [.start]).setbacksIn threeSetbacks = 3) ∧
      ((welcomed.run [.start]).run threeSetbacks).launches .toggle = [] ∧
      ∃ t, (welcomed.run [.start, .report .background 1 (.failed "network")]).stance.Awaits t ∧
        t.task.listening? = some .resume ∧ t.deadline = 0 + welcomed.session.pace.backoff 1 := by
  obtain ⟨-, hspell, hreturn⟩ := error_cap fresh_welcomed [.start]
  have hspared : (welcomed.run [.start]).Throughout (fun s o => ¬s.Pardons o) threeSetbacks :=
    ⟨id, id, id, id, id, trivial⟩
  refine ⟨⟨rfl, ?_⟩, ?_, ?_⟩
  · have herrors := (hspell threeSetbacks hspared (by decide)).1
    rw [show (welcomed.run [.start]).session.errors = 0 from rfl, Nat.zero_add] at herrors
    exact herrors.symm
  · have hafter : (welcomed.run [.start]).Throughout (fun s o => ¬s.Pardons o)
        (threeSetbacks ++ [.toggle]) :=
      ⟨id, id, id, id, id, fun hg => Bool.noConfusion hg, trivial⟩
    exact (hspell _ hafter (by decide)).2.2 threeSetbacks _ [] rfl (by decide)
  · exact hreturn (.report .background 1 (.failed "network")) (by decide) rfl (by decide)

/-- A session with a host that fails when it is told that nothing is listened for any more. -/
def startled : Scene Unit :=
  { welcomed with room := { welcomed.room with host := {
      equipment := { background := true, foreground := true, onModeChange := true }
      conduct := { fails := fun _ c => match c with
        | .modeChanged _ .idle => true
        | _ => false } } } }

/-- A host that fails when it is told of a setback keeps the recognizer from coming back. -/
theorem setback_without_timer : startled.Fresh ∧
    0 < (startled.run [.start]).setbacks (.report .background 1 (.failed "network")) ∧
      ((startled.run [.start, .report .background 1 (.failed "network")]).session.errors : Int) <
        startled.session.pace.maxErrors ∧
        (startled.run [.start, .report .background 1 (.failed "network")]).session.slot.isPending =
          false :=
  ⟨⟨startled.session.pace, startled.session.permission, startled.room, rfl, rfl⟩,
    by decide, by decide, rfl⟩

end Scene

end Arcade
