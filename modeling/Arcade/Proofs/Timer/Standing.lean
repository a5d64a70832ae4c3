import Arcade.Proofs.Timer.Cell
import Arcade.Proofs.Timer.Sole

/-!
# Slots that stand for cells

A slot stands for the cell of its history if it holds the timer of what the cell holds, and no other
timer of its own waits that was not cancelled. Cancelling and scheduling keep that, and so do timers
that go off, also those that were cancelled. All that is seen of the slot then shows the cell.
-/

namespace Arcade

open SlotHistory SlotEvent

variable {s : Slot} {q : TimerQueue (Option Nat × Script)} {es : List SlotEvent} {held : Held}

namespace Slot

/-! ## Slots and cells -/

/-- The timers of a slot that wait and were not cancelled. -/
def live (es : List SlotEvent) (q : TimerQueue (Option Nat × Script)) :
    List (Timer (Option Nat × Script)) :=
  q.waiting.filter fun t => t.task.1.isSome && decide (t.id ∉ revoked es)

/-- Whether a slot shows the cell of a history. Something is pending if the cell holds something,
until that is due, and the timer of what the cell holds is the only live one of the slot. -/
structure Shows (es : List SlotEvent) (s : Slot) (q : TimerQueue (Option Nat × Script)) : Prop where
  pending : s.isPending = (cell es).isSome
  due : ∀ held, cell es = some held → ∃ d, s.deadline = some d ∧ held.Due d
  idle : cell es = none → s.deadline = none
  sole : (live es q).map Timer.task = (cell es).toList.map Held.task

/-- Whether a slot holds a script, with a timer that waits. -/
structure Holds (s : Slot) (q : TimerQueue (Option Nat × Script)) (held : Held) : Prop where
  generation : s.generation = held.generation
  due : ∃ d, s.deadline = some d ∧ held.Due d
  timer : ∃ t ∈ q.waiting, s.timer = some t.id ∧ t.task = held.task

/-- Whether a slot stands for the cell of a history. -/
structure Stands (es : List SlotEvent) (s : Slot) (q : TimerQueue (Option Nat × Script)) :
    Prop where
  fits : Fits Prod.fst s q
  ordered : q.waiting.Pairwise fun t u => t.id < u.id
  holds : ∀ held, cell es = some held → Holds s q held
  idle : cell es = none → s.timer = none ∧ s.deadline = none
  past : ∀ g ∈ generations es, g ≤ s.generation
  spent : s.generation ∈ generations es → cell es = none →
    ∃ script, wentOff (some s.generation, script) true ∈ es
  alone : ∀ t ∈ q.waiting, t.task.1 ≠ none → t.id ∉ revoked es → s.timer = some t.id
  young : ∀ id ∈ revoked es, id < q.made
  spared : ∀ id, s.timer = some id → id ∉ revoked es

namespace Stands

theorem shows (h : Stands es s q) : Shows es s q := by
  cases hc : cell es with
  | none =>
    obtain ⟨htimer, hdeadline⟩ := h.idle hc
    -- A live timer would be the one that the slot holds, and it holds none.
    have hlive : live es q = [] := by
      refine List.filter_eq_nil_iff.2 fun t ht hlive => ?_
      obtain ⟨hown, hnot⟩ := Bool.and_eq_true_iff.1 hlive
      have hheld := h.alone t ht (Option.isSome_iff_ne_none.1 hown) (of_decide_eq_true hnot)
      rw [htimer] at hheld
      cases hheld
    refine ⟨?_, fun held hheld => ?_, fun _ => hdeadline, ?_⟩
    · rw [isPending, htimer, hc]
      rfl
    · rw [hc] at hheld
      cases hheld
    · rw [hlive, hc]
      rfl
  | some held =>
    have hholds := h.holds held hc
    obtain ⟨t, ht, htimer, htask⟩ := hholds.timer
    -- Whatever is live is held by the slot, so that there is one live timer.
    have hlive : live es q = [t] := by
      refine filter_eq_singleton h.ordered (fun u hu => ⟨fun hlive => ?_, ?_⟩) ht
      · obtain ⟨hown, hnot⟩ := Bool.and_eq_true_iff.1 hlive
        have hheld := h.alone u hu (Option.isSome_iff_ne_none.1 hown) (of_decide_eq_true hnot)
        rw [htimer] at hheld
        exact (h.fits.distinct t ht u hu (Option.some.inj hheld)).symm
      · rintro rfl
        rw [htask, decide_eq_true (h.spared u.id htimer)]
        rfl
    refine ⟨?_, fun other hother => ?_, fun hnone => ?_, ?_⟩
    · rw [isPending, htimer, hc]
      rfl
    · obtain rfl := Option.some.inj (hc.symm.trans hother)
      exact hholds.due
    · rw [hc] at hnone
      cases hnone
    · rw [hlive, hc, List.map_singleton, htask]
      rfl

theorem cancel (h : Stands es s q) :
    Stands (es ++ [cancelled s.timer]) (s.cancel q).1 (s.cancel q).2 := by
  have hmem : ∀ t ∈ (s.cancel q).2.waiting, t ∈ q.waiting :=
    fun t ht => (waiting_cancel_sublist s q).subset ht
  have hgenerations : generations (es ++ [cancelled s.timer]) = generations es :=
    generations_concat_of_none rfl
  constructor
  case fits => exact h.fits.cancel
  case ordered => exact h.ordered.sublist (waiting_cancel_sublist s q)
  case holds =>
    intro held hc
    rw [cell_concat] at hc
    cases hc
  case idle => exact fun _ => ⟨rfl, rfl⟩
  case past =>
    rw [hgenerations]
    exact fun g hg => Nat.le_succ_of_le (h.past g hg)
  -- A new generation has begun, of which nothing was scheduled.
  case spent =>
    rw [hgenerations]
    exact fun hg => absurd (h.past _ hg) (Nat.not_succ_le_self _)
  -- The timer that the slot held is revoked now.
  case alone =>
    intro t ht hown hnot
    rw [revoked_concat, List.mem_append, not_or] at hnot
    have hheld := h.alone t (hmem t ht) hown hnot.1
    exact absurd (Option.mem_toList.2 hheld) hnot.2
  case young =>
    intro id hid
    rw [cancel_made]
    rw [revoked_concat, List.mem_append] at hid
    rcases hid with hid | hid
    · exact h.young id hid
    · obtain ⟨t, ht, rfl, -⟩ := h.fits.held id (Option.mem_toList.1 hid)
      exact h.fits.young t ht
  case spared => exact nofun

theorem occupy (h : Stands es s q) (hc : cell es = none) {time : Float} {delay : Json}
    {script : Script} {deadline : Float}
    (hd : Held.Due ⟨s.generation + 1, time, delay, script⟩ deadline) (timerDeadline : Float) :
    Stands (es ++ [scheduled (s.generation + 1) time delay script])
      (s.occupy q deadline timerDeadline fun g => (some g, script)).1
      (s.occupy q deadline timerDeadline fun g => (some g, script)).2 := by
  have hcell : cell (es ++ [scheduled (s.generation + 1) time delay script]) =
      some ⟨s.generation + 1, time, delay, script⟩ := by
    rw [cell_concat]
    rfl
  have hrevoked : revoked (es ++ [scheduled (s.generation + 1) time delay script]) = revoked es :=
    revoked_concat_of_none rfl
  constructor
  case fits => exact h.fits.occupy (fun _ => rfl) deadline timerDeadline
  case ordered => exact h.fits.ordered_add h.ordered timerDeadline _
  case holds =>
    intro held hheld
    -- The cell holds what was just scheduled, by the timer that was just added.
    obtain rfl := Option.some.inj (hcell.symm.trans hheld)
    exact ⟨rfl, ⟨deadline, rfl, hd⟩, _, TimerQueue.mem_waiting_add.2 (.inr rfl), rfl, rfl⟩
  case idle =>
    rw [hcell]
    exact nofun
  case past =>
    intro g hg
    rw [generations_concat, List.mem_append] at hg
    rcases hg with hg | hg
    · exact Nat.le_succ_of_le (h.past g hg)
    · exact Nat.le_of_eq (List.mem_singleton.1 hg)
  case spent =>
    rw [hcell]
    exact nofun
  case alone =>
    intro t ht hown hnot
    rw [hrevoked] at hnot
    -- The cell was empty, so that no older timer is live beside the one that was added.
    rcases TimerQueue.mem_waiting_add.1 ht with ht | rfl
    · have hheld := h.alone t ht hown hnot
      rw [(h.idle hc).1] at hheld
      cases hheld
    · rfl
  case young =>
    rw [hrevoked]
    exact fun id hid => Nat.lt_succ_of_lt (h.young id hid)
  case spared =>
    intro id hid hmem
    rw [hrevoked] at hmem
    -- A timer that is made now is newer than whatever was revoked.
    obtain rfl := Option.some.inj hid
    exact Nat.lt_irrefl _ (h.young _ hmem)

theorem add (h : Stands es s q) (deadline : Float) (script : Script) :
    Stands es s (q.add deadline (none, script)) := by
  refine { h with
    fits := h.fits.add rfl deadline
    ordered := h.fits.ordered_add h.ordered deadline _
    holds := ?_, alone := ?_, young := ?_ }
  · intro held hc
    obtain ⟨hg, hd, t, ht, htimer, htask⟩ := h.holds held hc
    exact ⟨hg, hd, t, TimerQueue.mem_waiting_add.2 (.inl ht), htimer, htask⟩
  · intro t ht hown hnot
    rcases TimerQueue.mem_waiting_add.1 ht with ht | rfl
    · exact h.alone t ht hown hnot
    · exact absurd rfl hown
  · exact fun id hid => Nat.lt_succ_of_lt (h.young id hid)

theorem withTime (h : Stands es s q) (time : Float) : Stands es s { q with time := time } := by
  refine { h with fits := h.fits.withTime time, holds := fun held hc => ?_ }
  obtain ⟨hg, hd, htimer⟩ := h.holds held hc
  exact ⟨hg, hd, htimer⟩

/-! ## Timers that go off -/

/-- A timer of the slot's present generation is for what the cell holds. -/
theorem exists_held (h : Stands es s q) {t : Timer (Option Nat × Script)} (ht : t ∈ q.waiting)
    (hg : t.task.1 = some s.generation) : ∃ held, cell es = some held ∧ held.task = t.task := by
  have htimer := h.fits.current t ht hg
  cases hc : cell es with
  | none =>
    rw [(h.idle hc).1] at htimer
    cases htimer
  | some held =>
    obtain ⟨u, hu, hutimer, hutask⟩ := (h.holds held hc).timer
    rw [htimer] at hutimer
    rw [h.fits.distinct t ht u hu (Option.some.inj hutimer)]
    exact ⟨held, rfl, hutask.symm⟩

/-- Once the timer of what the cell holds went off, the cell is empty. -/
theorem expired_own (h : Stands es s q) {t : Timer (Option Nat × Script)} (ht : t ∈ q.waiting)
    (hg : t.task.1 = some s.generation) (time : Float) :
    Stands (es ++ [wentOff t.task true]) ⟨none, none, s.generation⟩ (q.expired t.id time) := by
  obtain ⟨held, hc, -⟩ := h.exists_held ht hg
  have htimer := h.fits.current t ht hg
  have hcell : cell (es ++ [wentOff t.task true]) = none := by
    rw [cell_concat, hc, cellAfter, Option.filter_some, hg, (h.holds held hc).generation]
    simp
  have hrevoked : revoked (es ++ [wentOff t.task true]) = revoked es :=
    revoked_concat_of_none rfl
  have hgenerations : generations (es ++ [wentOff t.task true]) = generations es :=
    generations_concat_of_none rfl
  constructor
  case fits => exact h.fits.expired_own ht hg time
  case ordered => exact h.ordered.sublist List.filter_sublist
  case holds =>
    rw [hcell]
    exact nofun
  case idle => exact fun _ => ⟨rfl, rfl⟩
  case past =>
    rw [hgenerations]
    exact h.past
  case spent =>
    intro _ _
    refine ⟨t.task.2, List.mem_append_right _ ?_⟩
    rw [← hg]
    exact List.mem_singleton_self _
  case alone =>
    intro u hu hown hnot
    -- A live timer is the one that the slot held, and that one has left the queue.
    obtain ⟨hu, hne⟩ := TimerQueue.mem_waiting_expired.1 hu
    rw [hrevoked] at hnot
    have hheld := h.alone u hu hown hnot
    rw [htimer] at hheld
    exact absurd (Option.some.inj hheld).symm hne
  case young =>
    rw [hrevoked]
    exact h.young
  case spared => exact nofun

/-- Any other timer can leave the queue. -/
theorem expired_other (h : Stands es s q) {t : Timer (Option Nat × Script)} (ht : t ∈ q.waiting)
    (hg : t.task.1 ≠ some s.generation) (time : Float) : Stands es s (q.expired t.id time) := by
  refine { h with
    fits := h.fits.expired_other ht hg time
    ordered := h.ordered.sublist List.filter_sublist
    holds := fun held hc => ?_
    alone := fun u hu => h.alone u (TimerQueue.mem_waiting_expired.1 hu).1 }
  obtain ⟨hgeneration, hdue, u, hu, htimer, htask⟩ := h.holds held hc
  refine ⟨hgeneration, hdue, u, TimerQueue.mem_waiting_expired.2 ⟨hu, fun hid => hg ?_⟩, htimer,
    htask⟩
  rw [← h.fits.distinct u hu t ht hid, htask, hgeneration]
  rfl

/-- A timer that is not for the slot's present generation leaves the cell as it is. -/
theorem passed (h : Stands es s q) {task : Option Nat × Script} (hg : task.1 ≠ some s.generation)
    (runs : Bool) : Stands (es ++ [wentOff task runs]) s q := by
  have hcell : cell (es ++ [wentOff task runs]) = cell es := by
    rw [cell_concat]
    cases hc : cell es with
    | none => rfl
    | some held =>
      rw [cellAfter, Option.filter_some, if_pos]
      exact decide_eq_true ((h.holds held hc).generation ▸ hg)
  have hrevoked : revoked (es ++ [wentOff task runs]) = revoked es :=
    revoked_concat_of_none rfl
  have hgenerations : generations (es ++ [wentOff task runs]) = generations es :=
    generations_concat_of_none rfl
  constructor
  case fits => exact h.fits
  case ordered => exact h.ordered
  case holds => exact hcell ▸ h.holds
  case idle => exact hcell ▸ h.idle
  case past => exact hgenerations ▸ h.past
  case spent =>
    intro hspent hc
    rw [hgenerations] at hspent
    rw [hcell] at hc
    obtain ⟨script, hscript⟩ := h.spent hspent hc
    exact ⟨script, List.mem_append_left _ hscript⟩
  case alone => exact hrevoked ▸ h.alone
  case young => exact hrevoked ▸ h.young
  case spared => exact hrevoked ▸ h.spared

/-- A generation is over if a script was scheduled for it that did not run and that the cell does
not hold any more. -/
theorem generation_ne (h : Stands es s q) {g : Nat} (hg : g ∈ generations es)
    (hran : ∀ script, wentOff (some g, script) true ∉ es)
    (hc : ∀ held, cell es = some held → held.generation ≠ g) : g ≠ s.generation := by
  rintro rfl
  cases hcell : cell es with
  | none =>
    obtain ⟨script, hscript⟩ := h.spent hg hcell
    exact hran script hscript
  | some held => exact hc held hcell (h.holds held hcell).generation.symm

/-- A timer that is not for the slot's present generation is not for what the cell holds. -/
theorem follows_passed (h : Stands es s q) {g : Nat} {script : Script} (hg : g ≠ s.generation) :
    Follows es (wentOff (some g, script) false) := by
  refine iff_of_false Bool.false_ne_true ?_
  rintro ⟨held, hc, htask⟩
  rw [(h.holds held hc).generation] at hg
  exact hg (Option.some.inj (congrArg Prod.fst htask)).symm

end Stands

end Slot

end Arcade
