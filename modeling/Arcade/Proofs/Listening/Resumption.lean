import Arcade.Proofs.Listening.Closing
import Arcade.Proofs.Listening.ErrorCap
import Arcade.Proofs.Listening.SingleRecognizer

/-!
# After a command

A session that hands an intent on is idle afterwards, and the wake phrase is to be listened for
again after the cooldown. A command that the foreground recognizer heard is over before its intent
is handed on, so that the return is scheduled whatever the host makes of the intent. A command that
was heard in the background is handed on before the return is scheduled. If the host fails at it,
nothing is pending, since nothing ever is while the wake phrase is listened for, and then no timer
brings the session back.
-/

namespace Arcade

/-- Whether a deed is the handing on of an intent at which the host failed. -/
def Deed.refused : Deed → Bool
  | .intent _ failed => failed
  | .recognizer .. => false

namespace Stance

variable {st st' : Stance}

/-! ## Nothing is pending while the wake phrase is listened for -/

/-- Whether nothing is pending if the wake phrase is listened for. -/
def Unburdened (st : Stance) : Prop := st.mode = .background → st.slot.timer = none

theorem unburdened_of_ne (h : st.mode ≠ .background) : st.Unburdened := fun hm => absurd hm h

theorem unburdened_of_idle (h : st.mode = .idle) : st.Unburdened :=
  unburdened_of_ne (by rw [h]; exact Mode.noConfusion)

@[simp] theorem later_mode (st : Stance) (delay : Float) : (st.later delay).mode = st.mode := by
  unfold later
  split <;> rfl

@[simp] theorem later_deeds (st : Stance) (delay : Float) :
    (st.later delay).deeds = st.deeds := by
  unfold later
  split <;> rfl

@[simp] theorem captureOver_mode (st : Stance) : st.captureOver.mode = .idle := later_mode _ _

@[simp] theorem backgroundLost_mode (st : Stance) : st.backgroundLost.mode = .idle := by
  unfold backgroundLost
  dsimp only
  split <;> rfl

theorem unburdened_listening (st : Stance) (failed : Bool) : (st.listening failed).Unburdened := by
  cases failed with
  | false => exact fun _ => rfl
  | true => exact unburdened_of_idle (backgroundLost_mode _)

theorem unburdened_captured (h : st.mode ≠ .background) (failed : Bool) :
    (st.captured failed).Unburdened := by
  unfold captured
  dsimp only
  split
  · exact unburdened_of_ne h
  · exact unburdened_of_idle (captureOver_mode _)

namespace Unburdened

theorem congr (h : st.Unburdened) (hm : st'.mode = st.mode) (hs : st'.slot = st.slot) :
    st'.Unburdened := by
  unfold Unburdened
  rw [hm, hs]
  exact h

theorem started (h : st.Unburdened) (hs : st.Started st') : st'.Unburdened := by
  unfold Started at hs
  split at hs
  · obtain ⟨failed, rfl⟩ := hs
    exact unburdened_listening _ failed
  · rw [hs]
    exact h.congr rfl rfl

theorem asked (h : st.Unburdened) {consents : Bool} (hs : st.Asked consents st') :
    st'.Unburdened := by
  have hanswering (a : Answer) : (st.answering a).Unburdened := h.congr rfl rfl
  unfold Asked at hs
  split at hs
  · rcases hs with rfl | hs
    · exact hanswering _
    · exact (hanswering _).started hs
  · rw [hs]
    exact hanswering _

theorem toggled (h : st.Unburdened) {consents : Bool} (hs : st.Toggled consents st') :
    st'.Unburdened := by
  unfold Toggled at hs
  split at hs
  · exact h.asked hs
  · split at hs
    · rwa [hs]
    · split at hs
      · obtain ⟨failed, rfl⟩ := hs
        exact unburdened_of_idle (captureOver_mode _)
      · obtain ⟨halted, failed, rfl⟩ := hs
        refine unburdened_captured ?_ failed
        rw [handedOver_mode]
        exact Mode.noConfusion

theorem restarted (h : st.Unburdened) (hs : st.Restarted st') : st'.Unburdened := by
  unfold Restarted at hs
  split at hs
  · obtain ⟨failed, st₁, -, rfl⟩ := hs
    exact unburdened_of_idle rfl
  · rwa [hs]

theorem prompted (h : st.Unburdened) (hs : st.Prompted st') : st'.Unburdened := by
  rcases hs with rfl | ⟨-, -, failed, rfl⟩
  · exact h
  · refine unburdened_of_ne ?_
    have hmode : (st.awaiting failed).mode = .awaiting := by
      unfold Stance.awaiting
      dsimp only
      split
      · rfl
      · split <;> rfl
    rw [hmode]
    exact Mode.noConfusion

theorem shut (hs : st.Shut st') : st'.Unburdened := by
  obtain ⟨failed, st₁, -, rfl⟩ := hs
  exact unburdened_of_idle rfl

theorem heard (h : st.Unburdened) {which : Recognizer} (hs : st.Heard which st') :
    st'.Unburdened := by
  have hforgiven : st.forgiven.Unburdened := h.congr rfl rfl
  unfold Heard at hs
  split at hs
  · cases which with
    | background =>
      rcases hs with hs | ⟨failed, ds, -, rfl | ⟨-, rfl⟩⟩
      · exact hforgiven.prompted hs
      · exact unburdened_of_idle (later_mode _ _)
      · exact unburdened_of_idle rfl
    | foreground =>
      obtain ⟨ds, -, rfl⟩ := hs
      exact unburdened_of_idle (captureOver_mode st)
  · rwa [hs]

theorem failed (h : st.Unburdened) {which : Recognizer} {code : String}
    (hs : st.Failed which code st') : st'.Unburdened := by
  unfold Failed at hs
  split at hs
  · split at hs
    · rcases hs with rfl | rfl
      · exact fun _ => rfl
      · exact unburdened_of_idle rfl
    · cases which with
      | background =>
        rw [show st' = st.backgroundLost from hs]
        exact unburdened_of_idle (backgroundLost_mode st)
      | foreground =>
        rw [show st' = st.captureOver from hs]
        exact unburdened_of_idle (captureOver_mode st)
  · rwa [hs]

theorem ended (h : st.Unburdened) (which : Recognizer) : (st.ended which).Unburdened := by
  unfold Stance.ended
  split
  · cases which with
    | background => exact unburdened_of_idle (backgroundOver_mode st)
    | foreground => exact unburdened_of_idle (captureOver_mode st)
  · exact h

theorem performed (h : st.Unburdened) {task : ListeningTask} (hs : st.Performed task st') :
    st'.Unburdened := by
  cases task with
  | resume =>
    dsimp only [Performed] at hs
    split at hs
    · obtain ⟨failed, rfl⟩ := hs
      exact unburdened_listening st failed
    · rwa [hs]
  | capture =>
    dsimp only [Performed] at hs
    split at hs
    · obtain ⟨halted, failed, rfl⟩ := hs
      refine unburdened_captured ?_ failed
      rw [handedOver_mode]
      exact Mode.noConfusion
    · rwa [hs]

theorem expired (h : st.Unburdened) {id : Nat} {time : Float} (hs : st.Expired id time st') :
    st'.Unburdened := by
  have hexpiring (t : Timer Task) : (st.expiring t time).Unburdened := by
    intro hm
    show (if _ then _ else _ : Slot).timer = none
    split
    · rfl
    · exact h hm
  rcases hs.cases with rfl | ⟨t, -, ⟨task, -, hs⟩ | ⟨-, rfl⟩⟩
  · exact h
  · exact (hexpiring t).performed hs
  · exact hexpiring t

theorem step (h : st.Unburdened) {consents : Bool} {o : Occasion} (hs : st.Step consents o st') :
    st'.Unburdened := by
  cases o with
  | start => exact h.started hs
  | toggle => exact h.toggled hs
  | restart => exact h.restarted hs
  | awaitCommand => exact h.prompted hs
  | requestPermission => exact h.asked hs
  | close => exact shut hs
  | report which session report =>
    cases report with
    | heard heard => exact h.heard hs
    | failed code => exact h.failed hs
    | ended =>
      rw [show st' = st.ended which from hs]
      exact h.ended which
  | timer id time => exact h.expired hs
  | clock time =>
    rw [show st' = _ from hs]
    exact h.congr rfl rfl

end Unburdened

end Stance

namespace Scene

open Act

variable {δ : Type} {s : Scene δ}

theorem Fresh.unburdened_run (h : s.Fresh) (calm : s.stance.conduct.Calm) (os : List Occasion) :
    (s.run os).stance.Unburdened := by
  have hfresh : s.stance.Unburdened := by
    obtain ⟨pace, permission, room, -, hst⟩ := h.exists_stance
    rw [hst]
    exact Stance.unburdened_of_idle rfl
  have hrun : ∀ (os : List Occasion) (t : Scene δ), t.stance.conduct.Calm →
      t.stance.Unburdened → (t.run os).stance.Unburdened := by
    intro os
    induction os with
    | nil => exact fun _ _ ht => ht
    | cons o os ih =>
      exact fun t hcalm ht => ih _ (calm_after hcalm o) (ht.step (step_after hcalm o))
  exact hrun os s calm hfresh

/-- Timers change nothing about an idle session that has nothing pending. -/
theorem idle_run (ht : s.stance.Timely) (hm : s.session.mode = .idle)
    (hnothing : s.session.slot.timer = none) {os : List Occasion}
    (hos : ∀ o ∈ os, (∃ time, o = .clock time) ∨ ∃ id time, o = .timer id time) :
    (s.run os).session.mode = .idle ∧ (s.run os).session.slot.timer = none := by
  induction os generalizing s with
  | nil => exact ⟨hm, hnothing⟩
  | cons o os ih =>
    obtain ⟨ho, hos⟩ := List.forall_mem_cons.mp hos
    have hsession : (s.after o).session = s.session := by
      rcases ho with ⟨time, rfl⟩ | ⟨id, time, rfl⟩
      · rfl
      · obtain ⟨queue, hexpire⟩ := outcome_expire_of_nothing ht hnothing id time
        show ((expire id time).outcome s).2.session = _
        rw [hexpire]
    rw [run_cons]
    exact ih (tended_timely.after ht o) (by rw [hsession, hm]) (by rw [hsession, hnothing]) hos

/-! ## Handing intents on -/

/-- Handing an intent on fails exactly if the host does. -/
theorem outcome_handOn (heard : Heard) (s : Scene δ) :
    ∃ ds t, (∀ d ∈ ds, d.IsIntent) ∧ (handOn Wiring.toHost heard).outcome s =
        (if ds.any Deed.refused then .error .host else .ok (), t) ∧ t.stance = s.stance.did ds := by
  have htell : (handOn Wiring.toHost heard).outcome s = _ :=
    outcome_tell Equipment.onIntent (.intent heard.intent) s
  rw [htell]
  split
  · refine ⟨[.intent heard.intent (s.refuses (.intent heard.intent))],
      s.called (.intent heard.intent), ?_, ?_, stance_called s _⟩
    · intro d hd
      rw [List.mem_singleton.mp hd]
      trivial
    · rw [List.any_cons, List.any_nil, Bool.or_false]
      rfl
  · exact ⟨[], s, fun d hd => (List.not_mem_nil hd).elim, rfl, (Stance.did_nil _).symm⟩

/-- A command that was heard in the background brings the session back if the host takes its
intent. -/
theorem stance_commanded (calm : s.stance.conduct.Calm) (hm : s.stance.mode = .background)
    {heard : Heard} {command : String} (hwake : heard.wake = .ok (some command))
    (hne : command ≠ "") : ∃ failed ds, (∀ d ∈ ds, d.IsIntent) ∧
      ((heardInBackground Wiring.toHost heard).outcome s).2.stance =
        if ds.any Deed.refused then s.stance.forgiven.commanded failed ds
        else (s.stance.forgiven.commanded failed ds).later s.stance.pace.cooldown := by
  suffices hends : Ends (heardInBackground Wiring.toHost heard) s fun st => ∃ failed ds,
      (∀ d ∈ ds, d.IsIntent) ∧
        st = if ds.any Deed.refused then s.stance.forgiven.commanded failed ds
          else (s.stance.forgiven.commanded failed ds).later s.stance.pace.cooldown from hends
  refine ends_get_bind ?_
  show Ends (if s.stance.mode = .background then _ else _) s _
  rw [if_pos hm, hwake]
  refine (leads_modify (P := fun _ st => st = s.stance.forgiven) rfl).ends_bind fun _ t ht => ?_
  refine ends_bind_of_ok (outcome_lift (.ok (some command)) t) ?_
  dsimp only
  rw [if_neg hne]
  have hcalm : t.stance.conduct.Calm := by
    rw [ht]
    exact calm
  refine (leads_setMode hcalm .idle).ends_bind fun _ u hu => ?_
  -- The mode was left before, so that an end reported while stopping restarts nothing.
  have hoff : u.stance.mode ≠ .background := by
    rw [hu]
    exact Mode.noConfusion
  refine (leads_stop_background hoff).ends_bind fun _ v ⟨failed, hv⟩ => ?_
  obtain ⟨ds, w, hds, hout, hw⟩ := outcome_handOn (.words command) v
  have hcommanded : w.stance = s.stance.forgiven.commanded failed ds := by
    rw [hw, hv, hu, ht]
    rfl
  cases hrefused : ds.any Deed.refused with
  | true =>
    rw [hrefused, if_pos rfl] at hout
    unfold Ends
    rw [outcome_bind_of_error hout]
    exact ⟨failed, ds, hds, by rw [hrefused]; exact hcommanded⟩
  | false =>
    rw [hrefused, if_neg Bool.false_ne_true] at hout
    refine ends_bind_of_ok hout (ends_get_bind ?_)
    refine (leads_scheduleResume _).ends fun _ st hst => ⟨failed, ds, hds, ?_⟩
    rw [hrefused, hst, show w.session.pace = w.stance.pace from rfl, hcommanded]
    rfl

/-- A command that the foreground recognizer heard brings the session back in any case. -/
theorem stance_captured (calm : s.stance.conduct.Calm) (hc : s.stance.capturing = true)
    (heard : Heard) : ∃ ds, (∀ d ∈ ds, d.IsIntent) ∧
      ((heardInForeground Wiring.toHost heard).outcome s).2.stance =
        s.stance.captureOver.did ds := by
  have hends : s.stance.Heard .foreground _ := ends_heardInForeground calm heard
  unfold Stance.Heard at hends
  rwa [if_pos (Stance.heeds_foreground.mpr hc)] at hends

/-- Whether a session hands an intent on when a recognizer has heard something: the wake phrase with
a command, or a command that is listened for. -/
def Dispatches (s : Scene δ) (which : Recognizer) (heard : Heard) : Prop :=
  match which with
  | .background => s.session.mode = .background ∧
      ∃ command, heard.wake = .ok (some command) ∧ command ≠ ""
  | .foreground => s.session.capturing = true

/-- Whether the host fails on an occasion at an intent that it is handed. -/
def Rebuffs (s : Scene δ) (o : Occasion) : Prop :=
  ∃ d, .did d ∈ s.news o ∧ d.refused = true

theorem rebuffs_iff {o : Occasion} {ds ds' : List Deed}
    (hd : (s.after o).stance.deeds = s.stance.deeds ++ (ds ++ ds'))
    (hds : ∀ d ∈ ds, d.refused = false) : s.Rebuffs o ↔ ds'.any Deed.refused = true := by
  have htold (d : Deed) : .did d ∉ o.told := by
    cases o <;> simp [Occasion.told]
  unfold Rebuffs
  rw [news_eq hd, List.any_eq_true]
  refine exists_congr fun d => and_congr_left fun hrefused => ?_
  have hnot : d ∉ ds := fun hmem => Bool.noConfusion (hrefused.symm.trans (hds d hmem))
  simp [htold, hnot]

/-- A session that has a background recognizer and is open awaits its return. -/
theorem awaits_later (st : Stance) {st' : Stance} {delay : Float} {ds : List Deed}
    (hbackground : st.equipment.background = true) (hopen : st.closed = false)
    (hst : st' = (st.later delay).did ds) (hrules : st'.slot.Rules Task.generation? st'.queue) :
    ∃ t, st'.Awaits t ∧ t.task.listening? = some .resume ∧
      t.deadline = st'.queue.time + delay := by
  have hscheduled : st.later delay = st.scheduled delay .resume := by
    unfold Stance.later
    rw [hbackground, hopen]
    rfl
  rw [hscheduled] at hst
  subst hst
  exact Stance.awaits_scheduled delay .resume hrules

/-- A session that heard a command in the background has stopped its recognizer before it hands the
command on. -/
theorem deeds_commanded {st : Stance} (hbackground : st.equipment.background = true)
    (failed : Bool) (ds : List Deed) : (st.forgiven.commanded failed ds).deeds =
      st.deeds ++ ([.recognizer .background .stop failed] ++ ds) := by
  show (st.deeds ++ if st.equipment.background then _ else _) ++ ds = _
  rw [hbackground, if_pos rfl, List.append_assoc]

/-- What becomes of a session that hands on what it captured: it returns though the host fails. -/
theorem after_captured (calm : s.stance.conduct.Calm)
    (hrules : s.session.slot.Rules Task.generation? s.room.queue)
    (hbackground : s.stance.equipment.background = true) (hopen : s.stance.closed = false)
    (hcapturing : s.stance.capturing = true) (heard : Heard) (session : Nat) :
    let o := Occasion.report .foreground session (.heard heard)
    (s.after o).stance.mode = .idle ∧
    ∃ t, (s.after o).stance.Awaits t ∧ t.task.listening? = some .resume ∧
      t.deadline = (s.after o).stance.queue.time + s.stance.pace.cooldown := by
  have hrules' := tended_rules.after hrules (.report .foreground session (.heard heard))
  obtain ⟨ds, -, hu⟩ := stance_captured calm hcapturing heard
  change (s.after (.report .foreground session (.heard heard))).stance = _ at hu
  refine ⟨?_, awaits_later { s.stance with capturing := false, mode := .idle } hbackground hopen hu
    hrules'⟩
  rw [hu]
  exact Stance.captureOver_mode _

/-- What becomes of a session that hands on what it heard in the background: it returns unless the
host fails. -/
theorem after_commanded (calm : s.stance.conduct.Calm)
    (hrules : s.session.slot.Rules Task.generation? s.room.queue) (hfree : s.stance.Unburdened)
    (hbackground : s.stance.equipment.background = true) (hopen : s.stance.closed = false)
    {heard : Heard} (hintent : s.Dispatches .background heard) (session : Nat) :
    let o := Occasion.report .background session (.heard heard)
    (s.after o).stance.mode = .idle ∧
    (¬s.Rebuffs o →
      ∃ t, (s.after o).stance.Awaits t ∧ t.task.listening? = some .resume ∧
        t.deadline = (s.after o).stance.queue.time + s.stance.pace.cooldown) ∧
    (s.Rebuffs o → (s.after o).stance.slot.timer = none) := by
  have hrules' := tended_rules.after hrules (.report .background session (.heard heard))
  obtain ⟨hm, command, hwake, hne⟩ := hintent
  obtain ⟨failed, ds, hds, hu⟩ := stance_commanded calm hm hwake hne
  change (s.after (.report .background session (.heard heard))).stance = _ at hu
  have hdeeds : (s.after (.report .background session (.heard heard))).stance.deeds =
      s.stance.deeds ++ ([.recognizer .background .stop failed] ++ ds) := by
    rw [hu, ← deeds_commanded hbackground]
    split
    · rfl
    · exact Stance.later_deeds _ _
  have hrebuffs := rebuffs_iff hdeeds fun d hd => by rw [List.mem_singleton.mp hd]; rfl
  intro o
  rw [hrebuffs]
  cases hrefused : ds.any Deed.refused with
  | true =>
    rw [hrefused, if_pos rfl] at hu
    refine ⟨by rw [hu]; rfl, fun hnot => absurd rfl hnot, fun _ => ?_⟩
    rw [hu]
    exact hfree hm
  | false =>
    rw [hrefused, if_neg Bool.false_ne_true] at hu
    have hawaits := awaits_later (s.stance.forgiven.commanded failed ds) hbackground hopen
      (hu.trans (Stance.did_nil _).symm) hrules'
    refine ⟨?_, fun _ => hawaits, nofun⟩
    rw [hu]
    exact Stance.later_mode _ _

/-- What becomes of a session that hands an intent on. -/
theorem after_dispatch (calm : s.stance.conduct.Calm)
    (hrules : s.session.slot.Rules Task.generation? s.room.queue) (hfree : s.stance.Unburdened)
    (hbackground : s.stance.equipment.background = true) (hopen : s.stance.closed = false)
    {which : Recognizer} {heard : Heard} (hintent : s.Dispatches which heard) (session : Nat) :
    let o := Occasion.report which session (.heard heard)
    (s.after o).stance.mode = .idle ∧
    (¬(which = .background ∧ s.Rebuffs o) →
      ∃ t, (s.after o).stance.Awaits t ∧ t.task.listening? = some .resume ∧
        t.deadline = (s.after o).stance.queue.time + s.stance.pace.cooldown) ∧
    (which = .background ∧ s.Rebuffs o → (s.after o).stance.slot.timer = none) := by
  cases which with
  | foreground =>
    obtain ⟨hidle, hawaits⟩ :=
      after_captured calm hrules hbackground hopen hintent heard session
    exact ⟨hidle, fun _ => hawaits, fun hr => nomatch hr.1⟩
  | background =>
    obtain ⟨hidle, hreturns, hlost⟩ :=
      after_commanded calm hrules hfree hbackground hopen hintent session
    exact ⟨hidle, fun hnot => hreturns fun hr => hnot ⟨rfl, hr⟩, fun hr => hlost hr.2⟩

/-- After an intent was handed on, the session is idle. Unless the host failed at an intent that was
heard in the background, the wake phrase is to be listened for again after the cooldown, and that is
all that is pending. If it did, nothing is pending, and no timer brings the session back. -/
theorem returns_unless_rebuffed (h : s.Fresh) (calm : s.stance.conduct.Calm)
    (hbackground : s.equipment.background = true) {os : List Occasion}
    (hopen : (s.run os).session.closed = false) {which : Recognizer} {heard : Heard}
    (hintent : (s.run os).Dispatches which heard) (session : Nat) :
    let o := Occasion.report which session (.heard heard)
    let u := (s.run os).after o
    u.session.mode = .idle ∧
    (¬(which = .background ∧ (s.run os).Rebuffs o) →
      ∃ t, u.stance.Awaits t ∧ t.task.listening? = some .resume ∧
        t.deadline = u.room.queue.time + s.session.pace.cooldown) ∧
    (which = .background ∧ (s.run os).Rebuffs o → u.session.slot.isPending = false ∧
      ∀ later, (∀ o ∈ later, (∃ time, o = .clock time) ∨ ∃ id time, o = .timer id time) →
        (u.run later).session.mode = .idle ∧ (u.run later).session.slot.isPending = false) := by
  obtain ⟨hpace, hequipment, hconduct, -⟩ := (tended_continues s).run (.refl s) os
  have hcalm : (s.run os).stance.conduct.Calm := hconduct ▸ calm
  have hhas : (s.run os).stance.equipment.background = true := by
    rw [hequipment]
    exact hbackground
  obtain ⟨hidle, hreturns, hends⟩ := after_dispatch hcalm (tended_rules.run h.rules os)
    (h.unburdened_run calm os) hhas hopen hintent session
  rw [hpace] at hreturns
  refine ⟨hidle, hreturns, fun hr => ⟨?_, fun later hl => ?_⟩⟩
  · exact Option.not_isSome_iff_eq_none.mpr (hends hr) |> (Bool.not_eq_true _).mp
  · obtain ⟨hm, hnothing⟩ := idle_run
      (tended_timely.after (tended_timely.run h.timely os) _) hidle (hends hr) hl
    refine ⟨hm, ?_⟩
    unfold Slot.isPending
    rw [hnothing]
    rfl

/-- A new session with a host that fails at every intent. -/
def rebuffed : Scene Unit :=
  { welcomed with room := { welcomed.room with host := { welcomed.room.host with
    conduct := { fails := fun _ c => match c with
      | .intent _ => true
      | _ => false } } } }

/-- The host fails at both intents. The session comes back after the one that the foreground
recognizer heard, but not after the one that was heard in the background. -/
theorem returns_unless_rebuffed_games :
    let o := Occasion.report .background 1 (.heard (.words "hey buddy open games"))
    let p := Occasion.report .foreground 1 (.heard (.words "open games"))
    rebuffed.Fresh ∧ (rebuffed.run [.start]).Rebuffs o ∧
    (rebuffed.run [.start, o]).session.slot.isPending = false ∧
    ∃ t, (rebuffed.run [.start, .toggle, p]).stance.Awaits t ∧
      t.task.listening? = some .resume := by
  intro o p
  have hfresh : rebuffed.Fresh :=
    ⟨rebuffed.session.pace, rebuffed.session.permission, rebuffed.room, rfl, rfl⟩
  have calm : rebuffed.stance.conduct.Calm := ⟨fun _ _ _ => rfl, fun _ _ => rfl⟩
  have hdetect : WakePhrase.detect "hey buddy open games" = some "open games" := by decide
  have hdeeds : ((rebuffed.run [.start]).after o).stance.deeds =
      (rebuffed.run [.start]).stance.deeds ++ ([.recognizer .background .stop false] ++
        [.intent (Intent.resolve "open games") true]) := by
    decide
  have hrebuffs := (rebuffs_iff hdeeds (by simp [Deed.refused])).mpr rfl
  have hb : (rebuffed.run [.start]).Dispatches .background (.words "hey buddy open games") :=
    ⟨rfl, _, congrArg Except.ok hdetect, by decide⟩
  have hf : (rebuffed.run [.start, .toggle]).Dispatches .foreground (.words "open games") := rfl
  obtain ⟨-, -, hends⟩ := returns_unless_rebuffed hfresh calm rfl rfl hb 1
  obtain ⟨-, hreturns, -⟩ := returns_unless_rebuffed hfresh calm rfl rfl hf 1
  obtain ⟨t, ht, htask, -⟩ := hreturns fun hr => nomatch hr.1
  exact ⟨hfresh, hrebuffs, (hends ⟨rfl, hrebuffs⟩).1, t, ht, htask⟩

end Scene

end Arcade
