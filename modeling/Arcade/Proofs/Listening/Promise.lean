import Arcade.Proofs.Listening.Setbacks
import Arcade.Proofs.Listening.Superseded

/-!
# What a start promises

A start that answers that listening is possible promises that something is listened for, or will be
when the timer goes off that is pending. It keeps the promise unless the session has lapsed: it
awaits a command, but does not listen for it and has nothing pending. That happens when the timer
after a prompt goes off in a session that is closed, since closing does not keep a command from
being awaited afterwards and a start leaves the mode alone unless it is idle.
-/

namespace Arcade

namespace Stance

/-- Whether a session awaits a command that nothing will listen for. -/
structure Lapsed (st : Stance) : Prop where
  awaits : st.mode = .awaiting
  free : st.capturing = false
  nothing : st.pending? = none

/-- Whether a session that wants a command listens for it, or will after the prompt, unless a prompt
was missed. -/
structure Promising (missed : Prop) (st : Stance) : Prop where
  foreground : st.mode = .foreground → st.capturing = true
  awaiting : st.mode = .awaiting →
    st.capturing = true ∨ st.pending? = some .capture ∨ st.pending? = none ∧ missed

/-- Whether the timer after a prompt has gone off in vain in a session that is closed. -/
structure Misses (st st' : Stance) : Prop where
  closed : st.closed = true
  awaits : st.mode = .awaiting
  due : st.pending? = some .capture
  nothing : st'.pending? = none

namespace Promising

variable {missed : Prop} {st st' : Stance}

theorem of_idle (hm : st.mode = .idle) : Promising missed st :=
  ⟨fun h => by simp [hm] at h, fun h => by simp [hm] at h⟩

theorem of_background (hm : st.mode = .background) : Promising missed st :=
  ⟨fun h => by simp [hm] at h, fun h => by simp [hm] at h⟩

theorem of_capturing (hc : st.capturing = true) : Promising missed st :=
  ⟨fun _ => hc, fun _ => .inl hc⟩

theorem congr (h : Promising missed st) (hm : st'.mode = st.mode)
    (hc : st'.capturing = st.capturing) (hp : st'.pending? = st.pending?) :
    Promising missed st' := by
  refine ⟨fun hf => ?_, fun ha => ?_⟩
  · rw [hc]
    exact h.foreground (hm.symm.trans hf)
  · rw [hc, hp]
    exact h.awaiting (hm.symm.trans ha)

theorem mono {missed' : Prop} (h : Promising missed st) (hmissed : missed → missed') :
    Promising missed' st where
  foreground := h.foreground
  awaiting ha := (h.awaiting ha).imp_right (Or.imp_right (And.imp_right hmissed))

/-! ### What sessions go over to -/

theorem later_mode (st : Stance) (delay : Float) : (st.later delay).mode = st.mode := by
  unfold Stance.later
  split <;> rfl

theorem captureOver (st : Stance) : Promising missed st.captureOver :=
  of_idle (later_mode _ _)

theorem backgroundLost (st : Stance) : Promising missed st.backgroundLost := by
  refine of_idle ?_
  unfold Stance.backgroundLost
  dsimp only
  split <;> rfl

theorem listening (st : Stance) (failed : Bool) : Promising missed (st.listening failed) := by
  unfold Stance.listening
  cases failed with
  | false => exact of_background rfl
  | true => exact backgroundLost _

theorem captured (st : Stance) (failed : Bool) : Promising missed (st.captured failed) := by
  unfold Stance.captured
  dsimp only
  split
  · exact of_capturing rfl
  · exact captureOver _

theorem awaiting_mode (st : Stance) (failed : Bool) : (st.awaiting failed).mode = .awaiting := by
  unfold Stance.awaiting
  dsimp only
  split
  · rfl
  · split <;> rfl

/-! ### Occasions -/

theorem started (h : Promising missed st) (hs : st.Started st') : Promising missed st' := by
  unfold Started at hs
  split at hs
  · obtain ⟨failed, rfl⟩ := hs
    exact listening _ _
  · rw [hs]
    exact h.congr rfl rfl rfl

theorem asked (h : Promising missed st) {consents : Bool} (hs : st.Asked consents st') :
    Promising missed st' := by
  have hanswering : ∀ a, Promising missed (st.answering a) := fun a => h.congr rfl rfl rfl
  unfold Asked at hs
  split at hs
  · rcases hs with rfl | hs
    · exact hanswering _
    · exact (hanswering _).started hs
  · rw [hs]
    exact hanswering _

theorem toggled (h : Promising missed st) {consents : Bool} (hs : st.Toggled consents st') :
    Promising missed st' := by
  unfold Toggled at hs
  split at hs
  · exact h.asked hs
  · split at hs
    · rwa [hs]
    · split at hs
      · obtain ⟨failed, rfl⟩ := hs
        exact captureOver _
      · obtain ⟨halted, failed, rfl⟩ := hs
        exact captured _ _

theorem restarted (h : Promising missed st) (hs : st.Restarted st') : Promising missed st' := by
  unfold Restarted at hs
  split at hs
  · obtain ⟨failed, st₁, -, rfl⟩ := hs
    exact of_idle rfl
  · rwa [hs]

theorem prompted (h : Promising missed st) (hs : st.Prompted st') : Promising missed st' := by
  rcases hs with rfl | ⟨-, -, failed, rfl⟩
  · exact h
  · refine ⟨fun hf => ?_, fun _ => .inr (.inl (pending?_scheduled _ _ _))⟩
    rw [awaiting_mode] at hf
    cases hf

theorem heard (h : Promising missed st) {which : Recognizer} (hs : st.Heard which st') :
    Promising missed st' := by
  unfold Heard at hs
  split at hs
  · cases which with
    | background =>
      have hforgiven : Promising missed st.forgiven := h.congr rfl rfl rfl
      rcases hs with hs | ⟨failed, ds, -, rfl | ⟨-, rfl⟩⟩
      · exact hforgiven.prompted hs
      · exact of_idle (later_mode _ _)
      · exact of_idle rfl
    | foreground =>
      obtain ⟨ds, -, rfl⟩ := hs
      exact of_idle (later_mode _ _)
  · rwa [hs]

theorem failed (h : Promising missed st) {which : Recognizer} {code : String}
    (hcode : code ∉ refusalCodes) (hs : st.Failed which code st') : Promising missed st' := by
  unfold Failed at hs
  rw [if_neg hcode] at hs
  split at hs
  · cases which with
    | background =>
      rw [show st' = st.backgroundLost from hs]
      exact backgroundLost _
    | foreground =>
      rw [show st' = st.captureOver from hs]
      exact captureOver _
  · rwa [hs]

theorem ended (h : Promising missed st) (which : Recognizer) :
    Promising missed (st.ended which) := by
  unfold Stance.ended
  split
  · cases which with
    | background => exact of_idle (backgroundOver_mode st)
    | foreground => exact captureOver _
  · exact h

theorem expired (h : Promising missed st) (htimely : st.Timely) {n : Nat} {time : Float}
    (hs : st.Expired n time st') : Promising (missed ∨ st.Misses st') st' := by
  rcases hs.cases with rfl | ⟨t, ht, ⟨task, htask, hs⟩ | ⟨hg, rfl⟩⟩
  · exact h.mono Or.inl
  · have hdue : st.pending? = some task := htimely.pending?_eq_some ht htask
    have hnone : (st.expiring t time).pending? = none :=
      pending?_expiring (by rw [htask]; rfl) time
    cases task with
    | resume =>
      dsimp only [Performed] at hs
      split at hs
      · obtain ⟨failed, rfl⟩ := hs
        exact listening _ _
      · rw [hs]
        refine ⟨h.foreground, fun ha => ?_⟩
        have hpending := h.awaiting ha
        rw [hdue] at hpending
        exact .inl (hpending.resolve_right (by simp))
    | capture =>
      dsimp only [Performed] at hs
      split at hs
      · obtain ⟨halted, failed, rfl⟩ := hs
        exact captured _ _
      · -- The timer is gone and nothing was started: this is where a session lapses.
        rename_i hno
        rw [hs]
        refine ⟨h.foreground, fun ha => .inr (.inr ⟨hnone, .inr ⟨?_, ha, hdue, hnone⟩⟩)⟩
        have hopen : ¬(decide (st.mode = .awaiting) && !st.closed) = true := hno
        rw [show st.mode = .awaiting from ha] at hopen
        simpa using hopen
  · refine (h.mono Or.inl).congr rfl rfl ?_
    exact htimely.pending?_expiring_of_ne ht hg time

/-- Only a prompt that is missed lets a session lapse. -/
theorem step (h : Promising missed st) (htimely : st.Timely) {consents : Bool} {o : Occasion}
    (ho : o.NoRefusal) (hs : st.Step consents o st') :
    Promising (missed ∨ (∃ n time, o = .timer n time) ∧ st.Misses st') st' := by
  cases o with
  | start => exact (h.started hs).mono Or.inl
  | toggle => exact (h.toggled hs).mono Or.inl
  | restart => exact (h.restarted hs).mono Or.inl
  | awaitCommand => exact (h.prompted hs).mono Or.inl
  | requestPermission => exact (h.asked hs).mono Or.inl
  | close =>
    obtain ⟨failed, st₁, -, rfl⟩ := hs
    exact of_idle rfl
  | report which session report =>
    cases report with
    | heard heard => exact (Promising.heard h hs).mono Or.inl
    | failed code => exact (Promising.failed h ho hs).mono Or.inl
    | ended =>
      rw [show st' = st.ended which from hs]
      exact (h.ended which).mono Or.inl
  | timer n time =>
    exact (h.expired htimely hs).mono (Or.imp_right fun hmiss => ⟨⟨n, time, rfl⟩, hmiss⟩)
  | clock time =>
    rw [show st' = _ from hs]
    exact (h.mono Or.inl).congr rfl rfl rfl

end Promising

end Stance

namespace Scene

open Act

variable {δ : Type} {s : Scene δ}

/-! ## Runs -/

/-- Whether the timer after a prompt goes off in vain on an occasion. -/
def Misses (s : Scene δ) (o : Occasion) : Prop :=
  (∃ n time, o = .timer n time) ∧ s.stance.Misses (s.after o).stance

/-- Whether a prompt was missed in a run. -/
def Missed (s : Scene δ) (os : List Occasion) : Prop :=
  ∃ xs o ys, os = xs ++ o :: ys ∧ (s.run xs).Misses o

theorem Missed.append {xs : List Occasion} (h : s.Missed xs) (ys : List Occasion) :
    s.Missed (xs ++ ys) := by
  obtain ⟨before, o, after, rfl, hmiss⟩ := h
  exact ⟨before, o, after ++ ys, by simp, hmiss⟩

theorem Fresh.promising (h : s.Fresh) : s.stance.Promising (s.Missed []) := by
  obtain ⟨pace, permission, room, -, hst⟩ := h.exists_stance
  rw [hst]
  exact .of_idle rfl

/-- A session lapses only after a prompt that was missed. -/
theorem promising_run (h : s.Fresh) (calm : s.stance.conduct.Calm) {xs ys : List Occasion}
    (hxs : (s.run xs).stance.Promising (s.Missed xs)) (hys : ∀ o ∈ ys, o.NoRefusal) :
    (s.run (xs ++ ys)).stance.Promising (s.Missed (xs ++ ys)) := by
  -- The occasions that are done are carried along, since the invariant speaks of the prompts that
  -- were missed among them.
  induction ys generalizing xs with
  | nil => rwa [List.append_nil]
  | cons o ys ih =>
    obtain ⟨ho, hys⟩ := List.forall_mem_cons.mp hys
    rw [List.append_cons]
    refine ih ?_ hys
    have hcalm : (s.run xs).stance.conduct.Calm := by
      rw [((tended_continues s).run (.refl s) xs).2.2.1]
      exact calm
    have hstep := hxs.step (tended_timely.run h.timely xs) ho (step_after hcalm o)
    rw [run_append]
    refine hstep.mono fun hmissed => ?_
    rcases hmissed with hmissed | hmiss
    · exact hmissed.append [o]
    · exact ⟨xs, o, [], rfl, hmiss⟩

/-! ## Live sessions -/

/-- Whether something is listened for, or will be when the timer goes off that is pending. -/
inductive Live (hs : List Happening) (s : Scene δ) : Prop where
  | background (listens : s.session.mode = .background) (on : OnAir .background hs)
  | capture (captures : s.session.capturing = true) (on : OnAir .foreground hs)
  | coming (t : Timer Task) (waits : t ∈ s.room.queue.waiting)
    (pending : s.session.slot.timer = some t.id)
    (starts : ∀ time, ∃ which failed,
      .did (.recognizer which .start failed) ∈ s.news (.timer t.id time))

theorem captured_deeds {st : Stance} (hfg : st.equipment.foreground = true) (failed : Bool) :
    (st.captured failed).deeds = st.deeds ++ [.recognizer .foreground .start failed] := by
  have htried : ({ st with capturing := true }.tried .foreground .start failed).deeds =
      st.deeds ++ [.recognizer .foreground .start failed] := by
    unfold Stance.tried Stance.did
    rw [if_pos (show Equipment.has _ .foreground = true from hfg)]
  unfold Stance.captured Stance.captureOver Stance.later
  dsimp only
  split
  · exact htried
  · split <;> exact htried

/-- When the timer goes off after a prompt, the foreground recognizer is started. -/
theorem start_mem_news (calm : s.stance.conduct.Calm) (htimely : s.stance.Timely)
    (hfg : s.stance.equipment.foreground = true) (hm : s.stance.mode = .awaiting)
    (hopen : s.stance.closed = false) {t : Timer Task} (ht : t ∈ s.stance.queue.waiting)
    (htask : t.task = .listening s.stance.slot.generation .capture) (time : Float) :
    ∃ failed, .did (.recognizer .foreground .start failed) ∈ s.news (.timer t.id time) := by
  obtain ⟨u, hfind⟩ := TimerQueue.exists_find?_of_mem ht
  obtain ⟨hu, hid⟩ := TimerQueue.mem_of_find? hfind
  obtain rfl : u = t := htimely.distinct u hu t ht hid
  have hstep : s.stance.Expired u.id time (s.after (.timer u.id time)).stance :=
    step_after calm (.timer u.id time)
  unfold Stance.Expired at hstep
  rw [hfind] at hstep
  dsimp only at hstep
  rw [htask] at hstep
  dsimp only at hstep
  rw [if_pos rfl] at hstep
  dsimp only [Stance.Performed] at hstep
  rw [if_pos (by simp [Stance.expiring, hm, hopen])] at hstep
  obtain ⟨halted, failed, hstep⟩ := hstep
  refine ⟨failed, ?_⟩
  have hover : (s.stance.expiring u time).cancelled.handedOver .awaiting halted =
      (s.stance.expiring u time).cancelled.inMode .awaiting := by
    unfold Stance.handedOver
    rw [if_neg]
    rw [show (s.stance.expiring u time).cancelled.mode = .awaiting from hm]
    exact Mode.noConfusion
  have hdeeds : (s.after (.timer u.id time)).stance.deeds =
      s.stance.deeds ++ [.recognizer .foreground .start failed] := by
    have hfg' : ((s.stance.expiring u time).cancelled.inMode .awaiting).equipment.foreground =
        true := hfg
    rw [hstep, hover]
    exact captured_deeds hfg' failed
  rw [news_eq hdeeds]
  simp

theorem Leads.and {α : Type} {a : Act (Scene δ) α} {P Q : α → Stance → Prop}
    (hp : Leads a s P) (hq : Leads a s Q) : Leads a s fun x st => P x st ∧ Q x st := by
  obtain ⟨x, t, ha, hpx⟩ := hp
  obtain ⟨y, u, hb, hqy⟩ := hq
  rw [ha] at hb
  cases hb
  exact ⟨x, t, ha, hpx, hqy⟩

/-- A start tells that listening is possible where it is, and allowed. -/
theorem leads_start_granted (calm : s.stance.conduct.Calm)
    (hbg : s.stance.equipment.background = true) (hg : s.stance.isGranted = true) :
    Leads start s fun x st => x = true ∧ s.stance.Started st := by
  refine Leads.and ?_ (leads_start calm)
  refine (leads_modify (P := fun _ st => st = s.stance.reopened) rfl).bind
    fun _ t ht => leads_get_bind ?_
  have hsupported : t.isSupported = true := by
    have hsame : t.stance.equipment = s.stance.equipment := by
      rw [ht]
      rfl
    show (t.stance.equipment.background || t.stance.equipment.foreground) = true
    rw [hsame, hbg, Bool.true_or]
  rw [if_neg (by rw [hsupported]; exact Bool.noConfusion)]
  refine leads_isGranted.bind fun granted u ⟨hgranted, hu⟩ => ?_
  rw [ht] at hgranted hu
  rw [if_neg (by rw [hgranted, show s.stance.reopened.isGranted = true from hg]; simp)]
  have hcalm : u.stance.conduct.Calm := by
    rw [hu]
    exact calm
  refine leads_get_bind ?_
  split
  · exact (leads_startBackground hcalm).bind fun _ _ _ => leads_pure rfl
  · exact leads_pure rfl

/-- A session that was started is open and listens for something, unless its recognizer fails to
start, and lapsed only if it had before. -/
theorem started_cases {st st' : Stance} (hs : st.Started st')
    (hbg : st.equipment.background = true) (hg : st.isGranted = true)
    (hok : ∀ xs, st'.starts = st.starts ++ xs → true ∉ xs) :
    st'.mode ≠ .idle ∧ st'.closed = false ∧ (st'.Lapsed ↔ st.Lapsed) := by
  unfold Stance.Started at hs
  have hcan : st.reopened.canListen = true := by
    unfold Stance.canListen
    rw [show st.reopened.isGranted = true from hg, show st.reopened.equipment.background = true
      from hbg]
    rfl
  by_cases hm : st.mode = .idle
  · rw [if_pos ⟨hm, hcan⟩] at hs
    obtain ⟨failed, rfl⟩ := hs
    cases failed with
    | false =>
      refine ⟨Mode.noConfusion, rfl, fun h => ?_, fun h => ?_⟩
      · exact absurd h.awaits Mode.noConfusion
      · exact absurd (hm.symm.trans h.awaits) Mode.noConfusion
    | true =>
      refine absurd (List.mem_singleton.mpr rfl) (hok [true] ?_)
      have hstarts : ((st.reopened.cancelled.inMode .background).tried .background .start
          true).starts = st.starts ++ [true] := Stance.starts_tried hbg true
      unfold Stance.listening Stance.backgroundLost
      dsimp only
      rw [if_pos rfl]
      split <;> exact hstarts
  · rw [if_neg fun h => hm h.1] at hs
    rw [hs]
    exact ⟨hm, rfl, fun h => ⟨h.awaits, h.free, h.nothing⟩, fun h => ⟨h.awaits, h.free, h.nothing⟩⟩

/-- Nothing is listened for in a session that has lapsed, and nothing is pending. -/
theorem not_live_of_lapsed {hs : List Happening} (htimely : s.stance.Timely)
    (hlapsed : s.stance.Lapsed) : ¬Live hs s := by
  intro hlive
  cases hlive with
  | background hm _ => exact Mode.noConfusion (hlapsed.awaits.symm.trans hm)
  | capture hc _ => exact Bool.noConfusion (hlapsed.free.symm.trans hc)
  | coming t _ hpending _ =>
    have hnone := htimely.pending?_isSome
    rw [hlapsed.nothing, Slot.isPending,
      show s.stance.slot.timer = some t.id from hpending] at hnone
    cases hnone

/-- An open session that is not idle and has not lapsed is live. -/
theorem live_of_not_lapsed {hs : List Happening} {missed : Prop} (calm : s.stance.conduct.Calm)
    (htimely : s.stance.Timely) (hfg : s.stance.equipment.foreground = true)
    (hheeds : ∀ which, s.stance.heeds which = true → OnAir which hs)
    (hpromising : s.stance.Promising missed) (hopen : s.stance.closed = false)
    (hidle : s.stance.mode ≠ .idle) (hlapsed : ¬s.stance.Lapsed) : Live hs s := by
  have hcapture : s.stance.capturing = true → Live hs s := fun hc =>
    .capture hc (hheeds .foreground hc)
  cases hm : s.stance.mode with
  | idle => exact absurd hm hidle
  | background => exact .background hm (hheeds .background (Stance.heeds_background.mpr hm))
  | foreground => exact hcapture (hpromising.foreground hm)
  | awaiting =>
    rcases hpromising.awaiting hm with hc | hdue | ⟨hnone, -⟩
    · exact hcapture hc
    · unfold Stance.pending? at hdue
      obtain ⟨t, hkept, htask⟩ := Option.bind_eq_some_iff.mp hdue
      obtain ⟨hmem, hpending, hgeneration⟩ := htimely.mem_of_kept? hkept
      refine .coming t hmem hpending fun time => ⟨.foreground, ?_⟩
      refine start_mem_news calm htimely hfg hm hopen hmem ?_ time
      cases htask' : t.task with
      | reply =>
        rw [htask'] at htask
        cases htask
      | listening generation task =>
        rw [htask'] at htask hgeneration
        rw [Option.some.inj htask, Option.some.inj hgeneration]
    · cases hc : s.stance.capturing with
      | true => exact hcapture hc
      | false => exact absurd ⟨hm, hc, hnone⟩ hlapsed

/-- Without refusals, and if its recognizer does not fail to start, a start with both recognizers
and with permission answers that listening is possible, and something is live then unless the
session has lapsed, which takes a prompt that was missed. -/
theorem start_promise (h : s.Fresh) (calm : s.stance.conduct.Calm) {os : List Occasion}
    (hos : ∀ o ∈ os, o.NoRefusal) (hbg : s.stance.equipment.background = true)
    (hfg : s.stance.equipment.foreground = true) (hg : (s.run os).stance.isGranted = true)
    (hok : true ∉ (s.run os).launches .start) :
    (start.outcome (s.run os)).1 = .ok true ∧
      (Live (s.happenings (os ++ [.start])) (s.run (os ++ [.start])) ↔
        ¬(s.run os).stance.Lapsed) ∧
      ((s.run os).stance.Lapsed → s.Missed os) := by
  have hsame := fun os => (tended_continues s).run (.refl s) os
  have hcalm : (s.run os).stance.conduct.Calm := by
    rw [(hsame os).2.2.1]
    exact calm
  have hbg' : (s.run os).stance.equipment.background = true := by
    rw [(hsame os).2.1]
    exact hbg
  have hos' : ∀ o ∈ os ++ [.start], o.NoRefusal := by
    intro o ho
    rcases List.mem_append.mp ho with ho | ho
    · exact hos o ho
    · rw [List.mem_singleton.mp ho]
      trivial
  have hpromising : ∀ {ys : List Occasion}, (∀ o ∈ ys, o.NoRefusal) →
      (s.run ys).stance.Promising (s.Missed ys) :=
    fun {ys} hys => @promising_run _ s h calm [] ys h.promising hys
  obtain ⟨x, u, hout, rfl, hstarted⟩ := leads_start_granted hcalm hbg' hg
  have hafter : s.run (os ++ [.start]) = u := by
    rw [run_append]
    show ((discard start).outcome (s.run os)).2 = u
    rw [outcome_discard, hout]
  have hstarts : u.stance.starts = (s.run os).stance.starts ++ (s.run os).launches .start := by
    rw [← starts_after, ← hafter, run_append]
    rfl
  obtain ⟨hidle, hopen, hlapsed⟩ := started_cases hstarted hbg' hg fun xs hxs => by
    rwa [List.append_cancel_left (hxs.symm.trans hstarts)]
  refine ⟨by rw [hout], ?_, fun hl => ?_⟩
  · rw [← hlapsed]
    rw [← hafter] at hidle hopen ⊢
    constructor
    · exact fun hlive hl => not_live_of_lapsed (tended_timely.run h.timely _) hl hlive
    · refine live_of_not_lapsed ?_ (tended_timely.run h.timely _) ?_ (fun which => ?_)
        (hpromising hos') hopen hidle
      · rw [(hsame _).2.2.1]
        exact calm
      · rw [(hsame _).2.1]
        exact hfg
      · exact (heeds_iff_onAir h calm (throughout_of_forall (fun o ho _ => hos' o ho) s) which).mp
  · rcases (hpromising hos).awaiting hl.awaits with hc | hdue | ⟨-, hmissed⟩
    · exact absurd (hl.free.symm.trans hc) Bool.noConfusion
    · exact absurd (hl.nothing.symm.trans hdue) (by simp)
    · exact hmissed

/-- A start in the middle of a prompt keeps its promise; after a prompt that was missed in a closed
session it does not. -/
theorem promise_of_welcomed :
    Live (welcomed.happenings [.close, .awaitCommand, .start])
        (welcomed.run [.close, .awaitCommand, .start]) ∧
      (start.outcome (welcomed.run [.close, .awaitCommand, .timer 0 1])).1 = .ok true ∧
      ¬Live (welcomed.happenings [.close, .awaitCommand, .timer 0 1, .start])
        (welcomed.run [.close, .awaitCommand, .timer 0 1, .start]) := by
  have hopen : ∀ o ∈ [Occasion.close, .awaitCommand], o.NoRefusal := by
    simp [Occasion.NoRefusal]
  have hclosed : ∀ o ∈ [Occasion.close, .awaitCommand, .timer 0 1], o.NoRefusal := by
    simp [Occasion.NoRefusal]
  have hkept := start_promise fresh_welcomed calm_welcomed hopen rfl rfl rfl (by decide)
  have hmissed := start_promise fresh_welcomed calm_welcomed hclosed rfl rfl rfl (by decide)
  refine ⟨hkept.2.1.mpr fun hlapsed => ?_, hmissed.1, fun hlive => ?_⟩
  · exact absurd hlapsed.nothing (by decide)
  · exact hmissed.2.1.mp hlive ⟨rfl, rfl, rfl⟩

end Scene

end Arcade
