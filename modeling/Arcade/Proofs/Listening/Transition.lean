import Arcade.Proofs.Listening.Occasion
import Arcade.Proofs.Listening.Reaction

/-!
# Transitions

What an occasion makes of the stance of a session on a calm host. Where recognizers may fail, tell
their end at once or have an intent refused, a transition has several ends. That a session takes
only these transitions (`step_after`) is all that is used of its acts afterwards.
-/

namespace Arcade

/-- Whether a host may fail when it is given an intent. -/
def Conduct.RefusesIntents (c : Conduct) : Prop := ∃ n i, c.fails n (.intent i) = true

namespace Stance

variable (st : Stance)

/-- The stance once the session is open. -/
def reopened : Stance := { st with closed := false }

/-- Listening in the background was started by hand, if it was possible and nothing else went on. -/
def Started (st' : Stance) : Prop :=
  if st.reopened.mode = .idle ∧ st.reopened.canListen then
    ∃ failed, st' = st.reopened.listening failed
  else st' = st.reopened

/-- The player was asked for permission. An answer that cannot be kept is not acted on. -/
def Asked (consents : Bool) (st' : Stance) : Prop :=
  if consents then
    st' = st.answering .granted ∨ (st.answering .granted).Started st'
  else st' = st.answering .denied

/-- The microphone button was pressed. -/
def Toggled (consents : Bool) (st' : Stance) : Prop :=
  if !st.isGranted then st.Asked consents st'
  else if !st.equipment.foreground then st' = st
  else if st.mode.wantsCommand then ∃ failed, st' = (st.dropped failed).captureOver
  else ∃ halted failed, st' = (st.cancelled.handedOver .foreground halted).captured failed

/-- The stance with the errors forgotten. -/
def forgiven : Stance := { st with errors := 0 }

/-- Listening for a command was broken off in a mode that wants one. -/
def brokenOff (failed : Bool) : Stance := if st.mode.wantsCommand then st.dropped failed else st

/-- Listening was restarted by hand. -/
def Restarted (st' : Stance) : Prop :=
  if st.isGranted && st.equipment.background then
    ∃ failed st₁, (st.forgiven.cancelled.brokenOff failed).Silenced st₁ ∧
      st' = (st₁.inMode .idle).scheduled st.pace.manualRestart .resume
  else st' = st

/-- A command is awaited. -/
def awaiting (failed : Bool) : Stance :=
  let on := if st.mode = .background then (st.inMode .awaiting).tried .background .stop failed
    else if st.capturing then (st.inMode .awaiting).dropped failed
    else st.inMode .awaiting
  on.scheduled st.pace.promptDelay .capture

/-- The player was asked for a command, or that failed. -/
def Prompted (st' : Stance) : Prop :=
  st' = st ∨
    st.equipment.foreground = true ∧ st.isGranted = true ∧ ∃ failed, st' = st.awaiting failed

/-- Everything was broken off. -/
def Shut (st' : Stance) : Prop :=
  ∃ failed st₁, { st.cancelled with capturing := false }.Silenced st₁ ∧
    st' = { st₁.tried .foreground .abort failed with mode := .idle, closed := true }

/-- A command was heard in the background. -/
def commanded (failed : Bool) (ds : List Deed) : Stance :=
  ((st.inMode .idle).tried .background .stop failed).did ds

/-- A recognizer has heard something. -/
def Heard (which : Recognizer) (st' : Stance) : Prop :=
  if st.heeds which then
    match which with
    | .background =>
      st.forgiven.Prompted st' ∨
        ∃ failed ds, (∀ d ∈ ds, d.IsIntent) ∧
          (st' = (st.forgiven.commanded failed ds).later st.pace.cooldown ∨
            st.conduct.RefusesIntents ∧ st' = st.forgiven.commanded failed ds)
    | .foreground => ∃ ds, (∀ d ∈ ds, d.IsIntent) ∧ st' = st.captureOver.did ds
  else st' = st

/-- The player has taken the permission back. An answer that cannot be kept is not acted on. -/
def Revoked (st' : Stance) : Prop :=
  st' = st.cancelled.answering .denied ∨ st' = (st.cancelled.answering .denied).inMode .idle

/-- A recognizer has failed. -/
def Failed (which : Recognizer) (code : String) (st' : Stance) : Prop :=
  if st.heeds which then
    if code ∈ refusalCodes then st.Revoked st'
    else
      match which with
      | .background => st' = st.backgroundLost
      | .foreground => st' = st.captureOver
  else st' = st

/-- A recognizer has reported something. -/
def Told (which : Recognizer) : Report → Stance → Prop
  | .heard _, st' => st.Heard which st'
  | .failed code, st' => st.Failed which code st'
  | .ended, st' => st' = st.ended which

/-- What a timer was made for was done. -/
def Performed (task : ListeningTask) (st' : Stance) : Prop :=
  match task with
  | .resume =>
    if st.mode = .idle && !st.closed && !st.needsRestart && st.canListen then
      ∃ failed, st' = st.listening failed
    else st' = st
  | .capture =>
    if st.mode = .awaiting && !st.closed then
      ∃ halted failed, st' = (st.cancelled.handedOver .awaiting halted).captured failed
    else st' = st

/-- A timer went off. -/
def Expired (id : Nat) (time : Float) (st' : Stance) : Prop :=
  match st.queue.waiting.find? (·.id = id) with
  | none => st' = st
  | some t =>
    match t.task with
    | .listening generation task =>
      if st.slot.generation = generation then (st.expiring t time).Performed task st'
      else st' = st.expiring t time
    | .reply .. => st' = st.expiring t time

/-- What an occasion may lead to, if the player consents when asked or not. -/
def Step (consents : Bool) : Occasion → Stance → Prop
  | .start, st' => st.Started st'
  | .toggle, st' => st.Toggled consents st'
  | .restart, st' => st.Restarted st'
  | .awaitCommand, st' => st.Prompted st'
  | .requestPermission, st' => st.Asked consents st'
  | .close, st' => st.Shut st'
  | .report which _ report, st' => st.Told which report st'
  | .timer id time, st' => st.Expired id time st'
  | .clock time, st' => st' = { st with queue := { st.queue with time := time } }

variable {st}

@[simp] theorem handedOver_mode (mode : Mode) (failed : Bool) :
    (st.handedOver mode failed).mode = mode := by
  unfold handedOver
  split <;> rfl

@[simp] theorem handedOver_pending? (mode : Mode) (failed : Bool) :
    (st.handedOver mode failed).pending? = st.pending? := by
  unfold handedOver
  split <;> rfl

/-- A timer that goes off is either unknown, or the one that is pending, or of no concern. -/
theorem Expired.cases {id : Nat} {time : Float} {st' : Stance} (h : st.Expired id time st') :
    st' = st ∨ ∃ t ∈ st.queue.waiting,
      (∃ task, t.task = .listening st.slot.generation task ∧
        (st.expiring t time).Performed task st') ∨
      t.task.generation? ≠ some st.slot.generation ∧ st' = st.expiring t time := by
  unfold Expired at h
  split at h
  · exact .inl h
  · rename_i t hfind
    refine .inr ⟨t, (TimerQueue.mem_of_find? hfind).1, ?_⟩
    split at h
    · rename_i generation task htask
      split at h
      · rename_i hg
        exact .inl ⟨task, hg ▸ htask, h⟩
      · rename_i hg
        refine .inr ⟨fun hown => hg ?_, h⟩
        rw [htask] at hown
        exact (Option.some.inj hown).symm
    · rename_i htask
      refine .inr ⟨fun hown => ?_, h⟩
      rw [htask] at hown
      cases hown

/-- Silencing the background recognizer may end its mode and schedule its return, nothing else. -/
theorem silenced_same {st' : Stance} (h : st.Silenced st') :
    st'.pace = st.pace ∧ st'.conduct = st.conduct ∧ st'.capturing = st.capturing ∧
      st'.closed = st.closed ∧ st'.answer = st.answer := by
  obtain ⟨failed, rfl | rfl⟩ := h
  · exact ⟨rfl, rfl, rfl, rfl, rfl⟩
  · rw [ended_background]
    unfold backgroundOver
    split
    · split <;> exact ⟨rfl, rfl, rfl, rfl, rfl⟩
    · exact ⟨rfl, rfl, rfl, rfl, rfl⟩

end Stance

namespace Scene

open Act

variable {δ α β : Type} {s : Scene δ}

/-! ## Controls -/

theorem leads_start (calm : s.stance.conduct.Calm) :
    Leads start s fun _ st => s.stance.Started st := by
  unfold Stance.Started
  refine (leads_modify (P := fun _ st => st = s.stance.reopened) rfl).bind
    fun _ t ht => leads_get_bind ?_
  have hcalm : t.stance.conduct.Calm := by
    rw [ht]
    exact calm
  rw [← ht]
  -- Without a recognizer or without permission, a start ends in the same way.
  have hrefused : ∀ u : Scene δ, u.stance = t.stance →
      Leads (do refreshStatus; return false) u fun _ st => st = t.stance := fun u hu =>
    (leads_refreshStatus (hu ▸ hcalm)).bind fun _ v hv => leads_pure (hv.trans hu)
  show Leads (if !t.stance.isSupported then _ else _) t _
  split
  · rename_i hsup
    refine (hrefused t rfl).mono fun _ st hst => ?_
    rw [if_neg]
    · exact hst
    · simp_all [Stance.isSupported, Stance.canListen]
  · refine leads_isGranted.bind fun granted u ⟨hg, hu⟩ => ?_
    have hcalm' : u.stance.conduct.Calm := hu ▸ hcalm
    split
    · rename_i hn
      refine (hrefused u hu).mono fun _ st hst => ?_
      rw [if_neg]
      · exact hst
      · simp_all [Stance.canListen]
    · refine leads_get_bind ?_
      show Leads (if u.stance.mode = .idle then _ else _) u _
      rw [hu]
      split
      · rename_i hidle
        refine (leads_startBackground hcalm').bind fun _ v hv => leads_pure ?_
        rw [hu] at hv
        split at hv
        · rename_i hcan
          rwa [if_pos ⟨hidle, hcan⟩]
        · rename_i hcan
          rwa [if_neg fun h => hcan h.2]
      · rename_i hidle
        -- A session that is active already is left as it is.
        exact leads_pure (by rw [if_neg fun h => hidle h.1]; exact hu)

theorem leads_askPlayer : Leads askPlayer s fun x st => x = s.consents ∧ st = s.stance := by
  refine leads_get_bind ?_
  unfold consents
  cases s.equipment.prompt with
  | none => exact leads_pure ⟨rfl, rfl⟩
  | some granted =>
    have hcall : Leads (call .askPermission).succeeds s fun x st =>
        x = !s.refuses .askPermission ∧ st = s.stance := by
      refine ⟨_, _, outcome_succeeds _ s, ?_, ?_⟩
      · rw [outcome_call]
        cases s.refuses .askPermission <;> rfl
      · rw [outcome_call]
        exact stance_called_of_none s rfl
    exact hcall.bind fun x t ⟨hx, ht⟩ => leads_pure ⟨by rw [hx], ht⟩

/-- An answer is remembered even if it cannot be kept, but then nothing follows. -/
theorem ends_giveAnswer_bind {a : Answer} {f : Unit → Act (Scene δ) β} {Q : Stance → Prop}
    (h : Q (s.stance.answering a))
    (hf : ∀ t : Scene δ, t.stance = s.stance.answering a → Ends (f ()) t Q) :
    Ends (giveAnswer a >>= f) s Q := by
  refine keeps_bind_of (P := fun t : Scene δ => Q t.stance) h fun _ t ht => hf t ?_
  rw [← stance_giveAnswer a s, ht]

/-- Where answers can be kept, giving one is all that happens. -/
theorem leads_giveAnswer (hk : s.KeepsTexts) (a : Answer) :
    Leads (giveAnswer a) s fun _ st => st = s.stance.answering a :=
  ⟨(), _, Prod.ext (outcome_giveAnswer hk a) rfl, stance_giveAnswer a s⟩

theorem ends_requestPermission (calm : s.stance.conduct.Calm) :
    Ends requestPermission s fun st => s.stance.Asked s.consents st := by
  refine leads_askPlayer.ends_bind fun granted t ⟨hg, ht⟩ => ?_
  rw [hg]
  unfold Stance.Asked
  rw [← ht] at calm ⊢
  split
  · refine ends_giveAnswer_bind (.inl rfl) fun u hu => ?_
    have hcalm : u.stance.conduct.Calm := by
      rw [hu]
      exact calm
    refine (leads_refreshStatus hcalm).ends_bind fun _ v hv => ?_
    refine ((leads_start (hv ▸ hcalm)).discard (Q := fun _ st => v.stance.Started st)
      fun _ _ h => h).ends_bind fun _ w hw => ?_
    rw [hv, hu] at hw
    exact .inr hw
  · refine ends_giveAnswer_bind rfl fun u hu => ?_
    have hcalm : u.stance.conduct.Calm := by
      rw [hu]
      exact calm
    exact (leads_refreshStatus hcalm).ends_bind fun _ v hv => hv.trans hu

theorem Ends.discard {a : Act (Scene δ) α} {Q : Stance → Prop} (h : Ends a s Q) :
    Ends (discard a) s Q := by
  unfold Ends
  rw [outcome_discard]
  exact h

theorem ends_isGranted_bind {f : Bool → Act (Scene δ) β} {Q : Stance → Prop}
    (h : Ends (f s.stance.isGranted) s.lookedUp Q) : Ends (isGranted >>= f) s Q := by
  unfold Ends at h ⊢
  rwa [outcome_bind, outcome_isGranted]

theorem ends_toggle (calm : s.stance.conduct.Calm) :
    Ends toggle s fun st => s.stance.Toggled s.consents st := by
  refine ends_isGranted_bind ?_
  rw [← stance_lookedUp s] at calm ⊢
  rw [show s.consents = s.lookedUp.consents from rfl]
  generalize s.lookedUp = t at calm ⊢
  unfold Stance.Toggled
  split
  · exact (ends_requestPermission calm).discard
  · refine ends_get_bind ?_
    show Ends (if !t.stance.equipment.foreground then _ else _) t _
    split
    · exact (leads_refreshStatus calm).ends fun _ _ h => h
    · refine ends_get_bind ?_
      show Ends (if t.stance.mode.wantsCommand then _ else _) t _
      split
      · refine leads_dropCapture.ends_bind fun _ u ⟨failed, hu⟩ => ?_
        have hcalm : u.stance.conduct.Calm := by
          rw [hu]
          exact calm
        refine (leads_setMode hcalm .idle).ends_bind fun _ v hv => ends_get_bind ?_
        refine (leads_scheduleResume _).ends fun _ st hst => ⟨failed, ?_⟩
        rw [hst, show v.session.pace = v.stance.pace from rfl, hv, hu]
        rfl
      · exact (leads_startForeground calm (by decide)).ends fun _ _ h => h

/-- The end of a restart by hand. -/
theorem leads_restartEnd (calm : s.stance.conduct.Calm) :
    Leads (do
      abort .background
      setMode .idle
      refreshStatus
      schedule (← get).session.pace.manualRestart .resume
      return true) s fun _ st => ∃ st₁, s.stance.Silenced st₁ ∧
        st = (st₁.inMode .idle).scheduled s.stance.pace.manualRestart .resume := by
  refine (leads_abort_background calm).bind fun _ t ht => ?_
  obtain ⟨hpace, hconduct, -⟩ := Stance.silenced_same ht
  have hcalm : t.stance.conduct.Calm := hconduct ▸ calm
  refine (leads_setMode hcalm .idle).bind fun _ u hu => ?_
  have hcalm' : u.stance.conduct.Calm := by
    rw [hu]
    exact hcalm
  refine (leads_refreshStatus hcalm').bind fun _ v hv => leads_get_bind ?_
  refine (leads_schedule _ _).bind fun _ _ hst => leads_pure ⟨t.stance, ht, ?_⟩
  rw [hst, show v.session.pace = v.stance.pace from rfl, hv, hu, ← hpace]
  rfl

theorem leads_restart (calm : s.stance.conduct.Calm) :
    Leads restart s fun _ st => s.stance.Restarted st := by
  refine leads_isGranted.bind fun granted t ⟨hg, ht⟩ => ?_
  unfold Stance.Restarted
  rw [← ht] at calm ⊢ hg
  rw [hg]
  cases t.stance.isGranted with
  | false => exact leads_pure rfl
  | true =>
    refine leads_get_bind ?_
    show Leads (if !t.stance.equipment.background then _ else _) t _
    cases t.stance.equipment.background with
    | false => exact leads_pure rfl
    | true =>
      refine (leads_modify (P := fun _ st => st = t.stance.forgiven) rfl).bind
        fun _ u hu => leads_cancelTimer.bind fun _ v hv => leads_get_bind ?_
      rw [hu] at hv
      have hcalm : v.stance.conduct.Calm := by
        rw [hv]
        exact calm
      rw [show v.session.mode = t.stance.mode from congrArg Stance.mode hv]
      show Leads _ v fun _ st => ∃ failed st₁,
        Stance.Silenced (if t.stance.mode.wantsCommand then _ else _) st₁ ∧ st = _
      split
      · refine leads_dropCapture.bind fun _ w ⟨failed, hw⟩ => ?_
        have hcalm' : w.stance.conduct.Calm := by
          rw [hw]
          exact hcalm
        refine (leads_restartEnd hcalm').mono fun _ st ⟨st₁, hsil, hst⟩ => ⟨failed, st₁, ?_, ?_⟩
        · rwa [hw, hv] at hsil
        · rwa [hw, hv] at hst
      · refine (leads_restartEnd hcalm).mono fun _ st ⟨st₁, hsil, hst⟩ => ⟨false, st₁, ?_, ?_⟩
        · rwa [hv] at hsil
        · rwa [hv] at hst

/-- The mode changes to that of awaiting a command, and the command is awaited a little later. -/
theorem leads_await (calm : s.stance.conduct.Calm) :
    Leads (do
      let before := (← get).session.mode
      setMode .awaiting
      if before = .background then stop .background
      else if (← get).session.capturing then dropCapture
      schedule (← get).session.pace.promptDelay .capture) s fun _ st =>
        ∃ failed, st = s.stance.awaiting failed := by
  have hschedule : ∀ {t : Scene δ} {st : Stance}, t.stance = st →
      Leads (do schedule (← get).session.pace.promptDelay .capture) t fun _ st' =>
        st' = st.scheduled st.pace.promptDelay .capture := by
    rintro t _ rfl
    exact leads_get_bind (leads_schedule _ _)
  refine leads_get_bind ?_
  dsimp only
  refine (leads_setMode calm .awaiting).bind fun _ t ht => ?_
  have hcalm : t.stance.conduct.Calm := by
    rw [ht]
    exact calm
  show Leads (if s.stance.mode = .background then _ else _) t _
  unfold Stance.awaiting
  split
  · have hmode : t.stance.mode ≠ .background := by
      rw [ht]
      exact Mode.noConfusion
    refine (leads_stop_background hmode).bind fun _ u ⟨failed, hu⟩ => ?_
    rw [ht] at hu
    exact (hschedule hu).mono fun _ st hst => ⟨failed, hst⟩
  · refine leads_get_bind ?_
    rw [show t.session.capturing = s.stance.capturing from congrArg Stance.capturing ht]
    split
    · refine leads_dropCapture.bind fun _ u ⟨failed, hu⟩ => ?_
      rw [ht] at hu
      exact (hschedule hu).mono fun _ st hst => ⟨failed, hst⟩
    · exact (hschedule ht).mono fun _ st hst => ⟨false, hst⟩

theorem ends_awaitCommand (calm : s.stance.conduct.Calm) :
    Ends (awaitCommand Wiring.toHost) s fun st => s.stance.Prompted st := by
  refine ends_get_bind ?_
  have hquiet : Quiet (inRoom (Wiring.toHost.respond s.session.pace.prompt) :
      Act (Scene δ) Unit) := quiet_inRoom (undisturbed_respond _)
  refine keeps_bind_of (P := fun t : Scene δ => s.stance.Prompted t.stance)
    (.inl (hquiet.stance_eq s)) fun _ t ht => ?_
  have hst : t.stance = s.stance := by
    rw [← hquiet.stance_eq s, ht]
  rw [← hst] at calm ⊢
  refine ends_get_bind (Q := t.stance.Prompted) ?_
  show Ends (if t.stance.equipment.foreground then _ else _) t _
  split
  · rename_i hfg
    refine leads_isGranted.ends_bind fun granted u ⟨hg, hu⟩ => ?_
    rw [← hu] at calm hfg hg ⊢
    split
    · rename_i hgranted
      exact (leads_await calm).ends fun _ st hst => .inr ⟨hfg, hg ▸ hgranted, hst⟩
    · exact .inl rfl
  · exact .inl rfl

theorem leads_stopSpeaking : Leads (inRoom Room.stopSpeaking) s fun _ st => st = s.stance :=
  ⟨_, _, rfl, (quiet_inRoom undisturbed_stopSpeaking).stance_eq s⟩

theorem leads_close (calm : s.stance.conduct.Calm) :
    Leads close s fun _ st => s.stance.Shut st := by
  refine leads_cancelTimer.bind fun _ t ht => ?_
  refine (leads_modify (P := fun _ st => st = { t.stance with capturing := false }) rfl).bind
    fun _ u hu => ?_
  rw [ht] at hu
  have hcalm : u.stance.conduct.Calm := by
    rw [hu]
    exact calm
  refine (leads_abort_background hcalm).bind fun _ v hv => ?_
  obtain ⟨-, hconduct, hcapturing, -⟩ := Stance.silenced_same hv
  have hcalm' : v.stance.conduct.Calm := hconduct ▸ hcalm
  refine (leads_abort_foreground (by rw [hcapturing, hu])).bind fun _ w ⟨failed, hw⟩ => ?_
  refine leads_stopSpeaking.bind fun _ x hx => ?_
  have hcalm'' : x.stance.conduct.Calm := by
    rw [hx, hw]
    exact hcalm'
  refine (leads_setMode hcalm'' .idle).bind fun _ y hy => ?_
  refine leads_modify ⟨failed, v.stance, hu ▸ hv, ?_⟩
  have hover : { y.stance with closed := true } =
      { v.stance.tried .foreground .abort failed with mode := .idle, closed := true } := by
    rw [hy, hx, hw]
    rfl
  exact hover

/-! ## Reports -/

/-- What a recognizer reports that is not heeded changes nothing. -/
theorem outcome_take_of_not_heeds {which : Recognizer} (h : s.stance.heeds which = false)
    (report : Report) : (take which report).outcome s = (.ok (), s) := by
  cases which with
  | background =>
    have hm : s.session.mode ≠ .background := of_decide_eq_false h
    cases report with
    | heard heard => exact outcome_get_ite hm
    | failed code => exact outcome_get_ite hm
    | ended => exact outcome_ended_of_not_heeds h
  | foreground =>
    have hc : ¬s.session.capturing = true := (Bool.not_eq_true _).mpr h
    cases report with
    | heard heard => exact outcome_get_ite hc
    | failed code => exact outcome_get_ite hc
    | ended => exact outcome_ended_of_not_heeds h

/-- An intent is handed on to a host that wants it, which fails only if it refuses intents. -/
theorem handOn_cases (heard : Arcade.Heard) (s : Scene δ) :
    ∃ ds, (∀ d ∈ ds, d.IsIntent) ∧ (s.stance.equipment.onIntent = true → ds ≠ []) ∧
      ((handOn Wiring.toHost heard).outcome s).2.stance = s.stance.did ds ∧
        (((handOn Wiring.toHost heard).outcome s).1 = .ok () ∨
          s.stance.conduct.RefusesIntents) := by
  have hact : (handOn Wiring.toHost heard).outcome s =
      if s.stance.equipment.onIntent then (call (.intent heard.intent)).outcome s
      else (.ok (), s) := by
    unfold handOn Wiring.toHost Room.callIf call inRoom
    rw [outcome_within, outcome_bind, outcome_get]
    show _ = if s.room.host.equipment.onIntent then _ else _
    dsimp only
    split <;> rfl
  rw [hact]
  split
  · rw [outcome_call]
    refine ⟨[.intent heard.intent (s.refuses (.intent heard.intent))], ?_,
      fun _ => List.cons_ne_nil _ _, ?_, ?_⟩
    · intro d hd
      rw [List.mem_singleton.mp hd]
      trivial
    · exact stance_called s _
    · cases h : s.refuses (.intent heard.intent) with
      | false => exact .inl rfl
      | true => exact .inr ⟨_, _, h⟩
  · rename_i hno
    exact ⟨[], fun d hd => (List.not_mem_nil hd).elim, fun h => absurd h hno,
      (Stance.did_nil _).symm, .inl rfl⟩

theorem ends_handOn_bind {heard : Arcade.Heard} {f : Unit → Act (Scene δ) β} {Q : Stance → Prop}
    (h : ∀ ds : List Deed, (∀ d ∈ ds, d.IsIntent) → s.stance.conduct.RefusesIntents →
      Q (s.stance.did ds))
    (hf : ∀ (ds : List Deed) (t : Scene δ), (∀ d ∈ ds, d.IsIntent) →
      t.stance = s.stance.did ds → Ends (f ()) t Q) :
    Ends (handOn Wiring.toHost heard >>= f) s Q := by
  obtain ⟨ds, hds, -, hst, hok⟩ := handOn_cases heard s
  unfold Ends
  rw [outcome_bind]
  rcases hout : (handOn Wiring.toHost heard).outcome s with ⟨e | _, t⟩
  · rw [hout] at hst hok
    have := h ds hds (hok.resolve_left (by simp))
    rwa [← hst] at this
  · rw [hout] at hst
    exact hf ds t hds hst

/-- A command that was heard in the background is handed on. -/
theorem ends_command (calm : s.stance.conduct.Calm) (command : String) :
    Ends (do
      setMode .idle
      stop .background
      handOn Wiring.toHost (.words command)
      scheduleResume (← get).session.pace.cooldown) s fun st =>
        ∃ failed ds, (∀ d ∈ ds, d.IsIntent) ∧
          (st = (s.stance.commanded failed ds).later s.stance.pace.cooldown ∨
            s.stance.conduct.RefusesIntents ∧ st = s.stance.commanded failed ds) := by
  refine (leads_setMode calm .idle).ends_bind fun _ t ht => ?_
  have hcalm : t.stance.conduct.Calm := by
    rw [ht]
    exact calm
  refine (leads_stop_background (by rw [ht]; exact Mode.noConfusion)).ends_bind
    fun _ u ⟨failed, hu⟩ => ?_
  rw [ht] at hu
  refine ends_handOn_bind (fun ds hds hrefuses => ?_) fun ds v hds hv => ends_get_bind ?_
  · rw [hu] at hrefuses
    exact ⟨failed, ds, hds, .inr ⟨hrefuses, by rw [hu]; rfl⟩⟩
  · refine (leads_scheduleResume _).ends fun _ st hst => ⟨failed, ds, hds, .inl ?_⟩
    rw [hst, show v.session.pace = v.stance.pace from rfl, hv, hu]
    rfl

theorem ends_heardInBackground (calm : s.stance.conduct.Calm) (heard : Arcade.Heard) :
    Ends (heardInBackground Wiring.toHost heard) s fun st => s.stance.Heard .background st := by
  refine ends_get_bind ?_
  show Ends (if s.stance.mode = .background then _ else _) s _
  by_cases hmode : s.stance.mode = .background
  · have hheed : s.stance.heeds .background = true := decide_eq_true hmode
    rw [if_pos hmode]
    unfold Stance.Heard
    rw [hheed]
    -- What is heard forgives earlier failures even if it holds no wake phrase.
    refine (leads_modify (P := fun _ st => st = s.stance.forgiven) rfl).ends_bind fun _ t ht => ?_
    have hcalm : t.stance.conduct.Calm := by
      rw [ht]
      exact calm
    cases heard.wake with
    | error e => exact .inl (.inl ht)
    | ok command =>
      cases command with
      | none => exact .inl (.inl ht)
      | some command =>
        show Ends (if command = "" then _ else _) t _
        split
        · refine Or.inl ?_
          rw [← ht]
          exact ends_awaitCommand hcalm
        · refine Or.inr ?_
          have := ends_command hcalm command
          rwa [ht] at this
  · have hheed : s.stance.heeds .background = false := decide_eq_false hmode
    rw [if_neg hmode]
    unfold Stance.Heard
    rw [hheed]
    exact rfl

theorem ends_heardInForeground (calm : s.stance.conduct.Calm) (heard : Arcade.Heard) :
    Ends (heardInForeground Wiring.toHost heard) s fun st => s.stance.Heard .foreground st := by
  refine ends_get_bind ?_
  show Ends (if s.stance.capturing then _ else _) s (fun st => if s.stance.capturing then _ else _)
  split
  · refine (leads_finishCapture (.inl calm)).ends_bind fun _ t ht => ?_
    obtain ⟨ds, hds, -, hst, -⟩ := handOn_cases heard t
    exact ⟨ds, hds, by rw [hst, ht]⟩
  · exact rfl

theorem ends_permissionRevoked (calm : s.stance.conduct.Calm) :
    Ends permissionRevoked s fun st => s.stance.Revoked st := by
  refine leads_cancelTimer.ends_bind fun _ t ht => ?_
  unfold Stance.Revoked
  rw [← ht]
  refine ends_giveAnswer_bind (.inl rfl) fun u hu => ?_
  have hcalm : u.stance.conduct.Calm := by
    rw [hu, ht]
    exact calm
  refine (leads_setMode hcalm .idle).ends_bind fun _ v hv => ?_
  have hcalm' : v.stance.conduct.Calm := by
    rw [hv]
    exact hcalm
  refine (leads_refreshStatus hcalm').ends fun _ st hst => .inr ?_
  rw [hst, hv, hu]

theorem ends_failed (calm : s.stance.conduct.Calm) (which : Recognizer) (code : String) :
    Ends (failed which code) s fun st => s.stance.Failed which code st := by
  refine ends_get_bind ?_
  unfold Stance.Failed
  cases which with
  | background =>
    show Ends (if s.stance.mode = .background then _ else _) s _
    by_cases hmode : s.stance.mode = .background
    · rw [if_pos hmode, show s.stance.heeds .background = true from decide_eq_true hmode]
      show Ends (if code ∈ refusalCodes then _ else _) s
        (fun st => if code ∈ refusalCodes then _ else _)
      split
      · exact ends_permissionRevoked calm
      · exact (leads_backgroundFailed calm).ends fun _ _ h => h
    · rw [if_neg hmode, show s.stance.heeds .background = false from decide_eq_false hmode]
      exact rfl
  | foreground =>
    show Ends (if s.stance.capturing then _ else _) s
      (fun st => if s.stance.capturing then _ else _)
    split
    · show Ends (if code ∈ refusalCodes then _ else _) s
        (fun st => if code ∈ refusalCodes then _ else _)
      split
      · exact ends_permissionRevoked calm
      · exact (leads_finishCapture (.inl calm)).ends fun _ _ h => h
    · exact rfl

theorem ends_take (calm : s.stance.conduct.Calm) (which : Recognizer) (report : Report) :
    Ends (take which report) s fun st => s.stance.Told which report st := by
  cases report with
  | heard heard =>
    cases which with
    | background => exact ends_heardInBackground calm heard
    | foreground => exact ends_heardInForeground calm heard
  | failed code => exact ends_failed calm which code
  | ended => exact (leads_ended calm which).ends fun _ _ h => h

/-! ## Timers -/

theorem leads_perform (calm : s.stance.conduct.Calm) (task : ListeningTask) :
    Leads (perform task) s fun _ st => s.stance.Performed task st := by
  cases task with
  | resume =>
    refine leads_get_bind ?_
    show Leads
      (if s.stance.mode = .idle && !s.stance.closed && !s.stance.needsRestart then _ else _) s
      (fun _ st => if s.stance.mode = .idle && !s.stance.closed && !s.stance.needsRestart &&
        s.stance.canListen then _ else _)
    cases s.stance.mode = .idle && !s.stance.closed && !s.stance.needsRestart with
    | false => exact leads_pure rfl
    | true => exact leads_startBackground calm
  | capture =>
    refine leads_get_bind ?_
    show Leads (if s.stance.mode = .awaiting && !s.stance.closed then _ else _)
      s (fun _ st => if s.stance.mode = .awaiting && !s.stance.closed then _ else _)
    split
    · exact leads_startForeground calm Mode.noConfusion
    · exact leads_pure rfl

theorem ends_expire (calm : s.stance.conduct.Calm) (id : Nat) (time : Float) :
    Ends (expire id time) s fun st => s.stance.Expired id time st := by
  unfold Ends Stance.Expired
  show match s.room.queue.waiting.find? (·.id = id) with | none => _ | some t => _
  cases ht : s.room.queue.waiting.find? (·.id = id) with
  | none =>
    unfold expire
    rw [outcome_bind, outcome_get]
    dsimp only
    rw [ht]
    rfl
  | some t =>
    rw [outcome_expire ht]
    have hcalm : (s.expiring t time).stance.conduct.Calm := calm
    dsimp only
    cases t.task with
    | reply => rfl
    | listening generation task =>
      show if s.session.slot.generation = generation then
        (s.expiring t time).stance.Performed task _ else _ = (s.expiring t time).stance
      dsimp only
      split
      · exact (leads_perform hcalm task).ends fun _ _ h => h
      · rfl

/-- On a calm host, an occasion leads to nothing else than it may. -/
theorem step_after (calm : s.stance.conduct.Calm) (o : Occasion) :
    s.stance.Step s.consents o (s.after o).stance := by
  cases o with
  | start => exact ((leads_start calm).ends fun _ _ h => h).discard
  | toggle => exact ends_toggle calm
  | restart => exact ((leads_restart calm).ends fun _ _ h => h).discard
  | awaitCommand => exact ends_awaitCommand calm
  | requestPermission => exact (ends_requestPermission calm).discard
  | close => exact (leads_close calm).ends (Q := s.stance.Shut) fun _ _ h => h
  | report which _ what => exact ends_take calm which what
  | timer id time => exact ends_expire calm id time
  | clock time => rfl

end Scene

end Arcade
