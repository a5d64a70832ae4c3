import Arcade.Proofs.Listening.Stance

/-!
# How a session reacts

On a calm host each act of a session has only a few ends, which differ in whether recognizers took
the calls that they got. For every act the stances in which it can end are told here, so that what
is kept by these stances is kept by the act. Acts that cannot fail lead to their stances; acts that
ask the player, answer, or hand an intent on may fail in between and just end in them.
-/

namespace Arcade

namespace Stance

variable (st : Stance)

/-- The stance after a call of a recognizer, which is not made if the host does not have it. -/
def tried (which : Recognizer) (call : RecognizerCall) (failed : Bool) : Stance :=
  st.did (if st.equipment.has which then [.recognizer which call failed] else [])

/-- The background recognizer comes back after a delay, if there is one and the session is open. -/
def later (delay : Float) : Stance :=
  if st.equipment.background && !st.closed then st.scheduled delay .resume else st

/-- Listening for a command is over. -/
def captureOver : Stance :=
  { st with capturing := false, mode := .idle }.later st.pace.cooldown

/-- The background recognizer has ended while it listened. -/
def backgroundOver : Stance :=
  if st.isGranted && !st.needsRestart then
    (st.inMode .idle).scheduled st.pace.restartAfterEnd .resume
  else st.inMode .idle

@[simp] theorem captureOver_capturing : st.captureOver.capturing = false := by
  unfold captureOver later
  split <;> rfl

@[simp] theorem backgroundOver_mode : st.backgroundOver.mode = .idle := by
  unfold backgroundOver
  split <;> rfl

/-- Whether what a recognizer delivers is heeded. -/
def heeds : Recognizer → Bool
  | .background => decide (st.mode = .background)
  | .foreground => st.capturing

@[simp] theorem heeds_background {st : Stance} :
    st.heeds .background = true ↔ st.mode = .background := decide_eq_true_iff

@[simp] theorem heeds_foreground {st : Stance} :
    st.heeds .foreground = true ↔ st.capturing = true := Iff.rfl

/-- A recognizer has told its end. -/
def ended (which : Recognizer) : Stance :=
  if st.heeds which then
    match which with
    | .background => st.backgroundOver
    | .foreground => st.captureOver
  else st

theorem ended_of_not_heeds {which : Recognizer} (h : st.heeds which = false) :
    st.ended which = st := by
  unfold ended
  rw [h]
  rfl

theorem ended_background :
    st.ended .background = if st.mode = .background then st.backgroundOver else st := by
  simp [ended, heeds]

theorem ended_foreground :
    st.ended .foreground = if st.capturing then st.captureOver else st := rfl

/-- The background recognizer has failed, which counts as one more error. -/
def backgroundLost : Stance :=
  let lost := { st with errors := st.errors + 1, mode := .idle }
  if lost.needsRestart then lost.cancelled
  else lost.scheduled (st.pace.backoff lost.errors) .resume

/-- Whether listening in the background is possible and allowed. -/
def canListen : Bool := st.equipment.background && st.isGranted && !st.closed

/-- The background recognizer was started, perhaps without success. -/
def listening (failed : Bool) : Stance :=
  let up := (st.cancelled.inMode .background).tried .background .start failed
  if failed then up.backgroundLost else up

/-- The mode has changed to one in which the background recognizer does not listen. -/
def handedOver (mode : Mode) (failed : Bool) : Stance :=
  if st.mode = .background then (st.inMode mode).tried .background .stop failed
  else st.inMode mode

/-- The foreground recognizer was started, perhaps without success. -/
def captured (failed : Bool) : Stance :=
  let on := { st with capturing := true }.tried .foreground .start failed
  if st.equipment.foreground && !failed then on else on.captureOver

/-- Listening for a command was broken off. -/
def dropped (failed : Bool) : Stance :=
  { st with capturing := false }.tried .foreground .abort failed

/-- The background recognizer was told to stop at once, and may have told its end at once. -/
def Silenced (st' : Stance) : Prop :=
  ∃ failed, st' = st.tried .background .abort failed ∨
    st' = (st.tried .background .abort failed).ended .background

end Stance

namespace Scene

open Act

variable {δ α β : Type} {s : Scene δ}

/-- Whether an act succeeds with a result and a stance as told. -/
def Leads (a : Act (Scene δ) α) (s : Scene δ) (P : α → Stance → Prop) : Prop :=
  ∃ x t, a.outcome s = (.ok x, t) ∧ P x t.stance

/-- Whether an act ends in a stance as told, however it ends. -/
def Ends (a : Act (Scene δ) α) (s : Scene δ) (P : Stance → Prop) : Prop :=
  P (a.outcome s).2.stance

theorem Leads.bind {a : Act (Scene δ) α} {f : α → Act (Scene δ) β} {P : α → Stance → Prop}
    {Q : β → Stance → Prop} (h : Leads a s P) (hf : ∀ x t, P x t.stance → Leads (f x) t Q) :
    Leads (a >>= f) s Q := by
  obtain ⟨x, t, ha, hx⟩ := h
  obtain ⟨y, u, hb, hy⟩ := hf x t hx
  exact ⟨y, u, (outcome_bind_of_ok ha).trans hb, hy⟩

theorem ends_bind_of_ok {a : Act (Scene δ) α} {f : α → Act (Scene δ) β} {x : α} {t : Scene δ}
    {Q : Stance → Prop} (h : a.outcome s = (.ok x, t)) (hf : Ends (f x) t Q) :
    Ends (a >>= f) s Q := by
  unfold Ends
  rw [outcome_bind_of_ok h]
  exact hf

theorem Leads.ends_bind {a : Act (Scene δ) α} {f : α → Act (Scene δ) β} {P : α → Stance → Prop}
    {Q : Stance → Prop} (h : Leads a s P) (hf : ∀ x t, P x t.stance → Ends (f x) t Q) :
    Ends (a >>= f) s Q := by
  obtain ⟨x, t, ha, hx⟩ := h
  exact ends_bind_of_ok ha (hf x t hx)

theorem Leads.mono {a : Act (Scene δ) α} {P Q : α → Stance → Prop} (h : Leads a s P)
    (hpq : ∀ x st, P x st → Q x st) : Leads a s Q := by
  obtain ⟨x, t, ha, hx⟩ := h
  exact ⟨x, t, ha, hpq x _ hx⟩

theorem Leads.ends {a : Act (Scene δ) α} {P : α → Stance → Prop} {Q : Stance → Prop}
    (h : Leads a s P) (hpq : ∀ x st, P x st → Q st) : Ends a s Q := by
  obtain ⟨x, t, ha, hx⟩ := h
  unfold Ends
  rw [ha]
  exact hpq x _ hx

theorem Leads.discard {a : Act (Scene δ) α} {P : α → Stance → Prop} {Q : PUnit → Stance → Prop}
    (h : Leads a s P) (hpq : ∀ x st, P x st → Q ⟨⟩ st) : Leads (discard a) s Q := by
  obtain ⟨x, t, ha, hx⟩ := h
  refine ⟨⟨⟩, t, ?_, hpq x _ hx⟩
  rw [outcome_discard, ha]
  rfl

theorem leads_pure {x : α} {P : α → Stance → Prop} (h : P x s.stance) : Leads (pure x) s P :=
  ⟨x, s, rfl, h⟩

theorem leads_get_bind {f : Scene δ → Act (Scene δ) β} {Q : β → Stance → Prop}
    (h : Leads (f s) s Q) : Leads (get >>= f) s Q := by
  unfold Leads at h ⊢
  rwa [outcome_bind, outcome_get]

theorem ends_get_bind {f : Scene δ → Act (Scene δ) β} {Q : Stance → Prop}
    (h : Ends (f s) s Q) : Ends (get >>= f) s Q := by
  unfold Ends at h ⊢
  rwa [outcome_bind, outcome_get]

theorem leads_modify {f : Scene δ → Scene δ} {P : PUnit → Stance → Prop}
    (h : P ⟨⟩ (f s).stance) : Leads (modify f) s P :=
  ⟨⟨⟩, f s, rfl, h⟩

/-! ## Steps of acts -/

theorem leads_isGranted : Leads isGranted s fun x st => x = s.stance.isGranted ∧ st = s.stance :=
  ⟨_, _, outcome_isGranted s, rfl, stance_lookedUp s⟩

theorem leads_schedule (delay : Float) (task : ListeningTask) :
    Leads (schedule delay task) s fun _ st => st = s.stance.scheduled delay task :=
  leads_modify rfl

theorem leads_cancelTimer : Leads cancelTimer s fun _ st => st = s.stance.cancelled :=
  leads_modify rfl

/-- Telling a calm host of a mode or a status. -/
theorem leads_tell {wanted : Equipment → Bool} {c : HostCall} (hok : s.refuses c = false)
    (hdeed : ∀ failed, Deed.of? (c, failed) = none) :
    Leads (inRoom (Room.callIf wanted c)) s fun _ st => st = s.stance := by
  have hq : Quiet (inRoom (Room.callIf wanted c) : Act (Scene δ) Unit) := quiet_inRoom fun r =>
    keeps_get.bind fun _ => (undisturbed_call hdeed r).ite (keeps_pure _)
  refine ⟨(), ((inRoom (Room.callIf wanted c)).outcome s).2, ?_, hq.stance_eq s⟩
  refine Prod.ext ?_ rfl
  unfold inRoom
  rw [outcome_within]
  unfold Room.callIf
  rw [outcome_bind, outcome_get]
  dsimp only
  split
  · unfold Room.call Room.onHost
    rw [outcome_within, Host.outcome_call]
    exact if_neg (by simpa [refuses] using hok)
  · rfl

theorem leads_refreshStatus (calm : s.stance.conduct.Calm) :
    Leads refreshStatus s fun _ st => st = s.stance := by
  have hdue : Leads dueStatus s fun _ st => st = s.stance := by
    refine leads_get_bind ?_
    split
    · exact Leads.bind (P := fun _ st => st = s.stance) ⟨_, _, outcome_answer s, stance_lookedUp s⟩
        fun a t ht => leads_get_bind (leads_pure ht)
    · exact leads_pure rfl
  refine hdue.bind fun status t ht => leads_get_bind ?_
  split
  · refine (leads_modify (P := fun _ st => st = s.stance) ht).bind fun _ u hu => ?_
    have hcalm : u.stance.conduct.Calm := hu ▸ calm
    exact (leads_tell (hcalm.2 _ _) fun _ => rfl).mono fun _ _ h => h.trans hu
  · exact leads_pure ht

theorem leads_setMode (calm : s.stance.conduct.Calm) (mode : Mode) :
    Leads (setMode mode) s fun _ st => st = s.stance.inMode mode := by
  refine leads_get_bind ?_
  dsimp only
  split
  · refine (leads_modify (P := fun _ st => st = s.stance.inMode mode) rfl).bind fun _ t ht => ?_
    have hcalm : t.stance.conduct.Calm := by
      rw [ht]
      exact calm
    refine (leads_tell (hcalm.1 _ _ _) fun _ => rfl).bind fun _ u hu => ?_
    rw [← hu] at hcalm
    exact (leads_refreshStatus hcalm).mono fun _ _ h => h.trans (hu.trans ht)
  · rename_i h
    exact leads_pure (by rw [← Decidable.not_not.mp h]; rfl)

/-- A mode that stays the same is no news. -/
theorem outcome_setMode_of_eq {mode : Mode} (h : s.stance.mode = mode) :
    (setMode mode).outcome s = (.ok (), s) := by
  unfold setMode
  rw [outcome_bind, outcome_get]
  dsimp only
  rw [if_neg (not_not_intro (show s.session.mode = mode from h))]
  rfl

theorem leads_setMode_of_eq {mode : Mode} (h : s.stance.mode = mode) :
    Leads (setMode mode) s fun _ st => st = s.stance.inMode mode :=
  ⟨(), s, outcome_setMode_of_eq h, by rw [← h]; rfl⟩

/-! ## Ends and errors -/

theorem leads_scheduleResume (delay : Float) :
    Leads (scheduleResume delay) s fun _ st => st = s.stance.later delay := by
  refine leads_get_bind ?_
  unfold Stance.later
  show Leads (if s.stance.equipment.background && !s.stance.closed then _ else _) s _
  split
  · exact leads_schedule delay .resume
  · exact leads_pure rfl

theorem leads_finishCapture (h : s.stance.conduct.Calm ∨ s.stance.mode = .idle) :
    Leads finishCapture s fun _ st => st = s.stance.captureOver := by
  refine (leads_modify (P := fun _ st => st = { s.stance with capturing := false }) rfl).bind
    fun _ t ht => ?_
  have hidle : Leads (setMode .idle) t fun _ st => st = t.stance.inMode .idle := by
    rcases h with calm | hm
    · exact leads_setMode (by rw [ht]; exact calm) .idle
    · exact leads_setMode_of_eq (by rw [ht]; exact hm)
  refine hidle.bind fun _ u hu => leads_get_bind ?_
  refine (leads_scheduleResume _).mono fun _ st hst => ?_
  rw [hst, show u.session.pace = u.stance.pace from rfl, hu, ht]
  rfl

theorem leads_ended (calm : s.stance.conduct.Calm) (which : Recognizer) :
    Leads (ended which) s fun _ st => st = s.stance.ended which := by
  cases which with
  | background =>
    refine leads_get_bind ?_
    show Leads (if s.stance.mode = .background then _ else _) s _
    rw [Stance.ended_background]
    split
    · refine leads_isGranted.bind fun granted t ⟨hg, ht⟩ => leads_get_bind ?_
      have hcalm : t.stance.conduct.Calm := ht ▸ calm
      refine (leads_setMode hcalm .idle).bind fun _ u hu => ?_
      have hrestarts : (granted && !t.session.needsRestart) =
          (s.stance.isGranted && !s.stance.needsRestart) := by
        rw [hg, ← ht]
        rfl
      rw [hrestarts]
      unfold Stance.backgroundOver
      split
      · refine leads_get_bind ((leads_schedule _ _).mono fun _ st hst => ?_)
        rw [hst, show u.session.pace = u.stance.pace from rfl, hu, ht]
        rfl
      · exact leads_pure (hu.trans (by rw [ht]))
    · exact leads_pure rfl
  | foreground =>
    refine leads_get_bind ?_
    show Leads (if s.stance.capturing then _ else _) s _
    rw [Stance.ended_foreground]
    split
    · exact leads_finishCapture (.inl calm)
    · exact leads_pure rfl

/-- What is done only under a condition that does not hold changes nothing. -/
theorem outcome_get_ite {c : Scene δ → Prop} [DecidablePred c] {a : Scene δ → Act (Scene δ) Unit}
    (h : ¬c s) : (get >>= fun s => if c s then a s else pure ()).outcome s = (.ok (), s) := by
  rw [outcome_bind, outcome_get]
  dsimp only
  rw [if_neg h]
  rfl

/-- The end of a recognizer that is not heeded changes nothing. -/
theorem outcome_ended_of_not_heeds {which : Recognizer} (h : s.stance.heeds which = false) :
    (ended which).outcome s = (.ok (), s) := by
  cases which with
  | background => exact outcome_get_ite (of_decide_eq_false h : s.session.mode ≠ .background)
  | foreground =>
    have hc : ¬s.session.capturing = true := (Bool.not_eq_true _).mpr h
    exact outcome_get_ite hc

theorem leads_ended_of_not_heeds {which : Recognizer} (h : s.stance.heeds which = false) :
    Leads (ended which) s fun _ st => st = s.stance.ended which := by
  refine ⟨(), s, outcome_ended_of_not_heeds h, ?_⟩
  rw [Stance.ended_of_not_heeds _ h]

theorem leads_backgroundFailed (calm : s.stance.conduct.Calm) :
    Leads backgroundFailed s fun _ st => st = s.stance.backgroundLost := by
  refine (leads_modify (P := fun _ st => st = { s.stance with errors := s.stance.errors + 1 })
    rfl).bind fun _ t ht => ?_
  have hcalm : t.stance.conduct.Calm := by
    rw [ht]
    exact calm
  refine (leads_setMode hcalm .idle).bind fun _ u hu => leads_get_bind ?_
  have hlost : u.stance = { s.stance with errors := s.stance.errors + 1, mode := .idle } := by
    rw [hu, ht]
    rfl
  show Leads (if u.stance.needsRestart then _ else _) u _
  unfold Stance.backgroundLost
  rw [← hlost]
  dsimp only
  split
  · refine leads_cancelTimer.bind fun _ v hv => ?_
    have hcalm' : v.stance.conduct.Calm := by
      rw [hv]
      show u.stance.conduct.Calm
      rw [hlost]
      exact calm
    exact (leads_refreshStatus hcalm').mono fun _ _ h => h.trans hv
  · refine (leads_schedule _ _).mono fun _ st hst => ?_
    rw [hst]
    show u.stance.scheduled (u.stance.pace.backoff u.stance.errors) .resume = _
    rw [hlost]

/-! ## Starting and stopping -/

/-- A recognizer takes a call or fails, if the host has it at all. -/
theorem callRecognizer_cases (which : Recognizer) (c : RecognizerCall) (s : Scene δ) :
    ∃ failed, ((callRecognizer which c).outcome s).2.stance = s.stance.tried which c failed ∧
      ((callRecognizer which c).outcome s).1.toOption.isSome =
        (s.stance.equipment.has which && !failed) := by
  have hact : (callRecognizer which c).outcome s =
      if s.stance.equipment.has which then (call (.recognizer which c)).outcome s
      else (.error .noOperation, s) := by
    unfold callRecognizer
    rw [outcome_bind, outcome_get]
    show _ = if s.equipment.has which then _ else _
    dsimp only
    split <;> rfl
  refine ⟨s.refuses (.recognizer which c), ?_⟩
  rw [hact, outcome_call]
  unfold Stance.tried
  cases s.stance.equipment.has which with
  | false => exact ⟨(Stance.did_nil _).symm, rfl⟩
  | true =>
    refine ⟨stance_called s _, ?_⟩
    cases s.refuses (.recognizer which c) <;> rfl

theorem leads_tryRecognizer (which : Recognizer) (c : RecognizerCall) :
    Leads (callRecognizer which c).succeeds s fun ok st =>
      ∃ failed, ok = (s.stance.equipment.has which && !failed) ∧
        st = s.stance.tried which c failed := by
  obtain ⟨failed, hst, hok⟩ := callRecognizer_cases which c s
  exact ⟨_, _, outcome_succeeds _ s, failed, hok, hst⟩

theorem tried_heeds (st : Stance) (which w : Recognizer) (c : RecognizerCall) (failed : Bool) :
    (st.tried w c failed).heeds which = st.heeds which := by
  cases which <;> rfl

/-- A recognizer that is stopped may tell its end at once. -/
theorem leads_halt {which : Recognizer} (h : s.stance.conduct.Calm ∨ s.stance.heeds which = false)
    (c : RecognizerCall) :
    Leads (halt which c).forgive s fun _ st => ∃ failed, st = s.stance.tried which c failed ∨
      st = (s.stance.tried which c failed).ended which := by
  refine ⟨(), _, outcome_forgive _ s, ?_⟩
  obtain ⟨failed, hst, -⟩ := callRecognizer_cases which c s
  refine ⟨failed, ?_⟩
  unfold halt
  refine keeps_bind_of (P := fun t : Scene δ => t.stance = _ ∨ t.stance = _) (.inl hst)
    fun _ t ht => ?_
  rw [ht] at hst
  have ht' : t.stance.conduct.Calm ∨ t.stance.heeds which = false := by
    rw [hst, tried_heeds]
    exact h
  have hended : Leads (ended which) t fun _ st => st = t.stance.ended which := by
    rcases ht' with hcalm | hheeds
    · exact leads_ended hcalm which
    · exact leads_ended_of_not_heeds hheeds
  rw [outcome_bind, outcome_get]
  dsimp only
  split
  · exact .inr (hended.ends fun _ st h => h.trans (by rw [hst]))
  · exact .inl hst

/-- A recognizer that is not heeded can be stopped without more ado. -/
theorem leads_halt_of_not_heeds (which : Recognizer) (h : s.stance.heeds which = false)
    (c : RecognizerCall) :
    Leads (halt which c).forgive s fun _ st => ∃ failed, st = s.stance.tried which c failed := by
  refine (leads_halt (.inr h) c).mono fun _ st ⟨failed, hst⟩ => ⟨failed, ?_⟩
  rwa [Stance.ended_of_not_heeds _ ((tried_heeds _ _ _ _ _).trans h), or_self] at hst

theorem leads_stop_background (h : s.stance.mode ≠ .background) :
    Leads (stop .background) s fun _ st =>
      ∃ failed, st = s.stance.tried .background .stop failed :=
  leads_halt_of_not_heeds .background (decide_eq_false h) .stop

theorem leads_abort_foreground (h : s.stance.capturing = false) :
    Leads (abort .foreground) s fun _ st =>
      ∃ failed, st = s.stance.tried .foreground .abort failed :=
  leads_halt_of_not_heeds .foreground h .abort

theorem leads_abort_background (calm : s.stance.conduct.Calm) :
    Leads (abort .background) s fun _ st => s.stance.Silenced st :=
  leads_halt (.inl calm) .abort

theorem leads_dropCapture :
    Leads dropCapture s fun _ st => ∃ failed, st = s.stance.dropped failed := by
  refine (leads_modify (P := fun _ st => st = { s.stance with capturing := false }) rfl).bind
    fun _ t ht => ?_
  refine (leads_abort_foreground (by rw [ht])).mono fun _ st ⟨failed, hst⟩ => ⟨failed, ?_⟩
  rw [hst, ht]
  rfl

theorem leads_startBackground (calm : s.stance.conduct.Calm) :
    Leads startBackground s fun _ st =>
      if s.stance.canListen then ∃ failed, st = s.stance.listening failed else st = s.stance := by
  refine leads_get_bind ?_
  unfold Stance.canListen
  show Leads (if s.stance.equipment.background then _ else _) s _
  cases hb : s.stance.equipment.background with
  | false => exact leads_pure rfl
  | true =>
    refine leads_isGranted.bind fun granted t ⟨hg, ht⟩ => leads_get_bind ?_
    rw [hg, show t.session.closed = s.stance.closed by rw [← ht]; rfl, Bool.true_and]
    split
    · refine leads_cancelTimer.bind fun _ u hu => ?_
      have hcalm : u.stance.conduct.Calm := by
        rw [hu, ht]
        exact calm
      refine (leads_setMode hcalm .background).bind fun _ v hv => ?_
      refine (leads_tryRecognizer .background .start).bind fun ok w ⟨failed, hok, hw⟩ => ?_
      have hv' : v.stance = s.stance.cancelled.inMode .background := by
        rw [hv, hu, ht]
      have hup : w.stance =
          (s.stance.cancelled.inMode .background).tried .background .start failed := by
        rw [hw, hv']
      have hhas : v.stance.equipment.has .background = true := by
        rw [hv']
        exact hb
      rw [hok, hhas, Bool.true_and]
      -- A failure to start is dealt with like a failure while listening.
      cases failed with
      | false => exact leads_pure ⟨false, hup⟩
      | true =>
        have hcalm' : w.stance.conduct.Calm := by
          rw [hup]
          exact calm
        refine (leads_backgroundFailed hcalm').mono fun _ st hst => ⟨true, ?_⟩
        rw [hst, hup]
        rfl
    · exact leads_pure ht

theorem calm_handedOver {st : Stance} (calm : st.conduct.Calm) (mode : Mode) (failed : Bool) :
    (st.handedOver mode failed).conduct.Calm := by
  unfold Stance.handedOver
  split <;> exact calm

/-- The foreground recognizer is started once the background recognizer does not listen. -/
theorem leads_beginCapture (calm : s.stance.conduct.Calm) :
    Leads (do
      change fun s => { s with capturing := true }
      unless ← (callRecognizer .foreground .start).succeeds do finishCapture) s fun _ st =>
        ∃ failed, st = s.stance.captured failed := by
  refine (leads_modify (P := fun _ st => st = { s.stance with capturing := true }) rfl).bind
    fun _ t ht => ?_
  refine (leads_tryRecognizer .foreground .start).bind fun ok u ⟨failed, hok, hu⟩ => ?_
  rw [ht] at hok hu
  have hcalm : u.stance.conduct.Calm := by
    rw [hu]
    exact calm
  rw [show ok = (s.stance.equipment.foreground && !failed) from hok]
  split
  · rename_i h
    exact leads_pure ⟨failed, by rw [hu, Stance.captured, if_pos h]⟩
  · rename_i h
    refine (leads_finishCapture (.inl hcalm)).mono fun _ st hst => ⟨failed, ?_⟩
    rw [hst, hu, Stance.captured, if_neg h]

theorem leads_startForeground (calm : s.stance.conduct.Calm) {mode : Mode}
    (hmode : mode ≠ .background) :
    Leads (startForeground mode) s fun _ st =>
      ∃ halted failed, st = (s.stance.cancelled.handedOver mode halted).captured failed := by
  refine leads_cancelTimer.bind fun _ t ht => leads_get_bind ?_
  rw [← ht]
  have hcalm : t.stance.conduct.Calm := by
    rw [ht]
    exact calm
  refine (leads_setMode hcalm mode).bind fun _ u hu => ?_
  have hcalm' : u.stance.conduct.Calm := by
    rw [hu]
    exact hcalm
  dsimp only
  show Leads (if t.stance.mode = .background then _ else _) u _
  split
  · rename_i h
    refine (leads_stop_background (by rw [hu]; exact hmode)).bind fun _ v ⟨halted, hv⟩ => ?_
    have hover : v.stance = t.stance.handedOver mode halted := by
      rw [hv, hu, Stance.handedOver, if_pos h]
    refine (leads_beginCapture (hover ▸ calm_handedOver hcalm mode halted)).mono
      fun _ st ⟨failed, hst⟩ => ⟨halted, failed, ?_⟩
    rw [hst, hover]
  · rename_i h
    have hover : u.stance = t.stance.handedOver mode false := by
      rw [hu, Stance.handedOver, if_neg h]
    refine (leads_beginCapture hcalm').mono fun _ st ⟨failed, hst⟩ => ⟨false, failed, ?_⟩
    rw [hst, hover]

end Scene

end Arcade
