import Arcade.Proofs.Listening.Airtime

/-!
# A session never goes deaf

Once a session with both recognizers has started and is allowed to listen, it goes on listening
until it is closed or refused: the wake phrase is listened for now or will be later, a command is
listened for now or will be after the prompt, or there were too many errors in a row. So the mode,
the flag for a command, the timer and the errors fit together after every occasion.
-/

namespace Arcade

namespace Stance

/-- Whether a session is open and allowed to listen. -/
structure Admitted (st : Stance) : Prop where
  opened : st.closed = false
  granted : st.answer = some .granted

/-- Whether a session that has begun listens, or will listen later. -/
structure Vigilant (begun : Prop) (st : Stance) : Prop extends Admitted st where
  wanted : st.capturing = true → st.mode.wantsCommand = true
  idle : begun → st.mode = .idle → st.pending? = some .resume ∨ st.needsRestart = true
  background : st.mode = .background → st.pending? = none
  foreground : st.mode = .foreground → st.capturing = true ∧ st.pending? = none
  awaiting : st.mode = .awaiting →
    st.pending? = if st.capturing then none else some .capture

namespace Admitted

variable {st : Stance}

/-- What a session listens for when it is idle. -/
theorem of_idle {st' : Stance} (h : Admitted st) (hm : st'.mode = .idle)
    (hc : st'.capturing = false) (hclosed : st'.closed = st.closed) (ha : st'.answer = st.answer)
    (hp : st'.pending? = some .resume ∨ st'.needsRestart = true) : Vigilant True st' where
  opened := hclosed.trans h.opened
  granted := ha.trans h.granted
  wanted hcap := absurd (hc.symm.trans hcap) Bool.noConfusion
  idle _ _ := hp
  background hb := by
    rw [hm] at hb
    cases hb
  foreground hf := by
    rw [hm] at hf
    cases hf
  awaiting ha := by
    rw [hm] at ha
    cases ha

/-- The background recognizer is scheduled. -/
theorem resumed {st' : Stance} (h : Admitted st) (hc : st'.capturing = false)
    (hclosed : st'.closed = st.closed) (ha : st'.answer = st.answer) (delay : Float) :
    Vigilant True ((st'.inMode .idle).scheduled delay .resume) :=
  h.of_idle rfl hc hclosed ha (.inl (pending?_scheduled _ _ _))

theorem later (h : Admitted st) {st' : Stance} (delay : Float) (hm : st'.mode = .idle)
    (hc : st'.capturing = false) (hclosed : st'.closed = st.closed) (ha : st'.answer = st.answer)
    (hbg : st'.equipment.background = true) : Vigilant True (st'.later delay) := by
  unfold Stance.later
  rw [if_pos (by simp [hbg, hclosed, h.opened])]
  exact h.of_idle hm hc hclosed ha (.inl (pending?_scheduled _ _ _))

/-- A session that fails to listen for the wake phrase listens later or gives up. -/
theorem backgroundLost {st' : Stance} (h : Admitted st) (hc : st'.capturing = false)
    (hclosed : st'.closed = st.closed) (ha : st'.answer = st.answer) :
    Vigilant True st'.backgroundLost := by
  unfold Stance.backgroundLost
  dsimp only
  split
  · rename_i hlost
    exact h.of_idle rfl hc hclosed ha (.inr hlost)
  · exact h.of_idle rfl hc hclosed ha (.inl (pending?_scheduled _ _ _))

theorem captureOver {st' : Stance} (h : Admitted st) (hclosed : st'.closed = st.closed)
    (ha : st'.answer = st.answer) (hbg : st'.equipment.background = true) :
    Vigilant True st'.captureOver := by
  have hidle : Admitted { st' with capturing := false, mode := .idle } :=
    ⟨hclosed.trans h.opened, ha.trans h.granted⟩
  exact hidle.later _ rfl rfl rfl rfl hbg

theorem backgroundOver (h : Admitted st) (hc : st.capturing = false) :
    Vigilant True st.backgroundOver := by
  unfold Stance.backgroundOver
  split
  · exact h.resumed hc rfl rfl _
  · rename_i hover
    have hgranted : st.isGranted = true := decide_eq_true h.granted
    rw [hgranted, Bool.true_and, Bool.not_eq_true', Bool.not_eq_false] at hover
    exact h.of_idle rfl hc rfl rfl (.inr hover)

theorem listening (h : Admitted st) (hc : st.capturing = false) (failed : Bool) :
    Vigilant True (st.listening failed) := by
  unfold Stance.listening
  cases failed with
  | true => exact h.backgroundLost hc rfl rfl
  | false =>
    refine ⟨⟨h.opened, h.granted⟩, fun hcap => ?_, fun _ hm => ?_, fun _ => ?_, fun hm => ?_,
      fun hm => ?_⟩
    · exact absurd (hc.symm.trans hcap) Bool.noConfusion
    · cases hm
    · exact pending?_cancelled st
    · cases hm
    · cases hm

theorem captured (h : Admitted st) {mode : Mode} (hmode : mode.wantsCommand = true)
    (hbg : st.equipment.background = true) (halted failed : Bool) :
    Vigilant True ((st.cancelled.handedOver mode halted).captured failed) := by
  have hsame : (st.cancelled.handedOver mode halted).closed = st.closed ∧
      (st.cancelled.handedOver mode halted).answer = st.answer ∧
        (st.cancelled.handedOver mode halted).equipment = st.equipment := by
    unfold Stance.handedOver
    split <;> exact ⟨rfl, rfl, rfl⟩
  have hm : (st.cancelled.handedOver mode halted).mode = mode := handedOver_mode mode halted
  have hp : (st.cancelled.handedOver mode halted).pending? = none := by
    rw [handedOver_pending?, pending?_cancelled]
  obtain ⟨hclosed, ha, he⟩ := hsame
  unfold Stance.captured
  generalize st.cancelled.handedOver mode halted = st' at *
  dsimp only
  split
  · refine ⟨⟨hclosed.trans h.opened, ha.trans h.granted⟩, fun _ => ?_, fun _ hi => ?_, fun hb => ?_,
      fun _ => ⟨rfl, hp⟩, fun _ => hp⟩
    · exact (congrArg Mode.wantsCommand hm).trans hmode
    · have hidle : mode = .idle := hm.symm.trans hi
      rw [hidle] at hmode
      cases hmode
    · have hback : mode = .background := hm.symm.trans hb
      rw [hback] at hmode
      cases hmode
  · refine h.captureOver hclosed ha ?_
    show st'.equipment.background = true
    rw [he]
    exact hbg

end Admitted

namespace Vigilant

variable {begun : Prop} {st : Stance}

theorem mono {begun' : Prop} (h : Vigilant begun st) (hb : begun' → begun) :
    Vigilant begun' st :=
  { h with idle := fun hbegun => h.idle (hb hbegun) }

theorem free (h : Vigilant begun st) (hm : st.mode.wantsCommand = false) :
    st.capturing = false := by
  rw [← Bool.not_eq_true]
  intro hc
  have hw := h.wanted hc
  rw [hm] at hw
  cases hw

/-! ### Controls -/

theorem started (h : Vigilant begun st) (hbg : st.equipment.background = true) {st' : Stance}
    (hs : st.Started st') : Vigilant True st' := by
  have hsame : st.reopened = st := by
    unfold Stance.reopened
    rw [← h.opened]
  unfold Started at hs
  rw [hsame] at hs
  split at hs
  · rename_i hcan
    obtain ⟨failed, rfl⟩ := hs
    exact h.toAdmitted.listening (h.free (by rw [hcan.1]; rfl)) failed
  · rename_i hcan
    rw [hs]
    refine { h with idle := fun _ hm => absurd ⟨hm, ?_⟩ hcan }
    simp [canListen, hbg, isGranted, h.granted, h.opened]

theorem asked (h : Vigilant begun st) (hbg : st.equipment.background = true) {st' : Stance}
    (hs : st.Asked true st') : Vigilant begun st' := by
  have hsame : st.answering .granted = st := by
    unfold answering
    rw [← h.granted]
  unfold Asked at hs
  rw [if_pos rfl, hsame] at hs
  rcases hs with rfl | hs
  · exact h
  · exact (h.started hbg hs).mono fun _ => trivial

theorem toggled (h : Vigilant begun st) (hbg : st.equipment.background = true) {consents : Bool}
    {st' : Stance} (hs : st.Toggled consents st') : Vigilant begun st' := by
  have hgranted : st.isGranted = true := decide_eq_true h.granted
  unfold Toggled at hs
  rw [hgranted, if_neg (by simp)] at hs
  split at hs
  · rwa [hs]
  · split at hs
    · obtain ⟨failed, rfl⟩ := hs
      have hover : Vigilant True (st.dropped failed).captureOver :=
        h.toAdmitted.captureOver rfl rfl hbg
      exact hover.mono fun _ => trivial
    · obtain ⟨halted, failed, rfl⟩ := hs
      exact (h.toAdmitted.captured rfl hbg halted failed).mono fun _ => trivial

theorem restarted (h : Vigilant begun st) {st' : Stance} (hs : st.Restarted st') :
    Vigilant begun st' := by
  unfold Restarted at hs
  split at hs
  · obtain ⟨failed, st₁, hsilenced, rfl⟩ := hs
    obtain ⟨-, -, hcapturing, hclosed, hanswer⟩ := silenced_same hsilenced
    have hbroken : (st.forgiven.cancelled.brokenOff failed).capturing = false ∧
        (st.forgiven.cancelled.brokenOff failed).closed = st.closed ∧
          (st.forgiven.cancelled.brokenOff failed).answer = st.answer := by
      unfold brokenOff
      split
      · exact ⟨rfl, rfl, rfl⟩
      · rename_i hw
        exact ⟨h.free ((Bool.not_eq_true _).mp hw), rfl, rfl⟩
    obtain ⟨hc, hclosed', hanswer'⟩ := hbroken
    have hresumed := h.toAdmitted.resumed (hcapturing.trans hc) (hclosed.trans hclosed')
      (hanswer.trans hanswer') st.pace.manualRestart
    exact hresumed.mono fun _ => trivial
  · rwa [hs]

theorem prompted (h : Vigilant begun st) {st' : Stance} (hs : st.Prompted st') :
    Vigilant begun st' := by
  rcases hs with rfl | ⟨-, -, failed, rfl⟩
  · exact h
  · have hsame : (st.awaiting failed).mode = .awaiting ∧ (st.awaiting failed).capturing = false ∧
        (st.awaiting failed).closed = st.closed ∧ (st.awaiting failed).answer = st.answer := by
      unfold Stance.awaiting
      dsimp only
      split
      · rename_i hm
        exact ⟨rfl, h.free (by rw [hm]; rfl), rfl, rfl⟩
      · split
        · exact ⟨rfl, rfl, rfl, rfl⟩
        · rename_i hc
          exact ⟨rfl, (Bool.not_eq_true _).mp hc, rfl, rfl⟩
    have hp : (st.awaiting failed).pending? = some .capture := pending?_scheduled _ _ _
    obtain ⟨hm, hc, hclosed, ha⟩ := hsame
    refine ⟨⟨hclosed.trans h.opened, ha.trans h.granted⟩, ?_, ?_, ?_, ?_, ?_⟩
    · rw [hc]
      exact fun hcap => absurd hcap Bool.noConfusion
    all_goals rw [hm]
    · exact fun _ hi => absurd hi Mode.noConfusion
    · exact fun hb => absurd hb Mode.noConfusion
    · exact fun hf => absurd hf Mode.noConfusion
    · intro _
      rw [hp, hc]
      rfl

/-! ### Reports -/

theorem heard (h : Vigilant begun st) (hbg : st.equipment.background = true)
    (hintents : ¬st.conduct.RefusesIntents) {which : Recognizer} {st' : Stance}
    (hs : st.Heard which st') : Vigilant begun st' := by
  unfold Heard at hs
  split at hs
  · rename_i hheed
    cases which with
    | background =>
      have hm : st.mode = .background := of_decide_eq_true hheed
      have hforgiven : Vigilant begun st.forgiven :=
        { h with idle := fun _ hi => absurd (hm.symm.trans hi) Mode.noConfusion }
      rcases hs with hs | ⟨failed, ds, hds, rfl | ⟨hrefuses, -⟩⟩
      · exact hforgiven.prompted hs
      · have hc : st.capturing = false := h.free (by rw [hm]; rfl)
        have hover : Vigilant True ((st.forgiven.commanded failed ds).later st.pace.cooldown) :=
          h.toAdmitted.later _ rfl hc rfl rfl hbg
        exact hover.mono fun _ => trivial
      · exact absurd hrefuses hintents
    | foreground =>
      obtain ⟨ds, hds, rfl⟩ := hs
      have hover : Vigilant True st.captureOver := h.toAdmitted.captureOver rfl rfl hbg
      exact { hover.mono fun _ => trivial with }
  · rwa [hs]

theorem failed (h : Vigilant begun st) (hbg : st.equipment.background = true)
    {which : Recognizer} {code : String} (hcode : code ∉ refusalCodes) {st' : Stance}
    (hs : st.Failed which code st') : Vigilant begun st' := by
  unfold Failed at hs
  split at hs
  · rename_i hheed
    cases which with
    | background =>
      rw [show st' = st.backgroundLost from hs]
      have hm : st.mode = .background := of_decide_eq_true hheed
      exact (h.toAdmitted.backgroundLost (h.free (by rw [hm]; rfl)) rfl rfl).mono fun _ => trivial
    | foreground =>
      rw [show st' = st.captureOver from hs]
      exact (h.toAdmitted.captureOver rfl rfl hbg).mono fun _ => trivial
  · rwa [hs]

theorem ended (h : Vigilant begun st) (hbg : st.equipment.background = true)
    (which : Recognizer) : Vigilant begun (st.ended which) := by
  cases which with
  | background =>
    rw [ended_background]
    split
    · rename_i hm
      exact (h.toAdmitted.backgroundOver (h.free (by rw [hm]; rfl))).mono fun _ => trivial
    · exact h
  | foreground =>
    rw [ended_foreground]
    split
    · exact (h.toAdmitted.captureOver rfl rfl hbg).mono fun _ => trivial
    · exact h

/-! ### Timers -/

/-- The background recognizer comes back when the time has come. -/
theorem resumes (h : Vigilant begun st) (hp : st.pending? = some .resume)
    (hbg : st.equipment.background = true) {t : Timer Task} {time : Float} {st' : Stance}
    (hs : (st.expiring t time).Performed .resume st') : Vigilant begun st' := by
  have hm : st.mode = .idle := by
    cases hmode : st.mode with
    | idle => rfl
    | background =>
      rw [h.background hmode] at hp
      cases hp
    | foreground =>
      rw [(h.foreground hmode).2] at hp
      cases hp
    | awaiting =>
      rw [h.awaiting hmode] at hp
      split at hp <;> cases hp
  have hc : st.capturing = false := h.free (by rw [hm]; rfl)
  have hadmitted : Admitted (st.expiring t time) := ⟨h.opened, h.granted⟩
  dsimp only [Performed] at hs
  split at hs
  · obtain ⟨failed, rfl⟩ := hs
    exact (hadmitted.listening hc failed).mono fun _ => trivial
  · rename_i hno
    rw [hs]
    have hlost : (st.expiring t time).needsRestart = true := by
      simpa [expiring, hm, h.opened, canListen, hbg, isGranted, h.granted, needsRestart] using hno
    have hidle : Vigilant True (st.expiring t time) :=
      hadmitted.of_idle hm hc rfl rfl (.inr hlost)
    exact hidle.mono fun _ => trivial

/-- The command is listened for when the time has come. -/
theorem captures (h : Vigilant begun st) (hp : st.pending? = some .capture)
    (hbg : st.equipment.background = true) {t : Timer Task}
    (hg : t.task.generation? = some st.slot.generation) {time : Float} {st' : Stance}
    (hs : (st.expiring t time).Performed .capture st') : Vigilant begun st' := by
  have hadmitted : Admitted (st.expiring t time) := ⟨h.opened, h.granted⟩
  have hnone : (st.expiring t time).pending? = none := pending?_expiring hg time
  dsimp only [Performed] at hs
  split at hs
  · obtain ⟨halted, failed, rfl⟩ := hs
    exact (hadmitted.captured rfl hbg halted failed).mono fun _ => trivial
  · rename_i hno
    rw [hs]
    refine ⟨hadmitted, h.wanted, ?_, fun _ => hnone, fun hm => ⟨(h.foreground hm).1, hnone⟩, ?_⟩
    · intro hbegun hm
      rcases h.idle hbegun hm with hresume | hlost
      · rw [hp] at hresume
        cases hresume
      · exact .inr hlost
    · intro hm
      exact absurd (by simp [hm, hadmitted.opened]) hno

theorem expired (h : Vigilant begun st) (ht : st.Timely) (hbg : st.equipment.background = true)
    {id : Nat} {time : Float} {st' : Stance} (hs : st.Expired id time st') :
    Vigilant begun st' := by
  rcases hs.cases with rfl | ⟨t, hmem, ⟨task, htask, hs⟩ | ⟨hother, rfl⟩⟩
  · exact h
  · have hp := ht.pending?_eq_some hmem htask
    cases task with
    | resume => exact h.resumes hp hbg hs
    | capture =>
      have hg : t.task.generation? = some st.slot.generation := by
        rw [htask]
        rfl
      exact h.captures hp hbg hg hs
  · -- a timer of another generation is none of the session's business
    have hp := ht.pending?_expiring_of_ne hmem hother time
    refine ⟨⟨h.opened, h.granted⟩, h.wanted, ?_, ?_, ?_, ?_⟩ <;> rw [hp]
    · exact h.idle
    · exact h.background
    · exact h.foreground
    · exact h.awaiting

/-! ### Occasions -/

/-- Every occasion keeps a session vigilant, unless it is closed or refused. -/
theorem step (h : Vigilant begun st) (ht : st.Timely) (hbg : st.equipment.background = true)
    (hintents : ¬st.conduct.RefusesIntents) {o : Occasion} (ho : o.NoRefusal) (hopen : o ≠ .close)
    {st' : Stance} (hs : st.Step true o st') : Vigilant begun st' := by
  cases o with
  | start => exact (h.started hbg hs).mono fun _ => trivial
  | toggle => exact h.toggled hbg hs
  | restart => exact h.restarted hs
  | awaitCommand => exact h.prompted hs
  | requestPermission => exact h.asked hbg hs
  | close => exact absurd rfl hopen
  | report which session report =>
    cases report with
    | heard heard => exact h.heard hbg hintents hs
    | failed code => exact h.failed hbg ho hs
    | ended =>
      rw [show st' = st.ended which from hs]
      exact h.ended hbg which
  | timer id time => exact h.expired ht hbg hs
  | clock time =>
    rw [show st' = _ from hs]
    exact { h with }

end Vigilant

end Stance

namespace Scene

open Act

variable {δ : Type} {s t : Scene δ}

/-- Whether a session was just opened with all that it needs to listen: it has a background
recognizer and is allowed to listen, the player would allow it again, and the host fails neither at
news of the session nor at intents. -/
structure Equipped (s : Scene δ) : Prop where
  fresh : s.Fresh
  background : s.stance.equipment.background = true
  granted : s.stance.isGranted = true
  prompt : s.stance.equipment.prompt ≠ some false
  prompts : ∀ n, s.stance.conduct.fails n .askPermission = false
  calm : s.stance.conduct.Calm
  intents : ¬s.stance.conduct.RefusesIntents

theorem Equipped.consents (h : s.Equipped) (ht : Continues s t) : t.consents = true := by
  have hprompt : t.equipment.prompt ≠ some false := by
    show t.stance.equipment.prompt ≠ some false
    rw [ht.2.1]
    exact h.prompt
  have hasks : t.refuses .askPermission = false := by
    show t.stance.conduct.fails _ .askPermission = false
    rw [ht.2.2.1]
    exact h.prompts _
  unfold Scene.consents
  cases hp : t.equipment.prompt with
  | none => rfl
  | some granted =>
    cases granted with
    | true => simp [hasks]
    | false => exact absurd hp hprompt

/-- What is kept while an equipped session is neither closed nor refused. -/
structure Awake (begun : Prop) (s t : Scene δ) : Prop where
  continues : Continues s t
  timely : t.stance.Timely
  vigilant : t.stance.Vigilant begun

theorem Awake.after {begun : Prop} (h : s.Equipped) (ht : Awake begun s t) {o : Occasion}
    (ho : o.NoRefusal) (hopen : o ≠ .close) : Awake begun s (t.after o) := by
  refine ⟨(tended_continues s).after ht.continues o, tended_timely.after ht.timely o, ?_⟩
  have hstep := step_after (ht.continues.2.2.1 ▸ h.calm) o
  rw [h.consents ht.continues] at hstep
  refine ht.vigilant.step ht.timely ?_ ?_ ho hopen hstep
  · rw [ht.continues.2.1]
    exact h.background
  · rw [ht.continues.2.2.1]
    exact h.intents

theorem Awake.run {begun : Prop} (h : s.Equipped) (ht : Awake begun s t) {os : List Occasion}
    (hos : ∀ o ∈ os, o.NoRefusal) (hopen : .close ∉ os) : Awake begun s (t.run os) := by
  induction os generalizing t with
  | nil => exact ht
  | cons o os ih =>
    obtain ⟨ho, hos⟩ := List.forall_mem_cons.mp hos
    refine ih (ht.after h ho fun hc => hopen (hc ▸ List.mem_cons_self)) hos fun hc => ?_
    exact hopen (List.mem_cons_of_mem o hc)

theorem Equipped.awake (h : s.Equipped) : Awake False s s := by
  refine ⟨.refl s, h.fresh.timely, ?_⟩
  have hgranted := of_decide_eq_true h.granted
  obtain ⟨pace, permission, room, hwaiting, hst⟩ := h.fresh.exists_stance
  rw [hst] at hgranted ⊢
  refine ⟨⟨rfl, hgranted⟩, ?_, False.elim, ?_, ?_, ?_⟩ <;> intro h <;> cases h

/-- Where the answer can be kept, a player who consents lets the session start. -/
theorem started_after_requestPermission (calm : s.stance.conduct.Calm) (hk : s.KeepsTexts)
    (hconsents : s.consents = true) :
    (s.stance.answering .granted).Started (s.after .requestPermission).stance := by
  obtain ⟨asked, t, hask, hx, ht⟩ := leads_askPlayer (s := s)
  have hkt : t.KeepsTexts := by
    have := tended_keepsTexts.keeps_askPlayer s hk
    rwa [hask] at this
  suffices hends : Ends requestPermission s fun st => (s.stance.answering .granted).Started st from
    hends.discard
  refine ends_bind_of_ok hask ?_
  rw [hx, hconsents, if_pos rfl]
  refine (leads_giveAnswer hkt .granted).ends_bind fun _ u hu => ?_
  rw [ht] at hu
  have hcalm : u.stance.conduct.Calm := by
    rw [hu]
    exact calm
  refine (leads_refreshStatus hcalm).ends_bind fun _ v hv => ?_
  refine ((leads_start (hv ▸ hcalm)).discard (Q := fun _ st => v.stance.Started st)
    fun _ _ h => h).ends_bind fun _ w hw => ?_
  rw [hv, hu] at hw
  exact hw

/-- An awake session begins to listen when it is started. -/
theorem Awake.begins (h : s.Equipped) {begun : Prop} (ht : Awake begun s t) {o : Occasion}
    (ho : o = .start ∨ o = .requestPermission ∧ t.KeepsTexts) : Awake True s (t.after o) := by
  refine ⟨(tended_continues s).after ht.continues o, tended_timely.after ht.timely o, ?_⟩
  have hcalm : t.stance.conduct.Calm := ht.continues.2.2.1 ▸ h.calm
  have hbg : t.stance.equipment.background = true := by
    rw [ht.continues.2.1]
    exact h.background
  rcases ho with rfl | ⟨rfl, hk⟩
  · exact ht.vigilant.started hbg (step_after hcalm .start)
  · have hstarted := started_after_requestPermission hcalm hk (h.consents ht.continues)
    rw [show t.stance.answering .granted = t.stance by
      unfold Stance.answering
      rw [← ht.vigilant.granted]] at hstarted
    exact ht.vigilant.started hbg hstarted

theorem Equipped.awake_run (h : s.Equipped) {os : List Occasion} (hos : ∀ o ∈ os, o.NoRefusal)
    (hopen : .close ∉ os) (hbegun : .start ∈ os ∨ .requestPermission ∈ os ∧ s.KeepsTexts) :
    Awake True s (s.run os) := by
  obtain ⟨o, hmem, ho⟩ : ∃ o ∈ os, o = .start ∨ o = .requestPermission ∧ s.KeepsTexts := by
    rcases hbegun with hmem | ⟨hmem, hk⟩
    · exact ⟨_, hmem, .inl rfl⟩
    · exact ⟨_, hmem, .inr ⟨rfl, hk⟩⟩
  obtain ⟨before, later, rfl⟩ := List.append_of_mem hmem
  have hbefore := h.awake.run h (fun o ho => hos o (List.mem_append_left _ ho))
    fun hc => hopen (List.mem_append_left _ hc)
  have hfirst := hbefore.begins h
    (ho.imp_right fun ⟨ho, hk⟩ => ⟨ho, tended_keepsTexts.run hk before⟩)
  rw [run_append, run_cons]
  exact hfirst.run h
    (fun o ho => hos o (List.mem_append_right _ (List.mem_cons_of_mem _ ho)))
    fun hc => hopen (List.mem_append_right _ (List.mem_cons_of_mem _ hc))

/-- An equipped session that has been started, but neither closed nor refused, is not deaf: when it
is idle, it will listen for the wake phrase later or had too many errors in a row; and in its other
modes it listens for just what the mode tells, or will do so after the prompt. -/
theorem listens_on (h : s.Equipped) {os : List Occasion} (hos : ∀ o ∈ os, o.NoRefusal)
    (hopen : .close ∉ os) (hbegun : .start ∈ os ∨ .requestPermission ∈ os ∧ s.KeepsTexts) :
    ((s.run os).session.mode = .idle →
      (s.run os).stance.pending? = some .resume ∨
        (s.run os).session.pace.maxErrors ≤ (s.run os).session.errors) ∧
    ((s.run os).session.mode = .background →
      (s.run os).session.slot.isPending = false ∧ (s.run os).session.capturing = false) ∧
    ((s.run os).session.mode = .foreground →
      (s.run os).session.capturing = true ∧ (s.run os).session.slot.isPending = false) ∧
    ((s.run os).session.mode = .awaiting →
      ((s.run os).stance.pending? = some .capture ∧ (s.run os).session.capturing = false) ∨
        ((s.run os).session.slot.isPending = false ∧ (s.run os).session.capturing = true)) := by
  obtain ⟨-, htimely, hvigilant⟩ := h.awake_run hos hopen hbegun
  generalize s.run os = t at *
  have hnone : t.stance.pending? = none → t.session.slot.isPending = false := by
    intro hp
    have hsome := htimely.pending?_isSome
    rw [hp] at hsome
    exact hsome.symm
  refine ⟨?_, ?_, ?_, ?_⟩
  · intro hm
    exact (hvigilant.idle trivial hm).imp_right of_decide_eq_true
  · intro hm
    have hw : t.stance.mode.wantsCommand = false := by
      rw [show t.stance.mode = .background from hm]
      rfl
    exact ⟨hnone (hvigilant.background hm), hvigilant.free hw⟩
  · intro hm
    exact ⟨(hvigilant.foreground hm).1, hnone (hvigilant.foreground hm).2⟩
  · intro hm
    have hp := hvigilant.awaiting hm
    cases hc : t.session.capturing with
    | false =>
      rw [show t.stance.capturing = false from hc] at hp
      exact .inl ⟨hp, rfl⟩
    | true =>
      rw [show t.stance.capturing = true from hc] at hp
      exact .inr ⟨hnone hp, rfl⟩

theorem equipped_welcomed : welcomed.Equipped where
  fresh := fresh_welcomed
  background := rfl
  granted := rfl
  prompt := (Option.some_ne_none false).symm
  prompts _ := rfl
  calm := calm_welcomed
  intents h := by
    obtain ⟨n, i, hfails⟩ := h
    cases hfails

/-- After the microphone button was pressed, a command is listened for and nothing is pending. -/
theorem listens_toggled : (welcomed.run [.start, .toggle]).session.mode = .foreground ∧
    (welcomed.run [.start, .toggle]).session.capturing = true ∧
    (welcomed.run [.start, .toggle]).session.slot.isPending = false := by
  have hos : ∀ o ∈ [Occasion.start, .toggle], o.NoRefusal := by simp [Occasion.NoRefusal]
  have hopen : Occasion.close ∉ [Occasion.start, .toggle] := by simp
  exact ⟨rfl, (listens_on equipped_welcomed hos hopen (.inl List.mem_cons_self)).2.2.1 rfl⟩

end Scene

end Arcade
