import Arcade.Proofs.Listening.SingleRecognizer

/-!
# Late reports

A report is late if it is about a session that is not the latest of its recognizer any more, or that
was told to stop. The listening session does not know which session a report is about: it heeds
every report of a recognizer that it listens to. So late reports are only passed over while their
recognizer is off the air; when it listens in a later session, they are taken for reports of that
one.

A stance is attuned if every recognizer that is heeded is on the air. A refusal that the foreground
recognizer reports is the one thing that ends this.
-/

namespace Arcade

namespace Stance

variable (past : List Happening) (n : Nat) (st : Stance)

/-- Whether every recognizer that is heeded is on the air. -/
structure Attuned : Prop where
  long : n ≤ st.deeds.length
  on : ∀ which, st.heeds which = true → st.On past n which

variable {past n st}

theorem on_tried_of_ne (hn : n ≤ st.deeds.length) {which w : Recognizer} (hw : w ≠ which)
    (c : RecognizerCall) (failed : Bool) :
    (st.tried w c failed).On past n which ↔ st.On past n which := by
  cases c with
  | start =>
    rw [on_started hn]
    simp [hw]
  | stop | abort =>
    rw [on_halted hn RecognizerCall.noConfusion]
    simp [hw]

namespace Attuned

/-- Changes that let no other recognizer be heeded. -/
theorem congr {st' : Stance} (h : Attuned past n st) (hd : st'.deeds = st.deeds)
    (hheeds : ∀ which, st'.heeds which = true → st.heeds which = true) : Attuned past n st' where
  long := by
    rw [hd]
    exact h.long
  on which hw := (on_congr hd which).mpr (h.on which (hheeds which hw))

theorem scheduled (h : Attuned past n st) (delay : Float) (task : ListeningTask) :
    Attuned past n (st.scheduled delay task) :=
  h.congr rfl fun which hw => by cases which <;> exact hw

theorem cancelled (h : Attuned past n st) : Attuned past n st.cancelled :=
  h.congr rfl fun which hw => by cases which <;> exact hw

/-- A recognizer is called while it is not heeded. -/
theorem tried (h : Attuned past n st) (w : Recognizer) (hw : st.heeds w = false)
    (c : RecognizerCall) (failed : Bool) : Attuned past n (st.tried w c failed) where
  long := Nat.le_trans h.long (by simp [Stance.tried, did])
  on which hheed := by
    have hne : w ≠ which := by
      rintro rfl
      rw [show (st.tried w c failed).heeds w = st.heeds w by cases w <;> rfl, hw] at hheed
      cases hheed
    rw [on_tried_of_ne h.long hne]
    exact h.on which (by rwa [show (st.tried w c failed).heeds which = st.heeds which by
      cases which <;> rfl] at hheed)

theorem intents (h : Attuned past n st) {ds : List Deed} (hds : ∀ d ∈ ds, d.IsIntent) :
    Attuned past n (st.did ds) where
  long := Nat.le_trans h.long (by simp [did])
  on which hheed := (on_intents h.long hds).mpr (h.on which (by cases which <;> exact hheed))

/-- Nothing is heeded by an idle session that listens for no command. -/
theorem of_idle {st' : Stance} (h : Attuned past n st) (hd : st'.deeds = st.deeds)
    (hm : st'.mode = .idle) (hc : st'.capturing = true → st.capturing = true) :
    Attuned past n st' := by
  refine h.congr hd fun which hw => ?_
  cases which with
  | background => simp [hm] at hw
  | foreground => exact hc hw

theorem later (h : Attuned past n st) (delay : Float) : Attuned past n (st.later delay) := by
  unfold Stance.later
  split
  · exact h.scheduled _ _
  · exact h

theorem captureOver (h : Attuned past n st) : Attuned past n st.captureOver := by
  have hidle : Attuned past n { st with capturing := false, mode := .idle } :=
    h.of_idle rfl rfl fun hc => by cases hc
  exact hidle.later _

theorem backgroundLost (h : Attuned past n st) : Attuned past n st.backgroundLost := by
  unfold Stance.backgroundLost
  dsimp only
  split <;> exact h.of_idle rfl rfl id

theorem backgroundOver (h : Attuned past n st) : Attuned past n st.backgroundOver := by
  unfold Stance.backgroundOver
  split <;> exact h.of_idle rfl rfl id

theorem inMode (h : Attuned past n st) (mode : Mode) (hmode : mode ≠ .background) :
    Attuned past n (st.inMode mode) := by
  refine h.congr rfl fun which hw => ?_
  cases which with
  | background => exact absurd (heeds_background.mp hw) hmode
  | foreground => exact hw

theorem free (h : Attuned past n st) : Attuned past n { st with capturing := false } := by
  refine h.congr rfl fun which hw => ?_
  cases which with
  | background => exact hw
  | foreground => cases hw

theorem dropped (h : Attuned past n st) (failed : Bool) : Attuned past n (st.dropped failed) :=
  h.free.tried .foreground rfl .abort failed

theorem handedOver (h : Attuned past n st) {mode : Mode} (hmode : mode ≠ .background)
    (failed : Bool) : Attuned past n (st.handedOver mode failed) := by
  have hin := h.inMode mode hmode
  unfold Stance.handedOver
  split
  · exact hin.tried .background (decide_eq_false hmode) .stop failed
  · exact hin

/-- The background recognizer is silenced by a session that goes idle. -/
theorem silenced (h : Attuned past n st) {st' : Stance} (hs : st.Silenced st') :
    Attuned past n (st'.inMode .idle) := by
  have hidle := h.inMode .idle Mode.noConfusion
  have hc := (silenced_same hs).2.2.1
  obtain ⟨failed, hs⟩ := hs
  have hd : st'.deeds = (st.tried .background .abort failed).deeds := by
    rcases hs with rfl | rfl
    · rfl
    · exact (ended_background_same _).1
  refine (hidle.tried .background rfl .abort failed).of_idle hd rfl fun hcap => ?_
  exact hc ▸ hcap

/-! ## Starts -/

theorem listening (h : Attuned past n st) (hbg : st.equipment.background = true)
    (failed : Bool) : Attuned past n (st.listening failed) := by
  unfold Stance.listening
  cases failed with
  | false =>
    have hlong : n ≤ (st.cancelled.inMode .background).deeds.length := h.long
    refine ⟨Nat.le_trans hlong (by simp [Stance.tried, did]), fun which hw => ?_⟩
    cases which with
    | background => exact (on_started h.long).mpr (.inl ⟨rfl, rfl, hbg⟩)
    | foreground =>
      exact (on_tried_of_ne h.long Recognizer.noConfusion _ _).mpr (h.on .foreground hw)
  | true =>
    have hidle := h.cancelled.inMode .idle Mode.noConfusion
    have hrefused := hidle.tried .background rfl .start true
    show Attuned past n (Stance.backgroundLost _)
    unfold Stance.backgroundLost
    dsimp only
    split <;> exact hrefused.of_idle rfl rfl id

theorem captured (h : Attuned past n st) (hm : st.mode ≠ .background) (failed : Bool) :
    Attuned past n (st.captured failed) := by
  unfold Stance.captured
  dsimp only
  split
  · rename_i hok
    refine ⟨Nat.le_trans h.long (by simp [Stance.tried, did]), fun which hw => ?_⟩
    cases which with
    | background => exact absurd (heeds_background.mp hw) hm
    | foreground =>
      have hlong : n ≤ { st with capturing := true }.deeds.length := h.long
      refine (on_started hlong).mpr (.inl ⟨rfl, ?_⟩)
      simpa [Equipment.has, and_comm] using hok
  · have hrefused := h.free.tried .foreground rfl .start failed
    have hidle : Attuned past n { { st with capturing := true }.tried .foreground .start failed with
        capturing := false, mode := .idle } := hrefused.of_idle rfl rfl fun hc => by cases hc
    exact hidle.later _

/-! ## Occasions -/

theorem started (h : Attuned past n st) {st' : Stance} (hs : st.Started st') :
    Attuned past n st' := by
  have hopen : Attuned past n st.reopened := h.congr rfl fun which hw => by
    cases which <;> exact hw
  unfold Started at hs
  split at hs
  · rename_i hcan
    obtain ⟨failed, rfl⟩ := hs
    have hbg := hcan.2
    unfold canListen at hbg
    exact hopen.listening (by simp_all) failed
  · rwa [hs]

theorem answering (h : Attuned past n st) (a : Answer) : Attuned past n (st.answering a) :=
  h.congr rfl fun which hw => by cases which <;> exact hw

theorem asked (h : Attuned past n st) {consents : Bool} {st' : Stance}
    (hs : st.Asked consents st') : Attuned past n st' := by
  unfold Asked at hs
  split at hs
  · rcases hs with rfl | hs
    · exact h.answering _
    · exact (h.answering _).started hs
  · rw [hs]
    exact h.answering _

theorem toggled (h : Attuned past n st) {consents : Bool} {st' : Stance}
    (hs : st.Toggled consents st') : Attuned past n st' := by
  unfold Toggled at hs
  split at hs
  · exact h.asked hs
  · split at hs
    · rwa [hs]
    · split at hs
      · obtain ⟨failed, rfl⟩ := hs
        exact (h.dropped failed).captureOver
      · obtain ⟨halted, failed, rfl⟩ := hs
        refine (h.cancelled.handedOver Mode.noConfusion halted).captured ?_ failed
        rw [handedOver_mode]
        exact Mode.noConfusion

theorem restarted (h : Attuned past n st) {st' : Stance} (hs : st.Restarted st') :
    Attuned past n st' := by
  unfold Restarted at hs
  split at hs
  · obtain ⟨failed, st₁, hsilenced, rfl⟩ := hs
    have hforgiven : Attuned past n st.forgiven.cancelled := h.congr rfl fun which hw => by
      cases which <;> exact hw
    have hbroken : Attuned past n (st.forgiven.cancelled.brokenOff failed) := by
      unfold brokenOff
      split
      · exact hforgiven.dropped failed
      · exact hforgiven
    exact (hbroken.silenced hsilenced).of_idle rfl rfl id
  · rwa [hs]

theorem prompted (h : Attuned past n st) {st' : Stance} (hs : st.Prompted st') :
    Attuned past n st' := by
  rcases hs with rfl | ⟨-, -, failed, rfl⟩
  · exact h
  · unfold Stance.awaiting
    have hin := h.inMode .awaiting Mode.noConfusion
    refine Attuned.scheduled ?_ _ _
    split
    · exact hin.tried .background rfl .stop failed
    · split
      · exact hin.dropped failed
      · exact hin

theorem shut (h : Attuned past n st) {st' : Stance} (hs : st.Shut st') : Attuned past n st' := by
  obtain ⟨failed, st₁, hsilenced, rfl⟩ := hs
  have hidle := h.cancelled.free.silenced hsilenced
  have hfree : (st₁.inMode .idle).heeds .foreground = false := (silenced_same hsilenced).2.2.1
  exact (hidle.tried .foreground hfree .abort failed).of_idle rfl rfl id

/-- The tale of an attuned stance can serve as the past of what follows. -/
theorem tale (h : Attuned past n st) : Attuned (st.tale past n) st.deeds.length st :=
  ⟨Nat.le_refl _, fun which hw => (on_tale which).mpr (h.on which hw)⟩

/-! ### Reports -/

/-- A report that takes no heeded recognizer off the air. -/
theorem told (h : Attuned past st.deeds.length st) (w : Recognizer) (session : Nat)
    (report : Report) (hw : st.heeds w = true → ¬report.IsLast w) :
    Attuned (past ++ [.told w session report]) st.deeds.length st := by
  refine ⟨Nat.le_refl _, fun which hheed => ?_⟩
  have hon := h.on which hheed
  unfold On at hon ⊢
  rw [tale_length] at hon ⊢
  refine onAir_told.mpr ⟨hon, ?_⟩
  rintro ⟨rfl, hlast⟩
  exact hw hheed hlast

/-- The background recognizer reports something and is not heeded any more. -/
theorem told_background (h : Attuned past st.deeds.length st) (session : Nat) (report : Report) :
    Attuned (past ++ [.told .background session report]) st.deeds.length (st.inMode .idle) := by
  have hidle : Attuned past (st.inMode .idle).deeds.length (st.inMode .idle) :=
    h.inMode .idle Mode.noConfusion
  exact hidle.told .background session report fun hw => absurd hw Bool.noConfusion

/-- The foreground recognizer reports something and is not heeded any more. -/
theorem told_foreground (h : Attuned past st.deeds.length st) (session : Nat) (report : Report) :
    Attuned (past ++ [.told .foreground session report]) st.deeds.length
      { st with capturing := false } := by
  have hfree : Attuned past { st with capturing := false }.deeds.length
      { st with capturing := false } := h.free
  exact hfree.told .foreground session report fun hw => absurd hw Bool.noConfusion

theorem heard (h : Attuned past st.deeds.length st) {which : Recognizer} (session : Nat)
    (heard : Arcade.Heard) {st' : Stance} (hs : st.Heard which st') :
    Attuned (past ++ [.told which session (.heard heard)]) st.deeds.length st' := by
  unfold Heard at hs
  split at hs
  · cases which with
    | background =>
      have htold := h.told .background session (.heard heard)
        fun _ => Recognizer.noConfusion
      have hforgiven : Attuned _ st.deeds.length st.forgiven := htold.congr rfl fun which hw => by
        cases which <;> exact hw
      rcases hs with hs | ⟨failed, ds, hds, hs⟩
      · exact hforgiven.prompted hs
      · have hover : Attuned _ st.deeds.length (st.forgiven.commanded failed ds) :=
          ((hforgiven.inMode .idle Mode.noConfusion).tried .background rfl .stop
            failed).intents hds
        rcases hs with rfl | ⟨-, rfl⟩
        · exact hover.later _
        · exact hover
    | foreground =>
      obtain ⟨ds, hds, rfl⟩ := hs
      have hover : Attuned _ st.deeds.length st.captureOver :=
        (h.told_foreground session (.heard heard)).captureOver
      exact hover.intents hds
  · rename_i hheed
    rw [hs]
    exact h.told which session _ fun hw => absurd hw hheed

theorem failed (h : Attuned past st.deeds.length st) {which : Recognizer} (session : Nat)
    {code : String} (hcode : code ∉ refusalCodes) {st' : Stance} (hs : st.Failed which code st') :
    Attuned (past ++ [.told which session (.failed code)]) st.deeds.length st' := by
  unfold Failed at hs
  split at hs
  · cases which with
    | background =>
      rw [show st' = st.backgroundLost from hs]
      exact (h.told_background session (.failed code)).backgroundLost
    | foreground =>
      rw [show st' = st.captureOver from hs]
      exact (h.told_foreground session (.failed code)).captureOver
  · rename_i hheed
    rw [hs]
    exact h.told which session _ fun hw => absurd hw hheed

theorem ended (h : Attuned past st.deeds.length st) (which : Recognizer) (session : Nat) :
    Attuned (past ++ [.told which session .ended]) st.deeds.length (st.ended which) := by
  unfold Stance.ended
  split
  · cases which with
    | background => exact (h.told_background session .ended).backgroundOver
    | foreground => exact (h.told_foreground session .ended).captureOver
  · rename_i hheed
    exact h.told which session _ fun hw => absurd hw hheed

/-! ### Timers -/

theorem performed (h : Attuned past n st) {task : ListeningTask} {st' : Stance}
    (hs : st.Performed task st') : Attuned past n st' := by
  cases task with
  | resume =>
    dsimp only [Performed] at hs
    split at hs
    · rename_i hcan
      obtain ⟨failed, rfl⟩ := hs
      unfold canListen at hcan
      exact h.listening (by simp_all) failed
    · rwa [hs]
  | capture =>
    dsimp only [Performed] at hs
    split at hs
    · obtain ⟨halted, failed, rfl⟩ := hs
      refine (h.cancelled.handedOver Mode.noConfusion halted).captured ?_ failed
      rw [handedOver_mode]
      exact Mode.noConfusion
    · rwa [hs]

theorem expired (h : Attuned past n st) {id : Nat} {time : Float} {st' : Stance}
    (hs : st.Expired id time st') : Attuned past n st' := by
  have hexp : ∀ t, Attuned past n (st.expiring t time) := fun t =>
    h.congr rfl fun which hw => by cases which <;> exact hw
  rcases hs.cases with rfl | ⟨t, -, ⟨task, -, hs⟩ | ⟨-, rfl⟩⟩
  · exact h
  · exact (hexp t).performed hs
  · exact hexp t

/-! ### Occasions -/

/-- Every occasion keeps a session attuned, unless a refusal is reported. -/
theorem step (h : Attuned past st.deeds.length st) {consents : Bool} {o : Occasion} {st' : Stance}
    (hs : st.Step consents o st') (ho : o.NoRefusal) :
    Attuned (past ++ o.told) st.deeds.length st' := by
  have hpast : Attuned (past ++ []) st.deeds.length st := by rwa [List.append_nil]
  cases o with
  | start => exact hpast.started hs
  | toggle => exact hpast.toggled hs
  | restart => exact hpast.restarted hs
  | awaitCommand => exact hpast.prompted hs
  | requestPermission => exact hpast.asked hs
  | close => exact hpast.shut hs
  | report which session report =>
    cases report with
    | heard heard => exact h.heard session heard hs
    | failed code => exact h.failed session ho hs
    | ended =>
      rw [show st' = st.ended which from hs]
      exact h.ended which session
  | timer id time => exact hpast.expired hs
  | clock time =>
    rw [show st' = _ from hs]
    exact hpast.congr rfl fun which hw => by cases which <;> exact hw

end Attuned

end Stance

namespace Scene

open Act

variable {δ : Type} {s : Scene δ}

/-- Whether a session of a recognizer is not its latest any more or was told to stop. -/
def Superseded (which : Recognizer) (session : Nat) (hs : List Happening) : Prop :=
  1 ≤ session ∧ (session < (airtime which hs).sessions ∨
    session = (airtime which hs).sessions ∧ (airtime which hs).fate = .dropped)

theorem Fresh.attuned (h : s.Fresh) : s.stance.Attuned [] s.stance.deeds.length := by
  obtain ⟨pace, permission, room, -, hst⟩ := h.exists_stance
  refine ⟨Nat.le_refl _, fun which hw => ?_⟩
  rw [hst] at hw
  cases which <;> cases hw

/-- A session that is attuned and poised is not stranded. -/
theorem not_reprieves {past : List Happening}
    (hpoised : s.stance.Poised past s.stance.deeds.length)
    (hattuned : s.stance.Attuned past s.stance.deeds.length) (o : Occasion) : ¬s.Reprieves o := by
  rintro ⟨⟨hc, hm⟩, -⟩
  rcases hpoised.wanted hc with hw | ⟨-, -, hoff⟩
  · rw [hm] at hw
    cases hw
  · exact hoff (hattuned.on .foreground hc)

/-- Without refusals, the recognizers that are heeded are those that are on the air. -/
theorem heeds_iff_onAir (h : s.Fresh) (calm : s.stance.conduct.Calm) {os : List Occasion}
    (hos : s.Throughout (fun _ o => o.NoRefusal) os) (which : Recognizer) :
    (s.run os).stance.heeds which = true ↔ OnAir which (s.happenings os) := by
  have hrun := run_keeps (P := fun s past => s.stance.Poised past s.stance.deeds.length ∧
    s.stance.Attuned past s.stance.deeds.length ∧ s.stance.Timely ∧ s.stance.conduct.Calm) ?_
    [] ⟨h.poised, h.attuned, h.timely, calm⟩ hos
  · obtain ⟨hpoised, hattuned, -, -⟩ := hrun
    have hon : (s.run os).stance.On (s.happenings os) (s.run os).stance.deeds.length which ↔
        OnAir which (s.happenings os) := by
      unfold Stance.On
      rw [Stance.tale_length]
    rw [← hon]
    refine ⟨hattuned.on which, fun hw => ?_⟩
    cases which with
    | background => exact Stance.heeds_background.mpr (hpoised.listens hw)
    | foreground => exact hpoised.captures hw
  · rintro s past o ⟨hpoised, hattuned, htimely, hcalm⟩ ho
    refine ⟨poised_after hpoised htimely hcalm (not_reprieves hpoised hattuned o), ?_,
      tended_timely.after htimely o, calm_after hcalm o⟩
    rw [append_news]
    exact (hattuned.step (step_after hcalm o) ho).tale

/-- The end of a recognizer that is heeded changes what the session listens for. -/
theorem outcome_ended_ne {which : Recognizer} (calm : s.stance.conduct.Calm)
    (h : s.stance.heeds which = true) : ((take which .ended).outcome s).2 ≠ s := by
  intro heq
  obtain ⟨_, t, ht, hst⟩ := leads_ended calm which
  have hsame : s.stance.ended which = s.stance := by
    rw [← hst]
    exact congrArg stance ((congrArg Prod.snd ht).symm.trans heq)
  cases which with
  | background =>
    have hm := Stance.heeds_background.mp h
    rw [Stance.ended_background, if_pos hm] at hsame
    have hidle := Stance.backgroundOver_mode s.stance
    rw [hsame, hm] at hidle
    cases hidle
  | foreground =>
    have hc := Stance.heeds_foreground.mp h
    rw [Stance.ended_foreground, if_pos hc] at hsame
    have hover := Stance.captureOver_capturing s.stance
    rw [hsame, hc] at hover
    cases hover

/-- On a calm host and without refusals, late reports change nothing exactly if their recognizer is
not on the air in a later session. -/
theorem superseded_report (h : s.Fresh) (calm : s.stance.conduct.Calm) {os : List Occasion}
    (hos : ∀ o ∈ os, o.NoRefusal) {which : Recognizer} {session : Nat}
    (hsup : Superseded which session (s.happenings os)) :
    (∀ report, (Occasion.act (.report which session report)).outcome (s.run os) =
        (.ok (), s.run os)) ↔
      ¬(session < (airtime which (s.happenings os)).sessions ∧ OnAir which (s.happenings os)) := by
  have hos' : s.Throughout (fun _ o => o.NoRefusal) os :=
    throughout_of_forall (fun o ho _ => hos o ho) s
  have hheeds := heeds_iff_onAir h calm hos' which
  constructor
  · rintro hall ⟨-, hon⟩
    have hcalm : (s.run os).stance.conduct.Calm := by
      rw [((tended_continues s).run (.refl s) os).2.2.1]
      exact calm
    exact outcome_ended_ne hcalm (hheeds.mpr hon) (congrArg Prod.snd (hall .ended))
  · intro hlater report
    apply outcome_take_of_not_heeds
    rw [← Bool.not_eq_true, hheeds]
    intro hon
    rcases hsup.2 with hlt | ⟨-, hdropped⟩
    · exact hlater ⟨hlt, hon⟩
    · unfold OnAir at hon
      rw [hdropped] at hon
      cases hon

/-- A dropped session is not heeded any more, until its recognizer is started again. -/
theorem late_reports_of_welcomed :
    (∀ report, (Occasion.act (.report .foreground 1 report)).outcome
        (welcomed.run [.toggle, .toggle]) = (.ok (), welcomed.run [.toggle, .toggle])) ∧
    ¬∀ report, (Occasion.act (.report .foreground 1 report)).outcome
        (welcomed.run [.toggle, .toggle, .toggle]) =
          (.ok (), welcomed.run [.toggle, .toggle, .toggle]) := by
  have hdropped : Superseded .foreground 1 (welcomed.happenings [.toggle, .toggle]) :=
    ⟨Nat.le_refl _, .inr ⟨rfl, rfl⟩⟩
  have holder : Superseded .foreground 1 (welcomed.happenings [.toggle, .toggle, .toggle]) :=
    ⟨Nat.le_refl _, .inl (Nat.le_refl 2)⟩
  constructor
  · refine (superseded_report fresh_welcomed calm_welcomed (by simp [Occasion.NoRefusal])
      hdropped).mpr fun hon => ?_
    exact absurd hon.2 Fate.noConfusion
  · intro hall
    exact (superseded_report fresh_welcomed calm_welcomed (by simp [Occasion.NoRefusal])
      holder).mp hall ⟨Nat.le_refl 2, rfl⟩

end Scene

end Arcade
