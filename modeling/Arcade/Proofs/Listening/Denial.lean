import Arcade.Proofs.Listening.SingleRecognizer

/-!
# Denials

A session that was refused does nothing any more until the player lets it listen again, but only if
the refusal finds it at rest. Asking for permission while a session listens, or has something
pending, does not stop it. When the foreground recognizer reports the refusal, the session goes idle
without noticing that no command is listened for any more, so that a late report wakes it up. The
background recognizer's refusal is final.

Nothing is assumed here of the host: its calls may fail, and recognizers may tell their end at once.
-/

namespace Arcade

/-- Whether a deed only tells a recognizer to stop. -/
def Deed.IsHalt : Deed → Prop
  | .recognizer _ .stop _ | .recognizer _ .abort _ => True
  | .recognizer _ .start _ | .intent .. => False

/-- Recognizers that are told to stop stay off the air. -/
theorem off_halts {which : Recognizer} {hs : List Happening} (h : ¬OnAir which hs)
    {ds : List Deed} (hds : ∀ d ∈ ds, d.IsHalt) : ¬OnAir which (hs ++ ds.map .did) := by
  induction ds generalizing hs with
  | nil => rwa [List.map_nil, List.append_nil]
  | cons d ds ih =>
    obtain ⟨hd, hds⟩ := List.forall_mem_cons.mp hds
    rw [List.map_cons, List.append_cons]
    refine ih ?_ hds
    cases d with
    | intent => exact hd.elim
    | recognizer w c failed =>
      have hc : c ≠ .start := by
        rintro rfl
        exact hd
      rw [onAir_halted hc]
      exact fun hon => h hon.1

/-- What a session is told puts no recognizer on the air. -/
theorem off_told {which : Recognizer} {hs : List Happening} (h : ¬OnAir which hs) (o : Occasion) :
    ¬OnAir which (hs ++ o.told) := by
  unfold Occasion.told
  split
  · rw [onAir_told]
    exact fun hon => h hon.1
  · rwa [List.append_nil]

namespace Stance

/-- Whether a session was refused and waits for nothing. -/
structure Hushed (st : Stance) : Prop where
  denied : st.answer = some .denied
  idle : st.mode = .idle
  nothing : st.slot.timer = none
  free : st.capturing = false

theorem Hushed.isGranted {st : Stance} (h : st.Hushed) : st.isGranted = false := by
  unfold Stance.isGranted
  rw [h.denied]
  rfl

theorem Hushed.not_heeds {st : Stance} (h : st.Hushed) (which : Recognizer) :
    st.heeds which = false := by
  cases which with
  | background =>
    refine decide_eq_false ?_
    rw [h.idle]
    exact Mode.noConfusion
  | foreground => exact h.free

/-- Whether a session is hushed and has done nothing since but tell recognizers to stop. -/
def Rests (st st' : Stance) : Prop :=
  st'.Hushed ∧ ∃ ds, (∀ d ∈ ds, d.IsHalt) ∧ st'.deeds = st.deeds ++ ds

theorem Hushed.rests {st st' : Stance} (h : st'.Hushed) (hd : st'.deeds = st.deeds) :
    st.Rests st' :=
  ⟨h, [], fun _ hmem => (List.not_mem_nil hmem).elim, by rw [hd, List.append_nil]⟩

theorem Rests.congr {st st' st'' : Stance} (h : st.Rests st') (hd : st''.deeds = st'.deeds)
    (ha : st''.answer = st'.answer) (hm : st''.mode = st'.mode) (hs : st''.slot = st'.slot)
    (hc : st''.capturing = st'.capturing) : st.Rests st'' := by
  obtain ⟨hhushed, ds, hds, hdeeds⟩ := h
  refine ⟨⟨ha.trans hhushed.denied, hm.trans hhushed.idle, ?_, hc.trans hhushed.free⟩, ds, hds,
    hd.trans hdeeds⟩
  rw [hs]
  exact hhushed.nothing

theorem Rests.halted {st st' : Stance} (h : st.Rests st') (which : Recognizer)
    {c : RecognizerCall} (hc : c ≠ .start) (failed : Bool) :
    st.Rests (st'.tried which c failed) := by
  obtain ⟨hhushed, ds, hds, hdeeds⟩ := h
  refine ⟨⟨hhushed.denied, hhushed.idle, hhushed.nothing, hhushed.free⟩, ?_⟩
  refine ⟨ds ++ if st'.equipment.has which then [.recognizer which c failed] else [], ?_, ?_⟩
  · intro d hd
    rcases List.mem_append.mp hd with hd | hd
    · exact hds d hd
    · split at hd
      · rw [List.mem_singleton.mp hd]
        cases c with
        | start => exact hc rfl
        | stop | abort => trivial
      · exact (List.not_mem_nil hd).elim
  · unfold tried did
    dsimp only
    rw [hdeeds, List.append_assoc]

end Stance

namespace Scene

open Act

variable {δ α : Type} {s : Scene δ}

/-! ## Without permission -/

theorem Quiet.ends {a : Act (Scene δ) α} (h : Quiet a) (s : Scene δ) :
    Ends a s fun st => st = s.stance := h.stance_eq s

theorem quiet_refreshStatus_bind (x : α) :
    Quiet (refreshStatus >>= fun _ => pure x : Act (Scene δ) α) := fun st =>
  (quiet_refreshStatus st).bind fun _ => keeps_pure x

/-- A session that may not listen is opened by a start, no more. -/
theorem ends_start_refused (hg : s.stance.isGranted = false) :
    Ends start s fun st => st = s.stance.reopened := by
  refine (leads_modify (P := fun _ st => st = s.stance.reopened) rfl).ends_bind
    fun _ t ht => ends_get_bind ?_
  rw [← ht]
  split
  · exact (quiet_refreshStatus_bind false).ends t
  · refine leads_isGranted.ends_bind fun granted u ⟨hgranted, hu⟩ => ?_
    rw [show granted = false by rw [hgranted, ht]; exact hg, ← hu]
    exact (quiet_refreshStatus_bind false).ends u

/-- A refusal is remembered. -/
theorem ends_requestPermission_refused (hc : s.consents = false) :
    Ends requestPermission s fun st => st = s.stance.answering .denied := by
  refine leads_askPlayer.ends_bind fun granted t ⟨hg, ht⟩ => ?_
  rw [hg, hc, if_neg Bool.noConfusion, ← ht]
  refine ends_giveAnswer_bind rfl fun u hu => ?_
  rw [← hu]
  exact (quiet_refreshStatus_bind false).ends u

theorem ends_toggle_refused (hg : s.stance.isGranted = false) (hc : s.consents = false) :
    Ends toggle s fun st => st = s.stance.answering .denied := by
  refine ends_isGranted_bind ?_
  rw [hg, ← stance_lookedUp s]
  exact (ends_requestPermission_refused (s := s.lookedUp) hc).discard

/-- What becomes of a session that asks the player in vain. -/
theorem stance_denied {o : Occasion} (hasks : s.stance.asks o = true)
    (hc : s.consents = false) : (s.after o).stance = s.stance.answering .denied := by
  cases o with
  | requestPermission => exact (ends_requestPermission_refused hc).discard
  | toggle => exact ends_toggle_refused (by simpa [Stance.asks] using hasks) hc
  | _ => cases hasks

theorem ends_restart_refused (hg : s.stance.isGranted = false) :
    Ends restart s fun st => st = s.stance := by
  refine ends_isGranted_bind ?_
  rw [hg, ← stance_lookedUp s]
  exact rfl

theorem ends_awaitCommand_refused (hg : s.stance.isGranted = false) :
    Ends (awaitCommand Wiring.toHost) s fun st => st = s.stance := by
  refine ends_get_bind ?_
  have hquiet : Quiet (inRoom (Wiring.toHost.respond s.session.pace.prompt) :
      Act (Scene δ) Unit) := quiet_inRoom (undisturbed_respond _)
  refine keeps_bind_of (P := fun t : Scene δ => t.stance = s.stance) (hquiet.stance_eq s)
    fun _ t ht => ?_
  have hst : t.stance = s.stance := by
    rw [← hquiet.stance_eq s, ht]
  rw [← hst] at hg ⊢
  refine ends_get_bind (Q := fun st => st = t.stance) ?_
  split
  · refine ends_isGranted_bind ?_
    rw [hg, ← stance_lookedUp t]
    exact rfl
  · exact rfl

/-- Closing a hushed session tells its recognizers to stop. -/
theorem ends_close_hushed (h : s.stance.Hushed) : Ends close s s.stance.Rests := by
  refine leads_cancelTimer.ends_bind fun _ t ht => ?_
  have hcancelled : s.stance.Rests t.stance := by
    rw [ht]
    exact Stance.Hushed.rests ⟨h.denied, h.idle, rfl, h.free⟩ rfl
  refine (leads_modify (P := fun _ st => s.stance.Rests st) ?_).ends_bind fun _ u hu => ?_
  · exact hcancelled.congr rfl rfl rfl rfl hcancelled.1.free.symm
  refine (leads_halt_of_not_heeds .background (hu.1.not_heeds .background) .abort).ends_bind
    fun _ v ⟨_, hv⟩ => ?_
  have hbackground : s.stance.Rests v.stance := hv ▸ hu.halted _ RecognizerCall.noConfusion _
  refine (leads_abort_foreground hbackground.1.free).ends_bind fun _ w ⟨_, hw⟩ => ?_
  have hforeground : s.stance.Rests w.stance :=
    hw ▸ hbackground.halted _ RecognizerCall.noConfusion _
  refine leads_stopSpeaking.ends_bind fun _ x hx => ?_
  rw [← hx] at hforeground
  refine (leads_setMode_of_eq hforeground.1.idle).ends_bind fun _ y hy => ?_
  have hmode : s.stance.Rests y.stance := by
    rw [hy]
    exact hforeground.congr rfl rfl hforeground.1.idle.symm rfl rfl
  exact hmode.congr rfl rfl rfl rfl rfl

/-- A timer that goes off is none of a hushed session's. -/
theorem rests_expire (h : s.stance.Hushed) (ht : s.stance.Timely) (id : Nat) (time : Float) :
    s.stance.Rests (s.after (.timer id time)).stance := by
  obtain ⟨queue, hexpire⟩ := outcome_expire_of_nothing ht h.nothing id time
  show Ends (expire id time) s s.stance.Rests
  unfold Ends
  rw [hexpire]
  exact Stance.Hushed.rests ⟨h.denied, h.idle, h.nothing, h.free⟩ rfl

/-- A hushed session stays so until it is allowed to listen. -/
theorem rests_after (h : s.stance.Hushed) (ht : s.stance.Timely) {o : Occasion}
    (ho : ¬s.Grants o) : s.stance.Rests (s.after o).stance := by
  have hg := h.isGranted
  -- An occasion on which the player is asked grants nothing only if the player refuses.
  have hdenied : s.stance.asks o = true → s.stance.Rests (s.after o).stance := by
    intro hasks
    have hrefuses : s.consents = false := by
      rw [← Bool.not_eq_true]
      exact fun hc => ho ⟨hasks, hc⟩
    rw [stance_denied hasks hrefuses]
    exact Stance.Hushed.rests ⟨rfl, h.idle, h.nothing, h.free⟩ rfl
  cases o with
  | start =>
    have hst : (s.after .start).stance = s.stance.reopened := (ends_start_refused hg).discard
    rw [hst]
    exact Stance.Hushed.rests ⟨h.denied, h.idle, h.nothing, h.free⟩ rfl
  | toggle =>
    apply hdenied
    unfold Stance.asks
    rw [hg]
    rfl
  | restart =>
    have hst : (s.after .restart).stance = s.stance := (ends_restart_refused hg).discard
    rw [hst]
    exact h.rests rfl
  | awaitCommand =>
    have hst : (s.after .awaitCommand).stance = s.stance := ends_awaitCommand_refused hg
    rw [hst]
    exact h.rests rfl
  | requestPermission => exact hdenied rfl
  | close => exact ends_close_hushed h
  | report which session what =>
    have hsame : s.after (.report which session what) = s :=
      congrArg Prod.snd (outcome_take_of_not_heeds (h.not_heeds which) what)
    rw [hsame]
    exact h.rests rfl
  | timer id time => exact rests_expire h ht id time
  | clock time => exact Stance.Hushed.rests ⟨h.denied, h.idle, h.nothing, h.free⟩ rfl

/-! ## What follows a denial -/

/-- A hushed session with nothing on the air stays so until it is allowed to listen. -/
theorem hushed_run (h : s.stance.Hushed) (ht : s.stance.Timely) {hs : List Happening}
    (hoff : ∀ which, ¬OnAir which hs) {later : List Occasion}
    (hl : s.Throughout (fun t o => ¬t.Grants o) later) :
    (s.run later).stance.Hushed ∧ (∀ which, ¬OnAir which (hs ++ s.happenings later)) ∧
      ∀ d, .did d ∈ s.happenings later → d.IsHalt := by
  have hrun := run_keeps (P := fun t past => t.stance.Hushed ∧ t.stance.Timely ∧
    (∀ which, ¬OnAir which (hs ++ past)) ∧ ∀ d, .did d ∈ past → d.IsHalt) ?_
    [] ⟨h, ht, by rwa [List.append_nil], fun d hd => (List.not_mem_nil hd).elim⟩ hl
  · exact ⟨hrun.1, hrun.2.2⟩
  · rintro t past o ⟨hhushed, htimely, hoff, hhalts⟩ ho
    obtain ⟨hhushed', ds, hds, hdeeds⟩ := rests_after hhushed htimely ho
    refine ⟨hhushed', tended_timely.after htimely o, ?_, ?_⟩
    · intro which
      rw [news_eq hdeeds, ← List.append_assoc, ← List.append_assoc]
      exact off_halts (off_told (hoff which) o) hds
    · intro d hd
      rw [news_eq hdeeds] at hd
      rcases List.mem_append.mp hd with hd | hd
      · exact hhalts d hd
      · rcases List.mem_append.mp hd with hd | hd
        · unfold Occasion.told at hd
          split at hd
          · cases List.mem_singleton.mp hd
          · exact (List.not_mem_nil hd).elim
        · obtain ⟨d', hd', heq⟩ := List.mem_map.mp hd
          cases heq
          exact hds d hd'

/-- Whether a session stays idle until it may listen again, with nothing pending and nothing on the
air, starts no recognizer and hands no intent on, whatever happens. -/
def Final (s : Scene δ) (hs : List Happening) : Prop :=
  ∀ later, s.Throughout (fun t o => ¬t.Grants o) later →
    (s.run later).session.mode = .idle ∧ (s.run later).session.slot.isPending = false ∧
      (∀ which, ¬OnAir which (hs ++ s.happenings later)) ∧
        ∀ d, .did d ∈ s.happenings later → d.IsHalt

/-- Listening for a command ends also on a host that is not calm, if the session is idle. -/
theorem ends_foregroundEnded (hc : s.stance.capturing = true) (hm : s.stance.mode = .idle) :
    Ends (ended .foreground) s fun st => st = s.stance.captureOver := by
  refine ends_get_bind ?_
  show Ends (if s.stance.capturing then _ else _) s _
  rw [if_pos hc]
  exact (leads_finishCapture (.inr hm)).ends fun _ _ hst => hst

theorem ends_foregroundHeard (hc : s.stance.capturing = true) (hm : s.stance.mode = .idle)
    (hi : s.stance.equipment.onIntent = true) (heard : Arcade.Heard) :
    Ends (heardInForeground Wiring.toHost heard) s fun st =>
      ∃ ds, ds ≠ [] ∧ (∀ d ∈ ds, d.IsIntent) ∧ st.deeds = s.stance.deeds ++ ds := by
  refine ends_get_bind ?_
  show Ends (if s.stance.capturing then _ else _) s _
  rw [if_pos hc]
  refine (leads_finishCapture (.inr hm)).ends_bind fun _ t ht => ?_
  obtain ⟨ds, hds, hne, hst, -⟩ := handOn_cases heard t
  have hover : s.stance.captureOver.equipment = s.stance.equipment ∧
      s.stance.captureOver.deeds = s.stance.deeds := by
    unfold Stance.captureOver Stance.later
    split <;> exact ⟨rfl, rfl⟩
  rw [ht] at hne hst
  refine ⟨ds, hne (by rw [hover.1, hi]), hds, ?_⟩
  rw [hst, ← hover.2]
  rfl

/-- A session that was refused while a command was listened for wakes up on the next report. -/
theorem not_final_of_capturing (hg : s.stance.isGranted = false)
    (heq : s.stance.equipment.background = true ∨ s.stance.equipment.onIntent = true)
    (hc : s.stance.capturing = true) (hm : s.stance.mode = .idle) (hs : List Happening) :
    ¬s.Final hs := by
  intro hfinal
  rcases heq with hb | hi
  · -- Opened once more, the session listens in the background after the end.
    have hstart : (s.after .start).stance = s.stance.reopened :=
      (ends_start_refused hg).discard
    have hended : ((s.after .start).after (.report .foreground 0 .ended)).stance =
        (s.after .start).stance.captureOver :=
      ends_foregroundEnded (by rw [hstart]; exact hc) (by rw [hstart]; exact hm)
    have hpending := (hfinal [.start, .report .foreground 0 .ended]
      ⟨not_grants rfl, not_grants rfl, trivial⟩).2.1
    change (Stance.slot (stance _)).isPending = false at hpending
    rw [run_cons, run_cons, run_nil, hended, hstart] at hpending
    unfold Stance.captureOver Stance.later at hpending
    rw [if_pos] at hpending
    · cases hpending
    · exact Bool.and_eq_true_iff.mpr ⟨hb, rfl⟩
  · obtain ⟨ds, hne, hds, hdeeds⟩ : ∃ ds : List Deed, ds ≠ [] ∧ (∀ d ∈ ds, d.IsIntent) ∧
        (s.after (.report .foreground 0 (.heard (.words "")))).stance.deeds =
          s.stance.deeds ++ ds := ends_foregroundHeard hc hm hi (.words "")
    obtain ⟨d, hd⟩ := List.exists_mem_of_ne_nil ds hne
    have hhalt := (hfinal [.report .foreground 0 (.heard (.words ""))]
      ⟨not_grants rfl, trivial⟩).2.2.2 d ?_
    · have hintent := hds d hd
      cases d with
      | intent => exact hhalt
      | recognizer => exact hintent
    · rw [happenings, news_eq hdeeds]
      simp [hd]

/-- A denial is final exactly if the session is at rest afterwards. -/
theorem final_iff (hden : s.stance.answer = some .denied) (ht : s.stance.Timely)
    (heq : s.stance.equipment.background = true ∨ s.stance.equipment.onIntent = true)
    (hs : List Happening) : s.Final hs ↔ s.stance.mode = .idle ∧
      s.stance.slot.isPending = false ∧ s.stance.capturing = false ∧
        ∀ which, ¬OnAir which hs := by
  constructor
  · intro hfinal
    obtain ⟨hm, hp, hoff, -⟩ := hfinal [] trivial
    refine ⟨hm, hp, ?_, fun which => ?_⟩
    · rw [← Bool.not_eq_true]
      intro hc
      have hg : s.stance.isGranted = false := by
        unfold Stance.isGranted
        rw [hden]
        rfl
      exact not_final_of_capturing hg heq hc hm hs hfinal
    · have := hoff which
      rwa [happenings, List.append_nil] at this
  · rintro ⟨hm, hp, hc, hoff⟩ later hl
    have hnothing : s.stance.slot.timer = none := Option.not_isSome_iff_eq_none.mp (by
      rw [Bool.not_eq_true]
      exact hp)
    obtain ⟨hhushed, hoff', hhalts⟩ := hushed_run ⟨hden, hm, hnothing, hc⟩ ht hoff hl
    refine ⟨hhushed.idle, ?_, hoff', hhalts⟩
    show (s.run later).stance.slot.timer.isSome = false
    rw [hhushed.nothing]
    rfl

/-! ## Denials -/

/-- Whether the player denies the session the microphone on an occasion. -/
def Denies (s : Scene δ) : Occasion → Prop
  | .report which _ (.failed code) => s.stance.heeds which = true ∧ code ∈ refusalCodes
  | o => s.stance.asks o = true ∧ s.consents = false

/-- Where answers can be kept, the refusal of a recognizer ends in one way, also if the host fails
when it is told. -/
theorem ends_permissionRevoked_of_keepsTexts (hk : s.KeepsTexts) :
    Ends permissionRevoked s fun st =>
      st = (s.stance.cancelled.answering .denied).inMode .idle := by
  have hk' : (cancelTimer.outcome s).2.KeepsTexts := tended_keepsTexts.cancelTimer hk
  refine ends_bind_of_ok (t := (cancelTimer.outcome s).2) rfl ?_
  refine (leads_giveAnswer hk' .denied).ends_bind fun _ t ht => ?_
  have hmode : ((setMode .idle).outcome t).2.stance =
      (s.stance.cancelled.answering .denied).inMode .idle := by
    rw [stance_setMode, ht]
    rfl
  refine keeps_bind_of (P := fun u : Scene δ => u.stance = _) hmode fun _ u hu => ?_
  rw [quiet_refreshStatus.stance_eq, ← hmode, hu]

/-- What becomes of a session whose recognizer reports that the player denies it the microphone. -/
theorem stance_refused (hk : s.KeepsTexts) {which : Recognizer} {code : String}
    (hheed : s.stance.heeds which = true) (hcode : code ∈ refusalCodes) (session : Nat) :
    (s.after (.report which session (.failed code))).stance =
      (s.stance.cancelled.answering .denied).inMode .idle := by
  suffices hends : Ends (failed which code) s fun st =>
      st = (s.stance.cancelled.answering .denied).inMode .idle from hends
  refine ends_get_bind ?_
  cases which with
  | background =>
    show Ends (if s.stance.mode = .background then _ else _) s _
    rw [if_pos (Stance.heeds_background.mp hheed), if_pos hcode]
    exact ends_permissionRevoked_of_keepsTexts hk
  | foreground =>
    show Ends (if s.stance.capturing then _ else _) s _
    rw [if_pos (Stance.heeds_foreground.mp hheed), if_pos hcode]
    exact ends_permissionRevoked_of_keepsTexts hk

/-- Whether a denial finds the session at rest. -/
def AtRestFor (s : Scene δ) (hs : List Happening) : Occasion → Prop
  | .report which .. => s.stance.capturing = false ∧ ∀ w, w ≠ which → ¬OnAir w hs
  | _ => s.stance.mode = .idle ∧ s.stance.slot.isPending = false ∧ s.stance.capturing = false ∧
      ∀ which, ¬OnAir which hs

/-- A denial that the session has asked for is final exactly if the session is at rest. -/
theorem final_denied_iff (ht : s.stance.Timely)
    (heq : s.stance.equipment.background = true ∨ s.stance.equipment.onIntent = true)
    {o : Occasion} (hasks : s.stance.asks o = true) (hc : s.consents = false)
    (hs : List Happening) : (s.after o).Final (hs ++ s.news o) ↔ s.stance.mode = .idle ∧
      s.stance.slot.isPending = false ∧ s.stance.capturing = false ∧
        ∀ which, ¬OnAir which hs := by
  have hst := stance_denied hasks hc
  have hdeeds : (s.after o).stance.deeds = s.stance.deeds ++ [] := by
    rw [hst, List.append_nil]
    rfl
  have hnews : s.news o = [] := by
    rw [news_eq hdeeds]
    cases o with
    | requestPermission | toggle => rfl
    | _ => cases hasks
  have hfinal := final_iff (s := s.after o) (by rw [hst]; rfl) (tended_timely.after ht o)
    (by rw [hst]; exact heq) (hs ++ s.news o)
  rw [hfinal, hst, hnews, List.append_nil]
  rfl

/-- The refusal of a recognizer is final exactly if no command is listened for. -/
theorem final_refused_iff (hk : s.KeepsTexts) (ht : s.stance.Timely)
    (heq : s.stance.equipment.background = true ∨ s.stance.equipment.onIntent = true)
    {which : Recognizer} {code : String} (hheed : s.stance.heeds which = true)
    (hcode : code ∈ refusalCodes) (session : Nat) (hs : List Happening) :
    (s.after (.report which session (.failed code))).Final
        (hs ++ s.news (.report which session (.failed code))) ↔
      s.stance.capturing = false ∧ ∀ w, w ≠ which → ¬OnAir w hs := by
  have hst := stance_refused hk hheed hcode session
  have hdeeds : (s.after (.report which session (.failed code))).stance.deeds =
      s.stance.deeds ++ [] := by
    rw [hst, List.append_nil]
    rfl
  have hnews : s.news (.report which session (.failed code)) =
      [.told which session (.failed code)] := news_eq hdeeds
  have hfinal := final_iff (s := s.after (.report which session (.failed code)))
    (by rw [hst]; rfl) (tended_timely.after ht _) (by rw [hst]; exact heq)
    (hs ++ s.news (.report which session (.failed code)))
  rw [hfinal, hst, hnews]
  have hoff : (∀ w, ¬OnAir w (hs ++ [.told which session (.failed code)])) ↔
      ∀ w, w ≠ which → ¬OnAir w hs := by
    refine forall_congr' fun w => ?_
    rw [onAir_told]
    simp only [Report.IsLast, and_true]
    grind
  rw [hoff]
  constructor
  · exact fun h => h.2.2
  · exact fun h => ⟨rfl, rfl, h⟩

/-- A session that listens for a command does not notice that it was refused. -/
theorem not_final_of_foreground (hk : s.KeepsTexts) (ht : s.stance.Timely)
    (heq : s.stance.equipment.background = true ∨ s.stance.equipment.onIntent = true)
    {session : Nat} {code : String} (hd : s.Denies (.report .foreground session (.failed code)))
    (hs : List Happening) : ¬(s.after (.report .foreground session (.failed code))).Final
      (hs ++ s.news (.report .foreground session (.failed code))) := by
  rw [final_refused_iff hk ht heq hd.1 hd.2]
  intro hrest
  have hc := Stance.heeds_foreground.mp hd.1
  rw [hrest.1] at hc
  cases hc

/-- The refusal of the background recognizer is final on a calm host, as long as the permission was
not given back to a stranded session. -/
theorem final_of_background (h : s.Fresh) (calm : s.stance.conduct.Calm) (hk : s.KeepsTexts)
    (heq : s.stance.equipment.background = true ∨ s.stance.equipment.onIntent = true)
    {os : List Occasion} (hos : s.Throughout (fun s o => ¬s.Reprieves o) os) {session : Nat}
    {code : String} (hd : (s.run os).Denies (.report .background session (.failed code))) :
    ((s.run os).after (.report .background session (.failed code))).Final
      (s.happenings (os ++ [.report .background session (.failed code)])) := by
  have hpoised := h.poised_run calm hos
  have hequipment : (s.run os).stance.equipment = s.stance.equipment :=
    ((tended_continues s).run (.refl s) os).2.1
  rw [happenings_concat, final_refused_iff (tended_keepsTexts.run hk os)
    (tended_timely.run h.timely os) (by rwa [hequipment]) hd.1 hd.2]
  have hfree := hpoised.free_of_background (Stance.heeds_background.mp hd.1)
  refine ⟨hfree, fun w hw => ?_⟩
  cases w with
  | background => exact (hw rfl).elim
  | foreground =>
    have hoff := hpoised.off_foreground hfree
    unfold Stance.On at hoff
    rwa [Stance.tale_length] at hoff

/-- A denial is final exactly if it finds the session at rest, in every run in which answers can be
kept. -/
theorem denial_final_iff (h : s.Fresh) (hk : s.KeepsTexts)
    (heq : s.stance.equipment.background = true ∨ s.stance.equipment.onIntent = true)
    {os : List Occasion} {o : Occasion} (hd : (s.run os).Denies o) :
    ((s.run os).after o).Final (s.happenings (os ++ [o])) ↔
      (s.run os).AtRestFor (s.happenings os) o := by
  have hkeeps : (s.run os).KeepsTexts := tended_keepsTexts.run hk os
  have htimely : (s.run os).stance.Timely := tended_timely.run h.timely os
  have hequipment : (s.run os).stance.equipment = s.stance.equipment :=
    ((tended_continues s).run (.refl s) os).2.1
  rw [← hequipment] at heq
  rw [happenings_concat]
  generalize s.run os = t at *
  cases o with
  | report which session what =>
    cases what with
    | failed code => exact final_refused_iff hkeeps htimely heq hd.1 hd.2 session _
    | heard => cases hd.1
    | ended => cases hd.1
  | requestPermission | toggle => exact final_denied_iff htimely heq hd.1 hd.2 _
  | _ => cases hd.1

/-- Denied while it listens in the background, a session stays at rest, but not if it is denied
while it listens for a command. -/
theorem denial_of_welcomed :
    (welcomed.run [.start]).Denies (.report .background 1 (.failed "not-allowed")) ∧
    ((welcomed.run [.start]).after (.report .background 1 (.failed "not-allowed"))).Final
      (welcomed.happenings [.start, .report .background 1 (.failed "not-allowed")]) ∧
    (welcomed.run [.start, .toggle]).Denies (.report .foreground 1 (.failed "not-allowed")) ∧
    ¬((welcomed.run [.start, .toggle]).after (.report .foreground 1 (.failed "not-allowed"))).Final
      (welcomed.happenings [.start, .toggle, .report .foreground 1 (.failed "not-allowed")]) := by
  have hcode : "not-allowed" ∈ refusalCodes := List.mem_cons_self
  have hk : welcomed.KeepsTexts := ⟨⟨_, rfl⟩, fun e he => (List.not_mem_nil he).elim⟩
  have hb : (welcomed.run [.start]).Denies (.report .background 1 (.failed "not-allowed")) :=
    ⟨rfl, hcode⟩
  have hf : (welcomed.run [.start, .toggle]).Denies
      (.report .foreground 1 (.failed "not-allowed")) := ⟨rfl, hcode⟩
  refine ⟨hb, (denial_final_iff fresh_welcomed hk (.inl rfl) hb).mpr ⟨rfl, fun w hw => ?_⟩, hf,
    fun hfinal => ?_⟩
  · cases w with
    | background => exact (hw rfl).elim
    | foreground => exact Fate.noConfusion
  · have hrest := (denial_final_iff fresh_welcomed hk (.inl rfl) hf).mp hfinal
    exact absurd hrest.1 Bool.noConfusion

end Scene

end Arcade
