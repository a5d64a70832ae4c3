import Arcade.Proofs.Listening.Airtime

/-!
# One recognizer at a time

Only one recognizer is on the air at any time, as long as the permission is not given back to a
session that is stranded: the foreground recognizer has told it that the player refuses, and it went
idle without noticing that it does not listen for a command any more. A late report of the
foreground recognizer then makes it go idle under the background recognizer, which is on the air.

A stance is poised if the mode and the flag for a command follow what is on the air.
-/

namespace Arcade

namespace Stance

variable (past : List Happening) (n : Nat) (st : Stance)

/-- Whether a session went idle without noticing that no command is listened for any more. -/
def Stranded : Prop := st.capturing = true ∧ st.mode = .idle

/-- Whether recognizers were alone on the air up to a stance. -/
structure Tidy : Prop where
  long : n ≤ st.deeds.length
  alone : Alone (st.tale past n)
  equipped : ∀ which, st.On past n which → st.equipment.has which = true

/-- Whether nothing is on the air and no command is listened for. -/
structure Still : Prop extends Tidy past n st where
  off : ∀ which, ¬st.On past n which
  free : st.capturing = false

/-- Whether what a session listens for follows what is on the air. -/
structure Poised : Prop extends Tidy past n st where
  listens : st.On past n .background → st.mode = .background
  captures : st.On past n .foreground → st.capturing = true
  wanted : st.capturing = true → st.mode.wantsCommand = true ∨
    st.mode = .idle ∧ st.isGranted = false ∧ ¬st.On past n .foreground
  due : st.pending? = some .capture → st.capturing = false

variable {past n st}

/-! ## What keeps recognizers alone -/

theorem Tidy.congr {st' : Stance} (h : Tidy past n st) (hd : st'.deeds = st.deeds)
    (he : st'.equipment = st.equipment) : Tidy past n st' := by
  refine ⟨?_, ?_, ?_⟩
  · rw [hd]
    exact h.long
  · unfold tale
    rw [hd]
    exact h.alone
  · intro which hon
    rw [he]
    exact h.equipped which ((on_congr hd which).mp hon)

/-- A recognizer that is started while the other is off the air stays alone. -/
theorem Tidy.started (h : Tidy past n st) {w : Recognizer} (hoff : ¬st.On past n w.other)
    (failed : Bool) : Tidy past n (st.tried w .start failed) := by
  refine ⟨?_, ?_, ?_⟩
  · exact Nat.le_trans h.long (by simp [tried, did])
  · have hboth : ¬((st.tried w .start failed).On past n .background ∧
        (st.tried w .start failed).On past n .foreground) := by
      have := h.alone.never_both _ List.prefix_rfl
      rw [on_started h.long, on_started h.long]
      cases w <;> grind [On, Recognizer.other]
    unfold On at hboth
    rw [tale_tried h.long] at hboth ⊢
    split at hboth
    · rename_i hw
      rw [if_pos hw]
      refine alone_concat.mpr ⟨h.alone, hboth, ?_⟩
      intro which failed' heq
      cases heq
      exact hoff
    · rename_i hw
      rw [if_neg hw, List.append_nil]
      exact h.alone
  · intro which hon
    rcases (on_started h.long).mp hon with ⟨rfl, -, hw⟩ | hon
    · exact hw
    · exact h.equipped which hon

theorem Tidy.halted (h : Tidy past n st) (w : Recognizer) {c : RecognizerCall} (hc : c ≠ .start)
    (failed : Bool) : Tidy past n (st.tried w c failed) := by
  refine ⟨?_, ?_, ?_⟩
  · exact Nat.le_trans h.long (by simp [tried, did])
  · rw [tale_tried h.long]
    split
    · refine alone_concat.mpr ⟨h.alone, ?_, ?_⟩
      · rw [onAir_halted hc, onAir_halted hc]
        have := h.alone.never_both _ List.prefix_rfl
        exact fun hboth => this ⟨hboth.1.1, hboth.2.1⟩
      · intro which failed' heq
        cases heq
        exact absurd rfl hc
    · rw [List.append_nil]
      exact h.alone
  · intro which hon
    exact h.equipped which ((on_halted h.long hc).mp hon).1

/-- A recognizer that was told to stop is off the air. -/
theorem Tidy.off_halted (h : Tidy past n st) (w : Recognizer) {c : RecognizerCall}
    (hc : c ≠ .start) (failed : Bool) : ¬(st.tried w c failed).On past n w := by
  rw [on_halted h.long hc]
  exact fun ⟨hon, hw⟩ => hw ⟨rfl, h.equipped w hon⟩

theorem Tidy.intents (h : Tidy past n st) {ds : List Deed} (hds : ∀ d ∈ ds, d.IsIntent) :
    Tidy past n (st.did ds) := by
  refine ⟨?_, ?_, ?_⟩
  · exact Nat.le_trans h.long (by simp [did])
  · rw [tale_did h.long]
    exact alone_intents h.alone hds
  · intro which hon
    exact h.equipped which ((on_intents h.long hds).mp hon)

theorem ended_background_same (st : Stance) : (st.ended .background).deeds = st.deeds ∧
    (st.ended .background).equipment = st.equipment := by
  rw [ended_background]
  unfold Stance.backgroundOver
  split
  · split <;> exact ⟨rfl, rfl⟩
  · exact ⟨rfl, rfl⟩

/-! ## Nothing on the air -/

namespace Still

theorem congr {st' : Stance} (h : Still past n st) (hd : st'.deeds = st.deeds)
    (he : st'.equipment = st.equipment) (hc : st'.capturing = st.capturing) :
    Still past n st' where
  toTidy := h.toTidy.congr hd he
  off which := mt (on_congr hd which).mp (h.off which)
  free := hc.trans h.free

theorem poised (h : Still past n st) : Poised past n st where
  toTidy := h.toTidy
  listens hon := (h.off _ hon).elim
  captures hon := (h.off _ hon).elim
  wanted hc := by
    rw [h.free] at hc
    cases hc
  due _ := h.free

theorem intents (h : Still past n st) {ds : List Deed} (hds : ∀ d ∈ ds, d.IsIntent) :
    Still past n (st.did ds) where
  toTidy := h.toTidy.intents hds
  off which hon := h.off which ((on_intents h.long hds).mp hon)
  free := h.free

/-- A recognizer that does not start is not on the air. -/
theorem refused (h : Still past n st) (w : Recognizer) :
    Still past n (st.tried w .start true) where
  toTidy := h.toTidy.started (h.off _) true
  off which hon := by
    rcases (on_started h.long).mp hon with ⟨-, hf, -⟩ | hon
    · cases hf
    · exact h.off which hon
  free := h.free

theorem later (h : Still past n st) (delay : Float) : Still past n (st.later delay) := by
  unfold Stance.later
  split
  · exact h.congr rfl rfl rfl
  · exact h

theorem backgroundLost (h : Still past n st) : Still past n st.backgroundLost := by
  unfold Stance.backgroundLost
  dsimp only
  split <;> exact h.congr rfl rfl rfl

theorem backgroundOver (h : Still past n st) : Still past n st.backgroundOver := by
  unfold Stance.backgroundOver
  split <;> exact h.congr rfl rfl rfl

end Still

/-- A background recognizer that is silenced is off the air, and the other is as before. -/
theorem Tidy.silenced (h : Tidy past n st) {st' : Stance} (hs : st.Silenced st') :
    Tidy past n st' ∧ ¬st'.On past n .background ∧
      (st'.On past n .foreground → st.On past n .foreground) := by
  have habort : ∀ failed, Tidy past n (st.tried .background .abort failed) ∧
      ¬(st.tried .background .abort failed).On past n .background ∧
        ((st.tried .background .abort failed).On past n .foreground →
          st.On past n .foreground) := fun failed =>
    ⟨h.halted _ RecognizerCall.noConfusion failed, h.off_halted _ RecognizerCall.noConfusion failed,
      fun hon => ((on_halted h.long RecognizerCall.noConfusion).mp hon).1⟩
  obtain ⟨failed, rfl | rfl⟩ := hs
  · exact habort failed
  · obtain ⟨htidy, hbg, hfg⟩ := habort failed
    obtain ⟨hd, he⟩ := ended_background_same (st.tried .background .abort failed)
    exact ⟨htidy.congr hd he, mt (on_congr hd _).mp hbg, fun hon => hfg ((on_congr hd _).mp hon)⟩

theorem Tidy.captureOver (h : Tidy past n st) (hoff : ∀ which, ¬st.On past n which) :
    Still past n st.captureOver := by
  have hidle : Still past n { st with capturing := false, mode := .idle } :=
    ⟨h.congr rfl rfl, hoff, rfl⟩
  exact hidle.later _

/-- Listening for a command is broken off while the background recognizer is off the air. -/
theorem Tidy.dropped (h : Tidy past n st) (hoff : ¬st.On past n .background) (failed : Bool) :
    Still past n (st.dropped failed) := by
  have hfree : Tidy past n { st with capturing := false } := h.congr rfl rfl
  refine ⟨hfree.halted _ RecognizerCall.noConfusion failed, ?_, rfl⟩
  intro which
  cases which with
  | background => exact fun hon => hoff ((on_halted hfree.long RecognizerCall.noConfusion).mp hon).1
  | foreground => exact hfree.off_halted _ RecognizerCall.noConfusion failed

/-! ## Starting from nothing -/

theorem Still.listening (h : Still past n st) (failed : Bool) :
    Poised past n (st.listening failed) := by
  have hup : Still past n (st.cancelled.inMode .background) := h.congr rfl rfl rfl
  cases failed with
  | true => exact (hup.refused .background).backgroundLost.poised
  | false =>
    refine ⟨hup.toTidy.started (hup.off _) false, fun _ => rfl, ?_, ?_, fun _ => h.free⟩
    · intro hon
      rcases (on_started hup.long).mp hon with ⟨hw, -⟩ | hon
      · cases hw
      · exact (hup.off _ hon).elim
    · intro hc
      exact absurd (h.free.symm.trans hc) Bool.noConfusion

theorem Still.captured (h : Still past n st) (hmode : st.mode.wantsCommand = true)
    (hnone : st.pending? = none) (failed : Bool) : Poised past n (st.captured failed) := by
  have hon : Tidy past n { st with capturing := true } := h.toTidy.congr rfl rfl
  have hoff : ∀ which, ¬{ st with capturing := true }.On past n which := h.off
  unfold Stance.captured
  dsimp only
  split
  · refine ⟨hon.started (hoff _) failed, ?_, fun _ => rfl, fun _ => .inl hmode, ?_⟩
    · intro hb
      rcases (on_started hon.long).mp hb with ⟨hw, -⟩ | hb
      · cases hw
      · exact (hoff _ hb).elim
    · intro hp
      have hcapture : st.pending? = some .capture := hp
      rw [hnone] at hcapture
      cases hcapture
  · rename_i hfail
    refine ((hon.started (hoff _) failed).captureOver ?_).poised
    intro which hb
    rcases (on_started hon.long).mp hb with ⟨rfl, rfl, hw⟩ | hb
    · exact hfail (by simpa [Equipment.has] using hw)
    · exact hoff which hb

/-! ## Poised stances -/

namespace Poised

theorem congr {st' : Stance} (h : Poised past n st) (hd : st'.deeds = st.deeds)
    (he : st'.equipment = st.equipment) (hc : st'.capturing = st.capturing)
    (hm : st'.mode = st.mode) (ha : st'.answer = st.answer)
    (hp : st'.pending? = some .capture → st.pending? = some .capture) :
    Poised past n st' := by
  refine ⟨h.toTidy.congr hd he, ?_, ?_, ?_, ?_⟩
  · rw [on_congr hd, hm]
    exact h.listens
  · rw [on_congr hd, hc]
    exact h.captures
  · unfold isGranted
    rw [hc, hm, ha, on_congr hd]
    exact h.wanted
  · intro hcap
    rw [hc]
    exact h.due (hp hcap)

/-- A command is listened for in the modes that want one, and else only in a stranded session. -/
theorem free (h : Poised past n st) (hw : st.mode.wantsCommand = false)
    (hg : st.mode = .idle → st.isGranted = true) : st.capturing = false := by
  rw [← Bool.not_eq_true]
  intro hc
  rcases h.wanted hc with hw' | ⟨hm, hg', -⟩
  · rw [hw] at hw'
    cases hw'
  · rw [hg hm] at hg'
    cases hg'

/-- The tale of a poised stance can serve as the past of what follows. -/
theorem tale (h : Poised past n st) : Poised (st.tale past n) st.deeds.length st := by
  refine ⟨⟨Nat.le_refl _, ?_, fun which hon => h.equipped which ((on_tale which).mp hon)⟩,
    fun hon => h.listens ((on_tale _).mp hon), fun hon => h.captures ((on_tale _).mp hon), ?_,
    h.due⟩
  · rw [tale_length]
    exact h.alone
  · intro hc
    rw [on_tale]
    exact h.wanted hc

theorem free_of_background (h : Poised past n st) (hm : st.mode = .background) :
    st.capturing = false := by
  apply h.free
  · rw [hm]
    rfl
  · intro hi
    rw [hm] at hi
    cases hi

theorem off_foreground (h : Poised past n st) (hc : st.capturing = false) :
    ¬st.On past n .foreground := by
  intro hon
  rw [h.captures hon] at hc
  cases hc

theorem off_background (h : Poised past n st) (hm : st.mode ≠ .background) :
    ¬st.On past n .background := fun hon => hm (h.listens hon)

theorem mode_ne_of_capturing (h : Poised past n st) (hc : st.capturing = true) :
    st.mode ≠ .background := by
  intro hm
  rw [h.free_of_background hm] at hc
  cases hc

/-- A session that is idle and may listen has nothing on the air. -/
theorem still (h : Poised past n st) (hm : st.mode ≠ .background)
    (hc : st.capturing = false) : Still past n st where
  toTidy := h.toTidy
  off which := by
    cases which with
    | background => exact h.off_background hm
    | foreground => exact h.off_foreground hc
  free := hc

/-- Nothing is on the air once the mode has changed from that of the background recognizer. -/
theorem handedOver (h : Poised past n st) (hc : st.capturing = false) (mode : Mode)
    (failed : Bool) : Still past n (st.handedOver mode failed) := by
  unfold Stance.handedOver
  split
  · have htidy : Tidy past n (st.inMode mode) := h.toTidy.congr rfl rfl
    refine ⟨htidy.halted _ RecognizerCall.noConfusion failed, ?_, hc⟩
    intro which
    cases which with
    | background => exact htidy.off_halted _ RecognizerCall.noConfusion failed
    | foreground =>
      exact fun hon =>
        h.off_foreground hc ((on_halted htidy.long RecognizerCall.noConfusion).mp hon).1
  · rename_i hm
    exact (h.still hm hc).congr rfl rfl rfl

theorem captured (h : Poised past n st) (hc : st.capturing = false) {mode : Mode}
    (hmode : mode.wantsCommand = true) (halted failed : Bool) :
    Poised past n ((st.cancelled.handedOver mode halted).captured failed) := by
  have hcancelled : Poised past n st.cancelled := h.congr rfl rfl rfl rfl rfl (by simp)
  refine (hcancelled.handedOver hc mode halted).captured ?_ ?_ failed
  · rw [handedOver_mode]
    exact hmode
  · rw [handedOver_pending?, pending?_cancelled]

theorem still_of_background (h : Poised past n st) (hm : st.mode = .background)
    (hoff : ¬st.On past n .background) : Still past n st where
  toTidy := h.toTidy
  off which := by
    cases which with
    | background => exact hoff
    | foreground => exact h.off_foreground (h.free_of_background hm)
  free := h.free_of_background hm

theorem captureOver (h : Poised past n st) (hc : st.capturing = true)
    (hoff : ¬st.On past n .foreground) : Still past n st.captureOver := by
  refine h.toTidy.captureOver fun which => ?_
  cases which with
  | background => exact h.off_background (h.mode_ne_of_capturing hc)
  | foreground => exact hoff

theorem started (h : Poised past n st) {st' : Stance} (hs : st.Started st') :
    Poised past n st' := by
  have hopen : Poised past n st.reopened := h.congr rfl rfl rfl rfl rfl id
  unfold Started at hs
  split at hs
  · rename_i hcan
    obtain ⟨failed, rfl⟩ := hs
    have hg : st.reopened.isGranted = true := by
      have := hcan.2
      unfold canListen at this
      simp_all
    have hm : st.reopened.mode = .idle := hcan.1
    refine (hopen.still ?_ (hopen.free ?_ fun _ => hg)).listening failed
    · rw [hm]
      exact Mode.noConfusion
    · rw [hm]
      rfl
  · rw [hs]
    exact hopen

/-- An answer does not matter to a session unless it is stranded. -/
theorem answering (h : Poised past n st) (a : Answer)
    (ha : a = .denied ∨ ¬st.Stranded) :
    Poised past n (st.answering a) := by
  refine ⟨h.toTidy.congr rfl rfl, h.listens, h.captures, ?_, h.due⟩
  intro hc
  rcases h.wanted hc with hw | ⟨hm, -, hoff⟩
  · exact .inl hw
  · rcases ha with rfl | ha
    · exact .inr ⟨hm, rfl, hoff⟩
    · exact absurd ⟨hc, hm⟩ ha

/-- The session may be stranded once the player has taken the permission back. -/
theorem revoked (h : Poised past n st) {which : Recognizer} (hheed : st.heeds which = true)
    (hoff : ¬st.On past n which) {st' : Stance} (hs : st.Revoked st') : Poised past n st' := by
  have hcancelled : Poised past n st.cancelled := h.congr rfl rfl rfl rfl rfl (by simp)
  rcases hs with rfl | rfl
  · exact hcancelled.answering .denied (.inl rfl)
  · cases which with
    | background =>
      have hm : st.mode = .background := of_decide_eq_true hheed
      apply Still.poised
      exact (h.still_of_background hm hoff).congr rfl rfl rfl
    | foreground =>
      have hc : st.capturing = true := hheed
      refine ⟨h.toTidy.congr rfl rfl, ?_, fun _ => hc, fun _ => .inr ⟨rfl, rfl, hoff⟩, ?_⟩
      · exact fun hon => (h.off_background (h.mode_ne_of_capturing hc) hon).elim
      · intro hp
        have hp' : st.cancelled.pending? = some .capture := hp
        rw [pending?_cancelled] at hp'
        cases hp'

theorem asked (h : Poised past n st) {consents : Bool} {st' : Stance}
    (hre : consents = true → ¬st.Stranded)
    (hs : st.Asked consents st') : Poised past n st' := by
  unfold Asked at hs
  split at hs
  · rename_i hc
    have hgranted := h.answering .granted (.inr (hre hc))
    rcases hs with rfl | hs
    · exact hgranted
    · exact hgranted.started hs
  · rw [hs]
    exact h.answering .denied (.inl rfl)

theorem toggled (h : Poised past n st) {consents : Bool} {st' : Stance}
    (hre : st.isGranted = false → consents = true → ¬st.Stranded)
    (hs : st.Toggled consents st') : Poised past n st' := by
  unfold Toggled at hs
  split at hs
  · rename_i hg
    exact h.asked (hre (by simpa using hg)) hs
  · rename_i hg
    split at hs
    · rwa [hs]
    · split at hs
      · rename_i hw
        obtain ⟨failed, rfl⟩ := hs
        have hm : st.mode ≠ .background := by
          rintro hm
          rw [hm] at hw
          cases hw
        have hdropped := h.toTidy.dropped (h.off_background hm) failed
        exact (hdropped.toTidy.captureOver hdropped.off).poised
      · rename_i hw
        obtain ⟨halted, failed, rfl⟩ := hs
        exact h.captured (h.free (by simpa using hw) fun _ => by simpa using hg) rfl halted failed

theorem brokenOff (h : Poised past n st) (hg : st.isGranted = true) (failed : Bool) :
    Tidy past n (st.brokenOff failed) ∧ ¬(st.brokenOff failed).On past n .foreground ∧
      (st.brokenOff failed).capturing = false := by
  unfold Stance.brokenOff
  split
  · rename_i hw
    have hm : st.mode ≠ .background := by
      intro hm
      rw [hm] at hw
      cases hw
    have hdropped := h.toTidy.dropped (h.off_background hm) failed
    exact ⟨hdropped.toTidy, hdropped.off _, hdropped.free⟩
  · rename_i hw
    have hc := h.free (by simpa using hw) fun _ => hg
    exact ⟨h.toTidy, h.off_foreground hc, hc⟩

theorem restarted (h : Poised past n st) {st' : Stance} (hs : st.Restarted st') :
    Poised past n st' := by
  unfold Restarted at hs
  split at hs
  · rename_i hcan
    obtain ⟨failed, st₁, hsilenced, rfl⟩ := hs
    have hpoised : Poised past n st.forgiven.cancelled := h.congr rfl rfl rfl rfl rfl (by simp)
    have hg : st.isGranted = true := (Bool.and_eq_true_iff.mp hcan).1
    obtain ⟨htidy, hfg, hc⟩ := hpoised.brokenOff hg failed
    obtain ⟨htidy', hbg, hfg'⟩ := htidy.silenced hsilenced
    have hstill : Still past n st₁ := by
      refine ⟨htidy', ?_, (silenced_same hsilenced).2.2.1.trans hc⟩
      intro which
      cases which with
      | background => exact hbg
      | foreground => exact mt hfg' hfg
    apply Still.poised
    exact hstill.congr rfl rfl rfl
  · rwa [hs]

theorem prompted (h : Poised past n st) {st' : Stance} (hs : st.Prompted st') :
    Poised past n st' := by
  rcases hs with rfl | ⟨-, -, failed, rfl⟩
  · exact h
  · unfold Stance.awaiting
    dsimp only
    apply Still.poised
    have htidy : Tidy past n (st.inMode .awaiting) := h.toTidy.congr rfl rfl
    have hbroken : Still past n (if st.mode = .background then
        (st.inMode .awaiting).tried .background .stop failed
      else if st.capturing then (st.inMode .awaiting).dropped failed
      else st.inMode .awaiting) := by
      split
      · rename_i hm
        have hover := h.handedOver (h.free_of_background hm) .awaiting failed
        unfold Stance.handedOver at hover
        rwa [if_pos hm] at hover
      · rename_i hm
        split
        · exact htidy.dropped (h.off_background hm) failed
        · rename_i hc
          exact (h.still hm (by simpa using hc)).congr rfl rfl rfl
    exact hbroken.congr rfl rfl rfl

theorem shut (h : Poised past n st) {st' : Stance} (hs : st.Shut st') : Poised past n st' := by
  obtain ⟨failed, st₁, hsilenced, rfl⟩ := hs
  have hfree : Tidy past n { st.cancelled with capturing := false } := h.toTidy.congr rfl rfl
  obtain ⟨htidy, hbg, -⟩ := hfree.silenced hsilenced
  have hstill : Still past n (st₁.tried .foreground .abort failed) := by
    refine ⟨htidy.halted _ RecognizerCall.noConfusion failed, ?_, (silenced_same hsilenced).2.2.1⟩
    intro which
    cases which with
    | background =>
      exact fun hon => hbg ((on_halted htidy.long RecognizerCall.noConfusion).mp hon).1
    | foreground => exact htidy.off_halted _ RecognizerCall.noConfusion failed
  apply Still.poised
  exact hstill.congr rfl rfl rfl

/-! ### Reports -/

theorem heard (h : Poised past n st) {which : Recognizer} {st' : Stance}
    (hoff : which = .foreground → ¬st.On past n .foreground) (hs : st.Heard which st') :
    Poised past n st' := by
  unfold Heard at hs
  split at hs
  · rename_i hheed
    cases which with
    | background =>
      have hm : st.mode = .background := of_decide_eq_true hheed
      have hforgiven : Poised past n st.forgiven := h.congr rfl rfl rfl rfl rfl id
      rcases hs with hs | ⟨failed, ds, hds, hs⟩
      · exact hforgiven.prompted hs
      · have hstill : Still past n (st.forgiven.commanded failed ds) := by
          have hover := hforgiven.handedOver (h.free_of_background hm) .idle failed
          unfold Stance.handedOver at hover
          rw [if_pos (show st.forgiven.mode = .background from hm)] at hover
          exact hover.intents hds
        rcases hs with rfl | ⟨-, rfl⟩
        · exact (hstill.later _).poised
        · exact hstill.poised
    | foreground =>
      obtain ⟨ds, hds, rfl⟩ := hs
      exact ((h.captureOver hheed (hoff rfl)).intents hds).poised
  · rwa [hs]

theorem failed (h : Poised past n st) {which : Recognizer} {code : String} {st' : Stance}
    (hoff : ¬st.On past n which) (hs : st.Failed which code st') : Poised past n st' := by
  unfold Failed at hs
  split at hs
  · rename_i hheed
    split at hs
    · exact h.revoked hheed hoff hs
    · cases which with
      | background =>
        rw [hs]
        exact (h.still_of_background (of_decide_eq_true hheed) hoff).backgroundLost.poised
      | foreground =>
        rw [hs]
        exact (h.captureOver hheed hoff).poised
  · rwa [hs]

theorem ended (h : Poised past n st) {which : Recognizer} (hoff : ¬st.On past n which) :
    Poised past n (st.ended which) := by
  cases which with
  | background =>
    rw [ended_background]
    split
    · rename_i hm
      exact (h.still_of_background hm hoff).backgroundOver.poised
    · exact h
  | foreground =>
    rw [ended_foreground]
    split
    · rename_i hc
      exact (h.captureOver hc hoff).poised
    · exact h

/-- A report takes its recognizer off the air, if it is a last one, and nothing else. -/
theorem told (h : Poised past st.deeds.length st) (which : Recognizer) (session : Nat)
    (report : Report) :
    Poised (past ++ [.told which session report]) st.deeds.length st ∧
      (report.IsLast which →
        ¬st.On (past ++ [.told which session report]) st.deeds.length which) := by
  have hon : ∀ w, st.On (past ++ [.told which session report]) st.deeds.length w ↔
      st.On past st.deeds.length w ∧ ¬(which = w ∧ report.IsLast w) := by
    intro w
    unfold On
    rw [tale_length, tale_length, onAir_told]
  have halone := h.alone
  rw [tale_length] at halone
  refine ⟨⟨⟨Nat.le_refl _, ?_, ?_⟩, ?_, ?_, ?_, h.due⟩, ?_⟩
  · rw [tale_length]
    refine alone_concat.mpr ⟨halone, ?_, ?_⟩
    · rw [onAir_told, onAir_told]
      exact fun hboth => halone.never_both _ List.prefix_rfl ⟨hboth.1.1, hboth.2.1⟩
    · intro w failed heq
      cases heq
  · exact fun w hw => h.equipped w ((hon w).mp hw).1
  · exact fun hw => h.listens ((hon _).mp hw).1
  · exact fun hw => h.captures ((hon _).mp hw).1
  · intro hc
    rcases h.wanted hc with hw | ⟨hm, hg, hoff⟩
    · exact .inl hw
    · exact .inr ⟨hm, hg, fun hw => hoff ((hon _).mp hw).1⟩
  · exact fun hlast hw => ((hon _).mp hw).2 ⟨rfl, hlast⟩

/-! ### Timers -/

theorem performed (h : Poised past n st) {task : ListeningTask} {st' : Stance}
    (hfree : task = .capture → st.capturing = false) (hs : st.Performed task st') :
    Poised past n st' := by
  cases task with
  | resume =>
    dsimp only [Performed] at hs
    split at hs
    · rename_i hcan
      obtain ⟨failed, rfl⟩ := hs
      unfold canListen at hcan
      have hm : st.mode = .idle := by simp_all
      have hc := h.free (by rw [hm]; rfl) fun _ => by simp_all
      exact (h.still (by rw [hm]; exact Mode.noConfusion) hc).listening failed
    · rwa [hs]
  | capture =>
    dsimp only [Performed] at hs
    split at hs
    · obtain ⟨halted, failed, rfl⟩ := hs
      exact h.captured (hfree rfl) rfl halted failed
    · rwa [hs]

theorem expired (h : Poised past n st) (ht : st.Timely) {id : Nat} {time : Float} {st' : Stance}
    (hs : st.Expired id time st') : Poised past n st' := by
  rcases hs.cases with rfl | ⟨t, hmem, hs⟩
  · exact h
  · have hexp : Poised past n (st.expiring t time) := by
      refine h.congr rfl rfl rfl rfl rfl fun hp => ?_
      by_cases hg : t.task.generation? = some st.slot.generation
      · rw [pending?_expiring hg] at hp
        cases hp
      · rwa [ht.pending?_expiring_of_ne hmem hg] at hp
    rcases hs with ⟨task, htask, hs⟩ | ⟨-, rfl⟩
    · refine hexp.performed (fun hcap => h.due ?_) hs
      rw [← hcap]
      exact ht.pending?_eq_some hmem htask
    · exact hexp

/-! ### Occasions -/

/-- Every occasion keeps a session poised, unless a stranded session is allowed to listen. -/
theorem step (h : Poised past st.deeds.length st) (ht : st.Timely) {consents : Bool}
    {o : Occasion} {st' : Stance} (hs : st.Step consents o st')
    (hre : st.asks o = true → consents = true → ¬st.Stranded) :
    Poised (past ++ o.told) st.deeds.length st' := by
  have hpast : Poised (past ++ []) st.deeds.length st := by rwa [List.append_nil]
  cases o with
  | start => exact hpast.started hs
  | toggle => exact hpast.toggled (fun hg => hre (by simp [asks, hg])) hs
  | restart => exact hpast.restarted hs
  | awaitCommand => exact hpast.prompted hs
  | requestPermission => exact hpast.asked (hre rfl) hs
  | close => exact hpast.shut hs
  | report which session report =>
    obtain ⟨htold, hoff⟩ := h.told which session report
    cases report with
    | heard heard =>
      refine htold.heard (fun hw => ?_) hs
      subst hw
      exact hoff rfl
    | failed code => exact htold.failed (hoff trivial) hs
    | ended =>
      rw [show st' = st.ended which from hs]
      exact htold.ended (hoff trivial)
  | timer id time => exact hpast.expired ht hs
  | clock time =>
    rw [show st' = _ from hs]
    exact hpast.congr rfl rfl rfl rfl rfl id

end Poised

end Stance

namespace Scene

variable {δ : Type} {s : Scene δ}

/-- Whether a stranded session is allowed to listen on an occasion. -/
def Reprieves (s : Scene δ) (o : Occasion) : Prop := s.stance.Stranded ∧ s.Grants o

theorem Fresh.poised (h : s.Fresh) : s.stance.Poised [] s.stance.deeds.length := by
  obtain ⟨pace, permission, room, hwaiting, hst⟩ := h.exists_stance
  have hoff : ∀ which, ¬s.stance.On [] s.stance.deeds.length which := by
    intro which
    unfold Stance.On
    rw [Stance.tale_length]
    exact not_onAir_nil which
  apply Stance.Still.poised
  refine ⟨⟨Nat.le_refl _, ?_, fun which hon => (hoff which hon).elim⟩, hoff, ?_⟩
  · rw [Stance.tale_length]
    exact alone_nil
  · rw [hst]
    rfl

/-- On a calm host, an occasion keeps a session poised, unless it reprieves a stranded one. -/
theorem poised_after {past : List Happening} (h : s.stance.Poised past s.stance.deeds.length)
    (ht : s.stance.Timely) (calm : s.stance.conduct.Calm) {o : Occasion} (ho : ¬s.Reprieves o) :
    (s.after o).stance.Poised (past ++ s.news o) (s.after o).stance.deeds.length := by
  rw [append_news]
  exact (h.step ht (step_after calm o) fun hasks hconsents hstranded =>
    ho ⟨hstranded, hasks, hconsents⟩).tale

theorem calm_after (calm : s.stance.conduct.Calm) (o : Occasion) :
    (s.after o).stance.conduct.Calm := by
  rw [((tended_continues s).after (.refl s) o).2.2.1]
  exact calm

/-- On a calm host, a session stays poised as long as it is not reprieved when stranded. -/
theorem Fresh.poised_run (h : s.Fresh) (calm : s.stance.conduct.Calm) {os : List Occasion}
    (hos : s.Throughout (fun s o => ¬s.Reprieves o) os) :
    (s.run os).stance.Poised (s.happenings os) (s.run os).stance.deeds.length := by
  have hrun := run_keeps (P := fun s past => s.stance.Poised past s.stance.deeds.length ∧
    s.stance.Timely ∧ s.stance.conduct.Calm) ?_ [] ⟨h.poised, h.timely, calm⟩ hos
  · exact hrun.1
  · rintro s past o ⟨hpoised, htimely, hcalm⟩ ho
    exact ⟨poised_after hpoised htimely hcalm ho, tended_timely.after htimely o,
      calm_after hcalm o⟩

/-- On a calm host, only one recognizer at a time is on the air, and none is started while the other
is on the air, as long as no stranded session is allowed to listen. -/
theorem alone_happenings (h : s.Fresh) (calm : s.stance.conduct.Calm) {os : List Occasion}
    (hos : s.Throughout (fun s o => ¬s.Reprieves o) os) : Alone (s.happenings os) := by
  have halone := (h.poised_run calm hos).alone
  rwa [Stance.tale_length] at halone

/-- The recognizers take turns when a command is awaited after the wake phrase. -/
theorem alone_awaiting :
    welcomed.Throughout (fun s o => ¬s.Reprieves o) [.start, .awaitCommand, .timer 0 1] ∧
    welcomed.happenings [.start, .awaitCommand, .timer 0 1] =
      [.did (.recognizer .background .start false), .did (.recognizer .background .stop false),
        .did (.recognizer .foreground .start false)] ∧
    Alone (welcomed.happenings [.start, .awaitCommand, .timer 0 1]) := by
  have hos : welcomed.Throughout (fun s o => ¬s.Reprieves o)
      [.start, .awaitCommand, .timer 0 1] :=
    ⟨fun h => not_grants rfl h.2, fun h => not_grants rfl h.2, fun h => not_grants rfl h.2, trivial⟩
  exact ⟨hos, rfl, alone_happenings fresh_welcomed calm_welcomed hos⟩

end Scene

end Arcade
