import Arcade.Proofs.Listening.Airtime

/-!
# What closing leaves

Closing breaks everything off, whatever the host does meanwhile: nobody listens, nothing is said,
and every recognizer was told to stop at once. Two things depend on the host. If the background
recognizer tells its end in the call that aborts it, the session takes that for an end like any
other and wants to listen again a little later, which stays pending. And if the host fails when it
is told that the session has become idle, the session is not marked as closed. When exactly this
happens is told by what the host does at which of its calls.
-/

namespace Arcade.Scene

open Act

variable {δ : Type} {s t u : Scene δ}

/-! ## News of the mode -/

/-- The status that goes with a mode. -/
def statusIn (s : Scene δ) (mode : Mode) : Status :=
  if s.isSupported then statusWith s.stance.answer { s.session with mode := mode }
  else .unsupported

/-- Whether the host takes the news of a status after a number of calls, if it is news. -/
def HearsStatus (s : Scene δ) (status : Status) (n : Nat) : Prop :=
  s.equipment.onStatusChange = true → s.session.status ≠ some status →
    s.room.host.conduct.fails n (.statusChanged status) = false

/-- Whether the host takes the news of another mode after a number of calls, and then the news of
the status that goes with it. -/
def Hears (s : Scene δ) (mode : Mode) (n : Nat) : Prop :=
  (s.equipment.onModeChange = true →
    s.room.host.conduct.fails n (.modeChanged s.session.mode mode) = false) ∧
  s.HearsStatus (s.statusIn mode) (if s.equipment.onModeChange then n + 1 else n)

theorem outcome_change (f : Session → Session) (s : Scene δ) :
    (change f).outcome s = (.ok ⟨⟩, { s with session := f s.session }) := rfl

theorem outcome_tell (wanted : Equipment → Bool) (c : HostCall) (s : Scene δ) :
    (inRoom (Room.callIf wanted c)).outcome s =
      if wanted s.equipment then (if s.refuses c then .error c.fault else .ok (), s.called c)
      else (.ok (), s) := by
  unfold inRoom Room.callIf
  rw [outcome_within, outcome_bind, outcome_get]
  dsimp only
  show _ = if wanted s.room.host.equipment then _ else _
  split
  · exact outcome_call c s
  · rfl

theorem tell_ok_iff (wanted : Equipment → Bool) (c : HostCall) (s : Scene δ) :
    ((inRoom (Room.callIf wanted c)).outcome s).1 = .ok () ↔
      (wanted s.equipment = true → s.refuses c = false) := by
  rw [outcome_tell]
  cases wanted s.equipment with
  | false => exact ⟨fun _ h => (nomatch h), fun _ => rfl⟩
  | true =>
    cases s.refuses c with
    | false => exact ⟨fun _ _ => rfl, fun _ => rfl⟩
    | true => exact ⟨fun h => (nomatch h), fun h => (nomatch h rfl)⟩

theorem outcome_dueStatus (s : Scene δ) : dueStatus.outcome s =
    (.ok (s.statusIn s.session.mode), if s.isSupported then s.lookedUp else s) := by
  unfold dueStatus statusIn
  rw [outcome_bind, outcome_get]
  dsimp only
  split
  · rw [outcome_bind, outcome_answer]
    rfl
  · rfl

/-- Bringing the status up to date fails only if the host does not take it. -/
theorem refreshStatus_ok_iff (s : Scene δ) : (refreshStatus.outcome s).1 = .ok () ↔
    s.HearsStatus (s.statusIn s.session.mode) s.room.host.calls.length := by
  have hfound : ∃ v : Scene δ, dueStatus.outcome s = (.ok (s.statusIn s.session.mode), v) ∧
      v.session.status = s.session.status ∧ v.room.host = s.room.host := by
    refine ⟨_, outcome_dueStatus s, ?_⟩
    split <;> exact ⟨rfl, rfl⟩
  obtain ⟨v, hdue, hstatus, hhost⟩ := hfound
  unfold refreshStatus HearsStatus equipment
  rw [outcome_bind_of_ok hdue, outcome_bind, outcome_get, ← hstatus, ← hhost]
  dsimp only
  by_cases hnews : v.session.status = some (s.statusIn s.session.mode)
  · rw [if_neg (not_not_intro hnews)]
    exact ⟨fun _ _ h => absurd hnews h, fun _ => rfl⟩
  · rw [if_pos hnews, outcome_bind_of_ok (outcome_change _ _), tell_ok_iff]
    exact ⟨fun h hwanted _ => h hwanted, fun h hwanted => h hwanted hnews⟩

/-- A change of the mode fails only if the host does not take the news of it. -/
theorem setMode_ok_iff {mode : Mode} (s : Scene δ) (hm : s.session.mode ≠ mode) :
    ((setMode mode).outcome s).1 = .ok () ↔ s.Hears mode s.room.host.calls.length := by
  let v : Scene δ := { s with session := { s.session with mode := mode } }
  have htell := outcome_tell Equipment.onModeChange (.modeChanged s.session.mode mode) v
  unfold setMode Hears
  rw [outcome_bind, outcome_get]
  dsimp only
  rw [if_pos hm, outcome_bind_of_ok (outcome_change _ _)]
  show (Act.outcome _ v).1 = _ ↔ _
  have hv : v.equipment.onModeChange = s.equipment.onModeChange := rfl
  rw [hv] at htell
  cases hwanted : s.equipment.onModeChange with
  | false =>
    rw [hwanted, if_neg Bool.false_ne_true] at htell
    rw [outcome_bind_of_ok htell, refreshStatus_ok_iff]
    exact ⟨fun h => ⟨fun hn => (nomatch hn), h⟩, fun h => h.2⟩
  | true =>
    rw [hwanted, if_pos rfl] at htell
    cases hrefuses : v.refuses (.modeChanged s.session.mode mode) with
    | true =>
      rw [hrefuses, if_pos rfl] at htell
      rw [outcome_bind_of_error htell]
      exact ⟨fun h => (nomatch h), fun h => absurd (hrefuses.symm.trans (h.1 rfl)) (by decide)⟩
    | false =>
      rw [hrefuses, if_neg Bool.false_ne_true] at htell
      have hlength : (v.called (.modeChanged s.session.mode mode)).room.host.calls.length =
          s.room.host.calls.length + 1 := List.length_append
      rw [outcome_bind_of_ok htell, refreshStatus_ok_iff, hlength]
      exact ⟨fun h => ⟨fun _ => hrefuses, h⟩, fun h => h.2⟩

/-- Which news the host takes depends on little of a scene. -/
theorem hears_congr (hequipment : t.equipment = s.equipment)
    (hconduct : t.room.host.conduct = s.room.host.conduct)
    (hmode : t.session.mode = s.session.mode) (hstatus : t.session.status = s.session.status)
    (hrestart : t.session.needsRestart = s.session.needsRestart)
    (hanswer : t.stance.answer = s.stance.answer) {mode : Mode} {n : Nat} :
    t.Hears mode n ↔ s.Hears mode n := by
  have hstatusIn : t.statusIn mode = s.statusIn mode := by
    have hsupported : t.isSupported = s.isSupported := by
      unfold isSupported
      rw [hequipment]
    have hneeds : Session.needsRestart { t.session with mode := mode } =
        Session.needsRestart { s.session with mode := mode } := hrestart
    unfold statusIn statusWith
    rw [hsupported, hanswer, hneeds]
  unfold Hears HearsStatus
  rw [hequipment, hconduct, hmode, hstatus, hstatusIn]

/-! ## Recognizers that are stopped -/

/-- The scene after a recognizer was told something, if the host has it. -/
def asked (s : Scene δ) (which : Recognizer) (c : RecognizerCall) : Scene δ :=
  if s.equipment.has which then s.called (.recognizer which c) else s

/-- Whether a recognizer that is told something takes it and tells its end at once. -/
def endsOn (s : Scene δ) (which : Recognizer) (c : RecognizerCall) : Bool :=
  s.equipment.has which && !s.refuses (.recognizer which c) &&
    s.room.host.conduct.endsAtOnce (s.room.host.calls.length + 1) which

theorem outcome_callRecognizer (which : Recognizer) (c : RecognizerCall) (s : Scene δ) :
    (callRecognizer which c).outcome s =
      (if s.equipment.has which then
        if s.refuses (.recognizer which c) then .error .device else .ok ()
      else .error .noOperation, s.asked which c) := by
  unfold callRecognizer asked
  rw [outcome_bind, outcome_get]
  dsimp only
  split
  · exact outcome_call (.recognizer which c) s
  · rfl

theorem outcome_halt (which : Recognizer) (c : RecognizerCall) (s : Scene δ) :
    (halt which c).forgive.outcome s =
      (.ok (), if s.endsOn which c then ((ended which).outcome (s.asked which c)).2
        else s.asked which c) := by
  have hcall := outcome_callRecognizer which c s
  rw [outcome_forgive]
  unfold halt endsOn
  cases hhas : s.equipment.has which with
  | false =>
    rw [hhas, if_neg Bool.false_ne_true] at hcall
    rw [outcome_bind_of_error hcall]
    rfl
  | true =>
    rw [hhas, if_pos rfl] at hcall
    cases hrefuses : s.refuses (.recognizer which c) with
    | true =>
      rw [hrefuses, if_pos rfl] at hcall
      rw [outcome_bind_of_error hcall]
      rfl
    | false =>
      rw [hrefuses, if_neg Bool.false_ne_true] at hcall
      have hasked : s.asked which c = s.called (.recognizer which c) := if_pos hhas
      have hends : (s.called (.recognizer which c)).room.host.conduct.endsAtOnce
          (s.called (.recognizer which c)).room.host.calls.length which =
            s.room.host.conduct.endsAtOnce (s.room.host.calls.length + 1) which :=
        congrArg (fun n => s.room.host.conduct.endsAtOnce n which) List.length_append
      rw [outcome_bind_of_ok hcall, outcome_bind, outcome_get, hasked]
      dsimp only
      rw [hends]
      cases s.room.host.conduct.endsAtOnce (s.room.host.calls.length + 1) which <;> rfl

/-- The background recognizer is to come back after its end, if it may, and if the host took the
news. -/
theorem stance_backgroundEnded (hm : s.session.mode = .background) :
    (s.Hears .idle s.room.host.calls.length →
      (backgroundEnded.outcome s).2.stance = s.stance.backgroundOver) ∧
    (¬ s.Hears .idle s.room.host.calls.length →
      (backgroundEnded.outcome s).2.stance = s.stance.inMode .idle) := by
  have hidle : s.lookedUp.session.mode ≠ .idle := by
    rw [show s.lookedUp.session.mode = s.session.mode from rfl, hm]
    decide
  have hanswer : s.lookedUp.stance.answer = s.stance.answer := by rw [stance_lookedUp]
  have hears : s.lookedUp.Hears .idle s.room.host.calls.length ↔
      s.Hears .idle s.room.host.calls.length :=
    hears_congr (s := s) (t := s.lookedUp) rfl rfl rfl rfl rfl hanswer
  have hok := (setMode_ok_iff s.lookedUp hidle).trans hears
  have hleft := stance_setMode .idle s.lookedUp
  rw [stance_lookedUp] at hleft
  unfold backgroundEnded
  rw [outcome_bind, outcome_get]
  dsimp only
  rw [if_pos hm, outcome_bind_of_ok (outcome_isGranted s), outcome_bind, outcome_get]
  dsimp only
  -- A host that fails at the news keeps the session from coming back.
  rcases hset : (setMode .idle).outcome s.lookedUp with ⟨e | x, v⟩
  · rw [hset] at hok hleft
    rw [outcome_bind_of_error hset]
    exact ⟨fun h => (nomatch hok.2 h), fun _ => hleft⟩
  · rw [hset] at hok hleft
    rw [outcome_bind_of_ok hset]
    refine ⟨fun _ => ?_, fun h => absurd (hok.1 rfl) h⟩
    show ((if s.stance.isGranted && !s.stance.needsRestart then _ else _ :
      Act (Scene δ) Unit).outcome v).2.stance = _
    unfold Stance.backgroundOver
    dsimp only at hleft
    split
    · rw [outcome_bind, outcome_get]
      show v.stance.scheduled v.stance.pace.restartAfterEnd .resume = _
      rw [hleft]
      rfl
    · exact hleft

/-! ## What calls leave alone -/

@[simp] theorem asked_equipment (s : Scene δ) (which : Recognizer) (c : RecognizerCall) :
    (s.asked which c).equipment = s.equipment := by
  unfold asked
  split <;> rfl

@[simp] theorem asked_session (s : Scene δ) (which : Recognizer) (c : RecognizerCall) :
    (s.asked which c).session = s.session := by
  unfold asked
  split <;> rfl

theorem asked_length (s : Scene δ) (which : Recognizer) (c : RecognizerCall) :
    (s.asked which c).room.host.calls.length =
      s.room.host.calls.length + if s.equipment.has which then 1 else 0 := by
  unfold asked
  split
  · exact List.length_append
  · rfl

theorem asked_hears (s : Scene δ) (which : Recognizer) (c : RecognizerCall) {mode : Mode} {n : Nat} :
    (s.asked which c).Hears mode n ↔ s.Hears mode n := by
  unfold asked
  split
  · exact hears_congr (s := s) (t := s.called _) rfl rfl rfl rfl rfl rfl
  · exact Iff.rfl

/-! ## Calls and the voice -/

/-- Whether the host may have been called, and the voice is what it was. -/
structure Onward (s t : Scene δ) : Prop where
  equipment : t.equipment = s.equipment
  voice : t.room.voice = s.room.voice
  calls : s.room.host.calls <+: t.room.host.calls

theorem Onward.refl (s : Scene δ) : Onward s s := ⟨rfl, rfl, List.prefix_rfl⟩

theorem Onward.trans (h : Onward s t) (h' : Onward t u) : Onward s u :=
  ⟨h'.equipment.trans h.equipment, h'.voice.trans h.voice, h.calls.trans h'.calls⟩

theorem onward_called (s : Scene δ) (c : HostCall) : Onward s (s.called c) :=
  ⟨rfl, rfl, List.prefix_append _ _⟩

theorem onward_asked (s : Scene δ) (which : Recognizer) (c : RecognizerCall) :
    Onward s (s.asked which c) := by
  unfold asked
  split
  · exact onward_called s _
  · exact .refl s

theorem keeps_onward_tell (s : Scene δ) (wanted : Equipment → Bool) (c : HostCall) :
    Keeps (Onward s) (inRoom (Room.callIf wanted c)) := by
  intro t h
  rw [outcome_tell]
  split
  · exact h.trans (onward_called t c)
  · exact h

theorem keeps_onward_change (s : Scene δ) (f : Session → Session) : Keeps (Onward s) (change f) :=
  fun _ h => ⟨h.equipment, h.voice, h.calls⟩

theorem keeps_onward_answer (s : Scene δ) : Keeps (Onward s) (answer (δ := δ)) :=
  fun _ h => ⟨h.equipment, h.voice, h.calls⟩

theorem keeps_onward_setMode (s : Scene δ) (mode : Mode) : Keeps (Onward s) (setMode mode) := by
  refine keeps_get.bind fun _ => Keeps.ite ?_ (keeps_pure _)
  refine (keeps_onward_change s _).bind fun _ => (keeps_onward_tell s _ _).bind fun _ => ?_
  refine Keeps.bind ?_ fun status => keeps_get.bind fun _ => Keeps.ite ?_ (keeps_pure _)
  · exact keeps_get.bind fun _ =>
      ((keeps_onward_answer s).bind fun _ => keeps_get.bind fun _ => keeps_pure _).ite
        (keeps_pure _)
  · exact (keeps_onward_change s _).bind fun _ => keeps_onward_tell s _ _

theorem keeps_onward_backgroundEnded (s : Scene δ) :
    Keeps (Onward s) (backgroundEnded (δ := δ)) := by
  have hschedule (delay : Float) : Keeps (Onward s) (schedule delay .resume) :=
    fun _ h => ⟨h.equipment, h.voice, h.calls⟩
  refine keeps_get.bind fun _ => Keeps.ite ?_ (keeps_pure _)
  refine ((keeps_onward_answer s).bind fun _ => keeps_pure _).bind fun _ => keeps_get.bind fun _ => ?_
  exact (keeps_onward_setMode s .idle).bind fun _ =>
    (keeps_get.bind fun _ => hschedule _).ite (keeps_pure _)

/-- Whether the host was called so between two scenes. -/
def CalledBetween (s t : Scene δ) (c : HostCall) : Prop :=
  ∃ more, t.room.host.calls = s.room.host.calls ++ more ∧ c ∈ more.map Prod.fst

theorem CalledBetween.after {c : HostCall} (h : CalledBetween s t c)
    (ht : t.room.host.calls <+: u.room.host.calls) : CalledBetween s u c := by
  obtain ⟨more, hcalls, hc⟩ := h
  obtain ⟨rest, hrest⟩ := ht
  refine ⟨more ++ rest, by rw [← hrest, hcalls, List.append_assoc], ?_⟩
  rw [List.map_append]
  exact List.mem_append_left _ hc

theorem CalledBetween.before {c : HostCall} (hs : s.room.host.calls <+: t.room.host.calls)
    (h : CalledBetween t u c) : CalledBetween s u c := by
  obtain ⟨first, hfirst⟩ := hs
  obtain ⟨more, hcalls, hc⟩ := h
  refine ⟨first ++ more, by rw [hcalls, ← hfirst, List.append_assoc], ?_⟩
  rw [List.map_append]
  exact List.mem_append_right _ hc

theorem calledBetween_asked {which : Recognizer} (h : s.equipment.has which = true)
    (c : RecognizerCall) : CalledBetween s (s.asked which c) (.recognizer which c) := by
  rw [asked, if_pos h]
  exact ⟨_, rfl, List.mem_singleton_self _⟩

/-! ## Closing step by step -/

/-- The scene with nothing pending and no command listened for. -/
def cleared (s : Scene δ) : Scene δ where
  session := { s.session with
    slot := (s.session.slot.cancel s.room.queue).1
    capturing := false }
  room := { s.room with queue := (s.session.slot.cancel s.room.queue).2 }

/-- The scene once the voice was stopped. -/
def hushed (s : Scene δ) : Scene δ :=
  let t := if s.equipment.synthesizer then s.called .cancelSpeech else s
  { t with room := { t.room with voice := { t.room.voice with speaking := false } } }

theorem outcome_stopSpeaking (s : Scene δ) :
    (inRoom Room.stopSpeaking).outcome s = (.ok (), s.hushed) := by
  have htell := outcome_tell Equipment.synthesizer .cancelSpeech s
  have hleft : ((inRoom (Room.callIf Equipment.synthesizer .cancelSpeech)).outcome s).2 =
      if s.equipment.synthesizer then s.called .cancelSpeech else s := by
    rw [htell]
    split <;> rfl
  unfold hushed
  rw [← hleft]
  rfl

/-- Whether the background recognizer listens and tells its end in the call that aborts it. -/
def BackgroundEnds (s : Scene δ) : Prop :=
  s.session.mode = .background ∧ s.endsOn .background .abort = true

/-- Whether closing makes the session want to listen again: the background recognizer tells its
end at once, listening goes on after ends, and the host takes the news of that end. -/
def Rebounds (s : Scene δ) : Prop :=
  s.BackgroundEnds ∧ s.stance.isGranted = true ∧ s.stance.needsRestart = false ∧
    s.Hears .idle (s.room.host.calls.length + 1)

/-- The scene once the background recognizer was aborted on closing. -/
def hushing (s : Scene δ) : Scene δ := ((abort .background).outcome s.cleared).2

theorem hushing_of_not_ends (h : ¬ s.BackgroundEnds) :
    s.hushing = s.cleared.asked .background .abort := by
  unfold hushing abort
  rw [outcome_halt]
  cases hends : s.cleared.endsOn .background .abort with
  | false => rfl
  | true =>
    have hmode : s.session.mode ≠ .background := fun hm => h ⟨hm, hends⟩
    have hheeds : (s.cleared.asked .background .abort).stance.heeds .background = false := by
      unfold asked
      split <;> exact decide_eq_false hmode
    dsimp only
    rw [if_pos rfl, outcome_ended_of_not_heeds hheeds]

/-- If the background recognizer tells its end, the session is idle from then on, and wants to
listen again if it rebounds. -/
theorem hushing_of_ends (h : s.BackgroundEnds) :
    s.hushing.session.mode = .idle ∧ s.hushing.session.capturing = false ∧
      s.hushing.session.closed = s.session.closed ∧
      (s.hushing.session.slot.isPending = true ↔ s.Rebounds) := by
  have hhas : s.equipment.background = true := by
    have hends := h.2
    unfold endsOn at hends
    rw [Bool.and_eq_true, Bool.and_eq_true] at hends
    exact hends.1.1
  let x := s.cleared.called (.recognizer .background .abort)
  have hx : s.hushing = (backgroundEnded.outcome x).2 := by
    have hends : s.cleared.endsOn .background .abort = true := h.2
    have hasked : s.cleared.asked .background .abort = x := if_pos hhas
    unfold hushing abort
    rw [outcome_halt, hends, hasked]
    rfl
  have hlength : x.room.host.calls.length = s.room.host.calls.length + 1 := List.length_append
  have hears : x.Hears .idle x.room.host.calls.length ↔
      s.Hears .idle (s.room.host.calls.length + 1) := by
    rw [hlength]
    exact hears_congr (s := s) (t := x) rfl rfl rfl rfl rfl rfl
  obtain ⟨htakes, hfails⟩ := stance_backgroundEnded (s := x) h.1
  rw [← hx] at htakes hfails
  -- All that is asked for can be read from the stance.
  show s.hushing.stance.mode = .idle ∧ s.hushing.stance.capturing = false ∧
    s.hushing.stance.closed = s.session.closed ∧
      (s.hushing.stance.slot.isPending = true ↔ s.Rebounds)
  by_cases hh : s.Hears .idle (s.room.host.calls.length + 1)
  · rw [htakes (hears.2 hh), Stance.backgroundOver]
    split
    · rename_i hrestarts
      rw [Bool.and_eq_true, Bool.not_eq_true'] at hrestarts
      exact ⟨rfl, rfl, rfl, fun _ => ⟨h, hrestarts.1, hrestarts.2, hh⟩, fun _ => rfl⟩
    · rename_i hstays
      rw [Bool.and_eq_true, Bool.not_eq_true'] at hstays
      exact ⟨rfl, rfl, rfl, fun hp => (nomatch hp),
        fun hr => absurd ⟨hr.2.1, hr.2.2.1⟩ hstays⟩
  · rw [hfails fun hx => hh (hears.1 hx)]
    exact ⟨rfl, rfl, rfl, fun hp => (nomatch hp), fun hr => absurd hr.2.2.2 hh⟩

theorem onward_hushing (s : Scene δ) : Onward s s.hushing := by
  unfold hushing abort
  rw [outcome_halt]
  obtain ⟨hequipment, hvoice, hcalls⟩ := onward_asked s.cleared .background .abort
  have hasked : Onward s (s.cleared.asked .background .abort) := ⟨hequipment, hvoice, hcalls⟩
  dsimp only
  split
  · exact keeps_onward_backgroundEnded s _ hasked
  · exact hasked

theorem hushing_capturing (s : Scene δ) : s.hushing.session.capturing = false := by
  by_cases h : s.BackgroundEnds
  · exact (hushing_of_ends h).2.1
  · rw [hushing_of_not_ends h, asked_session]
    rfl

theorem hushing_closed (s : Scene δ) : s.hushing.session.closed = s.session.closed := by
  by_cases h : s.BackgroundEnds
  · exact (hushing_of_ends h).2.2.1
  · rw [hushing_of_not_ends h, asked_session]
    rfl

theorem hushing_pending_iff (s : Scene δ) :
    s.hushing.session.slot.isPending = true ↔ s.Rebounds := by
  by_cases h : s.BackgroundEnds
  · exact (hushing_of_ends h).2.2.2
  · rw [hushing_of_not_ends h, asked_session]
    exact ⟨fun hp => (nomatch hp), fun hr => absurd hr.1 h⟩

theorem hushing_asked (h : s.equipment.background = true) :
    CalledBetween s s.hushing (.recognizer .background .abort) := by
  have hhas : s.cleared.equipment.has .background = true := h
  have hasked : CalledBetween s (s.cleared.asked .background .abort)
      (.recognizer .background .abort) := calledBetween_asked hhas .abort
  unfold hushing abort
  rw [outcome_halt]
  dsimp only
  split
  · exact hasked.after (keeps_onward_backgroundEnded _ _ (.refl _)).calls
  · exact hasked

/-- The scene in which closing tells the host that the session is idle. -/
def closing (s : Scene δ) : Scene δ := (s.hushing.asked .foreground .abort).hushed

/-- Closing fails only in the end, when the host is told the mode. -/
theorem outcome_close (s : Scene δ) : close.outcome s =
    match (setMode .idle).outcome s.closing with
    | (.ok (), t) => (.ok ⟨⟩, { t with session := { t.session with closed := true } })
    | (.error e, t) => (.error e, t) := by
  have hforeground : (abort .foreground).outcome s.hushing =
      (.ok (), s.hushing.asked .foreground .abort) := by
    have hheeds : (s.hushing.asked .foreground .abort).stance.heeds .foreground = false := by
      unfold asked
      split <;> exact hushing_capturing s
    unfold abort
    rw [outcome_halt, outcome_ended_of_not_heeds hheeds, ite_self]
  have hbackground : (abort .background).outcome s.cleared = (.ok (), s.hushing) := by
    unfold hushing abort
    rw [outcome_halt]
  have hcancel : cancelTimer.outcome s = (.ok ⟨⟩, (cancelTimer.outcome s).2) := rfl
  unfold close
  rw [outcome_bind_of_ok hcancel, outcome_bind_of_ok (outcome_change _ _)]
  show Act.outcome _ s.cleared = _
  rw [outcome_bind_of_ok hbackground, outcome_bind_of_ok hforeground,
    outcome_bind_of_ok (outcome_stopSpeaking _), outcome_bind]
  unfold closing
  rcases (setMode .idle).outcome (s.hushing.asked .foreground .abort).hushed with ⟨e | x, t⟩
  · rfl
  · rfl

/-! ## What is left -/

/-- The number of calls that closing makes before it tells the host the mode. -/
def Equipment.callsOfClosing (e : Equipment) : Nat :=
  (if e.background then 1 else 0) + (if e.foreground then 1 else 0) +
    (if e.synthesizer then 1 else 0)

/-- Whether nothing keeps the session from being marked as closed: there is no news of the mode to
tell in the end, or the host takes it. -/
def Completes (s : Scene δ) : Prop :=
  s.session.mode = .idle ∨ s.BackgroundEnds ∨
    s.Hears .idle (s.room.host.calls.length + Equipment.callsOfClosing s.equipment)

theorem hushed_length (s : Scene δ) : s.hushed.room.host.calls.length =
    s.room.host.calls.length + if s.equipment.synthesizer then 1 else 0 := by
  unfold hushed
  split
  · exact List.length_append
  · rfl

theorem hushed_hears (s : Scene δ) {mode : Mode} {n : Nat} :
    s.hushed.Hears mode n ↔ s.Hears mode n := by
  unfold hushed
  split <;> exact hears_congr rfl rfl rfl rfl rfl rfl

theorem hushed_session (s : Scene δ) : s.hushed.session = s.session := by
  unfold hushed
  split <;> rfl

theorem closing_session (s : Scene δ) : s.closing.session = s.hushing.session := by
  rw [closing, hushed_session, asked_session]

/-- The news of the mode is taken as it would have been, had it been told after as many calls. -/
theorem closing_hears (h : ¬ s.BackgroundEnds) :
    s.closing.Hears .idle s.closing.room.host.calls.length ↔
      s.Hears .idle (s.room.host.calls.length + Equipment.callsOfClosing s.equipment) := by
  have hlength : s.closing.room.host.calls.length =
      s.room.host.calls.length + Equipment.callsOfClosing s.equipment := by
    rw [closing, hushed_length, asked_length, asked_equipment, hushing_of_not_ends h, asked_length,
      asked_equipment]
    simp only [Equipment.callsOfClosing, Nat.add_assoc]
    rfl
  rw [hlength, closing, hushed_hears, asked_hears, hushing_of_not_ends h, asked_hears]
  exact hears_congr (s := s) (t := s.cleared) rfl rfl rfl rfl rfl rfl

/-- Closing ends without a fault if there is no news to tell in the end or the host takes it. -/
theorem close_ok_iff (s : Scene δ) : (close.outcome s).1 = .ok () ↔ s.Completes := by
  have hresult : (close.outcome s).1 = .ok () ↔ ((setMode .idle).outcome s.closing).1 = .ok () := by
    rw [outcome_close]
    rcases (setMode .idle).outcome s.closing with ⟨e | x, t⟩
    · exact ⟨fun h => (nomatch h), fun h => (nomatch h)⟩
    · exact ⟨fun _ => rfl, fun _ => rfl⟩
  rw [hresult, Completes]
  by_cases hends : s.BackgroundEnds
  · have hidle : s.closing.stance.mode = .idle := by
      show s.closing.session.mode = .idle
      rw [closing_session]
      exact (hushing_of_ends hends).1
    rw [outcome_setMode_of_eq hidle]
    exact ⟨fun _ => .inr (.inl hends), fun _ => rfl⟩
  · have hmode : s.closing.session.mode = s.session.mode := by
      rw [closing_session, hushing_of_not_ends hends, asked_session]
      rfl
    by_cases hidle : s.session.mode = .idle
    · rw [outcome_setMode_of_eq (hmode.trans hidle)]
      exact ⟨fun _ => .inl hidle, fun _ => rfl⟩
    · rw [setMode_ok_iff s.closing fun h => hidle (hmode.symm.trans h), closing_hears hends]
      exact ⟨fun h => .inr (.inr h), fun h => (h.resolve_left hidle).resolve_left hends⟩

theorem calls_hushed (s : Scene δ) : s.room.host.calls <+: s.hushed.room.host.calls := by
  unfold hushed
  split
  · exact List.prefix_append _ _
  · exact List.prefix_rfl

/-- After the mode was told, closing changes nothing but whether the session is closed. -/
theorem close_left (s : Scene δ) :
    let t := (close.outcome s).2
    t.stance = { s.closing.stance.inMode .idle with closed := t.session.closed } ∧
    Onward s.closing t ∧
    (t.session.closed = true ↔ s.session.closed = true ∨ (close.outcome s).1 = .ok ()) := by
  have hstance := stance_setMode .idle s.closing
  have honward := keeps_onward_setMode s.closing .idle s.closing (.refl s.closing)
  have hbefore : s.closing.session.closed = s.session.closed := by
    rw [closing_session, hushing_closed]
  dsimp only
  rw [outcome_close]
  rcases hset : (setMode .idle).outcome s.closing with ⟨e | x, u⟩ <;> rw [hset] at hstance honward
  · have hclosed : u.session.closed = s.closing.session.closed := congrArg Stance.closed hstance
    refine ⟨?_, ⟨honward.equipment, honward.voice, honward.calls⟩, ?_⟩
    · show u.stance = { s.closing.stance.inMode .idle with closed := u.session.closed }
      rw [hclosed]
      exact hstance
    · show u.session.closed = true ↔ _
      rw [hclosed, hbefore]
      exact ⟨.inl, fun h => h.resolve_right nofun⟩
  · exact ⟨congrArg (fun st : Stance => { st with closed := true }) hstance,
      ⟨honward.equipment, honward.voice, honward.calls⟩, fun _ => .inr rfl, fun _ => rfl⟩

/-- Closing breaks everything off, however it ends and whatever the host does meanwhile: nobody
listens, nothing is said, and every recognizer that there is was told to abort. Something is pending
afterwards exactly if the session rebounds, and the session is marked as closed exactly if it was
before or nothing keeps it from that, which is also when closing ends without a fault. -/
theorem close_breaks_off (s : Scene δ) :
    let t := (close.outcome s).2
    t.session.mode = .idle ∧ t.session.capturing = false ∧ t.room.voice.speaking = false ∧
    (∀ which, s.equipment.has which = true → CalledBetween s t (.recognizer which .abort)) ∧
    (t.session.slot.isPending = true ↔ s.Rebounds) ∧
    ((close.outcome s).1 = .ok () ↔ s.Completes) ∧
    (t.session.closed = true ↔ s.session.closed = true ∨ s.Completes) := by
  intro t
  have hok := close_ok_iff s
  obtain ⟨hstance, honward, hclosed⟩ := close_left s
  have hsession := closing_session s
  have hafter : (s.hushing.asked .foreground .abort).room.host.calls <+: t.room.host.calls :=
    (calls_hushed _).trans honward.calls
  refine ⟨congrArg Stance.mode hstance, ?capturing, ?quiet, ?asked, ?pending, hok, ?closed⟩
  case capturing =>
    have hsame : t.session.capturing = s.closing.session.capturing :=
      congrArg Stance.capturing hstance
    rw [hsame, hsession, hushing_capturing]
  case quiet =>
    rw [honward.voice]
    rfl
  case asked =>
    intro which hhas
    cases which with
    | background =>
      exact (hushing_asked hhas).after ((onward_asked _ _ _).calls.trans hafter)
    | foreground =>
      rw [← (onward_hushing s).equipment] at hhas
      exact ((calledBetween_asked hhas .abort).after hafter).before (onward_hushing s).calls
  case pending =>
    have hsame : t.session.slot = s.closing.session.slot := congrArg Stance.slot hstance
    rw [hsame, hsession, hushing_pending_iff]
  case closed =>
    rw [hclosed, hok]

/-- A new session with recognizers that tell their end at once. -/
def hasty : Scene Unit :=
  { welcomed with room := { welcomed.room with host := { welcomed.room.host with
    conduct := { endsAtOnce := fun _ _ => true } } } }

/-- A new session with a host that fails whenever it is told that the session is idle again. -/
def unheard : Scene Unit :=
  { welcomed with room := { welcomed.room with host := {
    equipment := { welcomed.room.host.equipment with onModeChange := true }
    conduct := { fails := fun _ c => c = .modeChanged .background .idle } } } }

/-- Closed while they listen, the first session wants to listen again, and the second is not marked
as closed. -/
theorem close_breaks_off_listening :
    (hasty.Fresh ∧ (hasty.run [.start, .close]).session.slot.isPending = true) ∧
    unheard.Fresh ∧ (unheard.run [.start, .close]).session.closed = false := by
  have hends : (hasty.run [.start]).BackgroundEnds := ⟨rfl, rfl⟩
  have hrebounds : (hasty.run [.start]).Rebounds :=
    ⟨hends, rfl, rfl, fun h => (nomatch h), fun h => (nomatch h)⟩
  have hincomplete : ¬ (unheard.run [.start]).Completes := by
    rintro (hidle | hends | hears)
    · cases hidle
    · cases hends.2
    · cases hears.1 rfl
  have hpending := (close_breaks_off (hasty.run [.start])).2.2.2.2.1.2 hrebounds
  have hclosed := (close_breaks_off (unheard.run [.start])).2.2.2.2.2.2
  refine ⟨⟨⟨hasty.session.pace, hasty.session.permission, hasty.room, rfl, rfl⟩, hpending⟩,
    ⟨unheard.session.pace, unheard.session.permission, unheard.room, rfl, rfl⟩, ?_⟩
  rw [← Bool.not_eq_true]
  intro h
  exact (hclosed.1 h).elim (fun hc => (nomatch hc)) hincomplete

end Arcade.Scene
