import Arcade.Proofs.Listening.Airtime
import Arcade.Proofs.Timer.Sole

/-!
# Setbacks

A setback is a failure of the background recognizer that counts as an error: a session that fails
while it is heeded, or a start that fails. Nobody but the player, a restart by hand and the
background recognizer itself, when it hears something, give it more chances than the errors that are
left.

Most acts are even: they neither count errors nor start the background recognizer, nor do they go
over to listening to it. Nothing is assumed here of the host: its calls may fail, and recognizers
may tell their end at once. What an act leaves behind when it ends with a fault is told apart where
it matters, which is only for the timer that brings the recognizer back.
-/

namespace Arcade

/-- Whether a start of the background recognizer failed, for a deed that is one. -/
def Deed.backgroundStart? : Deed → Option Bool
  | .recognizer .background .start failed => some failed
  | _ => none

namespace Stance

/-- The starts of the background recognizer, each with whether it failed. -/
def starts (st : Stance) : List Bool := st.deeds.filterMap Deed.backgroundStart?

/-- Whether a stance comes from another one without an error and a start of the background
recognizer, and without listening to it anew. -/
structure Even (st st' : Stance) : Prop where
  pace : st'.pace = st.pace
  errors : st'.errors = st.errors
  starts : st'.starts = st.starts
  listens : st'.mode = .background → st.mode = .background

/-- Whether the background recognizer comes back after the delay for its errors, unless there were
too many. -/
def Armed (st : Stance) : Prop :=
  st.needsRestart = true ∨ ∃ st₀ : Stance, st = st₀.scheduled (st.pace.backoff st.errors) .resume

/-- Whether a stance comes from another one by one more error, with success or not. -/
structure Struck (st : Stance) (ok : Bool) (st' : Stance) : Prop where
  pace : st'.pace = st.pace
  errors : st'.errors = st.errors + 1
  starts : st'.starts = st.starts
  idle : st'.mode = .idle
  armed : ok = true → st'.Armed

/-- Whether a stance comes from another one by at most one start of the background recognizer, which
counts as an error if it fails. -/
structure Attempted (st : Stance) (xs : List Bool) (ok : Bool) (st' : Stance) : Prop where
  pace : st'.pace = st.pace
  errors : st'.errors = st.errors + xs.count true
  starts : st'.starts = st.starts ++ xs
  once : xs.length ≤ 1
  idle : true ∈ xs → st'.mode = .idle
  armed : true ∈ xs → ok = true → st'.Armed

variable {st st' st'' : Stance}

theorem Even.refl (st : Stance) : Even st st := ⟨rfl, rfl, rfl, id⟩

theorem Even.trans (h : st.Even st') (h' : st'.Even st'') : st.Even st'' :=
  ⟨h'.pace.trans h.pace, h'.errors.trans h.errors, h'.starts.trans h.starts,
    fun hm => h.listens (h'.listens hm)⟩

theorem Even.attempted (h : st.Even st') (ok : Bool) : st.Attempted [] ok st' where
  pace := h.pace
  errors := h.errors
  starts := by rw [h.starts, List.append_nil]
  once := Nat.zero_le _
  idle hmem := (List.not_mem_nil hmem).elim
  armed hmem := (List.not_mem_nil hmem).elim

theorem Even.then_attempted (h : st.Even st') {xs : List Bool} {ok : Bool}
    (h' : st'.Attempted xs ok st'') : st.Attempted xs ok st'' where
  pace := h'.pace.trans h.pace
  errors := by rw [h'.errors, h.errors]
  starts := by rw [h'.starts, h.starts]
  once := h'.once
  idle := h'.idle
  armed := h'.armed

/-- A deed that is no start of the background recognizer. -/
theorem even_did {ds : List Deed} (h : ∀ d ∈ ds, d.backgroundStart? = none) :
    st.Even (st.did ds) := by
  refine ⟨rfl, rfl, ?_, id⟩
  unfold Stance.starts did
  rw [List.filterMap_append, List.filterMap_eq_nil_iff.mpr h, List.append_nil]

/-- The background recognizer is started. -/
theorem starts_tried (h : st.equipment.background = true) (failed : Bool) :
    (st.tried .background .start failed).starts = st.starts ++ [failed] := by
  unfold Stance.starts tried did
  rw [if_pos (show Equipment.has _ .background = true from h), List.filterMap_append]
  rfl

theorem even_inMode {mode : Mode} (h : mode ≠ .background) : st.Even (st.inMode mode) :=
  ⟨rfl, rfl, rfl, fun hm => absurd hm h⟩

end Stance

namespace Scene

open Act

variable {δ α β : Type}

/-! ## Even acts -/

/-- Whether an act is even, however it ends. -/
def StaysEven (a : Act (Scene δ) α) : Prop :=
  ∀ st : Stance, Keeps (fun s => st.Even s.stance) a

theorem StaysEven.stance {a : Act (Scene δ) α} (h : StaysEven a) (s : Scene δ) :
    s.stance.Even (a.outcome s).2.stance := h s.stance s (.refl _)

theorem even_of_stance {a : Act (Scene δ) α}
    (h : ∀ s : Scene δ, s.stance.Even (a.outcome s).2.stance) : StaysEven a :=
  fun _ s hs => hs.trans (h s)

theorem Quiet.even {a : Act (Scene δ) α} (h : Quiet a) : StaysEven a :=
  even_of_stance fun s => by
    rw [h.stance_eq s]
    exact .refl _

theorem even_setMode {mode : Mode} (h : mode ≠ .background) :
    StaysEven (setMode mode : Act (Scene δ) Unit) :=
  even_of_stance fun s => by
    rw [stance_setMode]
    exact Stance.even_inMode h

theorem even_change {st : Stance} {f : Session → Session} (hf : ∀ x, (f x).pace = x.pace ∧
    (f x).errors = x.errors ∧ (f x).mode = x.mode) :
    Keeps (fun s : Scene δ => st.Even s.stance) (change f) := fun s hs =>
  hs.trans ⟨(hf _).1, (hf _).2.1, rfl, fun h => (hf s.session).2.2.symm.trans h⟩

theorem even_schedule (delay : Float) (task : ListeningTask) :
    StaysEven (schedule delay task : Act (Scene δ) Unit) :=
  even_of_stance fun _ => ⟨rfl, rfl, rfl, id⟩

theorem even_cancelTimer : StaysEven (cancelTimer : Act (Scene δ) Unit) :=
  even_of_stance fun _ => ⟨rfl, rfl, rfl, id⟩

theorem even_giveAnswer (a : Answer) : StaysEven (giveAnswer a : Act (Scene δ) Unit) :=
  even_of_stance fun _ => ⟨rfl, rfl, rfl, id⟩

theorem even_lookedUp (s : Scene δ) : s.stance.Even s.lookedUp.stance := by
  rw [stance_lookedUp]
  exact .refl _

theorem even_isGranted : StaysEven (isGranted : Act (Scene δ) Bool) :=
  fun st => (quiet_answer.even st).bind fun _ => keeps_pure _

theorem even_call {c : HostCall}
    (h : ∀ failed, ∀ d ∈ Deed.of? (c, failed), d.backgroundStart? = none) :
    StaysEven (call c : Act (Scene δ) Unit) :=
  even_of_stance fun s => by
    rw [outcome_call, stance_called]
    exact Stance.even_did fun d hd => h _ d (Option.mem_toList.mp hd)

theorem even_scheduleResume (delay : Float) :
    StaysEven (scheduleResume delay : Act (Scene δ) Unit) :=
  fun st => keeps_get.bind fun _ => (even_schedule delay .resume st).ite (keeps_pure _)

theorem even_finishCapture : StaysEven (finishCapture : Act (Scene δ) Unit) := fun st =>
  Keeps.bind (even_change (by simp)) fun _ => (even_setMode (by decide) st).bind fun _ =>
    keeps_get.bind fun _ => even_scheduleResume _ st

theorem even_ended (which : Recognizer) : StaysEven (ended which : Act (Scene δ) Unit) := by
  intro st
  cases which with
  | background =>
    refine keeps_get.bind fun _ => Keeps.ite ?_ (keeps_pure _)
    exact (even_isGranted st).bind fun _ => keeps_get.bind fun _ =>
      (even_setMode (by decide) st).bind fun _ =>
        (keeps_get.bind fun _ => even_schedule _ _ st).ite (keeps_pure _)
  | foreground => exact keeps_get.bind fun _ => (even_finishCapture st).ite (keeps_pure _)

theorem even_callRecognizer {which : Recognizer} {c : RecognizerCall}
    (h : which = .background → c ≠ .start) :
    StaysEven (callRecognizer which c : Act (Scene δ) Unit) := by
  have hcall : StaysEven (call (.recognizer which c) : Act (Scene δ) Unit) := by
    refine even_call fun failed d hd => ?_
    obtain rfl := Option.some.inj hd
    cases which with
    | foreground => rfl
    | background =>
      cases c with
      | start => exact absurd rfl (h rfl)
      | stop | abort => rfl
  exact fun st => keeps_get.bind fun _ =>
    (hcall st).ite ((keeps_throw _).bind fun _ => hcall st)

theorem even_halt (which : Recognizer) {c : RecognizerCall} (h : c ≠ .start) :
    StaysEven ((halt which c).forgive : Act (Scene δ) Unit) := fun st =>
  ((even_callRecognizer (fun _ => h) st).bind fun _ => keeps_get.bind fun _ =>
    (even_ended which st).ite (keeps_pure _)).forgive

theorem even_dropCapture : StaysEven (dropCapture : Act (Scene δ) Unit) := fun st =>
  Keeps.bind (even_change (by simp)) fun _ => even_halt .foreground RecognizerCall.noConfusion st

theorem even_startForeground {mode : Mode} (h : mode ≠ .background) :
    StaysEven (startForeground mode : Act (Scene δ) Unit) := by
  intro st
  have hbegin : Keeps (fun s : Scene δ => st.Even s.stance) (do
      change fun s => { s with capturing := true }
      unless ← (callRecognizer .foreground .start).succeeds do finishCapture) :=
    Keeps.bind (even_change (by simp)) fun _ =>
      (even_callRecognizer Recognizer.noConfusion st).succeeds.bind fun _ =>
        (keeps_pure _).ite (even_finishCapture st)
  exact (even_cancelTimer st).bind fun _ => keeps_get.bind fun _ => (even_setMode h st).bind
    fun _ => ((even_halt .background RecognizerCall.noConfusion st).bind fun _ => hbegin).ite hbegin

theorem even_permissionRevoked : StaysEven (permissionRevoked : Act (Scene δ) Unit) := fun st =>
  (even_cancelTimer st).bind fun _ => (even_giveAnswer _ st).bind fun _ =>
    (even_setMode (by decide) st).bind fun _ => quiet_refreshStatus.even st

theorem even_askPlayer : StaysEven (askPlayer : Act (Scene δ) Bool) := by
  intro st
  refine keeps_get.bind fun _ => ?_
  split
  · exact keeps_pure _
  · have hcall : StaysEven (call .askPermission : Act (Scene δ) Unit) :=
      even_call fun _ _ hd => absurd hd (Option.not_mem_none _)
    exact (hcall st).succeeds.bind fun _ => keeps_pure _

theorem even_awaitCommand : StaysEven (awaitCommand Wiring.toHost : Act (Scene δ) Unit) := by
  intro st
  have hschedule : Keeps (fun s : Scene δ => st.Even s.stance) (do
      schedule (← get).session.pace.promptDelay .capture) :=
    keeps_get.bind fun _ => even_schedule _ _ st
  refine keeps_get.bind fun s => Keeps.bind ?_ fun _ => keeps_get.bind fun _ =>
    Keeps.ite ((even_isGranted st).bind fun _ => Keeps.ite ?_ (keeps_pure _)) (keeps_pure _)
  · exact (quiet_inRoom (undisturbed_respond _)).even st
  · exact keeps_get.bind fun _ => (even_setMode (by decide) st).bind fun _ =>
      ((even_halt .background RecognizerCall.noConfusion st).bind fun _ => hschedule).ite
        (keeps_get.bind fun _ => ((even_dropCapture st).bind fun _ => hschedule).ite hschedule)

theorem even_close : StaysEven (close : Act (Scene δ) Unit) := fun st =>
  (even_cancelTimer st).bind fun _ => Keeps.bind (even_change (by simp)) fun _ =>
    (even_halt .background RecognizerCall.noConfusion st).bind fun _ =>
      (even_halt .foreground RecognizerCall.noConfusion st).bind fun _ =>
        ((quiet_inRoom undisturbed_stopSpeaking).even st).bind fun _ =>
          (even_setMode (by decide) st).bind fun _ => even_change (by simp)

theorem even_handOn (heard : Heard) :
    StaysEven (handOn Wiring.toHost heard : Act (Scene δ) Unit) := by
  refine even_of_stance fun s => ?_
  obtain ⟨ds, hds, -, hst, -⟩ := handOn_cases heard s
  rw [hst]
  refine Stance.even_did fun d hd => ?_
  cases d with
  | intent => rfl
  | recognizer => exact (hds _ hd).elim

theorem even_heardInForeground (heard : Heard) :
    StaysEven (heardInForeground Wiring.toHost heard : Act (Scene δ) Unit) := fun st =>
  keeps_get.bind fun _ =>
    ((even_finishCapture st).bind fun _ => even_handOn heard st).ite (keeps_pure _)

/-! ## Acts that count errors or start the background recognizer -/

/-- What follows from an act that is followed by another, however they end. -/
theorem bind_cases {a : Act (Scene δ) α} {f : α → Act (Scene δ) β} {s : Scene δ}
    {Q : Bool → Stance → Prop}
    (herror : ∀ e t, a.outcome s = (.error e, t) → Q false t.stance)
    (hok : ∀ x t, a.outcome s = (.ok x, t) →
      Q ((f x).outcome t).1.toOption.isSome ((f x).outcome t).2.stance) :
    Q ((a >>= f).outcome s).1.toOption.isSome ((a >>= f).outcome s).2.stance := by
  rw [outcome_bind]
  rcases ha : a.outcome s with ⟨e | x, t⟩
  · exact herror e t ha
  · exact hok x t ha

theorem struck_backgroundFailed (s : Scene δ) :
    s.stance.Struck (backgroundFailed.outcome s).1.toOption.isSome
      (backgroundFailed.outcome s).2.stance := by
  -- The error is counted and the mode changed before the host is told of it. If it fails then,
  -- nothing is left to show but that the act did not succeed.
  have hmode : ∀ t : Scene δ, t.stance =
      { s.stance with errors := s.stance.errors + 1, mode := .idle } →
      s.stance.Struck false t.stance := by
    intro t ht
    rw [ht]
    exact ⟨rfl, rfl, rfl, rfl, fun h => Bool.noConfusion h⟩
  refine bind_cases (Q := s.stance.Struck) (fun e t ht => by cases ht) fun _ t ht => ?_
  cases ht
  have hin := stance_setMode .idle
    (⟨{ s.session with errors := s.session.errors + 1 }, s.room⟩ : Scene δ)
  refine bind_cases (Q := s.stance.Struck) (fun e t ht => ?_) fun _ t ht => ?_
  · rw [ht] at hin
    exact hmode t hin
  · rw [ht] at hin
    obtain ⟨hpace, herrors, hstarts, hidle, -⟩ := hmode t hin
    rw [outcome_bind, outcome_get]
    dsimp only
    split
    · rename_i hneeds
      refine bind_cases (Q := s.stance.Struck) (fun e u hu => by cases hu) fun _ u hu => ?_
      have hst : (refreshStatus.outcome u).2.stance = t.stance.cancelled := by
        rw [quiet_refreshStatus.stance_eq]
        cases hu
        rfl
      rw [hst]
      exact ⟨hpace, herrors, hstarts, hidle, fun _ => .inl hneeds⟩
    · exact ⟨hpace, herrors, hstarts, hidle, fun _ => .inr ⟨t.stance, rfl⟩⟩

/-- Whether an act starts the background recognizer at most once from a scene, however it ends. -/
def AttemptsFrom (s : Scene δ) (a : Act (Scene δ) α) : Prop := ∃ xs,
  s.stance.Attempted xs (a.outcome s).1.toOption.isSome (a.outcome s).2.stance

/-- Whether an act starts the background recognizer at most once. -/
def Attempts (a : Act (Scene δ) α) : Prop := ∀ s, AttemptsFrom s a

theorem StaysEven.attempts {a : Act (Scene δ) α} (h : StaysEven a) : Attempts a :=
  fun s => ⟨[], (h.stance s).attempted _⟩

theorem StaysEven.bind_attempts {a : Act (Scene δ) α} {f : α → Act (Scene δ) β} (ha : StaysEven a)
    (hf : ∀ x, Attempts (f x)) : Attempts (a >>= f) := by
  intro s
  have heven := ha.stance s
  refine bind_cases (Q := fun ok st => ∃ xs, s.stance.Attempted xs ok st)
    (fun e t ht => ?_) fun x t ht => ?_
  · rw [ht] at heven
    exact ⟨[], heven.attempted _⟩
  · rw [ht] at heven
    obtain ⟨xs, hxs⟩ := hf x t
    exact ⟨xs, heven.then_attempted hxs⟩

theorem Attempts.map {a : Act (Scene δ) α} (h : Attempts a) (f : α → β) :
    Attempts (a >>= fun x => pure (f x)) := by
  intro s
  obtain ⟨xs, hxs⟩ := h s
  refine bind_cases (Q := fun ok st => ∃ xs, s.stance.Attempted xs ok st)
    (fun e t ht => ?_) fun x t ht => ?_
  all_goals
    rw [ht] at hxs
    exact ⟨xs, hxs⟩

theorem Attempts.discard {a : Act (Scene δ) α} (h : Attempts a) :
    Attempts (discard a : Act (Scene δ) PUnit) := by
  intro s
  obtain ⟨xs, hxs⟩ := h s
  refine ⟨xs, ?_⟩
  rw [outcome_discard]
  dsimp only
  cases hr : (a.outcome s).1 <;> rwa [hr] at hxs

theorem Attempts.ite {c : Prop} [Decidable c] {a b : Act (Scene δ) α} (ha : Attempts a)
    (hb : Attempts b) : Attempts (if c then a else b) := by
  split
  · exact ha
  · exact hb

theorem attempts_get_bind {f : Scene δ → Act (Scene δ) β} (h : ∀ s, Attempts (f s)) :
    Attempts (get >>= f) := fun s => h s s

/-- The mode changes to listening in the background, and the recognizer is started. -/
theorem attempts_listen {s : Scene δ} (hbg : s.stance.equipment.background = true) :
    AttemptsFrom s (do
      setMode .background
      unless ← (callRecognizer .background .start).succeeds do backgroundFailed) := by
  have hin := stance_setMode .background s
  refine bind_cases (Q := fun ok st => ∃ xs, s.stance.Attempted xs ok st)
    (fun e t ht => ?_) fun _ t ht => ?_
  · -- The host fails when it is told the mode, so that the recognizer is not even called.
    rw [ht] at hin
    dsimp only at hin
    rw [hin]
    exact ⟨[], rfl, rfl, (List.append_nil _).symm, Nat.zero_le _,
      fun h => (List.not_mem_nil h).elim, fun h => (List.not_mem_nil h).elim⟩
  · -- The start is counted, and a failed one strikes at once.
    rw [ht] at hin
    dsimp only at hin
    obtain ⟨failed, htried, hok⟩ := callRecognizer_cases .background .start t
    have hhas : t.stance.equipment.has .background = true := by
      rw [hin]
      exact hbg
    rw [hhas, Bool.true_and] at hok
    have hstarts := Stance.starts_tried hhas failed
    rw [show t.stance.starts = s.stance.starts by rw [hin]; rfl] at hstarts
    rw [outcome_bind, outcome_succeeds, hok]
    dsimp only
    generalize ((callRecognizer .background .start).outcome t).2 = u at htried ⊢
    cases failed with
    | false =>
      refine ⟨[false], ?_⟩
      show s.stance.Attempted [false] true u.stance
      rw [htried]
      refine ⟨?_, ?_, hstarts, Nat.le_refl _, fun h => by simp at h, fun h => by simp at h⟩
      · rw [hin]
        rfl
      · rw [hin]
        rfl
    | true =>
      refine ⟨[true], ?_⟩
      show s.stance.Attempted [true] (backgroundFailed.outcome u).1.toOption.isSome
        (backgroundFailed.outcome u).2.stance
      obtain ⟨hpace, herrors, hsame, hidle, harmed⟩ := struck_backgroundFailed u
      rw [htried, hin] at hpace herrors
      rw [htried, hstarts] at hsame
      exact ⟨hpace, herrors, hsame, Nat.le_refl _, fun _ => hidle, fun _ => harmed⟩

theorem attempts_startBackground : Attempts (startBackground : Act (Scene δ) Unit) := by
  intro s
  unfold AttemptsFrom startBackground
  rw [outcome_bind, outcome_get]
  dsimp only
  split
  · rename_i hbg
    rw [outcome_bind, outcome_isGranted]
    dsimp only
    rw [outcome_bind, outcome_get]
    dsimp only
    split
    · obtain ⟨xs, hxs⟩ := attempts_listen (s := (cancelTimer.outcome s.lookedUp).2) hbg
      exact ⟨xs, ((even_lookedUp s).trans (even_cancelTimer.stance _)).then_attempted hxs⟩
    · exact ⟨[], (even_lookedUp s).attempted _⟩
  · exact ⟨[], (Stance.Even.refl _).attempted _⟩

theorem attempts_start : Attempts (start : Act (Scene δ) Bool) := by
  have hrefused : Attempts (do refreshStatus; return false : Act (Scene δ) Bool) :=
    quiet_refreshStatus.even.attempts.map fun _ => false
  refine StaysEven.bind_attempts (fun _ => even_change (by simp)) fun _ => ?_
  refine attempts_get_bind fun _ => ?_
  refine hrefused.ite (even_isGranted.bind_attempts fun _ => hrefused.ite ?_)
  refine attempts_get_bind fun _ => ?_
  exact (attempts_startBackground.map fun _ => true).ite
    (even_of_stance fun _ => .refl _).attempts

theorem attempts_requestPermission : Attempts (requestPermission : Act (Scene δ) Bool) := by
  refine even_askPlayer.bind_attempts fun granted => Attempts.ite ?_ ?_
  · exact (even_giveAnswer _).bind_attempts fun _ => quiet_refreshStatus.even.bind_attempts
      fun _ => attempts_start.discard.map fun _ => granted
  · exact (even_giveAnswer _).bind_attempts fun _ =>
      quiet_refreshStatus.even.attempts.map fun _ => granted

/-- The microphone button without permission to ask for. -/
theorem even_pressed : StaysEven (do
    if !(← get).equipment.foreground then refreshStatus
    else if (← get).session.mode.wantsCommand then
      dropCapture
      setMode .idle
      scheduleResume (← get).session.pace.cooldown
    else startForeground .foreground : Act (Scene δ) Unit) := fun st =>
  keeps_get.bind fun _ => (quiet_refreshStatus.even st).ite <| keeps_get.bind fun _ =>
    ((even_dropCapture st).bind fun _ => (even_setMode (by decide) st).bind fun _ =>
      keeps_get.bind fun _ => even_scheduleResume _ st).ite (even_startForeground (by decide) st)

theorem attempts_toggle : Attempts (toggle : Act (Scene δ) Unit) :=
  even_isGranted.bind_attempts fun _ =>
    attempts_requestPermission.discard.ite even_pressed.attempts

theorem even_toggle {s : Scene δ} (hg : s.stance.isGranted = true) :
    s.stance.Even (toggle.outcome s).2.stance := by
  unfold toggle
  rw [outcome_bind, outcome_isGranted, hg]
  exact even_pressed s.stance s.lookedUp (even_lookedUp s)

/-- Restarting by hand forgives the errors at most. -/
theorem even_restart (s : Scene δ) : s.stance.Even (restart.outcome s).2.stance ∨
    s.stance.forgiven.Even (restart.outcome s).2.stance := by
  unfold restart
  rw [outcome_bind, outcome_isGranted]
  dsimp only
  split
  · exact .inl (even_lookedUp s)
  · rw [outcome_bind, outcome_get]
    dsimp only
    split
    · exact .inl (even_lookedUp s)
    · refine .inr ?_
      have hrest : StaysEven (do
          abort .background
          setMode .idle
          refreshStatus
          schedule (← get).session.pace.manualRestart .resume
          return true : Act (Scene δ) Bool) := fun st =>
        (even_halt .background RecognizerCall.noConfusion st).bind fun _ =>
          (even_setMode (by decide) st).bind fun _ => (quiet_refreshStatus.even st).bind fun _ =>
            keeps_get.bind fun _ => (even_schedule _ _ st).bind fun _ => keeps_pure _
      rw [outcome_bind]
      refine Keeps.bind (P := fun t : Scene δ => s.stance.forgiven.Even t.stance)
        (even_cancelTimer _) (fun _ => keeps_get.bind fun _ =>
          ((even_dropCapture _).bind fun _ => hrest _).ite (hrest _)) _ ?_
      rw [← stance_lookedUp s]
      exact .refl _

/-- What the background recognizer has heard forgives the errors at most. -/
theorem even_heardInBackground (heard : Heard) (s : Scene δ) :
    s.stance.Even ((heardInBackground Wiring.toHost heard).outcome s).2.stance ∨
      s.stance.mode = .background ∧
        s.stance.forgiven.Even ((heardInBackground Wiring.toHost heard).outcome s).2.stance := by
  unfold heardInBackground
  rw [outcome_bind, outcome_get]
  dsimp only
  split
  · rename_i hm
    refine .inr ⟨hm, ?_⟩
    rw [outcome_bind]
    refine Keeps.bind (P := fun t : Scene δ => s.stance.forgiven.Even t.stance) (keeps_lift _)
      (fun command => ?_) _ (.refl _)
    cases command with
    | none => exact keeps_pure _
    | some command =>
      refine (even_awaitCommand _).ite ((even_setMode (by decide) _).bind fun _ => ?_)
      exact (even_halt .background RecognizerCall.noConfusion _).bind fun _ =>
        (even_handOn _ _).bind fun _ => keeps_get.bind fun _ => even_scheduleResume _ _
  · exact .inl (.refl _)

/-! ## Occasions -/

/-- The starts of the background recognizer on an occasion, each with whether it failed. -/
def launches (s : Scene δ) (o : Occasion) : List Bool :=
  ((s.news o).filterMap Happening.deed?).filterMap Deed.backgroundStart?

/-- Whether an occasion is the failure of the background recognizer while it is heeded. -/
def loses (s : Scene δ) : Occasion → Bool
  | .report .background _ (.failed code) =>
    decide (s.stance.mode = .background) && decide (code ∉ refusalCodes)
  | _ => false

/-- The setbacks of the background recognizer on an occasion. -/
def setbacks (s : Scene δ) (o : Occasion) : Nat := (s.loses o).toNat + (s.launches o).count true

/-- Whether an occasion may forgive errors or start the background recognizer whatever they are. -/
def Pardons (s : Scene δ) : Occasion → Prop
  | .start | .restart | .requestPermission => True
  | .toggle => s.stance.isGranted = false
  | .report .background _ (.heard _) => s.stance.mode = .background
  | _ => False

theorem starts_after (s : Scene δ) (o : Occasion) :
    (s.after o).stance.starts = s.stance.starts ++ s.launches o := by
  unfold Stance.starts launches
  rw [deeds_after, List.filterMap_append]

theorem launches_eq {s : Scene δ} {o : Occasion} {xs : List Bool}
    (h : (s.after o).stance.starts = s.stance.starts ++ xs) : s.launches o = xs := by
  rw [starts_after] at h
  exact List.append_cancel_left h

theorem launches_of_even {s : Scene δ} {o : Occasion} {st : Stance} (h : st.Even (s.after o).stance)
    (hst : st.starts = s.stance.starts) : s.launches o = [] :=
  launches_eq (by rw [h.starts, hst, List.append_nil])

/-- Whether the act of an occasion ends without a fault. -/
def Succeeds (s : Scene δ) (o : Occasion) : Bool := (o.act.outcome s).1.toOption.isSome

/-- The ways in which an occasion may treat the errors and the background recognizer. -/
inductive Fares (s : Scene δ) (o : Occasion) : Prop where
  | even (kept : s.loses o = false) (h : s.stance.Even (s.after o).stance)
  | forgiven (kept : s.loses o = false) (pardon : s.Pardons o)
    (h : s.stance.forgiven.Even (s.after o).stance)
  | struck (lost : s.loses o = true) (h : s.stance.Struck (s.Succeeds o) (s.after o).stance)
  | attempted (kept : s.loses o = false) (xs : List Bool)
    (chance : s.Pardons o ∨ (∃ id time, o = .timer id time) ∧ s.stance.needsRestart = false)
    (h : s.stance.Attempted xs (s.Succeeds o) (s.after o).stance)

theorem even_capture : StaysEven (capture : Act (Scene δ) Unit) := fun st =>
  keeps_get.bind fun _ => (even_startForeground (by decide) st).ite (keeps_pure _)

/-- What a timer was made for starts the background recognizer only while there are not too many
errors. -/
theorem even_perform {s : Scene δ} {task : ListeningTask}
    (h : task = .capture ∨ s.stance.needsRestart = true) :
    s.stance.Even ((perform task).outcome s).2.stance := by
  cases task with
  | resume =>
    have hneeds : s.session.needsRestart = true := h.resolve_left ListeningTask.noConfusion
    unfold perform resume
    rw [outcome_bind, outcome_get]
    dsimp only
    rw [hneeds, Bool.not_true, Bool.and_false]
    exact .refl _
  | capture => exact even_capture.stance s

theorem attempts_perform (task : ListeningTask) :
    Attempts (perform task : Act (Scene δ) Unit) := by
  cases task with
  | resume =>
    exact attempts_get_bind fun _ => attempts_startBackground.ite
      (even_of_stance fun _ => .refl _).attempts
  | capture => exact even_capture.attempts

theorem fares_timer (s : Scene δ) (n : Nat) (time : Float) : s.Fares (.timer n time) := by
  have hact : ∀ {u : Scene δ}, (expire n time).outcome s = (.ok (), u) →
      s.stance.Even u.stance → s.Fares (.timer n time) := by
    intro u hu heven
    refine .even rfl ?_
    unfold Scene.after Occasion.act
    rwa [hu]
  cases ht : s.room.queue.waiting.find? (·.id = n) with
  | none =>
    refine hact (u := s) ?_ (.refl _)
    unfold expire
    rw [outcome_bind, outcome_get]
    dsimp only
    rw [ht]
    rfl
  | some t =>
    have hout := outcome_expire ht time
    have hexp : s.stance.Even (s.expiring t time).stance := ⟨rfl, rfl, rfl, id⟩
    cases htask : t.task with
    | reply =>
      rw [htask] at hout
      exact hact hout hexp
    | listening generation task =>
      rw [htask] at hout
      dsimp only at hout
      by_cases hg : s.session.slot.generation = generation
      · -- A current timer acts, unless the session waits to be restarted by hand.
        rw [if_pos hg] at hout
        cases hneeds : s.stance.needsRestart with
        | true =>
          refine .even rfl ?_
          unfold Scene.after Occasion.act
          rw [hout]
          exact hexp.trans (even_perform (.inr hneeds))
        | false =>
          obtain ⟨xs, hxs⟩ := attempts_perform task (s.expiring t time)
          refine .attempted rfl xs (.inr ⟨⟨n, time, rfl⟩, hneeds⟩) ?_
          unfold Scene.after Succeeds Occasion.act
          rw [hout]
          exact hexp.then_attempted hxs
      · -- One that was replaced or cancelled is out of date and does nothing.
        rw [if_neg hg] at hout
        exact hact hout hexp

theorem fares_report (s : Scene δ) (which : Recognizer) (session : Nat) (report : Report) :
    s.Fares (.report which session report) := by
  -- Only a failure in the background counts against the session, and only what is heard there
  -- forgives.
  have heven : s.loses (.report which session report) = false →
      s.stance.Even ((take which report).outcome s).2.stance →
      s.Fares (.report which session report) := .even
  cases report with
  | ended => exact heven (by cases which <;> rfl) ((even_ended which).stance s)
  | heard heard =>
    cases which with
    | foreground => exact heven rfl ((even_heardInForeground heard).stance s)
    | background =>
      rcases even_heardInBackground heard s with h | ⟨hm, h⟩
      · exact heven rfl h
      · exact .forgiven rfl hm h
  | failed code =>
    cases which with
    | foreground =>
      refine heven rfl (StaysEven.stance (fun st => keeps_get.bind fun _ => ?_) s)
      exact ((even_permissionRevoked st).ite (even_finishCapture st)).ite (keeps_pure _)
    | background =>
      have hout : (take .background (.failed code)).outcome s =
          if s.stance.mode = .background then
            if code ∈ refusalCodes then permissionRevoked.outcome s else backgroundFailed.outcome s
          else (.ok (), s) := by
        show (if s.stance.mode = .background then
          if code ∈ refusalCodes then permissionRevoked else backgroundFailed
          else pure () : Act (Scene δ) Unit).outcome s = _
        split
        · split <;> rfl
        · rfl
      by_cases hm : s.stance.mode = .background
      · rw [if_pos hm] at hout
        by_cases hcode : code ∈ refusalCodes
        · rw [if_pos hcode] at hout
          refine heven (by simp [loses, hcode]) ?_
          rw [hout]
          exact even_permissionRevoked.stance s
        · rw [if_neg hcode] at hout
          refine .struck (by simp [loses, hm, hcode]) ?_
          unfold Succeeds Scene.after Occasion.act
          rw [hout]
          exact struck_backgroundFailed s
      · rw [if_neg hm] at hout
        refine heven (by simp [loses, hm]) ?_
        rw [hout]
        exact .refl _

theorem fares (s : Scene δ) (o : Occasion) : s.Fares o := by
  cases o with
  | start =>
    obtain ⟨xs, hxs⟩ := attempts_start.discard s
    exact .attempted rfl xs (.inl trivial) hxs
  | toggle =>
    cases hg : s.stance.isGranted with
    | true => exact .even rfl (even_toggle hg)
    | false =>
      obtain ⟨xs, hxs⟩ := attempts_toggle s
      exact .attempted rfl xs (.inl hg) hxs
  | restart =>
    have hafter : s.after .restart = (restart.outcome s).2 :=
      congrArg Prod.snd (outcome_discard restart s)
    rcases even_restart s with h | h
    · exact .even rfl (by rwa [hafter])
    · exact .forgiven rfl trivial (by rwa [hafter])
  | awaitCommand => exact .even rfl (even_awaitCommand.stance s)
  | requestPermission =>
    obtain ⟨xs, hxs⟩ := attempts_requestPermission.discard s
    exact .attempted rfl xs (.inl trivial) hxs
  | close => exact .even rfl (even_close.stance s)
  | report which session report => exact fares_report s which session report
  | timer n time => exact fares_timer s n time
  | clock time => exact .even rfl ⟨rfl, rfl, rfl, id⟩

end Scene

end Arcade
