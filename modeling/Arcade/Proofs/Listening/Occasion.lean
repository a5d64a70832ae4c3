import Arcade.Proofs.Listening.Stance
import Arcade.Proofs.Storage.Texts
import Arcade.Proofs.Timer.Fitting

/-!
# What may happen to a session

A session lives through occasions: somebody uses one of its controls, a recognizer reports
something, a timer goes off, or time passes. They come in any order. A report may come late, so it
names the session of its recognizer that it is about, which the listening session is not told. A
timer may go off at any time and in any order; moving the clock is one way in which timers do.

Some properties of scenes are kept whatever happens, also if calls of the host fail on the way. It
is enough to look at the few things that acts do to a scene (`Tended`).
-/

namespace Arcade

/-- What a recognizer tells. -/
inductive Report where
  | heard (heard : Heard)
  | failed (code : String)
  | ended

/-- What may happen to a listening session. -/
inductive Occasion where
  | start
  | toggle
  | restart
  | awaitCommand
  | requestPermission
  | close
  /-- A recognizer reports something about one of its sessions. -/
  | report (which : Recognizer) (session : Nat) (report : Report)
  /-- A timer goes off. -/
  | timer (id : Nat) (time : Float)
  | clock (time : Float)

/-- Whether an occasion is anything but the report of a refusal. -/
def Occasion.NoRefusal : Occasion → Prop
  | .report _ _ (.failed code) => code ∉ refusalCodes
  | _ => True

/-- The generation of the slot for which a task was made. -/
def Task.generation? : Task → Option Nat
  | .listening generation _ => some generation
  | .reply .. => none

/-- What a listening session wants to do later. -/
def Task.listening? : Task → Option ListeningTask
  | .listening _ task => some task
  | .reply .. => none

namespace Stance

variable (st : Stance)

/-- What is pending. -/
def pending? : Option ListeningTask := (st.slot.kept? st.queue).bind (·.task.listening?)

@[simp] theorem pending?_cancelled : st.cancelled.pending? = none := by
  unfold pending? cancelled
  rw [Slot.kept?_cancel]
  rfl

@[simp] theorem pending?_scheduled (delay : Float) (task : ListeningTask) :
    (st.scheduled delay task).pending? = some task := by
  unfold pending? scheduled
  rw [Slot.kept?_schedule]
  rfl

/-- Whether the player is asked for permission on an occasion. -/
def asks : Occasion → Bool
  | .requestPermission => true
  | .toggle => !st.isGranted
  | _ => false

/-- The stance once a timer went off, before anything is done about it. -/
def expiring (t : Timer Task) (time : Float) : Stance :=
  { st with
    slot := if t.task.generation? = some st.slot.generation
      then ⟨none, none, st.slot.generation⟩ else st.slot
    queue := st.queue.expired t.id time }

/-- Whether the timers are those that the session knows of. -/
def Timely : Prop := st.slot.Fits Task.generation? st.queue

namespace Timely

variable {st} (h : st.Timely)

include h

/-- Something is pending if the slot holds a timer. -/
theorem pending?_isSome : st.pending?.isSome = st.slot.isPending := by
  unfold pending?
  cases hk : st.slot.kept? st.queue with
  | none => exact ((Slot.kept?_eq_none_iff h).mp hk).symm
  | some t =>
    obtain ⟨-, htimer, hg⟩ := h.mem_of_kept? hk
    unfold Slot.isPending
    rw [htimer, Option.bind_some]
    cases ht : t.task with
    | listening => rfl
    | reply =>
      rw [ht] at hg
      cases hg

/-- The timer of the present generation is the one that is pending. -/
theorem pending?_eq_some {t : Timer Task} (ht : t ∈ st.queue.waiting) {task : ListeningTask}
    (htask : t.task = .listening st.slot.generation task) : st.pending? = some task := by
  have hg : t.task.generation? = some st.slot.generation := by
    rw [htask]
    rfl
  unfold pending?
  rw [h.kept?_eq_some ht hg, Option.bind_some, htask]
  rfl

/-- A timer of another generation leaves pending what is pending. -/
theorem pending?_expiring_of_ne {t : Timer Task} (ht : t ∈ st.queue.waiting)
    (hg : t.task.generation? ≠ some st.slot.generation) (time : Float) :
    (st.expiring t time).pending? = st.pending? := by
  unfold pending? expiring
  rw [if_neg hg]
  dsimp only
  rw [h.kept?_expired_other ht hg]

end Timely

/-- Once the timer of the present generation went off, nothing is pending. -/
theorem pending?_expiring {st : Stance} {t : Timer Task}
    (hg : t.task.generation? = some st.slot.generation) (time : Float) :
    (st.expiring t time).pending? = none := by
  unfold pending? expiring
  rw [if_pos hg]
  rfl

end Stance

namespace Scene

open Act

variable {δ α : Type}

/-- Does what a timer was made for. -/
def perform : ListeningTask → Act (Scene δ) Unit
  | .resume => resume
  | .capture => capture

/-- Takes a report of a recognizer. -/
def take (which : Recognizer) : Report → Act (Scene δ) Unit
  | .heard heard => hear Wiring.toHost which heard
  | .failed code => failed which code
  | .ended => ended which

/-- Lets a timer go off. -/
def expire (id : Nat) (time : Float) : Act (Scene δ) Unit := do
  match (← get).room.queue.waiting.find? (·.id = id) with
  | none => pure ()
  | some t =>
    modify fun s => { s with room := { s.room with queue := s.room.queue.expired id time } }
    goOff (fun _ _ => pure ()) t.task

/-- Sets the clock. -/
def setClock (time : Float) : Act (Scene δ) Unit :=
  modify fun s => { s with room := { s.room with queue := { s.room.queue with time := time } } }

end Scene

/-- What a session does on an occasion. -/
def Occasion.act {δ : Type} : Occasion → Act (Scene δ) Unit
  | .start => discard Scene.start
  | .toggle => Scene.toggle
  | .restart => discard Scene.restart
  | .awaitCommand => Scene.awaitCommand Wiring.toHost
  | .requestPermission => discard Scene.requestPermission
  | .close => Scene.close
  | .report which _ what => Scene.take which what
  | .timer id time => Scene.expire id time
  | .clock time => Scene.setClock time

namespace Scene

open Act

variable {δ α β : Type}

/-- The scene after an occasion, even if a fault ended the act. -/
def after (s : Scene δ) (o : Occasion) : Scene δ := (o.act.outcome s).2

/-- The scene after some occasions. -/
def run (s : Scene δ) (os : List Occasion) : Scene δ := os.foldl after s

@[simp] theorem run_nil (s : Scene δ) : s.run [] = s := rfl

@[simp] theorem run_cons (s : Scene δ) (o : Occasion) (os : List Occasion) :
    s.run (o :: os) = (s.after o).run os := rfl

theorem run_append (s : Scene δ) (xs ys : List Occasion) : s.run (xs ++ ys) = (s.run xs).run ys :=
  List.foldl_append

/-- Whether the player would let the arcade listen if asked now. -/
def consents (s : Scene δ) : Bool :=
  match s.equipment.prompt with
  | none => true
  | some granted => !s.refuses .askPermission && granted

/-- Whether the player lets the arcade listen on an occasion. -/
def Grants (s : Scene δ) (o : Occasion) : Prop := s.stance.asks o = true ∧ s.consents = true

theorem not_grants {s : Scene δ} {o : Occasion} (h : s.stance.asks o = false) : ¬s.Grants o := by
  unfold Grants
  rw [h]
  exact fun hgrants => Bool.noConfusion hgrants.1

/-! ## What is kept -/

/-- Whether only the calls, the voice and the like of a room have changed. -/
def Extends (r t : Room δ) : Prop :=
  t.host.equipment = r.host.equipment ∧ t.host.conduct = r.host.conduct ∧ t.queue = r.queue ∧
    t.storage = r.storage ∧ t.rest = r.rest ∧ r.host.deeds <+: t.host.deeds ∧
    t.preferences = r.preferences

theorem Extends.refl (r : Room δ) : Extends r r :=
  ⟨rfl, rfl, rfl, rfl, rfl, List.prefix_rfl, rfl⟩

theorem extends_call (c : HostCall) (r : Room δ) : Keeps (Extends r) (Room.call c) := by
  intro t ht
  unfold Room.call Room.onHost
  rw [outcome_within, Host.outcome_call]
  refine ⟨ht.1, ht.2.1, ht.2.2.1, ht.2.2.2.1, ht.2.2.2.2.1, ht.2.2.2.2.2.1.trans ?_,
    ht.2.2.2.2.2.2⟩
  show _ <+: (t.host.called c).deeds
  rw [Host.deeds_called]
  exact List.prefix_append _ _

theorem extends_callIf (wanted : Equipment → Bool) (c : HostCall) (r : Room δ) :
    Keeps (Extends r) (Room.callIf wanted c) :=
  keeps_get.bind fun _ => (extends_call c r).ite (keeps_pure _)

/-- An act that leaves alone what listening depends on extends the room. -/
theorem extends_of_undisturbed {a : Act (Room δ) α} (h : ∀ r, Keeps (Undisturbed r) a)
    (r : Room δ) : Keeps (Extends r) a := by
  intro t ht
  obtain ⟨he, hc, hq, hst, hrest, hd, hp⟩ := h t t ⟨rfl, rfl, rfl, rfl, rfl, rfl, rfl⟩
  exact ⟨he.trans ht.1, hc.trans ht.2.1, hq.trans ht.2.2.1, hst.trans ht.2.2.2.1,
    hrest.trans ht.2.2.2.2.1, hd ▸ ht.2.2.2.2.2.1, hp.trans ht.2.2.2.2.2.2⟩

/-- The scene once a timer went off, before anything is done about it. -/
def expiring (s : Scene δ) (t : Timer Task) (time : Float) : Scene δ where
  session := { s.session with
    slot := if t.task.generation? = some s.session.slot.generation
      then ⟨none, none, s.session.slot.generation⟩ else s.session.slot }
  room := { s.room with queue := s.room.queue.expired t.id time }

/-- A property that survives everything that acts do to a scene. -/
structure Tended (P : Scene δ → Prop) : Prop where
  session : ∀ {s : Scene δ} {x : Session}, x.pace = s.session.pace →
    x.slot = s.session.slot → x.permission = s.session.permission → P s → P { s with session := x }
  room : ∀ {s : Scene δ} {r : Room δ}, Extends s.room r → P s → P { s with room := r }
  schedule : ∀ {s : Scene δ} delay task, P s → P ((schedule delay task).outcome s).2
  cancelTimer : ∀ {s : Scene δ}, P s → P (cancelTimer.outcome s).2
  answer : ∀ {s : Scene δ}, P s → P s.lookedUp
  giveAnswer : ∀ {s : Scene δ} a, P s → P ((giveAnswer a).outcome s).2
  expiring : ∀ {s : Scene δ} {t : Timer Task} time, t ∈ s.room.queue.waiting → P s →
    P (s.expiring t time)
  setClock : ∀ {s : Scene δ} time, P s → P ((setClock time).outcome s).2

namespace Tended

variable {P : Scene δ → Prop} (hP : Tended P)

include hP

theorem keeps_change {f : Session → Session} (hf : ∀ x, (f x).pace = x.pace ∧
    (f x).slot = x.slot ∧ (f x).permission = x.permission) :
    Keeps P (change f) :=
  fun s hs => hP.session (hf s.session).1 (hf s.session).2.1 (hf s.session).2.2 hs

theorem keeps_inRoom {a : Act (Room δ) α} (ha : ∀ r, Keeps (Extends r) a) :
    Keeps P (inRoom a) :=
  fun s hs => hP.room (ha s.room s.room (.refl _)) hs

theorem keeps_answer : Keeps P Scene.answer := fun _ hs => hP.answer hs

theorem keeps_isGranted : Keeps P isGranted := hP.keeps_answer.bind fun _ => keeps_pure _

theorem keeps_refreshStatus : Keeps P refreshStatus := by
  refine Keeps.bind ?_ fun status => keeps_get.bind fun _ => Keeps.ite ?_ (keeps_pure _)
  · exact keeps_get.bind fun _ =>
      (hP.keeps_answer.bind fun _ => keeps_get.bind fun _ => keeps_pure _).ite (keeps_pure _)
  · exact (hP.keeps_change (by simp)).bind fun _ =>
      hP.keeps_inRoom fun r => extends_callIf _ _ r

theorem keeps_setMode (mode : Mode) : Keeps P (setMode mode) :=
  keeps_get.bind fun _ => Keeps.ite
    ((hP.keeps_change (by simp)).bind fun _ =>
      (hP.keeps_inRoom fun r => extends_callIf _ _ r).bind fun _ => hP.keeps_refreshStatus)
    (keeps_pure _)

theorem keeps_schedule (delay : Float) (task : ListeningTask) :
    Keeps P (Scene.schedule delay task) := fun _ hs => hP.schedule delay task hs

theorem keeps_cancelTimer : Keeps P Scene.cancelTimer := fun _ hs => hP.cancelTimer hs

theorem keeps_giveAnswer (a : Answer) : Keeps P (Scene.giveAnswer a) :=
  fun _ hs => hP.giveAnswer a hs

/-! ### Recognizers -/

theorem keeps_scheduleResume (delay : Float) : Keeps P (scheduleResume delay) :=
  keeps_get.bind fun _ => (hP.keeps_schedule delay .resume).ite (keeps_pure _)

theorem keeps_finishCapture : Keeps P finishCapture :=
  (hP.keeps_change (by simp)).bind fun _ =>
    (hP.keeps_setMode _).bind fun _ => keeps_get.bind fun _ => hP.keeps_scheduleResume _

theorem keeps_ended (which : Recognizer) : Keeps P (ended which) := by
  cases which with
  | background =>
    refine keeps_get.bind fun _ => Keeps.ite ?_ (keeps_pure _)
    exact hP.keeps_isGranted.bind fun _ => keeps_get.bind fun _ => (hP.keeps_setMode _).bind
      fun _ => (keeps_get.bind fun _ => hP.keeps_schedule _ _).ite (keeps_pure _)
  | foreground => exact keeps_get.bind fun _ => hP.keeps_finishCapture.ite (keeps_pure _)

theorem keeps_backgroundFailed : Keeps P backgroundFailed :=
  (hP.keeps_change (by simp)).bind fun _ => (hP.keeps_setMode _).bind
    fun _ => keeps_get.bind fun _ =>
      (hP.keeps_cancelTimer.bind fun _ => hP.keeps_refreshStatus).ite (hP.keeps_schedule _ _)

theorem keeps_permissionRevoked : Keeps P permissionRevoked :=
  hP.keeps_cancelTimer.bind fun _ => (hP.keeps_giveAnswer _).bind fun _ =>
    (hP.keeps_setMode _).bind fun _ => hP.keeps_refreshStatus

theorem keeps_callRecognizer (which : Recognizer) (c : RecognizerCall) :
    Keeps P (callRecognizer which c) := by
  refine keeps_get.bind fun _ => Keeps.ite ?_ ((keeps_throw _).bind fun _ => ?_)
  all_goals exact hP.keeps_inRoom fun r => extends_call _ r

theorem keeps_halt (which : Recognizer) (c : RecognizerCall) : Keeps P (halt which c).forgive :=
  ((hP.keeps_callRecognizer which c).bind fun _ => keeps_get.bind fun _ =>
    (hP.keeps_ended which).ite (keeps_pure _)).forgive

theorem keeps_dropCapture : Keeps P dropCapture :=
  (hP.keeps_change (by simp)).bind fun _ => hP.keeps_halt .foreground .abort

theorem keeps_startBackground : Keeps P startBackground := by
  refine keeps_get.bind fun _ => Keeps.ite ?_ (keeps_pure _)
  refine hP.keeps_isGranted.bind fun _ => keeps_get.bind fun _ => Keeps.ite ?_ (keeps_pure _)
  exact hP.keeps_cancelTimer.bind fun _ => (hP.keeps_setMode _).bind fun _ =>
    (hP.keeps_callRecognizer _ _).succeeds.bind fun _ =>
      (keeps_pure _).ite hP.keeps_backgroundFailed

theorem keeps_startForeground (mode : Mode) : Keeps P (startForeground mode) := by
  have hbegin : Keeps P (do
      change fun s => { s with capturing := true }
      unless ← (callRecognizer .foreground .start).succeeds do finishCapture) :=
    (hP.keeps_change (by simp)).bind fun _ =>
      (hP.keeps_callRecognizer _ _).succeeds.bind fun _ =>
        (keeps_pure _).ite hP.keeps_finishCapture
  exact hP.keeps_cancelTimer.bind fun _ => keeps_get.bind fun _ => (hP.keeps_setMode _).bind
    fun _ => ((hP.keeps_halt _ _).bind fun _ => hbegin).ite hbegin

/-! ### Controls -/

theorem keeps_start : Keeps P start := by
  refine (hP.keeps_change (by simp)).bind fun _ => keeps_get.bind fun _ => ?_
  have hrefused : Keeps P (do refreshStatus; return false) :=
    hP.keeps_refreshStatus.bind fun _ => keeps_pure _
  refine hrefused.ite (hP.keeps_isGranted.bind fun _ => hrefused.ite ?_)
  exact keeps_get.bind fun _ =>
    (hP.keeps_startBackground.bind fun _ => keeps_pure _).ite (keeps_pure _)

theorem keeps_askPlayer : Keeps P askPlayer := by
  refine keeps_get.bind fun _ => ?_
  split
  · exact keeps_pure _
  · exact (hP.keeps_inRoom fun r => extends_call _ r).succeeds.bind fun _ => keeps_pure _

theorem keeps_requestPermission : Keeps P requestPermission :=
  hP.keeps_askPlayer.bind fun _ => Keeps.ite
    ((hP.keeps_giveAnswer _).bind fun _ => hP.keeps_refreshStatus.bind fun _ =>
      hP.keeps_start.discard.bind fun _ => keeps_pure _)
    ((hP.keeps_giveAnswer _).bind fun _ => hP.keeps_refreshStatus.bind fun _ => keeps_pure _)

theorem keeps_toggle : Keeps P toggle := by
  refine hP.keeps_isGranted.bind fun _ => hP.keeps_requestPermission.discard.ite ?_
  refine keeps_get.bind fun _ => hP.keeps_refreshStatus.ite (keeps_get.bind fun _ => ?_)
  exact (hP.keeps_dropCapture.bind fun _ => (hP.keeps_setMode _).bind fun _ =>
    keeps_get.bind fun _ => hP.keeps_scheduleResume _).ite (hP.keeps_startForeground _)

theorem keeps_restart : Keeps P restart := by
  have hrest : Keeps P (do
      abort .background
      setMode .idle
      refreshStatus
      Scene.schedule (← get).session.pace.manualRestart .resume
      return true) :=
    (hP.keeps_halt _ _).bind fun _ => (hP.keeps_setMode _).bind fun _ =>
      hP.keeps_refreshStatus.bind fun _ => keeps_get.bind fun _ =>
        (hP.keeps_schedule _ _).bind fun _ => keeps_pure _
  refine hP.keeps_isGranted.bind fun _ => (keeps_pure _).ite (keeps_get.bind fun _ => ?_)
  refine (keeps_pure _).ite ((hP.keeps_change (by simp)).bind fun _ => ?_)
  exact hP.keeps_cancelTimer.bind fun _ => keeps_get.bind fun _ =>
    (hP.keeps_dropCapture.bind fun _ => hrest).ite hrest

/-- The mode changes to that of awaiting a command, and the command is awaited a little later. -/
theorem keeps_await : Keeps P (do
    let before := (← get).session.mode
    setMode .awaiting
    if before = .background then stop .background
    else if (← get).session.capturing then dropCapture
    Scene.schedule (← get).session.pace.promptDelay .capture) := by
  have hschedule : Keeps P (do
      Scene.schedule (← get).session.pace.promptDelay .capture) :=
    keeps_get.bind fun _ => hP.keeps_schedule _ _
  exact keeps_get.bind fun _ => (hP.keeps_setMode _).bind fun _ =>
    ((hP.keeps_halt _ _).bind fun _ => hschedule).ite
      (keeps_get.bind fun _ => (hP.keeps_dropCapture.bind fun _ => hschedule).ite hschedule)

theorem keeps_awaitCommand {w : Wiring δ} (hw : ∀ text, Keeps P (inRoom (w.respond text))) :
    Keeps P (awaitCommand w) :=
  keeps_get.bind fun _ => (hw _).bind fun _ => keeps_get.bind fun _ =>
    Keeps.ite (hP.keeps_isGranted.bind fun _ => hP.keeps_await.ite (keeps_pure _)) (keeps_pure _)

theorem keeps_close : Keeps P close :=
  hP.keeps_cancelTimer.bind fun _ => (hP.keeps_change (by simp)).bind fun _ =>
    (hP.keeps_halt _ _).bind fun _ => (hP.keeps_halt _ _).bind fun _ =>
      (hP.keeps_inRoom fun r => extends_of_undisturbed undisturbed_stopSpeaking r).bind fun _ =>
        (hP.keeps_setMode _).bind fun _ => hP.keeps_change (by simp)

/-! ### Reports and timers -/

theorem keeps_failed (which : Recognizer) (code : String) : Keeps P (failed which code) := by
  refine keeps_get.bind fun _ => ?_
  cases which with
  | background =>
    exact (hP.keeps_permissionRevoked.ite hP.keeps_backgroundFailed).ite (keeps_pure _)
  | foreground =>
    exact (hP.keeps_permissionRevoked.ite hP.keeps_finishCapture).ite (keeps_pure _)

theorem keeps_hear {w : Wiring δ} (hw : ∀ text, Keeps P (inRoom (w.respond text)))
    (hi : ∀ i, Keeps P (inRoom (w.intent i))) (which : Recognizer) (heard : Heard) :
    Keeps P (hear w which heard) := by
  cases which with
  | foreground =>
    exact keeps_get.bind fun _ =>
      (hP.keeps_finishCapture.bind fun _ => hi heard.intent).ite (keeps_pure _)
  | background =>
    refine keeps_get.bind fun _ => Keeps.ite ?_ (keeps_pure _)
    refine (hP.keeps_change (by simp)).bind fun _ => (keeps_lift _).bind fun command => ?_
    cases command with
    | none => exact keeps_pure _
    | some command =>
      refine (hP.keeps_awaitCommand hw).ite ((hP.keeps_setMode _).bind fun _ => ?_)
      exact (hP.keeps_halt _ _).bind fun _ => (hi _).bind fun _ =>
        keeps_get.bind fun _ => hP.keeps_scheduleResume _

theorem keeps_respond (text : Json) : Keeps P (inRoom (Wiring.toHost.respond text)) :=
  hP.keeps_inRoom fun r => extends_of_undisturbed (undisturbed_respond text) r

theorem keeps_take (which : Recognizer) (report : Report) : Keeps P (take which report) := by
  cases report with
  | ended => exact hP.keeps_ended which
  | failed code => exact hP.keeps_failed which code
  | heard heard =>
    exact hP.keeps_hear hP.keeps_respond
      (fun _ => hP.keeps_inRoom fun r => extends_callIf _ _ r) which heard

theorem keeps_perform (task : ListeningTask) : Keeps P (perform task) := by
  cases task with
  | resume => exact keeps_get.bind fun _ => hP.keeps_startBackground.ite (keeps_pure _)
  | capture => exact keeps_get.bind fun _ => (hP.keeps_startForeground _).ite (keeps_pure _)

end Tended

theorem outcome_expire_goOff {s : Scene δ} {id : Nat} {t : Timer Task}
    (ht : s.room.queue.waiting.find? (·.id = id) = some t) (time : Float) :
    (expire id time).outcome s = (goOff (fun _ _ => pure ()) t.task).outcome
      { s with room := { s.room with queue := s.room.queue.expired id time } } := by
  unfold expire
  rw [outcome_bind, outcome_get]
  dsimp only
  rw [ht]
  rfl

/-- A timer does what it was made for if its generation is the present one. -/
theorem outcome_expire {s : Scene δ} {id : Nat} {t : Timer Task}
    (ht : s.room.queue.waiting.find? (·.id = id) = some t) (time : Float) :
    (expire id time).outcome s =
      match t.task with
      | .listening generation task =>
        if s.session.slot.generation = generation then (perform task).outcome (s.expiring t time)
        else (.ok (), s.expiring t time)
      | .reply .. => (.ok (), s.expiring t time) := by
  rw [outcome_expire_goOff ht, ← (TimerQueue.mem_of_find? ht).2]
  unfold expiring
  cases t.task with
  | reply => rfl
  | listening generation task =>
    unfold goOff wakeUp Slot.fired?
    rw [outcome_bind, outcome_get]
    dsimp only
    have hown : (Task.listening generation task).generation? = some s.session.slot.generation ↔
        s.session.slot.generation = generation := by
      simp [Task.generation?, eq_comm]
    by_cases hg : s.session.slot.generation = generation
    · rw [if_pos hg, if_pos hg, if_pos (hown.mpr hg)]
      cases task <;> rfl
    · rw [if_neg hg, if_neg hg, if_neg (mt hown.mp hg)]
      rfl

/-- A timer that goes off while nothing is pending is none of the session's. -/
theorem outcome_expire_of_nothing {s : Scene δ} (ht : s.stance.Timely)
    (hnothing : s.session.slot.timer = none) (id : Nat) (time : Float) :
    ∃ queue, (expire id time).outcome s =
      (.ok (), { s with room := { s.room with queue := queue } }) := by
  cases hfind : s.room.queue.waiting.find? (·.id = id) with
  | none =>
    refine ⟨s.room.queue, ?_⟩
    unfold expire
    rw [outcome_bind, outcome_get]
    dsimp only
    rw [hfind]
    rfl
  | some t =>
    have hother : t.task.generation? ≠ some s.session.slot.generation := by
      intro hg
      have htimer : s.session.slot.timer = some t.id :=
        ht.current t (TimerQueue.mem_of_find? hfind).1 hg
      rw [hnothing] at htimer
      cases htimer
    have hexpiring : s.expiring t time =
        { s with room := { s.room with queue := s.room.queue.expired t.id time } } := by
      unfold expiring
      rw [if_neg hother]
    refine ⟨s.room.queue.expired t.id time, ?_⟩
    rw [outcome_expire hfind, hexpiring]
    cases htask : t.task with
    | reply => rfl
    | listening generation task =>
      refine if_neg fun hg => hother ?_
      rw [htask, Task.generation?, hg]

theorem Tended.keeps_expire {P : Scene δ → Prop} (hP : Tended P) (id : Nat) (time : Float) :
    Keeps P (expire id time) := by
  intro s hs
  cases ht : s.room.queue.waiting.find? (·.id = id) with
  | none =>
    unfold expire
    rw [outcome_bind, outcome_get]
    dsimp only
    rw [ht]
    exact hs
  | some t =>
    have hexp := hP.expiring time (TimerQueue.mem_of_find? ht).1 hs
    rw [outcome_expire ht]
    split
    · split
      · exact hP.keeps_perform _ _ hexp
      · exact hexp
    · exact hexp

/-- A tended property is kept on every occasion. -/
theorem Tended.after {P : Scene δ → Prop} (hP : Tended P) {s : Scene δ} (hs : P s)
    (o : Occasion) : P (s.after o) := by
  unfold Scene.after
  cases o with
  | start => exact hP.keeps_start.discard s hs
  | toggle => exact hP.keeps_toggle s hs
  | restart => exact hP.keeps_restart.discard s hs
  | awaitCommand => exact hP.keeps_awaitCommand hP.keeps_respond s hs
  | requestPermission => exact hP.keeps_requestPermission.discard s hs
  | close => exact hP.keeps_close s hs
  | report which _ what => exact hP.keeps_take which what s hs
  | timer id time => exact hP.keeps_expire id time s hs
  | clock time => exact hP.setClock time hs

theorem Tended.run {P : Scene δ → Prop} (hP : Tended P) {s : Scene δ} (hs : P s)
    (os : List Occasion) : P (s.run os) := by
  induction os generalizing s with
  | nil => exact hs
  | cons o os ih => exact ih (hP.after hs o)

/-! ## Tended properties -/

theorem tended_timely : Tended fun s : Scene δ => s.stance.Timely where
  session _ hslot _ h := by
    unfold Stance.Timely stance
    rwa [hslot]
  room hroom h := by
    unfold Stance.Timely stance
    rwa [hroom.2.2.1]
  schedule delay task h :=
    Slot.Fits.schedule h (fun _ => rfl : ∀ generation,
      (Task.listening generation task).generation? = some generation) delay
  cancelTimer h := Slot.Fits.cancel h
  answer h := h
  giveAnswer _ h := h
  expiring {s t} time ht h := by
    unfold Stance.Timely stance expiring
    dsimp only
    split
    · rename_i hg
      exact Slot.Fits.expired_own h ht hg time
    · rename_i hg
      exact Slot.Fits.expired_other h ht hg time
  setClock time h := Slot.Fits.withTime h time

/-- Whether answers of the player can be kept, unless the storage refuses. -/
def KeepsTexts (s : Scene δ) : Prop :=
  (∃ key, s.session.permission.key = .str key) ∧ s.room.storage.Textual

theorem tended_keepsTexts : Tended (KeepsTexts (δ := δ)) where
  session _ _ hperm h := by
    unfold KeepsTexts
    rwa [hperm]
  room hroom h := by
    unfold KeepsTexts
    rwa [hroom.2.2.2.1]
  schedule _ _ h := h
  cancelTimer h := h
  answer {s} h := by
    unfold KeepsTexts lookedUp Permission.lookUp
    split
    · exact h
    · exact ⟨h.1, h.2.get _⟩
  giveAnswer {s} a h := by
    obtain ⟨⟨key, hkey⟩, htext⟩ := h
    refine ⟨⟨key, hkey⟩, ?_⟩
    show (s.room.storage.set s.session.permission.key (.str a.text)).2.Textual
    rw [hkey]
    exact htext.set key a.text
  expiring _ _ h := h
  setClock _ h := h

/-- Giving an answer succeeds where texts are kept. -/
theorem outcome_giveAnswer {s : Scene δ} (h : s.KeepsTexts) (a : Answer) :
    ((giveAnswer a).outcome s).1 = .ok () := by
  obtain ⟨⟨key, hkey⟩, htext⟩ := h
  show Storage.passOver (s.room.storage.set s.session.permission.key (.str a.text)).1 = _
  rw [hkey]
  exact htext.passOver_set key a.text

/-- Whether a scene has the settings and the deeds of an earlier one. -/
def Continues (s₀ s : Scene δ) : Prop :=
  s.stance.pace = s₀.stance.pace ∧ s.stance.equipment = s₀.stance.equipment ∧
    s.stance.conduct = s₀.stance.conduct ∧ s₀.stance.deeds <+: s.stance.deeds

theorem Continues.refl (s : Scene δ) : Continues s s := ⟨rfl, rfl, rfl, List.prefix_rfl⟩

/-- Nothing changes what a session is set to, and deeds are not undone. -/
theorem tended_continues (s₀ : Scene δ) : Tended (Continues s₀) where
  session hpace _ _ h := ⟨hpace.trans h.1, h.2⟩
  room hroom h :=
    ⟨h.1, hroom.1.trans h.2.1, hroom.2.1.trans h.2.2.1, h.2.2.2.trans hroom.2.2.2.2.2.1⟩
  schedule _ _ h := h
  cancelTimer h := h
  answer h := h
  giveAnswer _ h := h
  expiring _ _ h := h
  setClock _ h := h

/-! ## Moving the clock -/

/-- Moving the clock to a time lets timers go off, one after another. -/
theorem exists_run_advanceTo {s : Scene δ} (h : s.stance.Timely) (target : Float) (fuel : Nat) :
    ∃ os : List Occasion,
      ((TimerQueue.advanceTo (fun s : Scene δ => s.room.queue)
        (fun s q => { s with room := { s.room with queue := q } })
        (goOff fun _ _ => pure ()) target fuel).outcome s).2 = s.run os ∧
      ∀ o ∈ os, o = .clock target ∨ ∃ t : Timer Task, o = .timer t.id t.deadline := by
  induction fuel generalizing s with
  | zero => exact ⟨[.clock target], rfl, by simp⟩
  | succ fuel ih =>
    unfold TimerQueue.advanceTo
    rw [outcome_bind, outcome_get]
    dsimp only
    cases hnext : s.room.queue.next? target with
    | none => exact ⟨[.clock target], rfl, by simp⟩
    | some next =>
      have hfits : s.session.slot.Fits Task.generation? s.room.queue := h
      obtain ⟨t, ht, hfind, rfl⟩ := TimerQueue.exists_of_next? hfits.distinct hnext
      dsimp only
      rw [outcome_bind, outcome_modify]
      dsimp only
      have hact := outcome_expire_goOff hfind t.deadline
      rw [outcome_bind, ← hact]
      have hafter := tended_timely.after h (.timer t.id t.deadline)
      unfold Scene.after Occasion.act at hafter
      rcases hout : (expire t.id t.deadline).outcome s with ⟨_ | _, u⟩
      · -- The clock stops at a timer whose task fails.
        refine ⟨[.timer t.id t.deadline], (congrArg Prod.snd hout).symm, fun o ho => ?_⟩
        exact .inr ⟨t, List.mem_singleton.mp ho⟩
      · rw [hout] at hafter
        obtain ⟨os, hrun, hos⟩ := ih hafter
        refine ⟨.timer t.id t.deadline :: os, ?_, ?_⟩
        · rw [run_cons, show s.after (.timer t.id t.deadline) = u from congrArg Prod.snd hout]
          exact hrun
        · intro o ho
          rcases List.mem_cons.mp ho with rfl | ho
          · exact .inr ⟨t, rfl⟩
          · exact hos o ho

/-- Moving the clock is a run in which timers go off. -/
theorem exists_run_advance {s : Scene δ} (h : s.stance.Timely) (seconds : Float) :
    ∃ os : List Occasion, ((advance (fun _ _ => pure ()) seconds).outcome s).2 = s.run os ∧
      ∀ o ∈ os, (∃ time, o = .clock time) ∨ ∃ id time, o = .timer id time := by
  obtain ⟨os, hrun, hos⟩ := exists_run_advanceTo h (s.room.queue.time + seconds)
    (2 * s.room.queue.waiting.length + (s.session.pace.maxErrors - s.session.errors).toNat + 2)
  refine ⟨os, ?_, fun o ho => ?_⟩
  · unfold advance
    rw [outcome_bind, outcome_get]
    exact hrun
  rcases hos o ho with rfl | ⟨t, rfl⟩
  · exact .inl ⟨_, rfl⟩
  · exact .inr ⟨_, _, rfl⟩

end Scene

end Arcade
