import Arcade.Hub.Basic
import Arcade.Proofs.Ledger.Operation
import Arcade.Proofs.Listening.Occasion
import Arcade.Proofs.Timer.Tracking

/-!
# What may happen to the hub

The hub is used, by its host and its player, and other things happen to it: recognizers and the
synthesizer report, time passes and timers go off, also those that were cancelled if the queue is
stubborn. All of that comes in any order, and what the timers do not depend on may be changed from
elsewhere.

Some properties are kept whatever happens. It is enough to look at the few things that happen at a
desk (`Desk.Tended`) and to a hub (`Hub.Tended`). One of them is about the two slots that share the
queue, that of the listening session and that of the desk: each of them knows of the timers that are
its own (`Desk.Watched`).
-/

namespace Arcade

open Act

/-- The generation of the desk's slot for which a task was made. -/
def Task.replyGeneration? : Task → Option Nat
  | .listening .. => none
  | .reply generation _ => some generation

/-! ## What the desk keeps -/

namespace Desk

theorem extends_perform (task : ReplyTask) (r : Room Desk) :
    Keeps (Scene.Extends r) (perform task) := by
  cases task with
  | go path => exact (Scene.extends_callIf _ _ r).bind fun _ => Scene.extends_call _ r
  | close => exact Scene.extends_call _ r
  | reload => exact Scene.extends_call _ r

/-- A property that survives everything that happens at a desk besides acts on the ledger. -/
structure Tended (Q : Room Desk → Prop) : Prop where
  room : ∀ {r t : Room Desk}, Scene.Extends r t → Q r → Q t
  /-- What is on the desk but the slot, the ledger and the notices may change. -/
  desk : ∀ {r : Room Desk} {d : Desk}, d.slot = r.rest.slot → d.delays = r.rest.delays →
    d.ledger = r.rest.ledger → d.notices = r.rest.notices → Q r → Q { r with rest := d }
  prefer : ∀ {r : Room Desk} preferences, Q r → Q { r with preferences := preferences }
  later : ∀ delay task, Keeps Q (later delay task)
  cancelPending : Keeps Q cancelPending

namespace Tended

variable {Q : Room Desk → Prop} (hQ : Tended Q) {α : Type}

include hQ

theorem keeps_of_extends {a : Act (Room Desk) α} (ha : ∀ r, Keeps (Scene.Extends r) a) :
    Keeps Q a := fun r hr => hQ.room (ha r r (.refl r)) hr

theorem keeps_callIf (wanted : Equipment → Bool) (c : HostCall) :
    Keeps Q (Room.callIf wanted c) :=
  hQ.keeps_of_extends fun r => Scene.extends_callIf wanted c r

theorem keeps_speak (text : Json) : Keeps Q (Room.speak text) :=
  hQ.keeps_of_extends fun r => Scene.extends_of_undisturbed (Scene.undisturbed_speak text) r

theorem keeps_stopSpeaking : Keeps Q Room.stopSpeaking :=
  hQ.keeps_of_extends fun r => Scene.extends_of_undisturbed Scene.undisturbed_stopSpeaking r

theorem keeps_change {f : Desk → Desk} (hf : ∀ d, (f d).slot = d.slot ∧ (f d).delays = d.delays ∧
    (f d).ledger = d.ledger ∧ (f d).notices = d.notices) :
    Keeps Q (change f) := fun r hr =>
  hQ.desk (hf r.rest).1 (hf r.rest).2.1 (hf r.rest).2.2.1 (hf r.rest).2.2.2 hr

theorem keeps_prefer (name : String) (value : Json) : Keeps Q (Room.prefer name value) :=
  fun _ hr => hQ.prefer _ hr

theorem keeps_perform (task : ReplyTask) : Keeps Q (perform task) :=
  hQ.keeps_of_extends fun r => extends_perform task r

/-! ### Requests -/

omit hQ in
/-- What is kept on a desk is kept while a reply is made. -/
theorem keeps_note (f : Reply → Reply) : Keeps (fun t : Turn => Q t.room) (Turn.note f) :=
  fun _ ht => ht

omit hQ in
theorem keeps_inRoom {a : Act (Room Desk) α} (ha : Keeps Q a) :
    Keeps (fun t : Turn => Q t.room) (Turn.inRoom a) := fun t ht => ha t.room ht

variable {o : Outlet} (hrespond : ∀ text, Keeps Q (o.respond text))
  (hstop : Keeps Q o.stopSpeaking)

omit hQ in
include hrespond in
theorem keeps_say (text : Json) : Keeps (fun t : Turn => Q t.room) (Turn.say o text) :=
  (keeps_note _).bind fun _ => keeps_inRoom (hrespond text)

theorem keeps_go (path : String) : Keeps (fun t : Turn => Q t.room) (Turn.go path) :=
  (keeps_note _).bind fun _ => keeps_get.bind fun _ => keeps_inRoom (hQ.later _ _)

theorem keeps_changeVolume (step : Float) : Keeps Q (Turn.changeVolume step) :=
  keeps_get.bind fun _ => (keeps_lift _).bind fun _ =>
    (hQ.keeps_prefer _ _).bind fun _ => hQ.keeps_prefer _ _

include hrespond hstop in
theorem keeps_carryOut (now : Instant) (q : Request) :
    Keeps (fun t : Turn => Q t.room) (Turn.carryOut o now q) := by
  have hsay : ∀ text, Keeps (fun t : Turn => Q t.room) (Turn.say o text) := keeps_say hrespond
  have hwanted : ∀ (wanted : Turn → Bool) (delay : Turn → Float) (task : ReplyTask),
      Keeps (fun t : Turn => Q t.room) (do
        let t ← get
        if wanted t then Turn.inRoom (Desk.later (delay t) task)) := fun wanted delay task =>
    keeps_get.bind fun t => (keeps_inRoom (hQ.later _ task)).ite (keeps_pure _)
  unfold Turn.carryOut
  split
  case h_1 | h_2 => exact (hsay _).bind fun _ => hQ.keeps_go _
  case h_3 =>
    exact (hsay _).bind fun _ => (keeps_note _).bind fun _ =>
      hwanted (fun t => t.room.host.equipment.onClose) (fun t => t.room.rest.closeDelay) .close
  case h_4 =>
    refine Keeps.ite ?_ (hsay _)
    exact (keeps_inRoom (hQ.keeps_prefer _ _)).bind fun _ =>
      (keeps_inRoom (hQ.keeps_callIf _ _)).bind fun _ => hsay _
  case h_5 => exact hsay _
  case h_6 =>
    exact (hsay _).bind fun _ =>
      hwanted (fun t => t.room.host.equipment.reload) (fun t => t.room.rest.navigationDelay)
        .reload
  case h_7 => exact keeps_get.bind fun _ => (hsay _).bind fun _ => hQ.keeps_go _
  case h_8 => exact (keeps_note _).bind fun _ => keeps_inRoom (hQ.keeps_change (by simp))
  case h_9 | h_10 => exact (keeps_inRoom (hQ.keeps_changeVolume _)).bind fun _ => hsay _
  case h_11 =>
    exact (keeps_inRoom hstop).bind fun _ =>
      (keeps_inRoom (hQ.keeps_prefer _ _)).bind fun _ => hsay _
  all_goals exact hsay _

include hrespond hstop in
theorem keeps_reply (now : Instant) (q : Request) : Keeps Q (Desk.reply o now q) :=
  fun r hr => hQ.keeps_carryOut hrespond hstop now q ⟨r, { action := q.action }⟩ hr

end Tended

/-- Whether the slot of a listening session and that of the desk know of their timers in the queue
that they share. -/
structure Watched (slot : Slot) (r : Room Desk) : Prop where
  listening : slot.Tracks Task.generation? r.queue
  replies : r.rest.slot.Tracks Task.replyGeneration? r.queue
  delays : r.rest.delays = true

variable {slot : Slot} {r : Room Desk}

/-- Both slots know of their timers as long as the queue and the desk's slot stay the same. -/
theorem Watched.congr {t : Room Desk} (h : Watched slot r) (hq : t.queue = r.queue)
    (hslot : t.rest.slot = r.rest.slot) (hdelays : t.rest.delays = r.rest.delays) :
    Watched slot t := by
  refine ⟨?_, ?_, hdelays.trans h.delays⟩
  · rw [hq]
    exact h.listening
  · rw [hq, hslot]
    exact h.replies

/-- The room with a task delayed. -/
def delayed (r : Room Desk) (delay : Float) (task : ReplyTask) : Room Desk :=
  { r with
    queue := (r.rest.slot.schedule r.queue delay fun g => .reply g task).2
    rest := { r.rest with
      slot := (r.rest.slot.schedule r.queue delay fun g => .reply g task).1 } }

theorem outcome_later (h : r.rest.delays = true) (delay : Float) (task : ReplyTask) :
    (later delay task).outcome r = (.ok (), delayed r delay task) := by
  unfold later
  rw [outcome_bind, outcome_get]
  dsimp only
  rw [if_pos h, outcome_set]
  rfl

theorem watched_later (delay : Float) (task : ReplyTask) :
    Keeps (Watched slot) (later delay task) := by
  intro r hr
  have hown : ∀ g, (Task.reply g task).replyGeneration? = some g := fun _ => rfl
  have hother : ∀ g, (Task.reply g task).generation? = none := fun _ => rfl
  rw [outcome_later hr.delays]
  exact ⟨hr.listening.schedule_other r.rest.slot hother delay, hr.replies.schedule hown delay,
    hr.delays⟩

/-- The room with what is delayed dropped. -/
def dropped (r : Room Desk) : Room Desk :=
  { r with
    queue := (r.rest.slot.cancel r.queue).2
    rest := { r.rest with slot := (r.rest.slot.cancel r.queue).1 } }

theorem outcome_cancelPending (h : r.rest.delays = true) :
    cancelPending.outcome r = (.ok (), dropped r) := by
  unfold cancelPending
  rw [outcome_bind, outcome_get]
  dsimp only
  rw [if_pos h, outcome_set]
  rfl

theorem watched_cancelPending : Keeps (Watched slot) cancelPending := by
  intro r hr
  rw [outcome_cancelPending hr.delays]
  exact ⟨hr.listening.mono (Slot.waiting_cancel_sublist _ _) (Slot.cancel_stubborn _ _),
    hr.replies.cancel, hr.delays⟩

theorem tended_watched (slot : Slot) : Tended (Watched slot) where
  room hroom hr := hr.congr hroom.2.2.1 (congrArg Desk.slot hroom.2.2.2.2.1)
    (congrArg Desk.delays hroom.2.2.2.2.1)
  desk hslot hdelays _ _ hr := hr.congr rfl hslot hdelays
  prefer _ hr := hr.congr rfl rfl rfl
  later delay task := watched_later delay task
  cancelPending := watched_cancelPending

end Desk

namespace Scene

variable {δ : Type}

/-- A listening session does not touch what it knows nothing about. -/
theorem tended_rest (d : δ) : Tended fun s : Scene δ => s.room.rest = d where
  session _ _ _ h := h
  room hroom h := hroom.2.2.2.2.1.trans h
  schedule _ _ h := h
  cancelTimer h := h
  answer h := h
  giveAnswer _ h := h
  expiring _ _ h := h
  setClock _ h := h

/-- What survives everything that acts do to a scene holds of a new one. -/
theorem Tended.of_opened {P : Scene δ → Prop} (hP : Tended P) {pace : Pace}
    {permission : Permission} {room : Room δ} {s : Scene δ}
    (h : opened pace permission room = .ok s)
    (hs : P ⟨{ pace := pace, permission := permission }, room⟩) : P s := by
  have hkept := hP.keeps_refreshStatus _ hs
  rwa [outcome_of_opened h] at hkept

theorem room_of_opened {pace : Pace} {permission : Permission} {room : Room δ} {s : Scene δ}
    (h : opened pace permission room = .ok s) :
    s.room.queue = room.queue ∧ s.room.rest = room.rest := by
  have hqueue := congrArg Stance.queue
    (quiet_refreshStatus.stance_eq ⟨{ pace := pace, permission := permission }, room⟩)
  rw [outcome_of_opened h] at hqueue
  exact ⟨hqueue, (tended_rest room.rest).of_opened h rfl⟩

end Scene

/-! ## What happens -/

namespace Hub

/-- Lets a timer go off, wherever it came from. -/
def expire (id : Nat) (time : Float) : Act Hub Unit := do
  match (← get).room.queue.waiting.find? (·.id = id) with
  | none => pure ()
  | some t =>
    modify fun h => { h with room := { h.room with queue := h.room.queue.expired id time } }
    Scene.goOff Desk.goOff t.task

/-- What happens to a hub while nobody uses it. -/
inductive Incident where
  /-- A recognizer reports something. -/
  | report (which : Recognizer) (report : Report)
  /-- The synthesizer tells that it speaks or that it ended or failed. -/
  | speech (speaking : Bool)
  /-- A timer goes off, which may have been cancelled if the queue is stubborn. -/
  | timer (id : Nat) (time : Float)
  /-- Time passes. -/
  | elapse (seconds : Float)

/-- What the hub does about an incident at an instant. -/
def Incident.act (now : Instant) : Incident → Act Hub Unit
  | .report which (.heard heard) => Scene.hear (wiring now) which heard
  | .report which (.failed code) => Scene.failed which code
  | .report which .ended => Scene.ended which
  | .speech speaking => Scene.inRoom (Room.setSpeaking speaking)
  | .timer id time => expire id time
  | .elapse seconds => advance seconds

/-- What the host and the player can use of a hub, and what can be changed from elsewhere. -/
inductive Use where
  | start
  | close
  | submit (typed : Heard)
  | settle
  | listen
  | toggle
  | restart
  | awaitCommand
  | requestPermission
  | closeSession
  | speak (text : Json)
  | stopSpeaking
  | respond (text : Json)
  | request (q : Request)
  | cancelPending
  /-- Anything that is asked of the ledger. -/
  | onLedger (a : Act Shelf Unit)
  /-- The conduct of the host, the storage, the preferences and the permission of the player, and
  what is on the desk are changed. -/
  | elsewhere (conduct : Conduct) (storage : Storage) (preferences : Preferences)
      (permission : Permission) (chat : Option Chat) (ledger : Option Ledger)

/-- What the hub does when it is used at an instant. -/
def Use.act (now : Instant) : Use → Act Hub Unit
  | .start => Hub.start now
  | .close => Hub.close
  | .submit typed => discard (Hub.submit typed now)
  | .settle => discard (Hub.settle now)
  | .listen => discard Scene.start
  | .toggle => Scene.toggle
  | .restart => discard Scene.restart
  | .awaitCommand => Scene.awaitCommand (wiring now)
  | .requestPermission => discard Scene.requestPermission
  | .closeSession => Scene.close
  | .speak text => discard (Scene.inRoom (Room.speak text))
  | .stopSpeaking => Scene.inRoom Room.stopSpeaking
  | .respond text => Scene.inRoom ((wiring now).respond text)
  | .request q => discard (Scene.inRoom (Desk.reply (outlet now) now q))
  | .cancelPending => Scene.inRoom Desk.cancelPending
  | .onLedger a => Scene.inRoom (onShelf a)
  | .elsewhere conduct storage preferences permission chat ledger =>
    modify fun h =>
      { h with
        session := { h.session with permission := permission }
        room := { h.room with
          host := { h.room.host with conduct := conduct }
          storage := storage
          preferences := preferences
          rest := { h.room.rest with chat := chat, ledger := ledger } } }

/-- The hubs that come about from new ones by use and by incidents. -/
inductive Reachable : Hub → Prop
  /-- A new hub, whose queue may be stubborn. -/
  | opened {settings : Settings} {host : Host} {storage : Storage} {preferences : Preferences}
      {now : Instant} {h : Hub} (opens : Hub.opened settings host storage preferences now = .ok h)
      (stubborn : Bool) :
      Reachable { h with room := { h.room with queue := { h.room.queue with stubborn } } }
  | used {h : Hub} (reachable : Reachable h) (u : Use) (now : Instant) :
      Reachable ((u.act now).outcome h).2
  | befallen {h : Hub} (reachable : Reachable h) (i : Incident) (now : Instant) :
      Reachable ((i.act now).outcome h).2

/-- Whether using a hub has nothing to do with its ledger. -/
def Use.Aside : Use → Prop
  | .start | .settle | .onLedger _ | .elsewhere .. => False
  | _ => True

variable {α : Type} {h : Hub}

/-! ## Timers that go off -/

/-- The hub after a timer of the desk went off, before anything is done about it. -/
def replying (h : Hub) (t : Timer Task) (time : Float) : Hub :=
  { h with room := { h.room with
    queue := h.room.queue.expired t.id time
    rest := { h.room.rest with
      slot := if t.task.replyGeneration? = some h.room.rest.slot.generation
        then ⟨none, none, h.room.rest.slot.generation⟩ else h.room.rest.slot } } }

/-- The task of a timer that went off is carried out only if its slot has not moved on. -/
theorem outcome_goOff (h : Hub) (t : Timer Task) (time : Float) :
    (Scene.goOff Desk.goOff t.task).outcome
        { h with room := { h.room with queue := h.room.queue.expired t.id time } } =
      match t.task with
      | .listening generation task =>
        if h.session.slot.generation = generation then
          (Scene.perform task).outcome (h.expiring t time)
        else (.ok (), h.expiring t time)
      | .reply generation task =>
        if h.room.rest.slot.generation = generation then
          (Scene.inRoom (Desk.perform task)).outcome (h.replying t time)
        else (.ok (), h.replying t time) := by
  unfold Scene.expiring Hub.replying
  cases t.task with
  | listening generation task =>
    unfold Scene.goOff Scene.wakeUp Slot.fired?
    rw [outcome_bind, outcome_get]
    dsimp only
    have hown : (Task.listening generation task).generation? = some h.session.slot.generation ↔
        h.session.slot.generation = generation := by
      simp [Task.generation?, eq_comm]
    by_cases hg : h.session.slot.generation = generation
    · rw [if_pos hg, if_pos hg, if_pos (hown.mpr hg)]
      cases task <;> rfl
    · rw [if_neg hg, if_neg hg, if_neg (mt hown.mp hg)]
      rfl
  | reply generation task =>
    unfold Scene.goOff Desk.goOff Slot.fired? Scene.inRoom
    rw [outcome_within, outcome_bind, outcome_get]
    dsimp only
    have hown : (Task.reply generation task).replyGeneration? =
        some h.room.rest.slot.generation ↔ h.room.rest.slot.generation = generation := by
      simp [Task.replyGeneration?, eq_comm]
    by_cases hg : h.room.rest.slot.generation = generation
    · rw [if_pos hg, if_pos hg, if_pos (hown.mpr hg)]
      cases task <;> rfl
    · rw [if_neg hg, if_neg hg, if_neg (mt hown.mp hg)]
      rfl

/-! ## What the hub keeps -/

/-- A property that survives everything that happens to a hub besides acts on the ledger. -/
structure Tended (P : Hub → Prop) : Prop extends Scene.Tended P where
  desk : ∀ session, Desk.Tended fun r => P ⟨session, r⟩
  replying : ∀ {h : Hub} {t : Timer Task} time, t ∈ h.room.queue.waiting → P h →
    P (h.replying t time)

namespace Tended

variable {P : Hub → Prop} (hP : Tended P)

/-- What is kept at the desk of every session is kept by the hub. -/
theorem keeps_atDesk {a : Act (Room Desk) α} (ha : ∀ session, Keeps (fun r => P ⟨session, r⟩) a) :
    Keeps P (Scene.inRoom a : Act Hub α) := fun h hh => ha h.session h.room hh

include hP

/-! ### Answers and intents -/

variable (now : Instant)

theorem keeps_addToChat (author : Author) (content : Json) (session : Session) :
    Keeps (fun r => P ⟨session, r⟩) (addToChat author content now) :=
  (hP.desk session).keeps_change (by simp)

theorem keeps_outlet (text : Json) (session : Session) :
    Keeps (fun r => P ⟨session, r⟩) ((outlet now).respond text) :=
  ((hP.desk session).keeps_change (by simp)).bind fun _ =>
    ((hP.desk session).keeps_speak text).discard

theorem keeps_reply (q : Request) (session : Session) :
    Keeps (fun r => P ⟨session, r⟩) (Desk.reply (outlet now) now q) :=
  (hP.desk session).keeps_reply (fun text => hP.keeps_outlet now text session)
    (hP.desk session).keeps_stopSpeaking now q

theorem keeps_carryOut (i : Intent) (session : Session) :
    Keeps (fun r => P ⟨session, r⟩) (carryOut now i) :=
  (hP.keeps_reply now _ session).bind fun _ =>
    ((hP.desk session).keeps_change (by simp)).bind fun _ => keeps_pure _

theorem keeps_respond (text : Json) : Keeps P (Scene.inRoom ((wiring now).respond text)) :=
  keeps_atDesk fun session => (hP.keeps_addToChat now _ _ session).bind fun _ =>
    ((hP.desk session).keeps_speak text).discard

theorem keeps_intent (i : Intent) : Keeps P (Scene.inRoom ((wiring now).intent i)) :=
  keeps_atDesk fun session => (hP.keeps_addToChat now _ _ session).bind fun _ =>
    (hP.keeps_carryOut now i session).discard

theorem keeps_submit (typed : Heard) : Keeps P (submit typed now) := by
  cases typed with
  | nothing => exact keeps_pure _
  | noise => exact keeps_throw _
  | words text =>
    refine Keeps.ite (keeps_pure _) ?_
    refine (keeps_atDesk fun session => hP.keeps_addToChat now _ _ session).bind fun _ => ?_
    refine Keeps.ite ?_ ?_
    · exact (hP.keeps_awaitCommand (hP.keeps_respond now)).bind fun _ => keeps_pure _
    · exact (keeps_atDesk fun session => hP.keeps_carryOut now _ session).bind fun _ =>
        keeps_pure _

/-! ### Timers -/

theorem goOff {t : Timer Task} (hh : P h) (ht : t ∈ h.room.queue.waiting) (time : Float) :
    P ((Scene.goOff Desk.goOff t.task).outcome
      { h with room := { h.room with queue := h.room.queue.expired t.id time } }).2 := by
  have hexpiring := hP.expiring time ht hh
  have hreplying := hP.replying time ht hh
  rw [outcome_goOff]
  split
  · split
    · exact hP.keeps_perform _ _ hexpiring
    · exact hexpiring
  · split
    · exact keeps_atDesk (fun session => (hP.desk session).keeps_perform _) _ hreplying
    · exact hreplying

theorem keeps_expire (id : Nat) (time : Float) : Keeps P (expire id time) := by
  intro h hh
  unfold expire
  rw [outcome_bind, outcome_get]
  dsimp only
  cases ht : h.room.queue.waiting.find? (·.id = id) with
  | none => exact hh
  | some t =>
    obtain ⟨hmem, rfl⟩ := TimerQueue.mem_of_find? ht
    exact hP.goOff hh hmem time

/-- Time passes by letting the timers go off that are due, one after another. -/
theorem keeps_advanceTo (target : Float) (fuel : Nat) :
    Keeps P (TimerQueue.advanceTo (fun h : Hub => h.room.queue)
      (fun h q => { h with room := { h.room with queue := q } }) (Scene.goOff Desk.goOff) target
      fuel) := by
  -- Every timer that goes off may make others that are due, hence the induction on how many may.
  induction fuel with
  | zero => exact fun h hh => hP.setClock target hh
  | succ fuel ih =>
    refine fun h hh => ?_
    unfold TimerQueue.advanceTo
    rw [outcome_bind, outcome_get]
    dsimp only
    cases hnext : h.room.queue.next? target with
    | none => exact hP.setClock target hh
    | some next =>
      obtain ⟨t, q⟩ := next
      obtain ⟨hmem, hq⟩ := TimerQueue.mem_of_next? hnext
      dsimp only at hmem hq
      subst hq
      have hfired := hP.goOff hh hmem t.deadline
      dsimp only
      rw [outcome_bind, outcome_modify]
      exact keeps_bind_of hfired fun _ u hu => ih u (by rwa [hu] at hfired)

/-! ### Incidents and use -/

theorem keeps_incident (i : Incident) : Keeps P (i.act now) := by
  cases i with
  | report which report =>
    cases report with
    | heard heard => exact hP.keeps_hear (hP.keeps_respond now) (hP.keeps_intent now) which heard
    | failed code => exact hP.keeps_failed which code
    | ended => exact hP.keeps_ended which
  | speech speaking =>
    exact hP.keeps_inRoom fun _ => keeps_modify fun _ hr => hr
  | timer id time => exact hP.keeps_expire id time
  | elapse seconds => exact keeps_get.bind fun _ => hP.keeps_advanceTo _ _

theorem keeps_use {u : Use} (hu : u.Aside) : Keeps P (u.act now) := by
  cases u with
  | start | settle | onLedger | elsewhere => exact hu.elim
  | close =>
    exact (keeps_atDesk fun session => (hP.desk session).cancelPending).bind fun _ =>
      hP.keeps_close
  | submit typed => exact (hP.keeps_submit now typed).discard
  | listen => exact hP.keeps_start.discard
  | toggle => exact hP.keeps_toggle
  | restart => exact hP.keeps_restart.discard
  | awaitCommand => exact hP.keeps_awaitCommand (hP.keeps_respond now)
  | requestPermission => exact hP.keeps_requestPermission.discard
  | closeSession => exact hP.keeps_close
  | speak text => exact (keeps_atDesk fun session => (hP.desk session).keeps_speak text).discard
  | stopSpeaking => exact keeps_atDesk fun session => (hP.desk session).keeps_stopSpeaking
  | respond text => exact hP.keeps_respond now text
  | request q => exact (keeps_atDesk fun session => hP.keeps_reply now q session).discard
  | cancelPending => exact keeps_atDesk fun session => (hP.desk session).cancelPending

end Tended

/-! ## Both slots know of their timers -/

/-- Whether both slots of a hub know of their timers. -/
def Watched (h : Hub) : Prop := Desk.Watched h.session.slot h.room

theorem tended_watched : Tended Watched where
  session _ hslot _ h := by
    unfold Watched
    rwa [hslot]
  room hroom h :=
    h.congr hroom.2.2.1 (congrArg Desk.slot hroom.2.2.2.2.1)
      (congrArg Desk.delays hroom.2.2.2.2.1)
  schedule {s} delay task h :=
    have hown : ∀ g, (Task.listening g task).generation? = some g := fun _ => rfl
    have hother : ∀ g, (Task.listening g task).replyGeneration? = none := fun _ => rfl
    ⟨h.listening.schedule hown delay, h.replies.schedule_other s.session.slot hother delay,
      h.delays⟩
  cancelTimer h :=
    ⟨h.listening.cancel,
      h.replies.mono (Slot.waiting_cancel_sublist _ _) (Slot.cancel_stubborn _ _), h.delays⟩
  answer h := ⟨h.listening, h.replies, h.delays⟩
  giveAnswer _ h := ⟨h.listening, h.replies, h.delays⟩
  expiring time ht h :=
    ⟨h.listening.expired ht time, h.replies.mono List.filter_sublist rfl, h.delays⟩
  setClock _ h :=
    ⟨h.listening.mono (List.Sublist.refl _) rfl, h.replies.mono (List.Sublist.refl _) rfl,
      h.delays⟩
  desk session := Desk.tended_watched session.slot
  replying time ht h :=
    ⟨h.listening.mono List.filter_sublist rfl, h.replies.expired ht time, h.delays⟩

theorem watched_onShelf (a : Act Shelf α) :
    Keeps Watched (Scene.inRoom (onShelf a) : Act Hub α) := by
  refine Tended.keeps_atDesk fun session r hr => ?_
  unfold onShelf
  rw [outcome_ofOutcome]
  split
  · exact hr
  · exact hr.congr rfl rfl rfl

theorem watched_use (now : Instant) (u : Use) : Keeps Watched (u.act now) := by
  cases u with
  | start =>
    exact (watched_onShelf _).discard.bind fun _ => tended_watched.keeps_start.discard
  | settle => exact (watched_onShelf _).discard
  | onLedger a => exact watched_onShelf a
  | elsewhere => exact fun h hh => hh.congr rfl rfl rfl
  | _ => exact tended_watched.keeps_use now trivial

/-! ## Hubs that come about -/

/-- A new hub is a new session in a room of the host, with a chat, a new ledger and timers for what
is delayed. -/
theorem opened_eq_ok {settings : Settings} {host : Host} {storage : Storage}
    {preferences : Preferences} {now : Instant}
    (opens : Hub.opened settings host storage preferences now = .ok h) :
    ∃ ledger permission chat pace voice, ∃ desk : Desk, Ledger.start settings now = .ok ledger ∧
      Permission.ofSettings settings = .ok permission ∧ desk.delays = true ∧
      Scene.opened pace permission ⟨host, .empty, storage, preferences, voice,
        { desk with
          chat := some chat
          ledger := some (Shelf.subscribe ⟨ledger, storage⟩ .notices).ledger }⟩ = .ok h := by
  unfold Hub.opened at opens
  obtain ⟨ledger, hledger, opens⟩ := bind_eq_ok.1 opens
  obtain ⟨permission, hpermission, opens⟩ := bind_eq_ok.1 opens
  obtain ⟨chat, -, opens⟩ := bind_eq_ok.1 opens
  obtain ⟨pace, -, opens⟩ := bind_eq_ok.1 opens
  obtain ⟨voice, -, opens⟩ := bind_eq_ok.1 opens
  obtain ⟨desk, hdesk, opens⟩ := bind_eq_ok.1 opens
  refine ⟨ledger, permission, chat, pace, voice, desk, hledger, hpermission, ?_, opens⟩
  unfold Desk.ofSettings at hdesk
  obtain ⟨_, -, hdesk⟩ := bind_eq_ok.1 hdesk
  obtain ⟨_, -, hdesk⟩ := bind_eq_ok.1 hdesk
  obtain ⟨_, -, hdesk⟩ := bind_eq_ok.1 hdesk
  rw [← Except.ok.inj hdesk]

/-- There is a chat in a new hub, and timers for what is delayed. -/
theorem exists_of_opened {settings : Settings} {host : Host} {storage : Storage}
    {preferences : Preferences} {now : Instant}
    (opens : Hub.opened settings host storage preferences now = .ok h) :
    ∃ (pace : Pace) (permission : Permission) (voice : Voice) (chat : Chat) (desk : Desk),
      desk.chat = some chat ∧ desk.delays = true ∧
        Scene.opened pace permission ⟨host, .empty, storage, preferences, voice, desk⟩ = .ok h := by
  obtain ⟨_, permission, chat, pace, voice, desk, -, -, hdelays, hscene⟩ := opened_eq_ok opens
  exact ⟨pace, permission, voice, chat, { desk with chat := some chat, ledger := _ }, rfl, hdelays,
    hscene⟩

/-- Nothing waits in a new hub, and what it delays it delays by timers. -/
theorem waiting_opened {settings : Settings} {host : Host} {storage : Storage}
    {preferences : Preferences} {now : Instant}
    (opens : Hub.opened settings host storage preferences now = .ok h) :
    h.room.queue.waiting = [] ∧ h.room.rest.delays = true := by
  obtain ⟨_, _, _, _, _, -, hdelays, hscene⟩ := exists_of_opened opens
  obtain ⟨hqueue, hrest⟩ := Scene.room_of_opened hscene
  rw [hqueue, hrest]
  exact ⟨rfl, hdelays⟩

/-- Both slots of a reachable hub know of their timers. -/
theorem Reachable.watched (hr : h.Reachable) : h.Watched := by
  induction hr with
  | opened opens stubborn =>
    obtain ⟨hwaiting, hdelays⟩ := waiting_opened opens
    exact ⟨Slot.tracks_of_waiting_eq_nil hwaiting, Slot.tracks_of_waiting_eq_nil hwaiting, hdelays⟩
  | used _ u now ih => exact watched_use now u _ ih
  | befallen _ i now ih => exact tended_watched.keeps_incident now i _ ih

end Hub

end Arcade
