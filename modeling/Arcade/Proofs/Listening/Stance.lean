import Arcade.Listening.Hearing
import Arcade.Proofs.Host.Speaking

/-!
# The stance of a session

The stance of a session is all of its scene that listening depends on: what the session is set to,
its slot with the timers, the permission, and its deeds, which are the calls of recognizers and the
intents that it handed on. The rest of a scene (the status, what is said, preferences, the storage
beyond the permission, what other calls told the host) never decides what is listened for. An act
that leaves the stance alone is quiet.

The steps that all acts of a session are made of are told here by what they do to the stance. A host
is calm if it takes news of modes and statuses without failing; then none of these steps fails.
-/

namespace Arcade

/-- What a session did that others can notice. -/
inductive Deed where
  | recognizer (which : Recognizer) (call : RecognizerCall) (failed : Bool)
  | intent (intent : Intent) (failed : Bool)
deriving DecidableEq, Repr

/-- Whether a deed is the handing on of an intent. -/
def Deed.IsIntent : Deed → Prop
  | .intent .. => True
  | .recognizer .. => False

/-- The deed behind a call of the host. -/
def Deed.of? : HostCall × Bool → Option Deed
  | (.recognizer which call, failed) => some (.recognizer which call failed)
  | (.intent i, failed) => some (.intent i failed)
  | _ => none

/-- The deeds among the calls of a host. -/
def Host.deeds (h : Host) : List Deed := h.calls.filterMap Deed.of?

theorem Host.deeds_called (h : Host) (c : HostCall) :
    (h.called c).deeds = h.deeds ++ (Deed.of? (c, h.conduct.fails h.calls.length c)).toList := by
  unfold deeds called
  rw [List.filterMap_append]
  cases hd : Deed.of? (c, h.conduct.fails h.calls.length c) <;> simp [hd]

/-- What listening depends on. -/
structure Stance where
  pace : Pace
  equipment : Equipment
  conduct : Conduct
  slot : Slot
  queue : TimerQueue Task
  mode : Mode
  errors : Nat
  closed : Bool
  capturing : Bool
  /-- The answer of the player, looked up if need be. -/
  answer : Option Answer
  deeds : List Deed

namespace Stance

variable (st : Stance)

def isGranted : Bool := decide (st.answer = some .granted)

def needsRestart : Bool := decide (st.pace.maxErrors ≤ (st.errors : Int))

def isSupported : Bool := st.equipment.background || st.equipment.foreground

/-- The stance in another mode. -/
def inMode (mode : Mode) : Stance := { st with mode := mode }

/-- The stance after more deeds. -/
def did (deeds : List Deed) : Stance := { st with deeds := st.deeds ++ deeds }

/-- The stance with another answer of the player. -/
def answering (a : Answer) : Stance := { st with answer := some a }

/-- The stance with nothing pending. -/
def cancelled : Stance :=
  { st with slot := (st.slot.cancel st.queue).1, queue := (st.slot.cancel st.queue).2 }

/-- The stance with a task pending. -/
def scheduled (delay : Float) (task : ListeningTask) : Stance :=
  let make := fun generation => Task.listening generation task
  { st with
    slot := (st.slot.schedule st.queue delay make).1
    queue := (st.slot.schedule st.queue delay make).2 }

@[simp] theorem did_nil : st.did [] = st := by simp [did]

end Stance

/-- Whether a host takes news of modes and statuses without failing. -/
def Conduct.Calm (c : Conduct) : Prop :=
  (∀ n before after, c.fails n (.modeChanged before after) = false) ∧
    ∀ n status, c.fails n (.statusChanged status) = false

namespace Scene

open Act

variable {δ α : Type}

/-- What listening depends on in a scene. -/
def stance (s : Scene δ) : Stance where
  pace := s.session.pace
  equipment := s.room.host.equipment
  conduct := s.room.host.conduct
  slot := s.session.slot
  queue := s.room.queue
  mode := s.session.mode
  errors := s.session.errors
  closed := s.session.closed
  capturing := s.session.capturing
  answer := (s.session.permission.lookUp s.room.storage).1.answer
  deeds := s.room.host.deeds

/-- Whether an act leaves the stance alone, however it ends. -/
def Quiet (a : Act (Scene δ) α) : Prop := ∀ st, Keeps (fun s => s.stance = st) a

theorem Quiet.stance_eq {a : Act (Scene δ) α} (h : Quiet a) (s : Scene δ) :
    (a.outcome s).2.stance = s.stance := h s.stance s rfl

/-! ## Calls of the host -/

/-- The scene after one more call of the host. -/
def called (s : Scene δ) (c : HostCall) : Scene δ :=
  { s with room := { s.room with host := s.room.host.called c } }

/-- Whether the next call fails. -/
def refuses (s : Scene δ) (c : HostCall) : Bool :=
  s.room.host.conduct.fails s.room.host.calls.length c

theorem outcome_call (c : HostCall) (s : Scene δ) :
    (call c).outcome s = (if s.refuses c then .error c.fault else .ok (), s.called c) := by
  unfold call inRoom Room.call Room.onHost
  rw [outcome_within, outcome_within, Host.outcome_call]
  rfl

theorem stance_called (s : Scene δ) (c : HostCall) :
    (s.called c).stance = s.stance.did (Deed.of? (c, s.refuses c)).toList := by
  unfold stance called Stance.did
  rw [Host.deeds_called]
  rfl

theorem stance_called_of_none (s : Scene δ) {c : HostCall} (h : Deed.of? (c, s.refuses c) = none) :
    (s.called c).stance = s.stance := by
  rw [stance_called, h]
  exact Stance.did_nil _

/-- Whether an act on the room leaves alone what listening depends on, the preferences, and what the
session knows nothing about. -/
def Undisturbed (r t : Room δ) : Prop :=
  t.host.equipment = r.host.equipment ∧ t.host.conduct = r.host.conduct ∧ t.queue = r.queue ∧
    t.storage = r.storage ∧ t.rest = r.rest ∧ t.host.deeds = r.host.deeds ∧
    t.preferences = r.preferences

theorem undisturbed_call {c : HostCall} (hc : ∀ failed, Deed.of? (c, failed) = none) (r : Room δ) :
    Keeps (Undisturbed r) (Room.call c) := by
  intro t ht
  unfold Room.call Room.onHost
  rw [outcome_within, Host.outcome_call]
  refine ⟨ht.1, ht.2.1, ht.2.2.1, ht.2.2.2.1, ht.2.2.2.2.1, ?_, ht.2.2.2.2.2.2⟩
  rw [← ht.2.2.2.2.2.1]
  show (t.host.called c).deeds = _
  rw [Host.deeds_called, hc]
  exact List.append_nil _

theorem undisturbed_setSpeaking (b : Bool) (r : Room δ) :
    Keeps (Undisturbed r) (Room.setSpeaking b) := keeps_modify fun _ h => h

theorem undisturbed_speak (text : Json) (r : Room δ) : Keeps (Undisturbed r) (Room.speak text) :=
  Room.keeps_speak (undisturbed_call (fun _ => rfl) r)
    (fun _ _ _ _ => undisturbed_call (fun _ => rfl) r) (fun _ => undisturbed_setSpeaking _ r) text

theorem undisturbed_stopSpeaking (r : Room δ) : Keeps (Undisturbed r) Room.stopSpeaking :=
  Room.keeps_stopSpeaking (undisturbed_call (fun _ => rfl) r) fun _ => undisturbed_setSpeaking _ r

theorem undisturbed_respond (text : Json) (r : Room δ) :
    Keeps (Undisturbed r) (Wiring.toHost.respond text) :=
  keeps_get.bind fun _ =>
    (undisturbed_call (fun _ => rfl) r).ite (undisturbed_speak text r).discard

theorem quiet_inRoom {a : Act (Room δ) α} (h : ∀ r, Keeps (Undisturbed r) a) :
    Quiet (inRoom a) := by
  intro st s hs
  obtain ⟨he, hc, hq, hst, -, hd, -⟩ := h s.room s.room ⟨rfl, rfl, rfl, rfl, rfl, rfl, rfl⟩
  subst hs
  unfold inRoom
  rw [outcome_within]
  unfold stance
  rw [he, hc, hq, hst, hd]

/-! ## The answer of the player -/

/-- The scene once the answer was looked up. -/
def lookedUp (s : Scene δ) : Scene δ :=
  let found := s.session.permission.lookUp s.room.storage
  { s with
    session := { s.session with permission := found.1 }
    room := { s.room with storage := found.2 } }

theorem stance_lookedUp (s : Scene δ) : s.lookedUp.stance = s.stance := by
  unfold stance lookedUp
  simp only [Permission.lookUp_of_known (Permission.lookUp_known _ _)]

theorem outcome_answer (s : Scene δ) : answer.outcome s = (.ok s.stance.answer, s.lookedUp) := rfl

theorem outcome_isGranted (s : Scene δ) :
    isGranted.outcome s = (.ok s.stance.isGranted, s.lookedUp) := rfl

theorem quiet_answer : Quiet (answer : Act (Scene δ) (Option Answer)) := by
  intro st s hs
  rw [outcome_answer]
  exact (stance_lookedUp s).trans hs

/-- Giving an answer changes the stance even if the answer cannot be kept. -/
theorem stance_giveAnswer (a : Answer) (s : Scene δ) :
    ((giveAnswer a).outcome s).2.stance = s.stance.answering a := rfl

/-! ## Status and mode -/

theorem quiet_refreshStatus : Quiet (refreshStatus : Act (Scene δ) Unit) := by
  intro st
  refine Keeps.bind ?_ fun status => keeps_get.bind fun s => Keeps.ite ?_ (keeps_pure _)
  · refine keeps_get.bind fun s => Keeps.ite ?_ (keeps_pure _)
    exact (quiet_answer st).bind fun _ => keeps_get.bind fun _ => keeps_pure _
  · refine Keeps.bind (keeps_modify fun s hs => hs) fun _ => quiet_inRoom (fun r => ?_) st
    exact keeps_get.bind fun _ => (undisturbed_call (fun _ => rfl) r).ite (keeps_pure _)

/-- The mode changes even if the host fails when it is told. -/
theorem stance_setMode (mode : Mode) (s : Scene δ) :
    ((setMode mode).outcome s).2.stance = s.stance.inMode mode := by
  unfold setMode
  rw [outcome_bind, outcome_get]
  dsimp only
  split
  · refine keeps_bind_of (P := fun t : Scene δ => t.stance = s.stance.inMode mode) rfl
      fun _ t ht => ?_
    obtain rfl : ({ s with session := { s.session with mode := mode } } : Scene δ) = t :=
      (Prod.mk.inj ht).2
    refine Keeps.bind (quiet_inRoom (fun r => ?_) _) (fun _ => quiet_refreshStatus _) _ rfl
    exact keeps_get.bind fun _ => (undisturbed_call (fun _ => rfl) r).ite (keeps_pure _)
  · rename_i h
    rw [← Decidable.not_not.mp h]
    rfl

/-- A new session is what is left once its status was brought up to date. -/
theorem outcome_of_opened {pace : Pace} {permission : Permission} {room : Room δ} {s : Scene δ}
    (h : opened pace permission room = .ok s) :
    refreshStatus.outcome ⟨{ pace := pace, permission := permission }, room⟩ = (.ok (), s) := by
  unfold opened at h
  dsimp only at h
  rcases hr : refreshStatus.outcome (⟨{ pace := pace, permission := permission }, room⟩ : Scene δ)
    with ⟨e | x, t⟩
  · rw [hr] at h
    cases h
  · rw [hr] at h
    rw [← Except.ok.inj h]

end Scene

end Arcade
