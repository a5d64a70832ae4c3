import Arcade.Host.Room
import Arcade.Permission

/-!
# Listening sessions

A listening session decides which recognizer listens. It counts the errors in a row, remembers the
permission of the player and has one slot for what it will do later. The status follows from the
rest, and the host is told when it changes.

Acts of a session take place in a scene: the session with its room.
-/

namespace Arcade

/-- Limits, delays in seconds and texts of a listening session. -/
structure Pace where
  /-- The errors in a row after which listening has to be started by hand. -/
  maxErrors : Int
  backoffBase : Float
  backoffCap : Float
  restartAfterEnd : Float
  manualRestart : Float
  promptDelay : Float
  cooldown : Float
  /-- What is said after the wake phrase alone. -/
  prompt : Json
  language : Json
deriving DecidableEq, Repr

/-- A pace as in the settings. -/
def Pace.ofSettings (s : Settings) : Except Fault Pace := do
  let seconds (name : String) (default : Float) : Except Fault Float :=
    (s.get ("voice." ++ name) (Settings.seconds default)).toDouble
  return {
    maxErrors := ← (s.get "voice.max_consecutive_errors" (.int 3)).toInt
    backoffBase := ← seconds "backoff_base_seconds" 3
    backoffCap := ← seconds "backoff_cap_seconds" 30
    restartAfterEnd := ← seconds "restart_after_end_seconds" 1
    manualRestart := ← seconds "manual_restart_delay_seconds" 0.5
    promptDelay := ← seconds "command_prompt_delay_seconds" 1
    cooldown := ← seconds "wake_cooldown_seconds" 5
    prompt := s.get "voice.wake_prompt" (.str "How can I help you?")
    language := s.get "voice.lang" (.str "en-US")
  }

/-- The delay before listening again after some errors in a row. -/
def Pace.backoff (p : Pace) (errors : Nat) : Float :=
  let delay := p.backoffBase * (Double.ofInt? errors).getD Double.infinity
  if p.backoffCap < delay then p.backoffCap else delay

/-- The state of listening. -/
structure Session where
  pace : Pace
  permission : Permission
  mode : Mode := .idle
  /-- The statuses so far, the oldest first. -/
  statuses : List Status := []
  /-- The errors of the background recognizer in a row. -/
  errors : Nat := 0
  closed : Bool := false
  /-- Whether the foreground recognizer is listening for a command. -/
  capturing : Bool := false
  slot : Slot := {}
deriving DecidableEq, Repr

/-- What the player is shown next to the microphone, once that was found out. -/
def Session.status (s : Session) : Option Status := s.statuses.getLast?

/-- Whether listening has to be started by hand. -/
def Session.needsRestart (s : Session) : Bool := decide (s.pace.maxErrors ≤ (s.errors : Int))

/-- A session with its room. -/
structure Scene (δ : Type) where
  session : Session
  room : Room δ

namespace Scene

variable {δ α : Type}

/-- An act on the room. -/
def inRoom (a : Act (Room δ) α) : Act (Scene δ) α :=
  a.within Scene.room fun s r => { s with room := r }

/-- Calls the host. -/
def call (c : HostCall) : Act (Scene δ) Unit := inRoom (Room.call c)

/-- Changes the session. -/
def change (f : Session → Session) : Act (Scene δ) Unit :=
  modify fun s => { s with session := f s.session }

def equipment (s : Scene δ) : Equipment := s.room.host.equipment

/-- Whether there is a recognizer at all. -/
def isSupported (s : Scene δ) : Bool := s.equipment.background || s.equipment.foreground

/-! ## Timers -/

/-- Schedules a task, in place of what was scheduled before. -/
def schedule (delay : Float) (task : ListeningTask) : Act (Scene δ) Unit :=
  modify fun s =>
    let (slot, queue) := s.session.slot.schedule s.room.queue delay fun generation =>
      .listening generation task
    { s with session := { s.session with slot := slot }, room := { s.room with queue := queue } }

/-- Cancels what is scheduled. -/
def cancelTimer : Act (Scene δ) Unit :=
  modify fun s =>
    let (slot, queue) := s.session.slot.cancel s.room.queue
    { s with session := { s.session with slot := slot }, room := { s.room with queue := queue } }

/-! ## Permission -/

/-- The answer of the player, looked up if need be. -/
def answer : Act (Scene δ) (Option Answer) := do
  let s ← get
  let (permission, storage) := s.session.permission.lookUp s.room.storage
  set { s with
    session := { s.session with permission := permission }
    room := { s.room with storage := storage } }
  return permission.answer

/-- Whether the player lets the arcade listen. -/
def isGranted : Act (Scene δ) Bool := do
  return (← answer) = some .granted

/-- Remembers an answer of the player. -/
def giveAnswer (a : Answer) : Act (Scene δ) Unit :=
  Act.ofOutcome fun s =>
    let (r, permission, storage) := s.session.permission.give s.room.storage a
    (r, { s with
      session := { s.session with permission := permission }
      room := { s.room with storage := storage } })

/-! ## Mode and status -/

/-- The status of a session with an answer of the player. -/
def statusWith (answer : Option Answer) (s : Session) : Status :=
  match answer with
  | some .denied => .permissionDenied
  | none => .permissionRequired
  | some .granted =>
    if s.mode ≠ .idle then .listening
    else if s.needsRestart then .manualRestartRequired
    else .ready

/-- The status as it should be. -/
def dueStatus : Act (Scene δ) Status := do
  if (← get).isSupported then
    let a ← answer
    return statusWith a (← get).session
  else return .unsupported

/-- Brings the status up to date and tells the host if it changed. -/
def refreshStatus : Act (Scene δ) Unit := do
  let status ← dueStatus
  if (← get).session.status ≠ some status then
    change fun s => { s with statuses := s.statuses ++ [status] }
    inRoom (Room.callIf Equipment.onStatusChange (.statusChanged status))

/-- Changes the mode and tells the host if it is another one. -/
def setMode (mode : Mode) : Act (Scene δ) Unit := do
  let before := (← get).session.mode
  if before ≠ mode then
    change fun s => { s with mode := mode }
    inRoom (Room.callIf Equipment.onModeChange (.modeChanged before mode))
    refreshStatus

end Scene

end Arcade
