import Arcade.Intent.Resolve
import Arcade.Listening.Control

/-!
# Hearing

What a session does with what its recognizers deliver. In the background, only the wake phrase
counts: with a command, the command is handed on, and without one the player is asked for it. In the
foreground, everything is a command. Errors that mean a refusal of the player end listening.
-/

namespace Arcade

/-- Errors of a recognizer that mean that the player said no. -/
def refusalCodes : List String := ["not-allowed", "service-not-allowed"]

namespace Scene

variable {δ : Type}

/-- Hands the intent of a command on. -/
def handOn (w : Wiring δ) (heard : Heard) : Act (Scene δ) Unit :=
  inRoom (w.intent heard.intent)

/-- The background recognizer has heard something. -/
def heardInBackground (w : Wiring δ) (heard : Heard) : Act (Scene δ) Unit := do
  if (← get).session.mode = .background then
    change fun s => { s with errors := 0 }
    match ← Act.lift heard.wake with
    | none => pure ()
    | some command =>
      if command = "" then awaitCommand w
      else
        setMode .idle
        stop .background
        handOn w (.words command)
        scheduleResume (← get).session.pace.cooldown

/-- The foreground recognizer has heard something. -/
def heardInForeground (w : Wiring δ) (heard : Heard) : Act (Scene δ) Unit := do
  if (← get).session.capturing then
    finishCapture
    handOn w heard

/-- A recognizer has heard something. -/
def hear (w : Wiring δ) (which : Recognizer) (heard : Heard) : Act (Scene δ) Unit :=
  match which with
  | .background => heardInBackground w heard
  | .foreground => heardInForeground w heard

/-- A recognizer has failed. -/
def failed (which : Recognizer) (code : String) : Act (Scene δ) Unit := do
  let s := (← get).session
  match which with
  | .background =>
    if s.mode = .background then
      if code ∈ refusalCodes then permissionRevoked else backgroundFailed
  | .foreground =>
    if s.capturing then
      if code ∈ refusalCodes then permissionRevoked else finishCapture

/-! ## Timers -/

/-- Listens in the background again, if nothing else happens and there were not too many errors. -/
def resume : Act (Scene δ) Unit := do
  let s := (← get).session
  if s.mode = .idle && !s.closed && !s.needsRestart then startBackground

/-- Listens for the command after the wake phrase, if it is still awaited. -/
def capture : Act (Scene δ) Unit := do
  let s := (← get).session
  if s.mode = .awaiting && !s.closed then startForeground .awaiting

/-- Carries out a task of a timer that went off, unless the slot has moved on since. -/
def wakeUp (generation : Nat) (task : ListeningTask) : Act (Scene δ) Unit := do
  match (← get).session.slot.fired? generation with
  | none => pure ()
  | some slot =>
    change fun s => { s with slot := slot }
    match task with
    | .resume => resume
    | .capture => capture

/-- Carries out the task of any timer that went off. -/
def goOff (reply : Nat → ReplyTask → Act (Room δ) Unit) : Task → Act (Scene δ) Unit
  | .listening generation task => wakeUp generation task
  | .reply generation task => inRoom (reply generation task)

/-- Moves the clock forward. Each timer makes at most one other that is not due to an error, and
errors make timers only up to their greatest number. -/
def advance (reply : Nat → ReplyTask → Act (Room δ) Unit) (seconds : Float) :
    Act (Scene δ) Unit := do
  let s ← get
  let fuel := 2 * s.room.queue.waiting.length +
    (s.session.pace.maxErrors - s.session.errors).toNat + 2
  TimerQueue.advanceTo (fun s => s.room.queue)
    (fun s q => { s with room := { s.room with queue := q } })
    (goOff reply) (s.room.queue.time + seconds) fuel

/-! ## A new session -/

/-- A new session in a room, with its status brought up to date. -/
def opened (pace : Pace) (permission : Permission) (room : Room δ) : Except Fault (Scene δ) :=
  let (r, scene) := refreshStatus.outcome ⟨{ pace := pace, permission := permission }, room⟩
  r.map fun _ => scene

end Scene

end Arcade
