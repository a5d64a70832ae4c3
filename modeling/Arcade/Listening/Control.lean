import Arcade.Listening.Recognition

/-!
# Controls of a session

What the player and the host can do with a session: start it, press the microphone button, restart
it after too many errors, ask for a command, ask for permission, and close it.

A session answers through its wiring, which tells what becomes of an answer and of the intent of a
command. Neither can change the session.
-/

namespace Arcade

/-- Where the answers and the intents of a session go. -/
structure Wiring (δ : Type) where
  respond : Json → Act (Room δ) Unit
  intent : Intent → Act (Room δ) Unit

/-- The wiring to a host: answers that it does not take are spoken. -/
def Wiring.toHost {δ : Type} : Wiring δ where
  respond text := do
    if (← get).host.equipment.onResponse then Room.call (.response text)
    else discard (Room.speak text)
  intent i := Room.callIf Equipment.onIntent (.intent i)

namespace Scene

variable {δ : Type}

/-- Starts listening in the background, and tells whether listening is possible at all. -/
def start : Act (Scene δ) Bool := do
  change fun s => { s with closed := false }
  if !(← get).isSupported then
    refreshStatus
    return false
  else if !(← isGranted) then
    refreshStatus
    return false
  else
    if (← get).session.mode = .idle then startBackground
    return true

/-- What the player says when asked for the microphone; a host that cannot ask lets the arcade
listen, and asking that fails is a refusal. -/
def askPlayer : Act (Scene δ) Bool := do
  match (← get).equipment.prompt with
  | none => return true
  | some granted =>
    let asked ← (call .askPermission).succeeds
    return asked && granted

/-- Asks for permission and starts listening if it is granted. -/
def requestPermission : Act (Scene δ) Bool := do
  let granted ← askPlayer
  if granted then
    giveAnswer .granted
    refreshStatus
    discard start
  else
    giveAnswer .denied
    refreshStatus
  return granted

/-- The microphone button: listens for a command, or breaks that off. -/
def toggle : Act (Scene δ) Unit := do
  if !(← isGranted) then discard requestPermission
  else if !(← get).equipment.foreground then refreshStatus
  else if (← get).session.mode.wantsCommand then
    dropCapture
    setMode .idle
    scheduleResume (← get).session.pace.cooldown
  else startForeground .foreground

/-- Forgets the errors and listens in the background again after a short while. -/
def restart : Act (Scene δ) Bool := do
  if !(← isGranted) then return false
  else if !(← get).equipment.background then return false
  else
    change fun s => { s with errors := 0 }
    cancelTimer
    if (← get).session.mode.wantsCommand then dropCapture
    abort .background
    setMode .idle
    refreshStatus
    schedule (← get).session.pace.manualRestart .resume
    return true

/-- Asks for a command and listens for it after a short while. -/
def awaitCommand (w : Wiring δ) : Act (Scene δ) Unit := do
  inRoom (w.respond (← get).session.pace.prompt)
  if (← get).equipment.foreground then
    if ← isGranted then
      let before := (← get).session.mode
      setMode .awaiting
      if before = .background then stop .background
      else if (← get).session.capturing then dropCapture
      schedule (← get).session.pace.promptDelay .capture

/-- Breaks everything off. A failing host can keep the session from being marked as closed. -/
def close : Act (Scene δ) Unit := do
  cancelTimer
  change fun s => { s with capturing := false }
  abort .background
  abort .foreground
  inRoom Room.stopSpeaking
  setMode .idle
  change fun s => { s with closed := true }

end Scene

end Arcade
