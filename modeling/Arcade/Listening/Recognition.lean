import Arcade.Listening.Basic

/-!
# Recognizers at work

How a session starts and stops its recognizers and what it does when one of them ends or fails. The
background recognizer is restarted after its end and, with a growing delay, after an error, up to a
number of errors in a row. After a command the background recognizer comes back after a cooldown.

A recognizer that ends or fails while it is not the one that listens is not heeded.
-/

namespace Arcade.Scene

variable {δ : Type}

/-- Schedules listening in the background, if there is a recognizer for it and the session is not
closed. -/
def scheduleResume (delay : Float) : Act (Scene δ) Unit := do
  let s ← get
  if s.equipment.background && !s.session.closed then schedule delay .resume

/-- Ends listening for a command. -/
def finishCapture : Act (Scene δ) Unit := do
  change fun s => { s with capturing := false }
  setMode .idle
  scheduleResume (← get).session.pace.cooldown

/-! ## Ends and errors -/

/-- The background recognizer has ended. -/
def backgroundEnded : Act (Scene δ) Unit := do
  if (← get).session.mode = .background then
    let granted ← isGranted
    let restarts := granted && !(← get).session.needsRestart
    setMode .idle
    if restarts then schedule (← get).session.pace.restartAfterEnd .resume

/-- The foreground recognizer has ended. -/
def foregroundEnded : Act (Scene δ) Unit := do
  if (← get).session.capturing then finishCapture

/-- A recognizer has ended. -/
def ended : Recognizer → Act (Scene δ) Unit
  | .background => backgroundEnded
  | .foreground => foregroundEnded

/-- The background recognizer has failed, which counts as one more error. -/
def backgroundFailed : Act (Scene δ) Unit := do
  change fun s => { s with errors := s.errors + 1 }
  setMode .idle
  let s := (← get).session
  if s.needsRestart then
    cancelTimer
    refreshStatus
  else schedule (s.pace.backoff s.errors) .resume

/-- The player has taken the permission back. -/
def permissionRevoked : Act (Scene δ) Unit := do
  cancelTimer
  giveAnswer .denied
  setMode .idle
  refreshStatus

/-! ## Starting and stopping -/

/-- Calls a recognizer. -/
def callRecognizer (which : Recognizer) (c : RecognizerCall) : Act (Scene δ) Unit := do
  unless (← get).equipment.has which do throw .noOperation
  call (.recognizer which c)

/-- Stops a recognizer, which may tell its end at once. -/
def halt (which : Recognizer) (c : RecognizerCall) : Act (Scene δ) Unit := do
  callRecognizer which c
  let h := (← get).room.host
  if h.conduct.endsAtOnce h.calls.length which then ended which

/-- Stops a recognizer, so that what it has heard may still arrive. -/
def stop (which : Recognizer) : Act (Scene δ) Unit := (halt which .stop).forgive

/-- Stops a recognizer, so that nothing arrives any more. -/
def abort (which : Recognizer) : Act (Scene δ) Unit := (halt which .abort).forgive

/-- Listens in the background, if that is possible and allowed. -/
def startBackground : Act (Scene δ) Unit := do
  if (← get).equipment.background then
    let granted ← isGranted
    if granted && !(← get).session.closed then
      cancelTimer
      setMode .background
      unless ← (callRecognizer .background .start).succeeds do backgroundFailed

/-- Listens for a command. The mode changes before the background recognizer stops, so that its end
is not heeded. -/
def startForeground (mode : Mode) : Act (Scene δ) Unit := do
  cancelTimer
  let before := (← get).session.mode
  setMode mode
  if before = .background then stop .background
  change fun s => { s with capturing := true }
  unless ← (callRecognizer .foreground .start).succeeds do finishCapture

/-- Breaks off listening for a command. -/
def dropCapture : Act (Scene δ) Unit := do
  change fun s => { s with capturing := false }
  abort .foreground

end Arcade.Scene
