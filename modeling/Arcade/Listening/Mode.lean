/-!
# Modes of listening

Two recognizers listen for the player: one in the background for the wake phrase, and one in the
foreground for a single command. The mode tells what is being listened for, and the status is what
the player is shown next to the microphone.
-/

namespace Arcade

/-- The recognizers of speech. -/
inductive Recognizer where
  /-- Listens on and on for the wake phrase. -/
  | background
  /-- Listens for one command. -/
  | foreground
deriving DecidableEq, Repr

/-- The short name of a recognizer, which logs use. -/
def Recognizer.name : Recognizer → String
  | .background => "bg"
  | .foreground => "fg"

/-- What the session listens for. -/
inductive Mode where
  | idle
  /-- The wake phrase. -/
  | background
  /-- A command, after the microphone button was pressed. -/
  | foreground
  /-- A command, after the wake phrase alone was heard. -/
  | awaiting
deriving DecidableEq, Repr

namespace Mode

def name : Mode → String
  | .idle => "idle"
  | .background => "background-listening"
  | .foreground => "foreground-listening"
  | .awaiting => "awaiting-command"

/-- Whether a command is listened for. -/
def wantsCommand : Mode → Bool
  | .foreground | .awaiting => true
  | .idle | .background => false

end Mode

/-- What the player is shown next to the microphone. -/
inductive Status where
  | unsupported
  | permissionRequired
  | permissionDenied
  | ready
  | listening
  /-- Too many errors in a row: listening has to be started by hand. -/
  | manualRestartRequired
deriving DecidableEq, Repr

def Status.name : Status → String
  | .unsupported => "unsupported"
  | .permissionRequired => "permission-required"
  | .permissionDenied => "permission-denied"
  | .ready => "ready"
  | .listening => "listening"
  | .manualRestartRequired => "manual-restart-required"

end Arcade
