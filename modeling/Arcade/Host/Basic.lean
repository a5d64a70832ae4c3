import Arcade.Act
import Arcade.Intent.Basic
import Arcade.Json.Basic
import Arcade.Listening.Mode

/-!
# The host

The host is the application around the arcade: it has the recognizers, the voice, the screens and
whoever wants to be called back. Every call on it is written down. A call may fail, and a recognizer
may answer it at once; a plan of conduct tells which calls do, by the number of calls before.
-/

namespace Arcade

/-- What a recognizer is asked to do. -/
inductive RecognizerCall where
  | start
  | stop
  | abort
deriving DecidableEq, Repr

/-- What the arcade asks of its host or tells it. -/
inductive HostCall where
  | recognizer (which : Recognizer) (call : RecognizerCall)
  | cancelSpeech
  | speak (text : Json) (rate pitch volume : Float)
  | modeChanged (before after : Mode)
  | statusChanged (status : Status)
  | intent (intent : Intent)
  /-- An answer of the listening session. -/
  | response (text : Json)
  /-- An answer to a command. -/
  | respond (text : Json)
  | navigate (path : String)
  /-- The assistant's panel is to be closed. -/
  | close
  | setTheme (theme : Json)
  | reload
  | stopSpeaking
  | askPermission
deriving DecidableEq, Repr

/-- The name of what a recognizer is asked to do. -/
def RecognizerCall.name : RecognizerCall → String
  | .start => "start"
  | .stop => "stop"
  | .abort => "abort"

/-- The name of a call in the log of the host: the device and the operation for a device, and one
word for anything else. -/
def HostCall.name : HostCall → String
  | .recognizer which call => which.name ++ "." ++ call.name
  | .cancelSpeech => "synth.cancel"
  | .speak .. => "synth.speak"
  | .modeChanged .. => "mode"
  | .statusChanged _ => "status"
  | .intent _ => "intent"
  | .response _ => "response"
  | .respond _ => "respond"
  | .navigate _ => "navigate"
  | .close => "on_close"
  | .setTheme _ => "set_theme"
  | .reload => "reload"
  | .stopSpeaking => "stop_speaking"
  | .askPermission => "prompt"

/-- What a call tells the host besides its name, an intent apart. -/
def HostCall.details : HostCall → List Json
  | .speak text rate pitch volume =>
    text :: [rate, pitch, volume].map fun x => .num (.float x)
  | .modeChanged before after => [.str before.name, .str after.name]
  | .statusChanged status => [.str status.name]
  | .response v | .respond v | .setTheme v => [v]
  | .navigate path => [.str path]
  | _ => []

/-- How a failing call fails: devices refuse, and other code of the host just fails. -/
def HostCall.fault : HostCall → Fault
  | .recognizer .. | .cancelSpeech | .speak .. => .device
  | _ => .host

/-- What the host has. -/
structure Equipment where
  background : Bool := false
  foreground : Bool := false
  synthesizer : Bool := false
  /-- What the player says when asked for the microphone, if the host can ask. -/
  prompt : Option Bool := none
  onModeChange : Bool := false
  onStatusChange : Bool := false
  onIntent : Bool := false
  onResponse : Bool := false
  onClose : Bool := false
  setTheme : Bool := false
  reload : Bool := false
  stopSpeaking : Bool := false
deriving DecidableEq, Repr

def Equipment.has (e : Equipment) : Recognizer → Bool
  | .background => e.background
  | .foreground => e.foreground

/-- How the host behaves, by the number of calls before. -/
structure Conduct where
  fails : Nat → HostCall → Bool := fun _ _ => false
  /-- Whether a recognizer tells its end at once when it is stopped. -/
  endsAtOnce : Nat → Recognizer → Bool := fun _ _ => false
  /-- Whether speech does not tell that it started. -/
  silent : Nat → Bool := fun _ => false

/-- The application around the arcade. -/
structure Host where
  equipment : Equipment := {}
  conduct : Conduct := {}
  /-- The calls so far, with whether they failed. -/
  calls : List (HostCall × Bool) := []

namespace Host

/-- Calls the host. -/
def call (c : HostCall) : Act Host Unit := do
  let h ← get
  let failed := h.conduct.fails h.calls.length c
  set { h with calls := h.calls ++ [(c, failed)] }
  if failed then throw c.fault

/-- The host with equipment, conduct and calls of its own, after one more call. -/
def called (h : Host) (c : HostCall) : Host :=
  { h with calls := h.calls ++ [(c, h.conduct.fails h.calls.length c)] }

theorem outcome_call (c : HostCall) (h : Host) :
    (call c).outcome h =
      (if h.conduct.fails h.calls.length c then .error c.fault else .ok (), h.called c) := by
  unfold call
  rw [Act.outcome_bind, Act.outcome_get]
  by_cases hf : h.conduct.fails h.calls.length c = true
  · simp [Act.outcome_bind, hf, called]
  · simp [hf, called]

end Host

end Arcade
