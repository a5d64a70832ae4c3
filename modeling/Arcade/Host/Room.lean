import Arcade.Host.Basic
import Arcade.Settings.Standard
import Arcade.Storage.Basic
import Arcade.Timer.Slot

/-!
# The room

A room is what a listening session shares with everything else: the host, the timers, the storage,
the preferences of the player and the buddy's voice, and the rest of type `δ`, which the session
knows nothing about.

The voice is muted by a preference. It stops what it was saying before it says something new, and a
failure of the synthesizer only means that nothing is said.
-/

namespace Arcade

/-- What a timer of a listening session does. -/
inductive ListeningTask where
  /-- Listens in the background again. -/
  | resume
  /-- Listens for the command after the wake phrase. -/
  | capture
deriving DecidableEq, Repr

/-- What a timer of a reply does. -/
inductive ReplyTask where
  /-- Shows another screen. -/
  | go (path : String)
  | close
  | reload
deriving DecidableEq, Repr

/-- What a timer does, with the generation of the slot that made it. -/
inductive Task where
  | listening (generation : Nat) (task : ListeningTask)
  | reply (generation : Nat) (task : ReplyTask)
deriving DecidableEq, Repr

/-- How the buddy speaks. -/
structure Voice where
  rate : Float
  pitch : Float
  volume : Float
  speaking : Bool := false
deriving DecidableEq, Repr

/-- A voice as in the settings. -/
def Voice.ofSettings (s : Settings) : Except Fault Voice := do
  return {
    rate := ← (s.get "speech.rate" (Settings.seconds 1)).toDouble
    pitch := ← (s.get "speech.pitch" (Settings.seconds 1)).toDouble
    volume := ← (s.get "speech.volume" (Settings.seconds 1)).toDouble
  }

/-- What a listening session shares with everything else. -/
structure Room (δ : Type) where
  host : Host
  queue : TimerQueue Task := TimerQueue.empty
  storage : Storage
  preferences : Preferences := Preferences.standard
  voice : Voice
  rest : δ

namespace Room

variable {δ α : Type}

/-- An act on the host. -/
def onHost (a : Act Host α) : Act (Room δ) α :=
  a.within Room.host fun r h => { r with host := h }

/-- Calls the host. -/
def call (c : HostCall) : Act (Room δ) Unit := onHost (Host.call c)

/-- Calls the host if it wants that call. -/
def callIf (wanted : Equipment → Bool) (c : HostCall) : Act (Room δ) Unit := do
  if wanted (← get).host.equipment then call c

/-- Sets a preference. -/
def prefer (name : String) (value : Json) : Act (Room δ) Unit :=
  modify fun r => { r with preferences := r.preferences.insert name value }

def setSpeaking (b : Bool) : Act (Room δ) Unit :=
  modify fun r => { r with voice := { r.voice with speaking := b } }

/-- The volume at which something would be said now. -/
def volumeOr (r : Room δ) (standard : Float) : Except Fault Float :=
  ((r.preferences.get? "speech_volume").getD (.num (.float standard))).toDouble

def isMuted (r : Room δ) : Bool :=
  ((r.preferences.get? "speech_muted").getD .null).truthy

/-- Says a text and not what was being said before. -/
def utter (text : Json) (volume : Float) : Act (Room δ) Unit := do
  let v := (← get).voice
  call .cancelSpeech
  call (.speak text v.rate v.pitch volume)
  let h := (← get).host
  unless h.conduct.silent h.calls.length do setSpeaking true

/-- Says a text, unless it is empty or the voice is muted, and tells whether that succeeded. -/
def speak (text : Json) : Act (Room δ) Bool := do
  let r ← get
  if !r.host.equipment.synthesizer || !text.truthy then return false
  else if r.isMuted then return false
  else
    let volume ← Act.lift (r.volumeOr r.voice.volume)
    let said ← (utter text volume).succeeds
    unless said do setSpeaking false
    return said

/-- Stops what is being said. -/
def stopSpeaking : Act (Room δ) Unit := do
  (callIf Equipment.synthesizer .cancelSpeech).forgive
  setSpeaking false

end Room

end Arcade
