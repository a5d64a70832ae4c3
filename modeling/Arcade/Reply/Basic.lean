import Arcade.Chat
import Arcade.Host.Room
import Arcade.Ledger.Opening

/-!
# Replies

A request is what is carried out at a desk. Intents of commands are requests, and a host can make
others, with any values. A reply tells what was answered, which screen will be shown and whether the
panel closes; where something fails on the way it tells what was done until then. Screens change
only after a delay, so that the answer is noticed first. What is delayed waits in the desk's slot,
so that only the last such request counts.
-/

namespace Arcade

/-- What is to be carried out: an action and, where it needs them, a target and an answer. -/
structure Request where
  action : IntentAction
  target : Json := .null
  response : Json := .null
deriving DecidableEq, Repr

/-- A text that may be missing, as a value. -/
def Json.ofText? : Option String → Json
  | some s => .str s
  | none => .null

/-- What an intent asks for. -/
def Intent.request (i : Intent) : Request :=
  ⟨i.action, .ofText? i.target, .ofText? i.response⟩

/-- What became of a request. -/
structure Reply where
  action : IntentAction
  handled : Bool := true
  response : Json := .null
  path : Option String := none
  closing : Bool := false
deriving DecidableEq, Repr

/-- Where requests are answered and carried out. -/
structure Desk where
  navigationDelay : Float
  closeDelay : Float
  /-- The volume that counts if the player has set none. -/
  volume : Float
  /-- Whether there are timers; without them nothing is delayed. -/
  delays : Bool := true
  slot : Slot := {}
  chat : Option Chat := none
  ledger : Option Ledger := none
  notices : List String := []
  lastReply : Option Reply := none
deriving DecidableEq, Repr

/-- A desk as in the settings. -/
def Desk.ofSettings (s : Settings) : Except Fault Desk := do
  return {
    navigationDelay :=
      ← (s.get "dispatcher.navigation_delay_seconds" (Settings.seconds 1)).toDouble
    closeDelay := ← (s.get "dispatcher.close_delay_seconds" (Settings.seconds 1.5)).toDouble
    volume := ← (s.get "speech.volume" (Settings.seconds 1)).toDouble
  }

/-- Where the answers of a desk go, and how speech is stopped. -/
structure Outlet where
  respond : Json → Act (Room Desk) Unit
  stopSpeaking : Act (Room Desk) Unit

/-- The outlet to a host. -/
def Outlet.toHost : Outlet where
  respond text := Room.call (.respond text)
  stopSpeaking := Room.callIf Equipment.stopSpeaking .stopSpeaking

namespace Desk

/-- Changes the desk of a room. -/
def change (f : Desk → Desk) : Act (Room Desk) Unit :=
  modify fun r => { r with rest := f r.rest }

/-! ## What is delayed -/

/-- Carries out what was delayed. -/
def perform : ReplyTask → Act (Room Desk) Unit
  | .go path => do
    Room.callIf Equipment.onClose .close
    Room.call (.navigate path)
  | .close => Room.call .close
  | .reload => Room.call .reload

/-- Carries out what was delayed when its timer goes off, unless the slot has moved on since. -/
def goOff (generation : Nat) (task : ReplyTask) : Act (Room Desk) Unit := do
  match (← get).rest.slot.fired? generation with
  | none => pure ()
  | some slot =>
    change fun d => { d with slot := slot }
    perform task

/-- Delays something, in place of what was delayed before. -/
def later (delay : Float) (task : ReplyTask) : Act (Room Desk) Unit := do
  let r ← get
  if r.rest.delays then
    let (slot, queue) := r.rest.slot.schedule r.queue delay fun generation =>
      .reply generation task
    set { r with queue := queue, rest := { r.rest with slot := slot } }
  else perform task

/-- Drops what is delayed. -/
def cancelPending : Act (Room Desk) Unit := do
  let r ← get
  if r.rest.delays then
    let (slot, queue) := r.rest.slot.cancel r.queue
    set { r with queue := queue, rest := { r.rest with slot := slot } }

/-- Moves the clock of a room in which nobody listens. -/
def advance (seconds : Float) : Act (Room Desk) Unit := do
  let r ← get
  let run : Task → Act (Room Desk) Unit
    | .reply generation task => goOff generation task
    | .listening .. => pure ()
  TimerQueue.advanceTo Room.queue (fun r q => { r with queue := q }) run (r.queue.time + seconds)
    (r.queue.waiting.length + 1)

end Desk

end Arcade
