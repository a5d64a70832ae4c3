import Arcade.Json.Basic
import Arcade.Number.Total
import Arcade.Timer.Slot

/-!
# Scripts

A script is a task for a timer: it notes that it went off, takes steps on a slot and its queue, and
may fail in the end. A step schedules a script in the slot or in the queue directly, cancels what
the slot holds, or moves the clock forward. A bench is a slot with its queue, on which scripts can
be tried.

When a script moves the clock, timers go off inside the move that set the script off, which then
goes on and in the end sets the clock to its own target, even if that is an earlier time.

A queue that clamps its delays takes a negative one for none, while the slot still names the
deadline that it asked for.

The slot changes under a lock only. If that is its owner's lock, what the slot holds also runs under
it. The bench keeps a history of its slot.
-/

namespace Arcade

mutual

/-- What a timer does when it goes off. -/
inductive Script where
  | mk (label : Json) (steps : List ScriptStep) (fails : Bool)

/-- What a script does to a slot and its queue. -/
inductive ScriptStep where
  | schedule (delay : Json) (script : Script)
  | direct (delay : Json) (script : Script)
  | cancel
  | advance (seconds : Json)

end

namespace Script

instance : Inhabited Script := ⟨.mk .null [] false⟩

mutual

/-- The number of scripts in a script. -/
def size : Script → Nat
  | .mk _ steps _ => sizeSteps steps + 1

def sizeSteps : List ScriptStep → Nat
  | [] => 0
  | .schedule _ script :: rest => script.size + sizeSteps rest
  | .direct _ script :: rest => script.size + sizeSteps rest
  | .cancel :: rest => sizeSteps rest
  | .advance _ :: rest => sizeSteps rest

end

end Script

/-- A note of a script that went off: its label, the time, and whether and until when the slot has
something pending. -/
structure ScriptNote where
  label : Json
  time : Float
  pending : Bool
  deadline : Option Float
deriving DecidableEq, Repr

/-- Something that happens to a slot. -/
inductive SlotEvent where
  /-- What is pending is cancelled, with its timer, if there is one. -/
  | cancelled (timer : Option Nat)
  /-- A script is scheduled for a generation, at a time and with a delay. -/
  | scheduled (generation : Nat) (time : Float) (delay : Json) (script : Script)
  /-- A timer goes off, and its script runs or is passed over. -/
  | wentOff (task : Option Nat × Script) (runs : Bool)

/-- Something that happened to a slot, with the slot and the queue right after it. -/
structure Moment where
  event : SlotEvent
  slot : Slot
  queue : TimerQueue (Option Nat × Script)

/-- A slot with its queue, whose timers carry a script and, if the slot made them, a generation. -/
structure Bench where
  slot : Slot := {}
  queue : TimerQueue (Option Nat × Script) := TimerQueue.empty
  /-- Whether the queue takes a negative delay for none. -/
  clamps : Bool := false
  /-- Whether the lock of the slot is its owner's, so that scripts of the slot run under it. -/
  owned : Bool := false
  /-- How often the lock of the slot is held. Whoever holds it may take it once more. -/
  locks : Nat := 0
  notes : List ScriptNote := []
  /-- What happened to the slot, the oldest first. -/
  history : List Moment := []

namespace Bench

/-- Carries an act out under the lock of the slot, which is released also after a fault. -/
def locked {α : Type} (a : Act Bench α) : Act Bench α :=
  Act.ofOutcome fun b =>
    let r := a.outcome { b with locks := b.locks + 1 }
    (r.1, { r.2 with locks := r.2.locks - 1 })

/-- The bench after something happened to its slot. -/
def after (b : Bench) (event : SlotEvent) (slot : Slot)
    (queue : TimerQueue (Option Nat × Script)) : Bench :=
  { b with slot := slot, queue := queue, history := b.history ++ [⟨event, slot, queue⟩] }

/-- The deadline of a timer with a delay, from now. -/
def deadlineAfter (b : Bench) (delay : Json) : Except Fault Float := do
  return b.queue.time + (← (← delay.number).toDouble)

/-- The deadline that the queue gives a timer with a delay. -/
def queueDeadlineAfter (b : Bench) (delay : Json) : Except Fault Float := do
  let n ← delay.number
  b.deadlineAfter (.num (if b.clamps then Number.max (.float 0) n else n))

/-- The bench with nothing pending in its slot. -/
def cleared (b : Bench) : Bench :=
  let (slot, queue) := b.slot.cancel b.queue
  b.after (.cancelled b.slot.timer) slot queue

/-- Replaces what is pending in the slot by a script. What was pending is gone even if the delay
cannot be used. -/
def replace (delay : Json) (script : Script) : Act Bench Unit := do
  modify cleared
  let b ← get
  let deadline ← Act.lift (b.deadlineAfter delay)
  let timerDeadline ← Act.lift (b.queueDeadlineAfter delay)
  let (slot, queue) := b.slot.occupy b.queue deadline timerDeadline fun generation =>
    (some generation, script)
  set (b.after (.scheduled slot.generation b.queue.time delay script) slot queue)

/-- Schedules a script in the slot. -/
def schedule (delay : Json) (script : Script) : Act Bench Unit :=
  locked (replace delay script)

/-- Schedules a script in the queue. -/
def direct (delay : Json) (script : Script) : Act Bench Unit := do
  let b ← get
  let deadline ← Act.lift (b.queueDeadlineAfter delay)
  set { b with queue := b.queue.add deadline (none, script) }

/-- Cancels what the slot holds. -/
def cancel : Act Bench Unit :=
  locked (modify cleared)

/-- Takes the steps of a script, in which `move` moves the clock forward. -/
def take (move : Json → Act Bench Unit) : List ScriptStep → Act Bench Unit
  | [] => pure ()
  | .schedule delay script :: rest => do schedule delay script; take move rest
  | .direct delay script :: rest => do direct delay script; take move rest
  | .cancel :: rest => do cancel; take move rest
  | .advance seconds :: rest => do move seconds; take move rest

/-- Runs a script. -/
def perform (move : Json → Act Bench Unit) : Script → Act Bench Unit
  | .mk label steps fails => do
    modify fun b =>
      { b with notes := b.notes ++ [⟨label, b.queue.time, b.slot.isPending, b.slot.deadline⟩] }
    take move steps
    if fails then throw .host

/-- The slot once a timer went off; `none` if the slot made it and has moved on since. -/
def heeded? (b : Bench) : Option Nat → Option Slot
  | none => some b.slot
  | some generation => b.slot.fired? generation

/-- Notes that a timer goes off, and tells whether its script is to run. -/
def heed (task : Option Nat × Script) : Act Bench Bool := do
  let b ← get
  match b.heeded? task.1 with
  | some slot =>
    set (b.after (.wentOff task true) slot b.queue)
    return true
  | none =>
    set (b.after (.wentOff task false) b.slot b.queue)
    return false

/-- Runs a script if a check says so. -/
def performIf (move : Json → Act Bench Unit) (check : Act Bench Bool) (script : Script) :
    Act Bench Unit := do
  if ← check then perform move script

/-- Runs the script of a timer that went off, unless the slot has moved on since it made it. Under
the lock of an owner, the script runs before the lock is released. -/
def goOff (move : Json → Act Bench Unit) : Option Nat × Script → Act Bench Unit
  | (none, script) => performIf move (heed (none, script)) script
  | (some generation, script) => do
    if (← get).owned then
      locked (performIf move (heed (some generation, script)) script)
    else
      performIf move (locked (heed (some generation, script))) script

/-- The number of scripts that can still go off. -/
def pendingScripts (b : Bench) : Nat :=
  total (b.queue.waiting.map fun t => t.task.2.size)

/-- Moves the clock forward. The fuel bounds the number of moves inside each other. -/
def advanceWithin : Nat → Json → Act Bench Unit
  | 0, _ => pure ()
  | fuel + 1, seconds => do
    let b ← get
    let target ← Act.lift (b.deadlineAfter seconds)
    TimerQueue.advanceTo Bench.queue (fun b q => { b with queue := q })
      (goOff (advanceWithin fuel)) target (b.pendingScripts + 1)

/-- Moves the clock forward. A script that moves it too has gone off itself, so there are at most as
many moves inside the first as scripts. -/
def advance (seconds : Json) : Act Bench Unit := do
  advanceWithin ((← get).pendingScripts + 1) seconds

end Bench

end Arcade
