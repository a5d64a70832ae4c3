import Arcade.Timer.Queue

/-!
# Slots

A slot holds at most one pending timer of a queue. Setting it replaces the timer that was pending,
so that nothing is ever scheduled twice. A timer knows the generation of the slot for which it was
made, and every change of the slot begins a new one. A timer that goes off in another generation
than its own, because the queue did not cancel it, is passed over.
-/

namespace Arcade

/-- At most one pending timer. -/
structure Slot where
  /-- The number of the pending timer. -/
  timer : Option Nat := none
  deadline : Option Float := none
  generation : Nat := 0
deriving DecidableEq, Repr

namespace Slot

variable {τ : Type}

def isPending (s : Slot) : Bool := s.timer.isSome

/-- The slot with nothing pending, and the queue without its timer. -/
def cancel (s : Slot) (q : TimerQueue τ) : Slot × TimerQueue τ :=
  let q := match s.timer with
    | some id => q.cancel id
    | none => q
  (⟨none, none, s.generation + 1⟩, q)

/-- The slot with a timer pending that was added to the queue. The slot names a deadline of its
own. -/
def occupy (s : Slot) (q : TimerQueue τ) (deadline timerDeadline : Float) (task : Nat → τ) :
    Slot × TimerQueue τ :=
  let generation := s.generation + 1
  (⟨some q.made, some deadline, generation⟩, q.add timerDeadline (task generation))

/-- Replaces what is pending by a task after a delay. The task is given the generation that it
belongs to. -/
def schedule (s : Slot) (q : TimerQueue τ) (delay : Float) (task : Nat → τ) :
    Slot × TimerQueue τ :=
  let (s, q) := s.cancel q
  let deadline := q.time + delay
  s.occupy q deadline deadline task

/-- The slot once a timer of a generation went off; `none` if that is not the timer that is
pending. -/
def fired? (s : Slot) (generation : Nat) : Option Slot :=
  if s.generation = generation then some ⟨none, none, s.generation⟩ else none

@[simp] theorem cancel_isPending (s : Slot) (q : TimerQueue τ) :
    (s.cancel q).1.isPending = false := rfl

@[simp] theorem schedule_isPending (s : Slot) (q : TimerQueue τ) (delay : Float) (task : Nat → τ) :
    (s.schedule q delay task).1.isPending = true := rfl

@[simp] theorem schedule_deadline (s : Slot) (q : TimerQueue τ) (delay : Float) (task : Nat → τ) :
    (s.schedule q delay task).1.deadline = some (q.time + delay) := by
  unfold schedule cancel occupy
  cases s.timer <;> simp

end Slot

end Arcade
