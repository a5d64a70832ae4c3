import Arcade.Act

/-!
# Timers

A queue of timers has a clock that stands still until it is moved. A timer waits for its deadline
and carries a task. Timers that are due go off one at a time, the earliest first and of those with
the same deadline the oldest. When a timer goes off, the clock shows its deadline.

A stubborn queue takes no cancellation: timers go off all the same.
-/

namespace Arcade

/-- A timer that has not gone off. -/
structure Timer (τ : Type) where
  /-- The number of timers that were made before it. -/
  id : Nat
  deadline : Float
  task : τ

/-- A clock with the timers that wait, the oldest first. -/
structure TimerQueue (τ : Type) where
  time : Float := 0
  made : Nat := 0
  waiting : List (Timer τ) := []
  stubborn : Bool := false

namespace TimerQueue

variable {τ : Type}

/-- A queue in which no timer waits. -/
def empty : TimerQueue τ := {}

/-- The queue with a new timer. -/
def add (q : TimerQueue τ) (deadline : Float) (task : τ) : TimerQueue τ :=
  { q with made := q.made + 1, waiting := q.waiting ++ [⟨q.made, deadline, task⟩] }

/-- The queue without a timer, unless it is stubborn. -/
def cancel (q : TimerQueue τ) (id : Nat) : TimerQueue τ :=
  if q.stubborn then q else { q with waiting := q.waiting.filter (·.id ≠ id) }

/-- The earlier of two timers, the first one if they have the same deadline. -/
def earlier (a b : Timer τ) : Timer τ := if b.deadline < a.deadline then b else a

/-- The earliest timer. -/
def earliest? : List (Timer τ) → Option (Timer τ)
  | [] => none
  | t :: rest => some (rest.foldl earlier t)

/-- The timers that are due at a time. -/
def due (q : TimerQueue τ) (target : Float) : List (Timer τ) :=
  q.waiting.filter fun t => decide (t.deadline ≤ target)

/-- The next timer to go off until a time, and the queue once it did. -/
def next? (q : TimerQueue τ) (target : Float) : Option (Timer τ × TimerQueue τ) :=
  (earliest? (q.due target)).map fun t =>
    (t, { q with time := t.deadline, waiting := q.waiting.filter (·.id ≠ t.id) })

/-- Moves the clock of a queue in a larger state to a time and lets the timers go off that are due
until then. A fault of a task ends this at once, with the clock at the deadline of its timer. The
fuel bounds the number of timers that go off. -/
def advanceTo {σ : Type} (queue : σ → TimerQueue τ) (replace : σ → TimerQueue τ → σ)
    (run : τ → Act σ Unit) (target : Float) : Nat → Act σ Unit
  | 0 => modify fun s => replace s { queue s with time := target }
  | fuel + 1 => do
    match (queue (← get)).next? target with
    | none => modify fun s => replace s { queue s with time := target }
    | some (t, q) =>
      modify fun s => replace s q
      run t.task
      advanceTo queue replace run target fuel

/-- The deadlines of the timers that wait. -/
def deadlines (q : TimerQueue τ) : List Float := q.waiting.map Timer.deadline

@[simp] theorem add_time (q : TimerQueue τ) (deadline : Float) (task : τ) :
    (q.add deadline task).time = q.time := rfl

@[simp] theorem cancel_time (q : TimerQueue τ) (id : Nat) : (q.cancel id).time = q.time := by
  unfold cancel
  split <;> rfl

theorem mem_waiting_add {q : TimerQueue τ} {deadline : Float} {task : τ} {t : Timer τ} :
    t ∈ (q.add deadline task).waiting ↔ t ∈ q.waiting ∨ t = ⟨q.made, deadline, task⟩ := by
  simp [add]

end TimerQueue

end Arcade
