import Arcade.Json.Basic

/-!
# Durations

A duration is a number of microseconds, at most a billion days less one in either direction. It is
made of days, seconds and microseconds, of which each may have a fraction. Whole numbers are added
exactly. What is left of fractions is added as doubles and rounded in the end, where a half makes
the number of microseconds even.
-/

namespace Arcade

/-- A duration in the making: whole microseconds and what is left of fractions. -/
structure Duration where
  whole : Int := 0
  left : Float := 0

namespace Duration

/-- The microseconds of a day. -/
def dayMicros : Nat := 86400000000

/-- The greatest number of days. -/
def greatestDays : Nat := 999999999

/-- Adds a number of units of so many microseconds. -/
def add (d : Duration) (n : Number) (unit : Nat) : Except Fault Duration :=
  match n with
  | .int n => .ok { d with whole := d.whole + n * unit }
  | .float x => do
    let whole ← Number.toInt (.float x)
    let part := (x - (← Number.doubleOfInt whole)) * (← Number.doubleOfInt unit)
    let more ← Number.toInt (.float part)
    let left := part - (← Number.doubleOfInt more)
    return { whole := d.whole + whole * unit + more, left := d.left + left }

/-- The whole microseconds nearest to a duration. -/
def rounded (d : Duration) : Int :=
  match Double.meaning d.left with
  | .finite negative mantissa exponent =>
    let (num, den) := Double.scaleByTwo mantissa 1 exponent
    let size : Int := d.whole * den + (if negative then -(num : Int) else num)
    let nearest : Int := Double.roundDiv size.natAbs den
    if size < 0 then -nearest else nearest
  | _ => d.whole

/-- The microseconds of a duration, if it is not too long. -/
def micros (d : Duration) : Except Fault Int :=
  if (d.rounded.fdiv dayMicros).natAbs ≤ greatestDays then .ok d.rounded else .error .outOfRange

/-- The microseconds of a number of seconds. -/
def ofSeconds (seconds : Number) : Except Fault Int := do
  (← add {} seconds 1000000).micros

/-- The microseconds of days, seconds and microseconds together. -/
def ofParts (days seconds micros : Json) : Except Fault Int := do
  let d ← add {} (← micros.number) 1
  let d ← d.add (← seconds.number) 1000000
  let d ← d.add (← days.number) dayMicros
  d.micros

end Duration

end Arcade
