import Arcade.Calendar.Instant

/-!
# Times for people

The time of day is told on a twelve-hour clock together with the date in words. What is left until
the challenges change is told in hours, minutes and seconds.
-/

namespace Arcade

namespace Instant

/-- The hour on a clock with twelve hours, where midnight and noon are twelve. -/
def clockHour (i : Instant) : Nat :=
  if i.time.hour.val % 12 = 0 then 12 else i.time.hour.val % 12

/-- The answer to the question for time and date. -/
def spoken (i : Instant) : String :=
  let half := if i.time.hour.val < 12 then "AM" else "PM"
  let time := toString i.clockHour ++ ":" ++ Calendar.padded 2 i.time.minute.val ++ ":" ++
    Calendar.padded 2 i.time.second.val ++ " " ++ half
  let date := i.date.weekdayName ++ ", " ++ i.date.monthName ++ " " ++ toString i.date.day ++
    ", " ++ toString i.date.year
  "The current time is " ++ time ++ " and today is " ++ date ++ "."

end Instant

/-- The whole seconds of a duration, none if it is negative. -/
def wholeSeconds (micros : Int) : Nat :=
  match secondsOfMicros micros with
  | .ok x => ((Double.truncate? x).getD 0).toNat
  | .error _ => 0

/-- A duration in hours, minutes and seconds. -/
def countdown (micros : Int) : String :=
  let total := wholeSeconds micros
  toString (total / 3600) ++ "h " ++ Calendar.padded 2 (total % 3600 / 60) ++ "m " ++
    Calendar.padded 2 (total % 60) ++ "s"

end Arcade
