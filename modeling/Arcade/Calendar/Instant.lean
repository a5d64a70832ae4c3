import Arcade.Calendar.Date
import Arcade.Calendar.Duration

/-!
# Instants

An instant is a date and a time of day down to the microsecond, without a time zone: it is what a
wall clock shows. Instants are ordered by a key in mixed radix. Durations are counted in
microseconds.
-/

namespace Arcade

/-- A time of day. -/
structure TimeOfDay where
  hour : Fin 24
  minute : Fin 60
  second : Fin 60
  micro : Fin 1000000
deriving DecidableEq, Repr

namespace TimeOfDay

def midnight : TimeOfDay := ⟨0, 0, 0, 0⟩

/-- The microseconds since midnight. -/
def micros (t : TimeOfDay) : Nat :=
  ((t.hour.val * 60 + t.minute.val) * 60 + t.second.val) * 1000000 + t.micro.val

/-- The time of day with an hour, minute, second and microsecond, if there is one. -/
def ofParts? (hour minute second micro : Nat) : Option TimeOfDay :=
  if h : hour < 24 then
    if m : minute < 60 then
      if s : second < 60 then
        if u : micro < 1000000 then some ⟨⟨hour, h⟩, ⟨minute, m⟩, ⟨second, s⟩, ⟨micro, u⟩⟩
        else none
      else none
    else none
  else none

/-- The time of day some microseconds after midnight, on whatever day. -/
def ofMicros (n : Nat) : TimeOfDay :=
  ⟨Fin.ofNat 24 (n / 3600000000), Fin.ofNat 60 (n / 60000000), Fin.ofNat 60 (n / 1000000),
    Fin.ofNat 1000000 n⟩

/-- Hours, minutes and seconds with two digits each. -/
def text (t : TimeOfDay) : String :=
  Calendar.padded 2 t.hour.val ++ ":" ++ Calendar.padded 2 t.minute.val ++ ":" ++
    Calendar.padded 2 t.second.val

theorem micros_lt (t : TimeOfDay) : t.micros < 86400000000 := by
  have := t.hour.isLt
  have := t.minute.isLt
  have := t.second.isLt
  have := t.micro.isLt
  simp only [micros]
  omega

end TimeOfDay

/-- What a wall clock shows: a date and a time of day. -/
structure Instant where
  date : Date
  time : TimeOfDay
deriving DecidableEq, Repr

namespace Instant

/-- The number by which instants are ordered. -/
def key (i : Instant) : Nat := i.date.key * Duration.dayMicros + i.time.micros

instance : LE Instant := ⟨fun a b => a.key ≤ b.key⟩

instance (a b : Instant) : Decidable (a ≤ b) := inferInstanceAs (Decidable (a.key ≤ b.key))

/-- The earliest instant. -/
def first : Instant := ⟨Date.first, TimeOfDay.midnight⟩

instance : Inhabited Instant := ⟨first⟩

/-- Midnight at the start of the day. -/
def startOfDay (i : Instant) : Instant := ⟨i.date, TimeOfDay.midnight⟩

/-- Midnight at the end of the day. -/
def nextMidnight (i : Instant) : Except Fault Instant := do
  return ⟨← i.date.next, TimeOfDay.midnight⟩

/-- The date, as days are named in logs. -/
def dayKey (i : Instant) : String := i.date.text

/-- The instant down to the second. -/
def timestamp (i : Instant) : String := i.date.text ++ "T" ++ i.time.text

/-- The instant with its microseconds, if there are any. -/
def text (i : Instant) : String :=
  let fraction := if i.time.micro.val = 0 then "" else
    "." ++ Calendar.padded 6 i.time.micro.val
  i.timestamp ++ fraction

/-- The instant some microseconds later, or earlier if negative. -/
def addMicros (i : Instant) (n : Int) : Except Fault Instant :=
  let total : Int := i.date.ordinal * Duration.dayMicros + i.time.micros + n
  match Date.ofOrdinal? (total.fdiv Duration.dayMicros) with
  | some date => .ok ⟨date, TimeOfDay.ofMicros (total.fmod Duration.dayMicros).toNat⟩
  | none => .error .outOfRange

/-- The instant some seconds later, or earlier if negative. -/
def addSeconds (i : Instant) (seconds : Number) : Except Fault Instant := do
  i.addMicros (← Duration.ofSeconds seconds)

/-- The microseconds left until the next midnight, which there has to be. -/
def microsToMidnight (i : Instant) : Except Fault Nat := do
  let _ ← i.nextMidnight
  return Duration.dayMicros - i.time.micros

theorem le_iff {a b : Instant} : a ≤ b ↔ a.key ≤ b.key := Iff.rfl

/-- Instants at midnight are ordered as their dates are. -/
theorem startOfDay_le_iff {a b : Instant} :
    a.startOfDay ≤ b.startOfDay ↔ a.date.key ≤ b.date.key := by
  simp only [le_iff, key, startOfDay]
  constructor <;> intro h <;> simp only [Duration.dayMicros] at * <;> omega

end Instant

/-- A number of microseconds in seconds, as a double. -/
def secondsOfMicros (micros : Int) : Except Fault Float :=
  Number.div (.int micros) (.int 1000000)

end Arcade
