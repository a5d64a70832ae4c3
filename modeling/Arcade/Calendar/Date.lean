import Arcade.Fault
import Arcade.Number.Total

/-!
# Dates

A date of the proleptic Gregorian calendar between the years 1 and 9999. Dates are ordered by a
key that counts years, months and days in mixed radix, so that comparing dates is comparing
numbers. The ordinal of a date counts the days since the start of year 1, whose first day was a
Monday and has the ordinal 1.
-/

namespace Arcade

namespace Calendar

def isLeap (year : Nat) : Bool :=
  year % 4 == 0 && (year % 100 != 0 || year % 400 == 0)

/-- The number of days of a month, zero for what is not a month. -/
def daysInMonth (year month : Nat) : Nat :=
  match month with
  | 1 => 31
  | 2 => if isLeap year then 29 else 28
  | 3 => 31
  | 4 => 30
  | 5 => 31
  | 6 => 30
  | 7 => 31
  | 8 => 31
  | 9 => 30
  | 10 => 31
  | 11 => 30
  | 12 => 31
  | _ => 0

def lastYear : Nat := 9999

/-- The days before the first of January of a year. -/
def daysBeforeYear (year : Nat) : Nat :=
  let y := year - 1
  365 * y + y / 4 - y / 100 + y / 400

/-- The days of a year before a month. -/
def daysBeforeMonth (year month : Nat) : Nat :=
  total ((List.range (month - 1)).map fun m => daysInMonth year (m + 1))

/-- The number in decimal with zeros in front up to a width. -/
def padded (width n : Nat) : String :=
  let digits := toString n
  String.ofList (List.replicate (width - digits.length) '0') ++ digits

theorem daysInMonth_le (year month : Nat) : daysInMonth year month ≤ 31 := by
  unfold daysInMonth
  repeat' split
  all_goals omega

end Calendar

/-- A date between the years 1 and 9999. -/
structure Date where
  year : Nat
  month : Nat
  day : Nat
  valid : 1 ≤ year ∧ year ≤ Calendar.lastYear ∧ 1 ≤ day ∧
    day ≤ Calendar.daysInMonth year month
deriving DecidableEq

namespace Date

open Calendar

instance : Repr Date :=
  ⟨fun d _ => padded 4 d.year ++ "-" ++ padded 2 d.month ++ "-" ++ padded 2 d.day⟩

/-- The date with a year, month and day, if there is one. -/
def ofParts? (year month day : Nat) : Option Date :=
  if h : 1 ≤ year ∧ year ≤ lastYear ∧ 1 ≤ day ∧ day ≤ daysInMonth year month then
    some ⟨year, month, day, h⟩
  else none

/-- The first day of all. -/
def first : Date := ⟨1, 1, 1, by decide⟩

instance : Inhabited Date := ⟨first⟩

theorem month_pos (d : Date) : 1 ≤ d.month := by
  obtain ⟨_, month, _, _, _, h1, h2⟩ := d
  rcases month with _ | _
  · simp [daysInMonth] at h2; omega
  · simp

theorem month_le (d : Date) : d.month ≤ 12 := by
  obtain ⟨year, month, day, _, _, h1, h2⟩ := d
  by_cases h : month ≤ 12
  · exact h
  · have : daysInMonth year month = 0 := by
      unfold daysInMonth
      repeat' split
      all_goals omega
    omega

/-- The number by which dates are ordered. -/
def key (d : Date) : Nat := (d.year * 13 + d.month) * 32 + d.day

theorem key_injective {a b : Date} (h : a.key = b.key) : a = b := by
  have ha := daysInMonth_le a.year a.month
  have hb := daysInMonth_le b.year b.month
  have ha' := a.valid
  have hb' := b.valid
  have hma := a.month_le
  have hmb := b.month_le
  simp only [key] at h
  obtain ⟨ya, ma, da, va⟩ := a
  obtain ⟨yb, mb, db, vb⟩ := b
  simp only [Date.mk.injEq] at *
  omega

/-- The day after a date; there is none after the last day of year 9999. -/
def next (d : Date) : Except Fault Date :=
  match ofParts? d.year d.month (d.day + 1) with
  | some e => .ok e
  | none =>
    match ofParts? d.year (d.month + 1) 1 with
    | some e => .ok e
    | none =>
      match ofParts? (d.year + 1) 1 1 with
      | some e => .ok e
      | none => .error .outOfRange

/-- The days since the start of year 1, counted from one. -/
def ordinal (d : Date) : Nat :=
  daysBeforeYear d.year + daysBeforeMonth d.year d.month + d.day

/-- The date with an ordinal, if it is in range. -/
def ofOrdinal? (n : Int) : Option Date :=
  if n < 1 then none
  else
    let m := n.toNat - 1
    -- Four centuries have 146097 days; the estimate is at most one year too early.
    let guess := m * 400 / 146097 + 1
    let year := if daysBeforeYear (guess + 1) ≤ m then guess + 1 else
      if daysBeforeYear guess ≤ m then guess else guess - 1
    let rest := m - daysBeforeYear year
    let month := ((List.range 12).filter fun k => daysBeforeMonth year (k + 1) ≤ rest).length
    ofParts? year month (rest - daysBeforeMonth year month + 1)

/-- The day of the week, zero for Monday. -/
def weekday (d : Date) : Nat := (d.ordinal + 6) % 7

def weekdayNames : List String :=
  ["Monday", "Tuesday", "Wednesday", "Thursday", "Friday", "Saturday", "Sunday"]

def monthNames : List String :=
  ["January", "February", "March", "April", "May", "June", "July", "August", "September",
    "October", "November", "December"]

/-- The name of the day of the week. -/
def weekdayName (d : Date) : String := weekdayNames.getD d.weekday ""

def monthName (d : Date) : String := monthNames.getD (d.month - 1) ""

/-- The date with four digits of the year and two each of month and day. -/
def text (d : Date) : String :=
  padded 4 d.year ++ "-" ++ padded 2 d.month ++ "-" ++ padded 2 d.day

/-- A day that follows is later. -/
theorem key_lt_of_next {d e : Date} (h : d.next = .ok e) : d.key < e.key := by
  have hd := daysInMonth_le d.year d.month
  have hv := d.valid
  have hm := d.month_le
  unfold next at h
  split at h
  · rename_i x hx
    unfold ofParts? at hx
    split at hx <;> simp only [Option.some.injEq, reduceCtorEq] at hx
    simp only [Except.ok.injEq] at h
    subst hx h
    simp only [key]
    omega
  · split at h
    · rename_i x hx
      unfold ofParts? at hx
      split at hx <;> simp only [Option.some.injEq, reduceCtorEq] at hx
      simp only [Except.ok.injEq] at h
      subst hx h
      simp only [key]
      omega
    · split at h
      · rename_i x hx
        unfold ofParts? at hx
        split at hx <;> simp only [Option.some.injEq, reduceCtorEq] at hx
        simp only [Except.ok.injEq] at h
        subst hx h
        simp only [key]
        omega
      · simp at h

end Date

end Arcade
