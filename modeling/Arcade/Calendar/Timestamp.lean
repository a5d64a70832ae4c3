import Arcade.Calendar.Instant
import Arcade.Json.Basic

/-!
# Reading timestamps

A timestamp is a date, and after one separating character of any kind a time and an offset. The
date is written with or without dashes, by month and day or by week. The time has hours and may
have minutes, seconds and a fraction, of which six digits count; its parts follow each other with
or without colons. An offset, or `Z` at the end, places the timestamp on the earth, and the result
is then the time at the offset zero.

A null character ends a time whose last part is complete, and an offset, like the end of the text.
Half of a pair of surrogates can only be the separating character.
-/

namespace Arcade.Timestamp

/-- The value of exactly `n` digits at the head of the text, and the rest. -/
def digits? : Nat → List Char → Option (Nat × List Char)
  | n, cs =>
    let row := cs.take n
    if row.length = n ∧ row.all Text.isPlainDigit then
      some (Number.digitsValue row, cs.drop n)
    else none

/-- The character at a place. -/
def charAt (cs : List Char) (i : Nat) : Option Char := cs[i]?

def isDigitAt (cs : List Char) (i : Nat) : Bool :=
  match charAt cs i with
  | some c => Text.isPlainDigit c
  | none => false

/-- The number of characters of the date. Where a date by week leaves a choice, a dash after the
week separates the time if two digits follow it, and a row of digits belongs to the time in pairs.
There is no date in a text that is too short for its form. -/
def dateLength? (cs : List Char) : Option Nat :=
  if cs.length < 7 then none
  else if cs.length = 7 then some 7
  else if charAt cs 4 = some '-' then
    if charAt cs 5 = some 'W' then
      if charAt cs 8 = some '-' then
        if cs.length = 9 then none
        else if isDigitAt cs 10 then some 8 else some 10
      else some 8
    else some 10
  else if charAt cs 4 = some 'W' then
    let stop := 7 + ((cs.drop 7).takeWhile Text.isPlainDigit).length
    if stop < 9 then some stop else if stop % 2 = 0 then some 7 else some 8
  else some 8

/-! ## Dates -/

/-- The ordinal of the Monday of the first week of a year, the week with the first Thursday. -/
def firstMonday (year : Nat) : Int :=
  let january : Int := Calendar.daysBeforeYear year + 1
  let weekday := (january + 6) % 7
  if weekday ≤ 3 then january - weekday else january - weekday + 7

/-- Whether a year has 53 weeks: it starts on a Thursday, or on a Wednesday and is leap. -/
def isLongYear (year : Nat) : Bool :=
  let weekday := (Calendar.daysBeforeYear year + 7) % 7
  weekday == 3 || (weekday == 2 && Calendar.isLeap year)

/-- The date of a day of a week, counted from one. -/
def ofWeek? (year week day : Nat) : Option Date :=
  if 1 ≤ year ∧ year ≤ Calendar.lastYear ∧ 1 ≤ week ∧ (week ≤ 52 ∨ week = 53 ∧ isLongYear year) ∧
      1 ≤ day ∧ day ≤ 7 then
    Date.ofOrdinal? (firstMonday year + (week - 1) * 7 + (day - 1))
  else none

/-- Removes a dash at the head if dashes are in use. -/
def dash? (inUse : Bool) (cs : List Char) : Option (List Char) :=
  if inUse then
    match cs with
    | '-' :: rest => some rest
    | _ => none
  else some cs

/-- Reads a date of the given number of characters at the head of the text. -/
def date? (cs : List Char) (length : Nat) : Option Date := do
  let (year, rest) ← digits? 4 cs
  let dashes := rest.head? = some '-'
  let rest := if dashes then rest.drop 1 else rest
  if rest.head? = some 'W' then
    let (week, rest) ← digits? 2 (rest.drop 1)
    if cs.length - rest.length < length then
      let rest ← dash? dashes rest
      let (day, _) ← digits? 1 rest
      ofWeek? year week day
    else ofWeek? year week 1
  else
    let (month, rest) ← digits? 2 rest
    let rest ← dash? dashes rest
    let (day, _) ← digits? 2 rest
    Date.ofParts? year month day

/-! ## Times -/

/-- A time as it is written, not yet checked against the length of a day. -/
structure Clock where
  hour : Nat := 0
  minute : Nat := 0
  second : Nat := 0
  micro : Nat := 0

/-- What is left of a text that a null character at its head ends. -/
def untilNull : List Char → List Char
  | '\x00' :: _ => []
  | cs => cs

/-- The time with a fraction, of which at most six digits count, and what comes after the digits.
The text is not empty. -/
def withFraction? (t : Clock) (cs : List Char) : Option (Clock × List Char) := do
  let length := min cs.length 6
  let (n, rest) ← digits? length cs
  return ({ t with micro := n * Nat.pow 10 (6 - length) },
    untilNull (rest.dropWhile Text.isPlainDigit))

/-- What follows the part of a time that was just read. -/
inductive Follow where
  /-- Nothing but at most one ASCII character, which is left unread unless it ends the text. -/
  | stop (left : List Char)
  | fraction (cs : List Char)
  | part (cs : List Char)

/-- Decides what follows a part of a time. The parts are separated by colons or by nothing. -/
def follow? (colons : Bool) (cs : List Char) : Option Follow :=
  match cs with
  | [] => some (.stop [])
  | [c] => if c.toNat < 128 then some (.stop (untilNull [c])) else none
  | c :: more =>
    if colons ∧ c = ':' then some (.part more)
    else if c = '.' ∨ c = ',' then some (.fraction more)
    else if colons then none
    else some (.part cs)

/-- Reads a time at the head of the text, and returns what is left after it. The first part decides
whether colons are in use. What would follow the seconds as a part is their fraction. -/
def clock? (cs : List Char) : Option (Clock × List Char) := do
  let (hour, rest) ← digits? 2 cs
  let t : Clock := { hour }
  let colons := rest.head? = some ':'
  match ← follow? colons rest with
  | .stop left => return (t, left)
  | .fraction cs => withFraction? t cs
  | .part cs =>
    let (minute, rest) ← digits? 2 cs
    let t : Clock := { t with minute }
    match ← follow? colons rest with
    | .stop left => return (t, left)
    | .fraction cs => withFraction? t cs
    | .part cs =>
      let (second, rest) ← digits? 2 cs
      let t : Clock := { t with second }
      match ← follow? colons rest with
      | .stop left => return (t, left)
      | .fraction cs | .part cs => withFraction? t cs

/-- Whether a character starts an offset. -/
def startsOffset (c : Char) : Bool := c == '+' || c == '-' || c == 'Z'

/-- The microseconds of an offset of less than a day. An offset below one second is none. -/
def offset? : List Char → Option Int
  | 'Z' :: rest => if untilNull rest = [] then some 0 else none
  | sign :: rest => do
    let (t, left) ← clock? rest
    let seconds := (t.hour * 60 + t.minute) * 60 + t.second
    let size := if seconds = 0 then 0 else seconds * 1000000 + t.micro
    if left = [] ∧ size < Duration.dayMicros then
      return if sign = '-' then -size else size
    else none
  | [] => none

/-- Reads a time of day with an optional offset. Only in front of an offset may something be left
after the time. -/
def timeAndOffset? (cs : List Char) : Option (TimeOfDay × Option Int) := do
  let before := cs.takeWhile fun c => !startsOffset c
  let after := cs.dropWhile fun c => !startsOffset c
  let (t, left) ← clock? before
  let time ← TimeOfDay.ofParts? t.hour t.minute t.second t.micro
  if after = [] then
    if left = [] then return (time, none) else none
  else
    let offset ← offset? after
    return (time, some offset)

/-- Reads a date, a time and an offset that fill the text. -/
def parts? (cs : List Char) : Option (Date × TimeOfDay × Option Int) := do
  let length ← dateLength? cs
  let date ← date? cs length
  match cs.drop length with
  | [] => return (date, TimeOfDay.midnight, none)
  | _ :: rest =>
    let (time, offset) ← timeAndOffset? rest
    return (date, time, offset)

/-- The offset zero in place of a `Z` at the end. -/
def plainOffset (cs : List Char) : List Char :=
  match cs.reverse with
  | 'Z' :: front => front.reverse ++ "+00:00".toList
  | _ => cs

/-- The places at which a date can end. -/
def separatorPlaces : List Nat := [7, 8, 10]

def isSurrogateAt (ns : List Nat) (i : Nat) : Bool :=
  match ns[i]? with
  | some n => Text.isSurrogate n
  | none => false

/-- The text without half of a pair of surrogates at the first such place that has one. -/
def plainSeparator (ns : List Nat) : List Nat :=
  match separatorPlaces.find? (isSurrogateAt ns) with
  | some i => ns.set i 'T'.toNat
  | none => ns

/-- The characters of a text that can be a timestamp, one for each code point. -/
def readable? (s : String) : Option (List Char) :=
  let ns := plainSeparator ((Text.signs (plainOffset s.toList)).map Text.Sign.code)
  if ns.any Text.isSurrogate then none else some (ns.map Char.ofNat)

/-- Reads a timestamp; `none` if the text is not one. A timestamp whose time at the offset zero
has no date is out of range. -/
def read (s : String) : Except Fault (Option Instant) :=
  match (readable? s).bind parts? with
  | none => .ok none
  | some (date, time, none) => .ok (some ⟨date, time⟩)
  | some (date, time, some offset) => do
    return some (← Instant.addMicros ⟨date, time⟩ (-offset))

/-- Reads a value as a timestamp; what is empty is none, and only texts can be one. -/
def ofJson (v : Json) : Except Fault (Option Instant) := do
  if v.truthy then read (← v.string) else return none

/-- Reads a value that has to be a timestamp. -/
def required (v : Json) : Except Fault Instant :=
  match v with
  | .str s => do
    let some i ← read s | throw .badValue
    return i
  | _ => .error .wrongKind

end Arcade.Timestamp
