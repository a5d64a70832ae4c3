import Arcade.Json.Display

/-!
# Reading JSON

A text holds one value between blanks. Besides the values of the standard, `NaN`, `Infinity` and
`-Infinity` are read. A number with a point or an exponent is a double, any other an integer. A
name that occurs twice in an object keeps its first place and takes its last value. Each flaw is
reported at the place where it was found, counted in code points from the start of the text and in
lines and columns.

Lists and objects may stand inside each other only up to a limit, so that a text cannot exhaust the
reader. A value beyond it is reported where it starts, before what is wrong inside.

Reading works on the list of characters that are left. A place is kept as the number of characters
left there, which the start of the text turns into an offset.
-/

namespace Arcade.Json

/-- A flaw and the number of characters left where it was found, or an integer or a nesting that is
beyond its limit. -/
inductive ReadFault where
  | flaw (kind : JsonFlaw) (left : Nat)
  | tooManyDigits (digits : Nat)
  | tooDeep

/-- The greatest number of lists and objects inside each other. -/
def depthLimit : Nat := 990

/-- The blanks between the parts of a value. -/
def isGap (c : Char) : Bool :=
  c == ' ' || c == '\t' || c == '\n' || c == '\r'

def skipGap (cs : List Char) : List Char :=
  cs.dropWhile isGap

/-- The characters after a word, if the text starts with it. -/
def after? : List Char → List Char → Option (List Char)
  | [], cs => some cs
  | w :: ws, c :: cs => if w = c then after? ws cs else none
  | _ :: _, [] => none

/-! ## Texts -/

def hexValue? (c : Char) : Option Nat :=
  if '0'.toNat ≤ c.toNat ∧ c.toNat ≤ '9'.toNat then some (c.toNat - '0'.toNat)
  else if 'a'.toNat ≤ c.toNat ∧ c.toNat ≤ 'f'.toNat then some (c.toNat - 'a'.toNat + 10)
  else if 'A'.toNat ≤ c.toNat ∧ c.toNat ≤ 'F'.toNat then some (c.toNat - 'A'.toNat + 10)
  else none

/-- The unit written by four hexadecimal digits, if at least one character follows them. -/
def readUnit? : List Char → Option (Nat × List Char)
  | a :: b :: c :: d :: rest => do
    let a ← hexValue? a
    let b ← hexValue? b
    let c ← hexValue? c
    let d ← hexValue? d
    if rest = [] then none else some (((a * 16 + b) * 16 + c) * 16 + d, rest)
  | _ => none

/-- The character that a letter after a backslash stands for. -/
def escapedChar? : Char → Option Char
  | '"' => some '"'
  | '\\' => some '\\'
  | '/' => some '/'
  | 'b' => some (Char.ofNat 8)
  | 'f' => some (Char.ofNat 12)
  | 'n' => some '\n'
  | 'r' => some '\r'
  | 't' => some '\t'
  | _ => none

/-- The code point of a unit, together with a second unit if both form a pair. -/
def unitCode (unit : Nat) (rest : List Char) : Nat × List Char :=
  if 0xd800 ≤ unit ∧ unit < 0xdc00 then
    match rest with
    | '\\' :: 'u' :: more =>
      match readUnit? more with
      | some (low, after) =>
        if 0xdc00 ≤ low ∧ low < 0xe000 then
          (0x10000 + (unit - 0xd800) * 1024 + (low - 0xdc00), after)
        else (unit, rest)
      | none => (unit, rest)
    | _ => (unit, rest)
  else (unit, rest)

/-- Reads the rest of a text up to its closing quote. The characters read so far come last first,
`start` is the number of characters left at the opening quote, and the fuel is at least the
number of characters left. -/
def readText (start : Nat) : Nat → List Char → List Char → Except ReadFault (String × List Char)
  | 0, _, _ => .error (.flaw .openText start)
  | _ + 1, _, [] => .error (.flaw .openText start)
  | fuel + 1, done, c :: rest =>
    if c = '"' then .ok (String.ofList done.reverse, rest)
    else if c.toNat < 32 then .error (.flaw .controlCharacter (rest.length + 1))
    else if c = '\\' then
      match rest with
      | [] => .error (.flaw .openText start)
      | 'u' :: more =>
        match readUnit? more with
        | some (unit, after) =>
          let (n, after) := unitCode unit after
          readText start fuel ((Text.spell n).reverse ++ done) after
        | none => .error (.flaw .badCodeEscape (more.length + 1))
      | d :: more =>
        match escapedChar? d with
        | some d => readText start fuel (d :: done) more
        | none => .error (.flaw .badEscape (more.length + 2))
    else readText start fuel (c :: done) rest

/-! ## Numbers -/

/-- The fraction after the point, if digits follow it. -/
def spanFraction (cs : List Char) : List Char × List Char :=
  match cs with
  | '.' :: rest =>
    let (digits, after) := Number.spanDigits rest
    if digits = [] then ([], cs) else (digits, after)
  | _ => ([], cs)

/-- The exponent, if digits follow its mark and sign. -/
def spanExponent (cs : List Char) : Option Int × List Char :=
  match cs with
  | e :: rest =>
    if e = 'e' ∨ e = 'E' then
      let (negative, body) := Number.takeSign rest
      let (digits, after) := Number.spanDigits body
      if digits = [] then (none, cs)
      else
        let n : Int := Number.digitsValue digits
        (some (if negative then -n else n), after)
    else (none, cs)
  | [] => (none, cs)

/-- The integer part: a zero alone or digits that start with another one. -/
def spanWhole (cs : List Char) : List Char × List Char :=
  match cs with
  | '0' :: rest => (['0'], rest)
  | _ => Number.spanDigits cs

/-- Reads a number without its sign; `none` if the text does not start with a digit. -/
def readNumber? (negative : Bool) (cs : List Char) : Option (Except ReadFault (Json × List Char)) :=
  let (whole, rest) := spanWhole cs
  let (fraction, rest) := spanFraction rest
  let (exponent, rest) := spanExponent rest
  if whole = [] then none
  else if fraction = [] ∧ exponent = none then
    if whole.length ≤ Number.digitLimit then
      let n : Int := Number.digitsValue whole
      some (.ok (.int (if negative then -n else n), rest))
    else some (.error (.tooManyDigits whole.length))
  else
    let scale := exponent.getD 0 - fraction.length
    let x := Double.ofDecimal negative (Number.digitsValue (whole ++ fraction)) scale
    some (.ok (.num (.float x), rest))

/-- The values that are written as a word. -/
def wordValues : List (String × Json) :=
  [("null", .null), ("true", .bool true), ("false", .bool false),
    ("NaN", .num (.float Double.nan)), ("Infinity", .num (.float Double.infinity)),
    ("-Infinity", .num (.float (Double.ofBits true Double.infinityBits)))]

/-- Reads a word or a number at the head of the text. -/
def readScalar (cs : List Char) : Except ReadFault (Json × List Char) :=
  let word := wordValues.findSome? fun e => (after? e.1.toList cs).map fun rest => (e.2, rest)
  match word with
  | some found => .ok found
  | none =>
    let number := match cs with
      | '-' :: rest => readNumber? true rest
      | _ => readNumber? false cs
    number.getD (.error (.flaw .valueExpected cs.length))

/-! ## Values -/

mutual

/-- Reads a value at the head of the text, with at most `room` lists and objects inside each other.
The fuel bounds the number of steps. -/
def readValue (room : Nat) : Nat → List Char → Except ReadFault (Json × List Char)
  | 0, cs => .error (.flaw .valueExpected cs.length)
  | fuel + 1, cs =>
    match cs with
    | '"' :: rest => do
      let (s, rest) ← readText cs.length (rest.length + 1) [] rest
      return (.str s, rest)
    | '[' :: rest =>
      if room = 0 then .error .tooDeep
      else match skipGap rest with
        | ']' :: rest => .ok (.arr [], rest)
        | rest => readItems (room - 1) fuel [] rest
    | '\x7b' :: rest =>
      if room = 0 then .error .tooDeep
      else match skipGap rest with
        | '\x7d' :: rest => .ok (.obj [], rest)
        | rest => readMembers (room - 1) fuel [] rest
    | cs => readScalar cs

/-- Reads the items of a list that has at least one more; those read so far come last first. -/
def readItems (room : Nat) :
    Nat → List Json → List Char → Except ReadFault (Json × List Char)
  | 0, _, cs => .error (.flaw .valueExpected cs.length)
  | fuel + 1, done, cs => do
    let (item, rest) ← readValue room fuel cs
    match skipGap rest with
    | ',' :: rest => readItems room fuel (item :: done) (skipGap rest)
    | ']' :: rest => return (.arr (item :: done).reverse, rest)
    | rest => .error (.flaw .commaExpected rest.length)

/-- Reads the members of an object that has at least one more. -/
def readMembers (room : Nat) :
    Nat → List (String × Json) → List Char → Except ReadFault (Json × List Char)
  | 0, _, cs => .error (.flaw .nameExpected cs.length)
  | fuel + 1, done, cs =>
    match cs with
    | '"' :: rest => do
      let (name, rest) ← readText cs.length (rest.length + 1) [] rest
      match skipGap rest with
      | ':' :: rest =>
        let (value, rest) ← readValue room fuel (skipGap rest)
        let done := putEntry name value done
        match skipGap rest with
        | ',' :: rest => readMembers room fuel done (skipGap rest)
        | '\x7d' :: rest => return (.obj done, rest)
        | rest => .error (.flaw .commaExpected rest.length)
      | rest => .error (.flaw .colonExpected rest.length)
    | _ => .error (.flaw .nameExpected cs.length)

end

/-- Reads the one value of a text. -/
def readAll (cs : List Char) : Except ReadFault Json :=
  match cs with
  | '\ufeff' :: _ => .error (.flaw .byteOrderMark cs.length)
  | _ => do
    let (value, rest) ← readValue depthLimit (cs.length + 1) (skipGap cs)
    match skipGap rest with
    | [] => return value
    | rest => .error (.flaw .moreThanOneValue rest.length)

/-- The line and column of the place after some characters, both counted from one. -/
def lineAndColumn (before : List Char) : Nat × Nat :=
  let line := (before.reverse.takeWhile (· ≠ '\n')).reverse
  (before.count '\n' + 1, (Text.signs line).length + 1)

/-- A fault of reading a text, with its place. -/
def ReadFault.toFault (cs : List Char) : ReadFault → Fault
  | .tooManyDigits digits => .tooManyDigits digits
  | .tooDeep => .tooDeep
  | .flaw kind left =>
    let before := cs.take (cs.length - left)
    let (line, column) := lineAndColumn before
    .malformed kind line column (Text.signs before).length

/-- The JSON value that a text holds. -/
def read (s : String) : Except Fault Json :=
  match readAll s.toList with
  | .ok value => .ok value
  | .error e => .error (e.toFault s.toList)

/-- The JSON value of a text that is itself given as a value. -/
def reread (v : Json) : Except Fault Json :=
  match v with
  | .str s => read s
  | v => .error (.notText v.kind)

end Arcade.Json
