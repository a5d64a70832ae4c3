import Arcade.Number.Basic
import Arcade.Text.Blank
import Arcade.Text.Digit

/-!
# Reading numbers

A number may be written between blanks, with a sign, with the decimal digits of any script and
with single underscores between digits. The four information separators of ASCII, which are blanks
elsewhere, are none around a number. An integer is a row of such digits. A double may also have a
point, an exponent, or be one of the words for infinity and for a value that is not a number, in
any case.
-/

namespace Arcade.Number

/-- The greatest number of digits with which an integer is read. -/
def digitLimit : Nat := 4300

/-- The text with every decimal digit in its ASCII form. -/
def plainDigits (cs : List Char) : List Char :=
  cs.map fun c => match Text.digitValue? c with
    | some d => Char.ofNat ('0'.toNat + d)
    | none => c

/-- Removes single underscores that stand between digits; `none` if another one occurs. -/
def dropUnderscores? (afterDigit : Bool) : List Char → Option (List Char)
  | [] => some []
  | '_' :: rest =>
    match rest with
    | c :: _ =>
      if afterDigit && Text.isPlainDigit c then dropUnderscores? false rest else none
    | [] => none
  | c :: rest => (dropUnderscores? (Text.isPlainDigit c) rest).map (c :: ·)

/-- The sign in front, negative or not, and the rest. -/
def takeSign : List Char → Bool × List Char
  | '-' :: rest => (true, rest)
  | '+' :: rest => (false, rest)
  | cs => (false, cs)

/-- The value of a row of ASCII digits. -/
def digitsValue (cs : List Char) : Nat :=
  cs.foldl (fun n c => 10 * n + (c.toNat - '0'.toNat)) 0

/-- Whether a character may stand in front of a number or behind it. -/
def isPadding (c : Char) : Bool :=
  Text.isBlank c && !Text.isSeparator c

/-- The text of a number without blanks around it and underscores in it. -/
def tidy? (s : String) : Option (List Char) :=
  dropUnderscores? false (plainDigits (Text.trimChars isPadding s.toList))

/-- Reads an integer. -/
def readInt (s : String) : Except Fault Int :=
  match tidy? s with
  | none => .error .badValue
  | some cs =>
    let (negative, digits) := takeSign cs
    if digits ≠ [] ∧ digits.all Text.isPlainDigit ∧ digits.length ≤ digitLimit then
      let n : Int := digitsValue digits
      .ok (if negative then -n else n)
    else .error .badValue

/-- Whatever keeps a text from being an integer, the fault is the same. -/
theorem readInt_error {s : String} {e : Fault} (h : readInt s = .error e) :
    e = .badValue := by
  unfold readInt at h
  split at h
  · exact (Except.error.inj h).symm
  · dsimp only at h
    split at h
    · cases h
    · exact (Except.error.inj h).symm

/-- No integer starts with the mark of an object. -/
theorem readInt_of_brace {s : String} {cs : List Char} (h : s.toList = '\x7b' :: cs) :
    readInt s = .error .badValue := by
  obtain ⟨ds, hds⟩ := Text.trimChars_cons (p := isPadding) (c := '\x7b') (by decide) cs
  have hplain : plainDigits ('\x7b' :: ds) = '\x7b' :: plainDigits ds := by
    have hvalue : Text.digitValue? '\x7b' = none := by decide
    simp [plainDigits, hvalue]
  unfold readInt tidy?
  rw [h, hds, hplain, dropUnderscores?]
  · cases dropUnderscores? (Text.isPlainDigit '\x7b') (plainDigits ds) with
    | none => rfl
    | some es =>
      have hdigit : Text.isPlainDigit '\x7b' = false := by decide
      simp [takeSign, hdigit]
  · decide

/-- Splits off the digits at the head. -/
def spanDigits (cs : List Char) : List Char × List Char :=
  (cs.takeWhile Text.isPlainDigit, cs.dropWhile Text.isPlainDigit)

/-- The exponent that a text consists of; an empty text is the exponent zero. -/
def readExponent? : List Char → Option Int
  | [] => some 0
  | e :: rest =>
    if e = 'e' ∨ e = 'E' then
      let (negative, digits) := takeSign rest
      if digits ≠ [] ∧ digits.all Text.isPlainDigit then
        let n : Int := digitsValue digits
        some (if negative then -n else n)
      else none
    else none

/-- Reads a decimal number with an optional fraction and exponent. -/
def readDecimal? (negative : Bool) (cs : List Char) : Option Float :=
  let (whole, rest) := spanDigits cs
  let (fraction, rest) := match rest with
    | '.' :: rest => spanDigits rest
    | _ => ([], rest)
  if whole = [] ∧ fraction = [] then none
  else (readExponent? rest).map fun exponent =>
    Double.ofDecimal negative (digitsValue (whole ++ fraction)) (exponent - fraction.length)

/-- Reads a double. -/
def readDouble (s : String) : Except Fault Float :=
  match tidy? s with
  | none => .error .badValue
  | some cs =>
    let (negative, body) := takeSign cs
    let word := String.ofList (body.map Char.toLower)
    if word = "inf" ∨ word = "infinity" then
      .ok (Double.ofBits negative Double.infinityBits)
    else if word = "nan" then .ok Double.nan
    else match readDecimal? negative body with
      | some x => .ok x
      | none => .error .badValue

end Arcade.Number
