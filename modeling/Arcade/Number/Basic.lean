import Arcade.Fault
import Arcade.Number.Shortest

/-!
# Numbers

A number is an integer of any size or a double. Integers are exact. A sum, product or quotient
with a double in it is a double, and an integer that takes part in it has to be within the range
of doubles. Comparison is exact also between an integer and a double; nothing compares with a
value that is not a number.
-/

namespace Arcade

/-- An integer of any size or a double. -/
inductive Number where
  | int (n : Int)
  | float (x : Float)
deriving DecidableEq, Repr

namespace Number

instance : OfNat Number n := ⟨.int n⟩

/-- Compares an integer with a double; `none` when the double is not a number. -/
def compareIntDouble (n : Int) (x : Float) : Option Ordering :=
  match Double.meaning x with
  | .nan => none
  | .infinite negative => some (if negative then .gt else .lt)
  | .finite negative mantissa exponent =>
    let (num, den) := Double.scaleByTwo mantissa 1 exponent
    let size : Int := if negative then -(num : Int) else num
    some (compare (n * den) size)

/-- Compares the values of two numbers; `none` when one is not a number. -/
def compare? : Number → Number → Option Ordering
  | .int m, .int n => some (compare m n)
  | .int m, .float y => compareIntDouble m y
  | .float x, .int n => (compareIntDouble n x).map Ordering.swap
  | .float x, .float y =>
    if x < y then some .lt else if y < x then some .gt else if x == y then some .eq else none

def lt (a b : Number) : Bool := a.compare? b == some .lt

def le (a b : Number) : Bool := a.compare? b == some .lt || a.compare? b == some .eq

/-- Equality of values, which no value that is not a number has even with itself. -/
def same (a b : Number) : Bool := a.compare? b == some .eq

/-- Zero of either sign. -/
def isZero (a : Number) : Bool := a.same 0

/-- The later number only if it is greater, else the first. -/
def max (a b : Number) : Number := if a.lt b then b else a

/-- The double nearest to an integer. -/
def doubleOfInt (n : Int) : Except Fault Float :=
  match Double.ofInt? n with
  | some x => .ok x
  | none => .error .outOfRange

/-- The number as a double. -/
def toDouble : Number → Except Fault Float
  | .int n => doubleOfInt n
  | .float x => .ok x

/-- The number without its fraction. -/
def toInt : Number → Except Fault Int
  | .int n => .ok n
  | .float x =>
    match Double.meaning x with
    | .nan => .error .badValue
    | .infinite _ => .error .outOfRange
    | .finite .. => .ok ((Double.truncate? x).getD 0)

/-- The number that is greater by one. -/
def succ : Number → Number
  | .int n => .int (n + 1)
  | .float x => .float (x + 1)

def add : Number → Number → Except Fault Number
  | .int m, .int n => .ok (.int (m + n))
  | a, b => do return .float ((← a.toDouble) + (← b.toDouble))

def sub : Number → Number → Except Fault Number
  | .int m, .int n => .ok (.int (m - n))
  | a, b => do return .float ((← a.toDouble) - (← b.toDouble))

def mul : Number → Number → Except Fault Number
  | .int m, .int n => .ok (.int (m * n))
  | a, b => do return .float ((← a.toDouble) * (← b.toDouble))

/-- The quotient as a double; the divisor is not zero. The quotient of two integers is rounded
once. -/
def div : Number → Number → Except Fault Float
  | .int m, .int n =>
    match Double.ofRatio? (decide (m < 0) != decide (n < 0)) m.natAbs n.natAbs with
    | some x => .ok x
    | none => .error .outOfRange
  | a, b => do return (← a.toDouble) / (← b.toDouble)

/-- The number in decimal. -/
def text : Number → String
  | .int n => toString n
  | .float x => Decimal.plain.writeDouble x

@[simp] theorem compare?_int (m n : Int) :
    compare? (.int m) (.int n) = some (compare m n) := rfl

theorem lt_int (m n : Int) : lt (.int m) (.int n) = decide (m < n) := by
  by_cases h : m < n
  · simp [lt, h, compare, compareOfLessAndEq]
  · simp only [lt, compare?_int, compare, compareOfLessAndEq, h, if_false, decide_false]
    split <;> rfl

theorem le_int (m n : Int) : le (.int m) (.int n) = decide (m ≤ n) := by
  simp only [le, compare?_int, compare, compareOfLessAndEq]
  by_cases h : m < n
  · simp [h, Int.le_of_lt h]
  · by_cases he : m = n
    · simp [he]
    · have : ¬ m ≤ n := by omega
      simp [h, he, this]

theorem same_int (m n : Int) : same (.int m) (.int n) = decide (m = n) := by
  simp only [same, compare?_int, compare, compareOfLessAndEq]
  by_cases h : m < n
  · have : m ≠ n := by omega
    simp [h, this]
  · by_cases he : m = n <;> simp [h, he]

end Number

end Arcade
