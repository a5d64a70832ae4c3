/-!
# Doubles as exact fractions

A finite double is a sign and a natural number times a power of two. In the other direction, a
fraction has a nearest double: the fraction is scaled so that its integer part has as many bits
as a double keeps, and rounded there, with a tie going to the even neighbour. The two directions
are all that exact comparison, reading and printing of doubles need.
-/

namespace Arcade

/-- What a double stands for. -/
inductive Double.Meaning where
  | nan
  | infinite (negative : Bool)
  /-- The number `± mantissa · 2 ^ exponent`. -/
  | finite (negative : Bool) (mantissa : Nat) (exponent : Int)
deriving DecidableEq, Repr

namespace Double

/-- The exponent of the smallest step between doubles. -/
def lowestExponent : Int := -1074

/-- The bit pattern of positive infinity, above that of every finite magnitude. -/
def infinityBits : Nat := 2047 * Nat.pow 2 52

/-- Reads the sign, exponent and fraction of a double. -/
def meaning (x : Float) : Meaning :=
  let bits := x.toBits.toNat
  let negative := bits / Nat.pow 2 63 == 1
  let field : Nat := bits / Nat.pow 2 52 % 2048
  let fraction := bits % Nat.pow 2 52
  if field = 2047 then
    if fraction = 0 then .infinite negative else .nan
  else if field = 0 then .finite negative fraction lowestExponent
  else .finite negative (fraction + Nat.pow 2 52) ((field : Int) - 1075)

/-- The quotient rounded to the nearest natural number, a tie going to the even one. -/
def roundDiv (num den : Nat) : Nat :=
  let q := num / den
  let twice := 2 * (num % den)
  if twice < den then q
  else if den < twice then q + 1
  else if q % 2 = 0 then q else q + 1

/-- `num · 2 ^ exponent / den` as a fraction of natural numbers. -/
def scaleByTwo (num den : Nat) (exponent : Int) : Nat × Nat :=
  if 0 ≤ exponent then (num * Nat.pow 2 exponent.toNat, den)
  else (num, den * Nat.pow 2 (-exponent).toNat)

/-- The greatest `k` with `2 ^ k ≤ num / den`, for positive `num` and `den`. -/
def floorLog2 (num den : Nat) : Int :=
  let guess : Int := num.log2 - den.log2
  let (scaled, unit) := scaleByTwo num den (-guess)
  if unit ≤ scaled then guess else guess - 1

/-- The bit pattern of the double nearest to `num / den`, if that is not infinite. -/
def nearestBits? (num den : Nat) : Option Nat :=
  if num = 0 then some 0
  else
    let exponent := max lowestExponent (floorLog2 num den - 52)
    let (scaled, unit) := scaleByTwo num den (-exponent)
    let bits := (exponent - lowestExponent).toNat * Nat.pow 2 52 + roundDiv scaled unit
    if bits < infinityBits then some bits else none

/-- The double with a given sign and bit pattern of its magnitude. -/
def ofBits (negative : Bool) (bits : Nat) : Float :=
  Float.ofBits (UInt64.ofNat (if negative then Nat.pow 2 63 + bits else bits))

def infinity : Float := ofBits false infinityBits

def nan : Float := ofBits false (infinityBits + Nat.pow 2 51)

/-- The double nearest to `± num / den`, if that is not infinite. -/
def ofRatio? (negative : Bool) (num den : Nat) : Option Float :=
  (nearestBits? num den).map (ofBits negative)

/-- The double nearest to an integer, if that is not infinite. -/
def ofInt? (n : Int) : Option Float :=
  ofRatio? (decide (n < 0)) n.natAbs 1

/-- The double nearest to `± digits · 10 ^ exponent`, with infinity beyond the largest double. -/
def ofDecimal (negative : Bool) (digits : Nat) (exponent : Int) : Float :=
  let size : Int := (Nat.toDigits 10 digits).length + exponent
  if digits = 0 ∨ size < -400 then ofBits negative 0
  else if 400 < size then ofBits negative infinityBits
  else
    let nearest :=
      if 0 ≤ exponent then nearestBits? (digits * Nat.pow 10 exponent.toNat) 1
      else nearestBits? digits (Nat.pow 10 (-exponent).toNat)
    ofBits negative (nearest.getD infinityBits)

/-- The integer part of a finite double, without its fraction; `none` for the others. -/
def truncate? (x : Float) : Option Int :=
  match meaning x with
  | .finite negative mantissa exponent =>
    let (num, den) := scaleByTwo mantissa 1 exponent
    let size : Int := (num / den : Nat)
    some (if negative then -size else size)
  | _ => none

/-- Whether a double is finite and has no fraction. -/
def isIntegral (x : Float) : Bool :=
  match meaning x with
  | .finite _ mantissa exponent =>
    let (num, den) := scaleByTwo mantissa 1 exponent
    num % den == 0
  | _ => false

/-- Rounds to a number of decimal places, a tie of the exact value going to the even digit. -/
def roundPlaces (places : Nat) (x : Float) : Float :=
  match meaning x with
  | .finite negative mantissa exponent =>
    let (num, den) := scaleByTwo (mantissa * Nat.pow 10 places) 1 exponent
    (ofRatio? negative (roundDiv num den) (Nat.pow 10 places)).getD x
  | _ => x

/-- Rounding to the nearest is off by at most half a unit. -/
theorem roundDiv_le {num den : Nat} (hden : 0 < den) :
    2 * (roundDiv num den * den) ≤ 2 * num + den := by
  have hdiv := Nat.div_add_mod num den
  have hcomm : num / den * den = den * (num / den) := Nat.mul_comm _ _
  unfold roundDiv
  simp only
  split
  · omega
  · split
    · rw [Nat.add_mul]; omega
    · split
      · omega
      · rw [Nat.add_mul]; omega

theorem le_roundDiv {num den : Nat} (hden : 0 < den) :
    2 * num ≤ 2 * (roundDiv num den * den) + den := by
  have hdiv := Nat.div_add_mod num den
  have hmod := Nat.mod_lt num hden
  have hcomm : num / den * den = den * (num / den) := Nat.mul_comm _ _
  unfold roundDiv
  simp only
  split
  · omega
  · split
    · rw [Nat.add_mul]; omega
    · split
      · omega
      · rw [Nat.add_mul]; omega

/-- A natural number is its own rounding. -/
theorem roundDiv_one (n : Nat) : roundDiv n 1 = n := by
  simp [roundDiv, Nat.mod_one]

end Double

end Arcade
