import Arcade.Number.Double

/-!
# The shortest decimal of a double

Every real number in a certain interval around a double rounds to that double. The decimal
chosen for it has as few digits as any decimal in the interval, and among those it is the one
nearest to the double. It is found on grids of growing fineness: on each grid only the two
neighbours of the double have to be tested, in exact arithmetic of natural numbers.
A decimal with a fixed number of digits, `Decimal.nearest`, is a rounding on one such grid.

A layout then says how the digits are written. In the layout used for all texts of this library,
numbers from `0.0001` up to sixteen digits before the point are written positionally, with at
least one digit on each side of the point, and the others with an exponent of two digits or more.
-/

namespace Arcade.Decimal

/-- A positive decimal number `digits · 10 ^ exponent`. -/
structure Scaled where
  digits : Nat
  exponent : Int
deriving DecidableEq, Repr

/-- `num / den / 10 ^ exponent` as a fraction of natural numbers. -/
def scaleByTen (num den : Nat) (exponent : Int) : Nat × Nat :=
  if 0 ≤ exponent then (num, den * Nat.pow 10 exponent.toNat)
  else (num * Nat.pow 10 (-exponent).toNat, den)

/-- The greatest `k` with `10 ^ k ≤ num / den`, for positive `num` and `den`. -/
def floorLog10 (num den : Nat) : Int :=
  let guess : Int := (Double.floorLog2 num den * 30103) / 100000
  let atLeast (k : Int) : Bool :=
    let (scaled, unit) := scaleByTen num den k
    decide (unit ≤ scaled)
  if atLeast (guess + 1) then guess + 1 else if atLeast guess then guess else guess - 1

/-- The reals that round to the double `mantissa · 2 ^ exponent`, in quarters of its last place:
the lower end, the double itself and the upper end. -/
def roundingInterval (mantissa : Nat) (exponent : Int) : Nat × Nat × Nat :=
  let narrow := mantissa == Nat.pow 2 52 && decide (Double.lowestExponent < exponent)
  (4 * mantissa - (if narrow then 1 else 2), 4 * mantissa, 4 * mantissa + 2)

/-- The decimal on the grid of `10 ^ exponent` that rounds to the double and is nearest to it. -/
def onGrid? (mantissa : Nat) (exponent : Int) (grid : Int) : Option Scaled :=
  let (low, mid, high) := roundingInterval mantissa exponent
  let (one, quarter) := Double.scaleByTwo 1 4 exponent
  let (step, unit) := scaleByTen one quarter grid
  -- The double is `mid · step / unit` on this grid.
  let below := mid * step / unit
  let rounds (n : Nat) : Bool :=
    if mantissa % 2 = 0 then decide (low * step ≤ n * unit) && decide (n * unit ≤ high * step)
    else decide (low * step < n * unit) && decide (n * unit < high * step)
  let above := below + 1
  match rounds below, rounds above with
  | false, false => none
  | true, false => some ⟨below, grid⟩
  | false, true => some ⟨above, grid⟩
  | true, true =>
    if above * unit + below * unit < 2 * (mid * step) then some ⟨above, grid⟩
    else if 2 * (mid * step) < above * unit + below * unit then some ⟨below, grid⟩
    else some ⟨if below % 2 = 0 then below else above, grid⟩

/-- Moves the zeros at the end of the digits into the exponent; the fuel is the number of
digits. -/
def dropZeros : Nat → Scaled → Scaled
  | 0, d => d
  | fuel + 1, d =>
    if d.digits % 10 = 0 ∧ d.digits ≠ 0 then dropZeros fuel ⟨d.digits / 10, d.exponent + 1⟩ else d

/-- The shortest decimal that rounds to the positive double `mantissa · 2 ^ exponent`. -/
def shortest (mantissa : Nat) (exponent : Int) : Scaled :=
  let (num, den) := Double.scaleByTwo mantissa 1 exponent
  let top := floorLog10 num den
  let found := (List.range 17).findSome? fun (k : Nat) => onGrid? mantissa exponent (top - k)
  dropZeros 20 (found.getD ⟨num / den, 0⟩)

/-- The decimal with a number of digits that is nearest to the positive double
`mantissa · 2 ^ exponent`, the greater one of two, without zeros at the end. -/
def nearest (count mantissa : Nat) (exponent : Int) : Scaled :=
  let (num, den) := Double.scaleByTwo mantissa 1 exponent
  let grid := floorLog10 num den - (count - 1)
  let (scaled, unit) := scaleByTen num den grid
  dropZeros (count + 1) ⟨(2 * scaled + unit) / (2 * unit), grid⟩

/-- How decimals are written. -/
structure Layout where
  /-- The least exponent of the first digit that is written positionally. -/
  leastPositional : Int
  /-- The least exponent of the first digit above those written positionally. -/
  leastExponential : Int
  /-- Whether a single digit before an exponent is followed by a point and a zero. -/
  pointed : Bool := false
  /-- What is written between digits and exponent. -/
  mark : String
  /-- The least number of digits in an exponent. -/
  exponentWidth : Nat
  /-- How the values without digits are written. -/
  infinite : String
  notNumber : String

/-- The layout of every number in texts and documents. -/
def plain : Layout where
  leastPositional := -4
  leastExponential := 16
  mark := "e"
  exponentWidth := 2
  infinite := "inf"
  notNumber := "nan"

/-- The text with zeros in front up to a width. -/
def padZeros (width : Nat) (s : String) : String :=
  String.ofList (List.replicate (width - s.length) '0') ++ s

/-- The digits around a decimal point that stands `point` digits after the first, `1 ≤ point`. -/
def pointAfter (digits : List Char) (point : Nat) : String :=
  let whole := digits.take point
  let rest := digits.drop point
  let whole := whole ++ List.replicate (point - whole.length) '0'
  String.ofList whole ++ "." ++ String.ofList (if rest = [] then ['0'] else rest)

/-- A positive decimal written in a layout. -/
def Layout.write (layout : Layout) (d : Scaled) : String :=
  let digits := (toString d.digits).toList
  let top : Int := d.exponent + digits.length - 1
  if layout.leastPositional ≤ top ∧ top < layout.leastExponential then
    if 0 ≤ top then pointAfter digits (top.toNat + 1)
    else "0." ++ String.ofList (List.replicate (-top - 1).toNat '0' ++ digits)
  else
    let lead := match digits with
      | [_] => String.ofList digits ++ (if layout.pointed then ".0" else "")
      | c :: rest => String.ofList (c :: '.' :: rest)
      | [] => ""
    let sign := if top < 0 then "-" else "+"
    lead ++ layout.mark ++ sign ++ padZeros layout.exponentWidth (toString top.natAbs)

/-- A double written in a layout. -/
def Layout.writeDouble (layout : Layout) (x : Float) : String :=
  match Double.meaning x with
  | .nan => layout.notNumber
  | .infinite negative => (if negative then "-" else "") ++ layout.infinite
  | .finite negative mantissa exponent =>
    (if negative then "-" else "") ++
      (if mantissa = 0 then "0.0" else layout.write (shortest mantissa exponent))

end Arcade.Decimal
