import Arcade.Proofs.Number.Rounding
import Mathlib.Algebra.Order.Floor.Semifield

/-!
# The shortest decimal rounds back

The decimal that is chosen for a double rounds to it. Each one found on a grid does, because it was
tested, and on the grid of seventeen digits one is always found: its steps are shorter than the
interval of numbers that round to the double.
-/

namespace Arcade.Decimal

open Double

/-! ## Powers of ten -/

theorem ten_zpow_pos (k : Int) : (0 : ℚ) < 10 ^ k := zpow_pos (by norm_num) k

theorem scaleByTen_pos {num den : Nat} (h : 0 < den) (exponent : Int) :
    0 < (scaleByTen num den exponent).2 := by
  unfold scaleByTen
  split
  · exact Nat.mul_pos h (Nat.pow_pos (by decide))
  · exact h

/-- Scaling by a power of ten does what it says. -/
theorem scaleByTen_ratio (num den : Nat) (exponent : Int) :
    ((scaleByTen num den exponent).1 : ℚ) / (scaleByTen num den exponent).2 =
      (num : ℚ) / den / 10 ^ exponent := by
  unfold scaleByTen
  split
  · rename_i h
    obtain ⟨k, rfl⟩ := Int.eq_ofNat_of_zero_le h
    simp only [Int.toNat_natCast, Nat.pow_eq, Nat.cast_mul, Nat.cast_pow, Nat.cast_ofNat,
      zpow_natCast]
    rw [div_mul_eq_div_div]
  · rename_i h
    obtain ⟨k, hk⟩ := Int.eq_ofNat_of_zero_le (show 0 ≤ -exponent by omega)
    obtain rfl : exponent = -(k : Int) := by omega
    simp only [Int.neg_neg, Int.toNat_natCast, Nat.pow_eq, Nat.cast_mul, Nat.cast_pow,
      Nat.cast_ofNat, zpow_neg, zpow_natCast]
    rw [div_inv_eq_mul]
    ring

/-- In the range of doubles `30103 / 100000` is close enough to the decimal logarithm of two. -/
theorem guess_bounds : ∀ n < 1100, 10 ^ (n * 30103 / 100000) ≤ 10 * 2 ^ n ∧
    2 ^ n ≤ 10 ^ ((n * 30103 + 99999) / 100000 + 1) := by
  decide +kernel

theorem ten_zpow_guess_le {k : Int} (hlow : -1100 < k) (hhigh : k < 1100) :
    (10 : ℚ) ^ (k * 30103 / 100000 - 1) ≤ 2 ^ k := by
  rcases Int.le_total 0 k with h | h
  · obtain ⟨n, rfl⟩ := Int.eq_ofNat_of_zero_le h
    have hn := (guess_bounds n (by omega)).1
    have hdiv : (n : Int) * 30103 / 100000 = ((n * 30103 / 100000 : Nat) : Int) := by omega
    rw [hdiv, zpow_sub_one₀ (by norm_num), zpow_natCast, zpow_natCast, ← div_eq_mul_inv,
      div_le_iff₀ (by norm_num)]
    have hn : ((10 ^ (n * 30103 / 100000) : Nat) : ℚ) ≤ ((10 * 2 ^ n : Nat) : ℚ) := by
      exact_mod_cast hn
    push_cast at hn
    linarith
  · obtain ⟨n, hn⟩ := Int.eq_ofNat_of_zero_le (show 0 ≤ -k by omega)
    obtain rfl : k = -(n : Int) := by omega
    have hbound := (guess_bounds n (by omega)).2
    have hdiv : -(n : Int) * 30103 / 100000 - 1 =
        -(((n * 30103 + 99999) / 100000 + 1 : Nat) : Int) := by omega
    rw [hdiv, zpow_neg, zpow_neg, zpow_natCast, zpow_natCast]
    refine inv_anti₀ (by positivity) ?_
    exact_mod_cast hbound

/-- The first digit of a fraction stands at least as high as the logarithm that is found. -/
theorem ten_zpow_floorLog10_le {num den : Nat} (hnum : 0 < num) (hden : 0 < den)
    (hlow : -1100 < floorLog2 num den) (hhigh : floorLog2 num den < 1100) :
    (10 : ℚ) ^ floorLog10 num den ≤ num / den := by
  have htest : ∀ k, (scaleByTen num den k).2 ≤ (scaleByTen num den k).1 ↔
      (10 : ℚ) ^ k ≤ num / den := by
    intro k
    have hpos : (0 : ℚ) < (scaleByTen num den k).2 := by exact_mod_cast scaleByTen_pos hden k
    rw [← one_le_div (ten_zpow_pos k), ← scaleByTen_ratio, one_le_div hpos, Nat.cast_le]
  unfold floorLog10
  dsimp only
  split
  · rename_i h
    exact (htest _).1 (of_decide_eq_true h)
  · split
    · rename_i h
      exact (htest _).1 (of_decide_eq_true h)
    · refine (ten_zpow_guess_le hlow hhigh).trans ?_
      have hr : (0 : ℚ) < num / den :=
        div_pos (by exact_mod_cast hnum) (by exact_mod_cast hden)
      rw [floorLog2_eq_log hnum hden]
      exact Int.zpow_log_le_self (by decide) hr

/-! ## Grids -/

/-- The number that a decimal stands for. -/
def Scaled.value (d : Scaled) : ℚ := d.digits * 10 ^ d.exponent

/-- The step of a grid in quarters of the last place of a double. -/
def gridStep (exponent grid : Int) : Nat × Nat :=
  scaleByTen (scaleByTwo 1 4 exponent).1 (scaleByTwo 1 4 exponent).2 grid

theorem gridStep_pos (exponent grid : Int) : 0 < (gridStep exponent grid).2 :=
  scaleByTen_pos (scaleByTwo_pos _ (by decide) exponent) grid

theorem gridStep_ratio (exponent grid : Int) :
    ((gridStep exponent grid).1 : ℚ) / (gridStep exponent grid).2 =
      2 ^ exponent / (4 * 10 ^ grid) := by
  rw [gridStep, scaleByTen_ratio, scaleByTwo_ratio]
  push_cast
  rw [← div_div]
  ring

/-- The test of a decimal on a grid, in natural numbers. -/
def roundsOnGrid (mantissa : Nat) (exponent grid : Int) (n : Nat) : Bool :=
  let ends := roundingInterval mantissa exponent
  let step := gridStep exponent grid
  if mantissa % 2 = 0 then
    decide (ends.1 * step.1 ≤ n * step.2) && decide (n * step.2 ≤ ends.2.2 * step.1)
  else decide (ends.1 * step.1 < n * step.2) && decide (n * step.2 < ends.2.2 * step.1)

theorem roundsOnGrid_iff {mantissa : Nat} {exponent grid : Int} {n : Nat} :
    roundsOnGrid mantissa exponent grid n = true ↔
      RoundsTo mantissa exponent (Scaled.value ⟨n, grid⟩) := by
  have hunit : (0 : ℚ) < (gridStep exponent grid).2 := by
    exact_mod_cast gridStep_pos exponent grid
  have hten := ten_zpow_pos grid
  have hstep : ((gridStep exponent grid).1 : ℚ) * (4 * 10 ^ grid) =
      2 ^ exponent * (gridStep exponent grid).2 :=
    (div_eq_div_iff (ne_of_gt hunit) (by positivity)).1 (gridStep_ratio exponent grid)
  -- Both sides of a test are multiplied by the unit of the grid.
  have hscale : ∀ a : Nat, ((a * (gridStep exponent grid).1 : Nat) : ℚ) * (4 * 10 ^ grid) =
      a * 2 ^ exponent * (gridStep exponent grid).2 := by
    intro a
    push_cast
    rw [mul_assoc, hstep, mul_assoc]
  have hvalue : ((n * (gridStep exponent grid).2 : Nat) : ℚ) * (4 * 10 ^ grid) =
      4 * Scaled.value ⟨n, grid⟩ * (gridStep exponent grid).2 := by
    unfold Scaled.value
    push_cast
    ring
  have hfour : (0 : ℚ) < 4 * 10 ^ grid := by positivity
  have hle : ∀ a b : Nat, a ≤ b ↔ (a : ℚ) * (4 * 10 ^ grid) ≤ b * (4 * 10 ^ grid) := fun a b => by
    rw [mul_le_mul_iff_left₀ hfour, Nat.cast_le]
  have hlt : ∀ a b : Nat, a < b ↔ (a : ℚ) * (4 * 10 ^ grid) < b * (4 * 10 ^ grid) := fun a b => by
    rw [mul_lt_mul_iff_left₀ hfour, Nat.cast_lt]
  unfold roundsOnGrid RoundsTo
  dsimp only
  split
  · rw [Bool.and_eq_true, decide_eq_true_iff, decide_eq_true_iff, hle, hle, hscale, hscale, hvalue,
      mul_le_mul_iff_left₀ hunit, mul_le_mul_iff_left₀ hunit]
  · rw [Bool.and_eq_true, decide_eq_true_iff, decide_eq_true_iff, hlt, hlt, hscale, hscale, hvalue,
      mul_lt_mul_iff_left₀ hunit, mul_lt_mul_iff_left₀ hunit]

/-- The natural number on a grid that is next below a double. -/
def gridBelow (mantissa : Nat) (exponent grid : Int) : Nat :=
  4 * mantissa * (gridStep exponent grid).1 / (gridStep exponent grid).2

/-- A double lies between its two neighbours on a grid. -/
theorem gridBelow_bounds (mantissa : Nat) (exponent grid : Int) :
    Scaled.value ⟨gridBelow mantissa exponent grid, grid⟩ ≤ mantissa * 2 ^ exponent ∧
      mantissa * 2 ^ exponent < Scaled.value ⟨gridBelow mantissa exponent grid + 1, grid⟩ := by
  have hten := ten_zpow_pos grid
  have hquot : ((4 * mantissa * (gridStep exponent grid).1 : Nat) : ℚ) / (gridStep exponent grid).2 =
      mantissa * 2 ^ exponent / 10 ^ grid := by
    push_cast
    rw [mul_div_assoc, gridStep_ratio]
    field_simp
  have hfloor : gridBelow mantissa exponent grid =
      ⌊(mantissa : ℚ) * 2 ^ exponent / 10 ^ grid⌋₊ := by
    rw [← hquot, Nat.floor_div_eq_div, gridBelow]
  unfold Scaled.value
  dsimp only
  rw [hfloor, ← le_div_iff₀ hten, ← div_lt_iff₀ hten]
  refine ⟨Nat.floor_le (div_nonneg (mul_nonneg (Nat.cast_nonneg _) (two_zpow_pos _).le) hten.le),
    ?_⟩
  push_cast
  exact Nat.lt_floor_add_one _

theorem onGrid?_eq (mantissa : Nat) (exponent grid : Int) :
    onGrid? mantissa exponent grid =
      let below := gridBelow mantissa exponent grid
      let unit := (gridStep exponent grid).2
      let twice := 2 * (4 * mantissa * (gridStep exponent grid).1)
      match roundsOnGrid mantissa exponent grid below,
        roundsOnGrid mantissa exponent grid (below + 1) with
      | false, false => none
      | true, false => some ⟨below, grid⟩
      | false, true => some ⟨below + 1, grid⟩
      | true, true =>
        if (below + 1) * unit + below * unit < twice then some ⟨below + 1, grid⟩
        else if twice < (below + 1) * unit + below * unit then some ⟨below, grid⟩
        else some ⟨if below % 2 = 0 then below else below + 1, grid⟩ := rfl

/-- What is found on a grid rounds to the double. -/
theorem roundsTo_of_onGrid? {mantissa : Nat} {exponent grid : Int} {d : Scaled}
    (h : onGrid? mantissa exponent grid = some d) : RoundsTo mantissa exponent d.value := by
  rw [onGrid?_eq] at h
  dsimp only at h
  split at h
  · cases h
  · rename_i hbelow _
    cases h
    exact roundsOnGrid_iff.1 hbelow
  · rename_i _ habove
    cases h
    exact roundsOnGrid_iff.1 habove
  · rename_i hbelow habove
    split at h
    · cases h
      exact roundsOnGrid_iff.1 habove
    · split at h
      · cases h
        exact roundsOnGrid_iff.1 hbelow
      · cases h
        split
        · exact roundsOnGrid_iff.1 hbelow
        · exact roundsOnGrid_iff.1 habove

/-- Nothing is found on a grid only if neither neighbour of the double rounds to it. -/
theorem not_roundsTo_of_onGrid?_eq_none {mantissa : Nat} {exponent grid : Int}
    (h : onGrid? mantissa exponent grid = none) :
    ¬ RoundsTo mantissa exponent (Scaled.value ⟨gridBelow mantissa exponent grid, grid⟩) ∧
      ¬ RoundsTo mantissa exponent
        (Scaled.value ⟨gridBelow mantissa exponent grid + 1, grid⟩) := by
  rw [onGrid?_eq] at h
  dsimp only at h
  split at h
  · rename_i hbelow habove
    rw [← roundsOnGrid_iff, ← roundsOnGrid_iff, hbelow, habove]
    exact ⟨Bool.false_ne_true, Bool.false_ne_true⟩
  · cases h
  · cases h
  · split at h
    · cases h
    · split at h <;> cases h

/-! ## Seventeen digits -/

theorem roundsTo_of_lt {mantissa : Nat} {exponent : Int} {x : ℚ}
    (hlow : ((roundingInterval mantissa exponent).1 : ℚ) * 2 ^ exponent < 4 * x)
    (hhigh : 4 * x < (4 * mantissa + 2) * 2 ^ exponent) : RoundsTo mantissa exponent x := by
  have hends : ((roundingInterval mantissa exponent).2.2 : ℚ) = 4 * mantissa + 2 := by
    unfold roundingInterval
    push_cast
    rfl
  unfold RoundsTo
  dsimp only
  rw [hends]
  split
  · exact ⟨hlow.le, hhigh.le⟩
  · exact ⟨hlow, hhigh⟩

/-- Half a step around a double rounds to it, except just below a power of two. -/
theorem low_end_eq {mantissa : Nat} {exponent : Int} (hm : 0 < mantissa)
    (h : ¬ (mantissa = 2 ^ 52 ∧ lowestExponent < exponent)) :
    ((roundingInterval mantissa exponent).1 : ℚ) = 4 * mantissa - 2 := by
  have hnarrow : (mantissa == Nat.pow 2 52 && decide (lowestExponent < exponent)) = false := by
    simpa [Nat.pow_eq] using h
  unfold roundingInterval
  rw [hnarrow]
  dsimp only
  rw [if_neg Bool.false_ne_true, Nat.cast_sub (by omega)]
  push_cast
  rfl

theorem low_end_le (mantissa : Nat) (exponent : Int) :
    ((roundingInterval mantissa exponent).1 : ℚ) ≤ 4 * mantissa := by
  have : (roundingInterval mantissa exponent).1 ≤ 4 * mantissa := Nat.sub_le _ _
  exact_mod_cast this

/-- What lies less than half a step above a double rounds to it. -/
theorem roundsTo_above {mantissa : Nat} {exponent : Int} {x : ℚ}
    (hlow : mantissa * 2 ^ exponent < x)
    (hhigh : 2 * x < 2 * (mantissa * 2 ^ exponent) + 2 ^ exponent) :
    RoundsTo mantissa exponent x := by
  have := mul_le_mul_of_nonneg_right (low_end_le mantissa exponent) (two_zpow_pos exponent).le
  exact roundsTo_of_lt (by linarith) (by linarith)

/-- On a grid with at least seventeen digits something is found. -/
theorem onGrid?_ne_none {mantissa : Nat} {exponent grid : Int} (hm : 0 < mantissa)
    (hn : Normal mantissa exponent)
    (hgrid : (10 : ℚ) ^ grid * 10 ^ 16 ≤ mantissa * 2 ^ exponent) :
    onGrid? mantissa exponent grid ≠ none := by
  intro hnone
  obtain ⟨hbelow, habove⟩ := not_roundsTo_of_onGrid?_eq_none hnone
  obtain ⟨hle, hlt⟩ := gridBelow_bounds mantissa exponent grid
  have hpow := two_zpow_pos exponent
  have hnext : Scaled.value ⟨gridBelow mantissa exponent grid + 1, grid⟩ =
      Scaled.value ⟨gridBelow mantissa exponent grid, grid⟩ + 10 ^ grid := by
    unfold Scaled.value
    push_cast
    ring
  generalize Scaled.value ⟨gridBelow mantissa exponent grid, grid⟩ = below at *
  generalize Scaled.value ⟨gridBelow mantissa exponent grid + 1, grid⟩ = above at *
  have hfull : (mantissa : ℚ) * 2 ^ exponent ≤ (2 ^ 53 - 1) * 2 ^ exponent := by
    refine mul_le_mul_of_nonneg_right ?_ hpow.le
    have : (mantissa : ℚ) + 1 ≤ 2 ^ 53 := by exact_mod_cast hn.mantissa_lt
    linarith
  by_cases hnarrow : mantissa = 2 ^ 52 ∧ lowestExponent < exponent
  · -- A step of the grid is shorter than the upper half of the interval.
    obtain ⟨rfl, -⟩ := hnarrow
    push_cast at hgrid
    exact habove (roundsTo_above hlt (by linarith))
  · -- The nearer neighbour is within half a step of the grid.
    by_cases hnear : 2 * above < 2 * (mantissa * 2 ^ exponent) + 10 ^ grid
    · exact habove (roundsTo_above hlt (by linarith))
    · refine hbelow (roundsTo_of_lt ?_ (by linarith))
      rw [low_end_eq hm hnarrow]
      linarith

/-! ## The shortest decimal -/

theorem value_dropZeros (fuel : Nat) (d : Scaled) : (dropZeros fuel d).value = d.value := by
  induction fuel generalizing d with
  | zero => rfl
  | succ fuel ih =>
    rw [dropZeros]
    split
    · rename_i h
      rw [ih]
      have hdigits : (d.digits : ℚ) = 10 * (d.digits / 10 : Nat) := by
        exact_mod_cast (Nat.mul_div_cancel' (Nat.dvd_of_mod_eq_zero h.1)).symm
      unfold Scaled.value
      dsimp only
      rw [hdigits, zpow_add_one₀ (by norm_num)]
      ring
    · rfl

/-- The first digit of a double stands at least as high as the logarithm that is found. -/
theorem ten_zpow_top_le {mantissa num den : Nat} {exponent : Int} (hm : 0 < mantissa)
    (hn : Normal mantissa exponent) (hden : 0 < den)
    (hratio : (num : ℚ) / den = mantissa * 2 ^ exponent) :
    (10 : ℚ) ^ floorLog10 num den ≤ mantissa * 2 ^ exponent := by
  have hpow := two_zpow_pos exponent
  have hone : (1 : ℚ) ≤ mantissa := by exact_mod_cast hm
  have hpos : (0 : ℚ) < mantissa * 2 ^ exponent := by positivity
  have hnum : 0 < num := by
    refine Nat.pos_of_ne_zero fun hz => ?_
    rw [← hratio, hz, Nat.cast_zero, zero_div] at hpos
    exact lt_irrefl _ hpos
  have hlow : exponent ≤ Int.log 2 ((mantissa : ℚ) * 2 ^ exponent) := by
    rw [← Int.zpow_le_iff_le_log (by decide) hpos]
    push_cast
    exact le_mul_of_one_le_left hpow.le hone
  have hhigh : Int.log 2 ((mantissa : ℚ) * 2 ^ exponent) < 53 + exponent := by
    rw [← Int.lt_zpow_iff_log_lt (by decide) hpos, Nat.cast_ofNat, zpow_add₀ (by norm_num)]
    refine mul_lt_mul_of_pos_right ?_ hpow
    exact_mod_cast hn.mantissa_lt
  rw [← hratio, ← floorLog2_eq_log hnum hden] at hlow hhigh
  have hbounds : -1074 ≤ exponent ∧ exponent ≤ 971 := ⟨hn.le_exponent, hn.exponent_le⟩
  rw [← hratio]
  exact ten_zpow_floorLog10_le hnum hden (by omega) (by omega)

/-- The shortest decimal of a double rounds to it. -/
theorem roundsTo_shortest {mantissa : Nat} {exponent : Int} (hm : 0 < mantissa)
    (hn : Normal mantissa exponent) :
    RoundsTo mantissa exponent (shortest mantissa exponent).value := by
  have hratio := scaleByTwo_ratio mantissa 1 exponent
  rw [Nat.cast_one, div_one] at hratio
  have hden := scaleByTwo_pos mantissa Nat.one_pos exponent
  unfold shortest
  dsimp only
  generalize scaleByTwo mantissa 1 exponent = frac at hratio hden ⊢
  rw [value_dropZeros]
  cases hfound : (List.range 17).findSome? fun k : Nat =>
      onGrid? mantissa exponent (floorLog10 frac.1 frac.2 - k) with
  | some d =>
    obtain ⟨k, -, hk⟩ := List.exists_of_findSome?_eq_some hfound
    exact roundsTo_of_onGrid? hk
  | none =>
    refine absurd (List.findSome?_eq_none_iff.1 hfound 16 (List.mem_range.2 (by decide)))
      (onGrid?_ne_none hm hn ?_)
    have htop := ten_zpow_top_le hm hn hden hratio
    rwa [← zpow_natCast, ← zpow_add₀ (by norm_num), sub_add_cancel]

end Arcade.Decimal

namespace Arcade.Double

open Decimal

/-! ## The double of a decimal -/

/-- The number of digits of a decimal and its exponent say how large it is. -/
theorem value_bounds {digits : Nat} (h : 0 < digits) (exponent : Int) :
    (10 : ℚ) ^ ((Nat.toDigits 10 digits).length + exponent - 1) ≤
        Scaled.value ⟨digits, exponent⟩ ∧
      Scaled.value ⟨digits, exponent⟩ < 10 ^ ((Nat.toDigits 10 digits).length + exponent) := by
  have hten := ten_zpow_pos exponent
  have hlength := Nat.length_toDigits_pos (b := 10) (n := digits)
  have hhigh := (Nat.length_toDigits_le_iff (b := 10) (n := digits) (by decide) hlength).1 le_rfl
  have hlow : 10 ^ ((Nat.toDigits 10 digits).length - 1) ≤ digits := by
    by_cases hone : (Nat.toDigits 10 digits).length = 1
    · rw [hone]
      exact h
    · refine Nat.not_lt.1 fun hlt => ?_
      have := (Nat.length_toDigits_le_iff (b := 10) (n := digits) (by decide) (by omega)).2 hlt
      omega
  generalize (Nat.toDigits 10 digits).length = length at *
  unfold Scaled.value
  dsimp only
  constructor
  · rw [show (length : Int) + exponent - 1 = ((length - 1 : Nat) : Int) + exponent by omega,
      zpow_add₀ (by norm_num), zpow_natCast]
    exact mul_le_mul_of_nonneg_right (by exact_mod_cast hlow) hten.le
  · rw [zpow_add₀ (by norm_num), zpow_natCast]
    exact mul_lt_mul_of_pos_right (by exact_mod_cast hhigh) hten

/-- What rounds to a positive double is within the range of doubles. -/
theorem bounds_of_roundsTo {mantissa : Nat} {exponent : Int} {x : ℚ} (hm : 0 < mantissa)
    (hn : Normal mantissa exponent) (h : RoundsTo mantissa exponent x) :
    (2 : ℚ) ^ (-1075 : Int) ≤ x ∧ x < 2 ^ (1024 : Int) := by
  have hpow := two_zpow_pos exponent
  have hnear := nearest_of_roundsTo hm h
  have hone : (1 : ℚ) ≤ mantissa := by exact_mod_cast hm
  have hfull : (mantissa : ℚ) + 1 ≤ 2 ^ 53 := by exact_mod_cast hn.mantissa_lt
  have hends : 2⁻¹ ≤ x / 2 ^ exponent ∧ x / 2 ^ exponent < 2 ^ (53 : Int) := by
    unfold Nearest at hnear
    split at hnear <;> constructor <;> norm_num <;> linarith [hnear.1, hnear.2]
  rw [le_div_iff₀ hpow, div_lt_iff₀ hpow, ← zpow_add₀ (by norm_num), ← zpow_neg_one,
    ← zpow_add₀ (by norm_num)] at hends
  have hlow := hn.le_exponent
  have hhigh := hn.exponent_le
  unfold lowestExponent at hlow
  exact ⟨(zpow_le_zpow_right₀ (by norm_num) (by omega)).trans hends.1,
    hends.2.trans_le (zpow_le_zpow_right₀ (by norm_num) (by omega))⟩

/-- Four hundred decimal places are more than the range of doubles. -/
theorem two_zpow_le_ten_zpow : (2 : ℚ) ^ (1200 : Int) ≤ 10 ^ (400 : Int) := by
  rw [show (1200 : Int) = 3 * 400 by rfl, zpow_mul]
  exact zpow_le_zpow_left₀ (by norm_num) (by norm_num) (by norm_num)

theorem size_bounds {mantissa digits : Nat} {exponent place : Int} (hm : 0 < mantissa)
    (hn : Normal mantissa exponent)
    (h : RoundsTo mantissa exponent (Scaled.value ⟨digits, place⟩)) :
    0 < digits ∧ -400 < (Nat.toDigits 10 digits).length + place ∧
      (Nat.toDigits 10 digits).length + place ≤ 400 := by
  obtain ⟨hlow, hhigh⟩ := bounds_of_roundsTo hm hn h
  have hdigits : 0 < digits := by
    refine Nat.pos_of_ne_zero fun hz => ?_
    simp only [hz, Scaled.value, Nat.cast_zero, zero_mul] at hlow
    exact absurd hlow (not_le_of_gt (two_zpow_pos _))
  obtain ⟨hmin, hmax⟩ := value_bounds hdigits place
  have hsmall : (10 : ℚ) ^ (-400 : Int) < 2 ^ (-1075 : Int) := by
    rw [zpow_neg]
    refine (inv_anti₀ (two_zpow_pos _) two_zpow_le_ten_zpow).trans_lt ?_
    rw [← zpow_neg]
    exact zpow_lt_zpow_right₀ (by norm_num) (by norm_num)
  have hlarge : (2 : ℚ) ^ (1024 : Int) ≤ 10 ^ (400 : Int) :=
    (zpow_le_zpow_right₀ (by norm_num) (by norm_num)).trans two_zpow_le_ten_zpow
  have hleast := (zpow_lt_zpow_iff_right₀ (by norm_num : (1 : ℚ) < 10)).1
    (hsmall.trans_le (hlow.trans hmax.le))
  have hgreatest := (zpow_lt_zpow_iff_right₀ (by norm_num : (1 : ℚ) < 10)).1
    (hmin.trans_lt (hhigh.trans_le hlarge))
  exact ⟨hdigits, hleast, by omega⟩

/-- A decimal that rounds to a double is read as that double. -/
theorem ofDecimal_of_roundsTo {mantissa digits : Nat} {exponent place : Int} (negative : Bool)
    (hm : 0 < mantissa) (hn : Normal mantissa exponent)
    (h : RoundsTo mantissa exponent (Scaled.value ⟨digits, place⟩)) :
    ofDecimal negative digits place = ofBits negative (magnitude mantissa exponent) := by
  obtain ⟨hdigits, hleast, hgreatest⟩ := size_bounds hm hn h
  unfold ofDecimal
  dsimp only
  rw [if_neg (by omega), if_neg (by omega)]
  split
  · rename_i hplace
    obtain ⟨k, rfl⟩ := Int.eq_ofNat_of_zero_le hplace
    rw [nearestBits?_of_roundsTo Nat.one_pos hm hn]
    · rfl
    · rw [Nat.cast_one, div_one, Int.toNat_natCast, Nat.pow_eq]
      push_cast
      rwa [Scaled.value, zpow_natCast] at h
  · rename_i hplace
    obtain ⟨k, hk⟩ := Int.eq_ofNat_of_zero_le (show 0 ≤ -place by omega)
    obtain rfl : place = -(k : Int) := by omega
    rw [Int.neg_neg, Int.toNat_natCast, Nat.pow_eq,
      nearestBits?_of_roundsTo (Nat.pow_pos (by decide)) hm hn]
    · rfl
    · push_cast
      rwa [Scaled.value, zpow_neg, zpow_natCast, ← div_eq_mul_inv] at h

end Arcade.Double
