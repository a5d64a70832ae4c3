import Arcade.Number.Shortest
import Mathlib.Data.Int.Log
import Mathlib.Data.Rat.Floor
import Mathlib.Tactic.FieldSimp
import Mathlib.Tactic.Linarith
import Mathlib.Tactic.NormNum
import Mathlib.Tactic.Positivity
import Mathlib.Tactic.Ring

/-!
# Numbers that round to a double

A finite double has a mantissa of at most 53 bits and an exponent. The numbers that round to it form
an interval: half a step to each side, or a quarter of a step below where the steps become finer.
The ends belong to it if the mantissa is even. The nearest double to any fraction in the interval is
the double in its middle.
-/

namespace Arcade.Double

/-! ## Powers of two -/

theorem scaleByTwo_pos (num : Nat) {den : Nat} (h : 0 < den) (exponent : Int) :
    0 < (scaleByTwo num den exponent).2 := by
  unfold scaleByTwo
  split
  · exact h
  · exact Nat.mul_pos h (Nat.pow_pos (by decide))

/-- Scaling by a power of two does what it says. -/
theorem scaleByTwo_ratio (num den : Nat) (exponent : Int) :
    ((scaleByTwo num den exponent).1 : ℚ) / (scaleByTwo num den exponent).2 =
      (num : ℚ) / den * 2 ^ exponent := by
  unfold scaleByTwo
  split
  · rename_i h
    obtain ⟨k, rfl⟩ := Int.eq_ofNat_of_zero_le h
    simp only [Int.toNat_natCast, Nat.pow_eq, Nat.cast_mul, Nat.cast_pow,
      Nat.cast_ofNat, zpow_natCast]
    ring
  · rename_i h
    obtain ⟨k, hk⟩ := Int.eq_ofNat_of_zero_le (show 0 ≤ -exponent by omega)
    obtain rfl : exponent = -(k : Int) := by omega
    simp only [Int.neg_neg, Int.toNat_natCast, Nat.pow_eq, Nat.cast_mul, Nat.cast_pow,
      Nat.cast_ofNat, zpow_neg, zpow_natCast]
    rw [div_mul_eq_div_div, div_eq_mul_inv]

theorem two_zpow_pos (k : Int) : (0 : ℚ) < 2 ^ k := zpow_pos (by norm_num) k

/-- A number reaches a power of two exactly if its logarithm does, here in steps of another one. -/
theorem add_le_log_iff {x : ℚ} (hx : 0 < x) (k exponent : Int) :
    k + exponent ≤ Int.log 2 x ↔ 2 ^ k ≤ x / 2 ^ exponent := by
  rw [← Int.zpow_le_iff_le_log (by decide) hx, le_div_iff₀ (two_zpow_pos exponent),
    Nat.cast_ofNat, zpow_add₀ (by norm_num)]

/-- The logarithm of a fraction is found by a guess from those of its two parts. -/
theorem floorLog2_eq_log {num den : Nat} (hnum : 0 < num) (hden : 0 < den) :
    floorLog2 num den = Int.log 2 ((num : ℚ) / den) := by
  have hd : (0 : ℚ) < den := by exact_mod_cast hden
  have hr : (0 : ℚ) < num / den := div_pos (by exact_mod_cast hnum) hd
  have hbounds : ∀ {n : Nat}, 0 < n → (2 : ℚ) ^ (n.log2 : Int) ≤ n ∧
      (n : ℚ) < 2 * 2 ^ (n.log2 : Int) := by
    intro n hn
    rw [zpow_natCast, ← pow_succ']
    exact ⟨by exact_mod_cast Nat.log2_self_le (Nat.ne_of_gt hn), by exact_mod_cast Nat.lt_log2_self⟩
  have hguess : (2 : ℚ) ^ (num.log2 : Int) =
      2 ^ ((num.log2 : Int) - den.log2) * 2 ^ (den.log2 : Int) := by
    rw [← zpow_add₀ (by norm_num), sub_add_cancel]
  have hratio := scaleByTwo_ratio num den (-((num.log2 : Int) - den.log2))
  have hpos := scaleByTwo_pos num hden (-((num.log2 : Int) - den.log2))
  unfold floorLog2
  dsimp only
  generalize scaleByTwo num den (-((num.log2 : Int) - den.log2)) = scaled at hratio hpos ⊢
  have hpos : (0 : ℚ) < scaled.2 := by exact_mod_cast hpos
  have hpow := two_zpow_pos ((num.log2 : Int) - den.log2)
  rw [zpow_neg, ← div_eq_mul_inv] at hratio
  have htest : scaled.2 ≤ scaled.1 ↔ (2 : ℚ) ^ ((num.log2 : Int) - den.log2) ≤ num / den := by
    rw [← one_le_div hpow, ← hratio, one_le_div hpos, Nat.cast_le]
  -- The guess is the logarithm or one above it.
  have hlow : (2 : ℚ) ^ ((num.log2 : Int) - den.log2 - 1) ≤ num / den := by
    rw [le_div_iff₀ hd, zpow_sub_one₀ (by norm_num)]
    have := mul_le_mul_of_nonneg_left (hbounds hden).2.le hpow.le
    linarith [(hbounds hnum).1]
  have hhigh : (num : ℚ) / den < 2 ^ ((num.log2 : Int) - den.log2 + 1) := by
    rw [div_lt_iff₀ hd, zpow_add_one₀ (by norm_num)]
    have := mul_le_mul_of_nonneg_left (hbounds hden).1 hpow.le
    linarith [(hbounds hnum).2]
  have hle := Int.zpow_le_iff_le_log (b := 2) (x := (num.log2 : Int) - den.log2) (by decide) hr
  have hle' := (Int.zpow_le_iff_le_log (b := 2) (x := (num.log2 : Int) - den.log2 - 1)
    (by decide) hr).1 hlow
  have hlt := (Int.lt_zpow_iff_log_lt (b := 2) (x := (num.log2 : Int) - den.log2 + 1)
    (by decide) hr).1 hhigh
  rw [Nat.cast_ofNat, ← htest] at hle
  split <;> rename_i h
  · have := hle.1 h
    omega
  · have := mt hle.2 h
    omega

/-! ## Rounding to a natural number -/

/-- Whether a number rounds to a natural number, with ties going to the even one. -/
def Nearest (n : Nat) (x : ℚ) : Prop :=
  if n % 2 = 0 then 2 * (n : ℚ) ≤ 2 * x + 1 ∧ 2 * x ≤ 2 * n + 1
  else 2 * (n : ℚ) < 2 * x + 1 ∧ 2 * x < 2 * n + 1

/-- No number rounds to two natural numbers. -/
theorem Nearest.unique {m n : Nat} {x : ℚ} (hm : Nearest m x) (hn : Nearest n x) : m = n := by
  have aux : ∀ {m n : Nat}, Nearest m x → Nearest n x → n ≤ m := by
    intro m n hm hn
    refine Nat.not_lt.1 fun hlt => ?_
    have hcast : (m : ℚ) + 1 ≤ n := by exact_mod_cast hlt
    unfold Nearest at hm hn
    split at hm <;> split at hn <;> try linarith [hm.2, hn.1]
    -- Two even neighbours of a tie would be one apart.
    rename_i hmeven hneven
    have heq : (n : ℚ) = m + 1 := by linarith [hm.2, hn.1]
    have heq : n = m + 1 := by exact_mod_cast heq
    omega
  exact Nat.le_antisymm (aux hn hm) (aux hm hn)

theorem Nearest.bounds {n : Nat} {x : ℚ} (h : Nearest n x) :
    2 * (n : ℚ) ≤ 2 * x + 1 ∧ 2 * x ≤ 2 * n + 1 := by
  unfold Nearest at h
  split at h
  · exact h
  · exact ⟨h.1.le, h.2.le⟩

theorem nearest_roundDiv (num : Nat) {den : Nat} (hden : 0 < den) :
    Nearest (roundDiv num den) (num / den) := by
  have hd : (0 : ℚ) < den := by exact_mod_cast hden
  have hx : 2 * ((num : ℚ) / den) = 2 * (num / den : Nat) + (2 * (num % den) : Nat) / den := by
    have hsplit : (num : ℚ) = den * (num / den : Nat) + (num % den : Nat) := by
      exact_mod_cast (Nat.div_add_mod num den).symm
    rw [Nat.cast_mul, Nat.cast_ofNat]
    field_simp
    linarith
  have hrest : (0 : ℚ) ≤ (2 * (num % den) : Nat) / den := by positivity
  have hrest2 : ((2 * (num % den) : Nat) : ℚ) / den < 2 := by
    rw [div_lt_iff₀ hd]
    exact_mod_cast Nat.mul_lt_mul_of_pos_left (Nat.mod_lt num hden) (by decide)
  unfold roundDiv
  dsimp only
  -- Only the quotient and twice the rest matter from here on, and the cases compare that with the
  -- denominator.
  generalize (num / den : Nat) = q at hx ⊢
  generalize 2 * (num % den) = twice at hx hrest hrest2 ⊢
  unfold Nearest
  rw [hx]
  split
  · rename_i h
    have : (twice : ℚ) / den < 1 := by
      rw [div_lt_one hd]
      exact_mod_cast h
    split <;> constructor <;> linarith
  · split
    · rename_i h
      have : 1 < (twice : ℚ) / den := by
        rw [one_lt_div hd]
        exact_mod_cast h
      rw [Nat.cast_succ]
      split <;> constructor <;> linarith
    · rename_i h h'
      -- At a tie the even one of the two neighbours is taken.
      have htie : (twice : ℚ) / den = 1 := by
        rw [Nat.le_antisymm (Nat.not_lt.1 h') (Nat.not_lt.1 h), div_self (ne_of_gt hd)]
      rw [htie]
      split
      · constructor <;> linarith
      · rename_i hq
        rw [if_pos (by omega), Nat.cast_succ]
        constructor <;> linarith

/-- Rounding finds the natural number that a fraction rounds to. -/
theorem roundDiv_eq_iff {num den n : Nat} (hden : 0 < den) :
    roundDiv num den = n ↔ Nearest n (num / den) :=
  ⟨fun h => h ▸ nearest_roundDiv num hden, fun h => (nearest_roundDiv num hden).unique h⟩

/-! ## Rounding to a double -/

/-- The mantissas and exponents of finite doubles: a mantissa of fewer than 53 bits only stands
with the lowest exponent. -/
structure Normal (mantissa : Nat) (exponent : Int) : Prop where
  mantissa_lt : mantissa < 2 ^ 53
  le_exponent : lowestExponent ≤ exponent
  exponent_le : exponent ≤ 971
  full : 2 ^ 52 ≤ mantissa ∨ exponent = lowestExponent

/-- The bit pattern of a magnitude. -/
def magnitude (mantissa : Nat) (exponent : Int) : Nat :=
  (exponent - lowestExponent).toNat * 2 ^ 52 + mantissa

/-- Whether a number rounds to the double `mantissa · 2 ^ exponent`. -/
def RoundsTo (mantissa : Nat) (exponent : Int) (x : ℚ) : Prop :=
  let ends := Decimal.roundingInterval mantissa exponent
  if mantissa % 2 = 0 then (ends.1 : ℚ) * 2 ^ exponent ≤ 4 * x ∧ 4 * x ≤ ends.2.2 * 2 ^ exponent
  else (ends.1 : ℚ) * 2 ^ exponent < 4 * x ∧ 4 * x < ends.2.2 * 2 ^ exponent

theorem magnitude_lt {mantissa : Nat} {exponent : Int} (h : Normal mantissa exponent) :
    magnitude mantissa exponent < infinityBits := by
  have hm := h.mantissa_lt
  have he : (exponent - lowestExponent).toNat ≤ 2045 := by
    have := h.exponent_le
    unfold lowestExponent
    omega
  unfold magnitude infinityBits
  rw [Nat.pow_eq]
  omega

theorem nearestBits?_of_nearest {num den n : Nat} {exponent : Int} (hnum : 0 < num)
    (hden : 0 < den) (he : max lowestExponent (floorLog2 num den - 52) = exponent)
    (hn : Nearest n (num / den / 2 ^ exponent))
    (hlt : (exponent - lowestExponent).toNat * 2 ^ 52 + n < infinityBits) :
    nearestBits? num den = some ((exponent - lowestExponent).toNat * 2 ^ 52 + n) := by
  have hround : roundDiv (scaleByTwo num den (-exponent)).1 (scaleByTwo num den (-exponent)).2 =
      n := by
    rwa [roundDiv_eq_iff (scaleByTwo_pos _ hden _), scaleByTwo_ratio, zpow_neg, ← div_eq_mul_inv]
  unfold nearestBits?
  rw [if_neg (Nat.ne_of_gt hnum)]
  dsimp only
  rw [he, hround, Nat.pow_eq, if_pos hlt]

/-- Inside the step of a double its mantissa is what rounds. -/
theorem nearest_of_roundsTo {mantissa : Nat} {exponent : Int} {x : ℚ} (hm : 0 < mantissa)
    (h : RoundsTo mantissa exponent x) : Nearest mantissa (x / 2 ^ exponent) := by
  have hpow := two_zpow_pos exponent
  have hx : x = x / 2 ^ exponent * 2 ^ exponent := (div_mul_cancel₀ x (ne_of_gt hpow)).symm
  have hlow : 4 * (mantissa : ℚ) - 2 ≤ (Decimal.roundingInterval mantissa exponent).1 := by
    unfold Decimal.roundingInterval
    dsimp only
    split <;> rw [Nat.cast_sub (by omega)] <;> push_cast <;> linarith
  have hhigh : ((Decimal.roundingInterval mantissa exponent).2.2 : ℚ) = 4 * mantissa + 2 := by
    unfold Decimal.roundingInterval
    norm_num
  unfold RoundsTo at h
  dsimp only at h
  rw [hx, hhigh, ← mul_assoc] at h
  simp only [mul_le_mul_iff_left₀ hpow, mul_lt_mul_iff_left₀ hpow] at h
  unfold Nearest
  split at h
  · rename_i heven
    rw [if_pos heven]
    constructor <;> linarith [h.1, h.2]
  · rename_i hodd
    rw [if_neg hodd]
    constructor <;> linarith [h.1, h.2]

/-- Just below a power of two, where the steps are half as long, the next mantissa of full length
rounds. -/
theorem nearest_of_roundsTo_narrow {exponent : Int} {x : ℚ} (he : lowestExponent < exponent)
    (h : RoundsTo (2 ^ 52) exponent x) (hlt : x / 2 ^ exponent < 2 ^ 52) :
    Nearest (2 ^ 53) (x / 2 ^ (exponent - 1)) := by
  have hpow := two_zpow_pos exponent
  have hdouble : x / 2 ^ (exponent - 1) = 2 * (x / 2 ^ exponent) := by
    rw [zpow_sub_one₀ (by norm_num)]
    field_simp
  have hlow : ((2 ^ 54 - 1 : Nat) : ℚ) * 2 ^ exponent ≤ 4 * x := by
    have hends : (Decimal.roundingInterval (2 ^ 52) exponent).1 = 2 ^ 54 - 1 := by
      simp [Decimal.roundingInterval, he]
    rw [RoundsTo, if_pos (by norm_num)] at h
    rw [← hends]
    exact h.1
  rw [← le_div_iff₀ hpow, mul_div_assoc] at hlow
  norm_num at hlow
  rw [hdouble, Nearest, if_pos (by norm_num)]
  push_cast
  constructor <;> linarith

theorem num_pos_of_roundsTo {num den mantissa : Nat} {exponent : Int} (hm : 0 < mantissa)
    (h : RoundsTo mantissa exponent (num / den)) : 0 < num := by
  have hone : (1 : ℚ) ≤ mantissa := by exact_mod_cast hm
  refine Nat.pos_of_ne_zero fun hz => ?_
  obtain ⟨hlow, -⟩ := (nearest_of_roundsTo hm h).bounds
  rw [hz, Nat.cast_zero, zero_div, zero_div] at hlow
  linarith

/-- Only the least of the full mantissas has numbers below its powers of two that round to it. -/
theorem eq_of_nearest_of_lt {mantissa : Nat} {exponent : Int} {x : ℚ}
    (hn : Normal mantissa exponent) (hne : exponent ≠ lowestExponent) (h : Nearest mantissa x)
    (hlt : x < 2 ^ 52) : mantissa = 2 ^ 52 := by
  refine Nat.le_antisymm (Nat.le_of_lt_succ ?_) (hn.full.resolve_right hne)
  have : (mantissa : ℚ) < (2 ^ 52 + 1 : Nat) := by
    push_cast
    linarith [h.bounds.1]
  exact_mod_cast this

/-- The nearest double to a fraction is the one that it rounds to. -/
theorem nearestBits?_of_roundsTo {num den mantissa : Nat} {exponent : Int}
    (hden : 0 < den) (hm : 0 < mantissa) (hn : Normal mantissa exponent)
    (h : RoundsTo mantissa exponent (num / den)) :
    nearestBits? num den = some (magnitude mantissa exponent) := by
  have hnear := nearest_of_roundsTo hm h
  obtain ⟨hlow, hhigh⟩ := hnear.bounds
  have hle : (mantissa : ℚ) + 1 ≤ 2 ^ 53 := by exact_mod_cast hn.mantissa_lt
  have hnum := num_pos_of_roundsTo hm h
  have hpos : (0 : ℚ) < num / den :=
    div_pos (by exact_mod_cast hnum) (by exact_mod_cast hden)
  have hlog := fun k => add_le_log_iff hpos k exponent
  have hupper : ¬ 53 + exponent ≤ Int.log 2 ((num : ℚ) / den) := by
    rw [hlog]
    norm_num
    linarith
  by_cases hfull : exponent = lowestExponent ∨ (2 : ℚ) ^ (52 : Int) ≤ num / den / 2 ^ exponent
  · refine nearestBits?_of_nearest hnum hden ?_ hnear (magnitude_lt hn)
    rw [floorLog2_eq_log hnum hden]
    have hlowest := hn.le_exponent
    rcases hfull with hfull | hfull
    · omega
    · have := (hlog 52).2 hfull
      omega
  · -- Below its power of two, the mantissa that rounds has one bit more and a finer exponent.
    obtain ⟨hne, hlt⟩ := not_or.1 hfull
    have hlt : (num : ℚ) / den / 2 ^ exponent < 2 ^ 52 := lt_of_not_ge hlt
    have hlowest : lowestExponent < exponent := lt_of_le_of_ne hn.le_exponent (Ne.symm hne)
    obtain rfl := eq_of_nearest_of_lt hn hne hnear hlt
    have hbits : magnitude (2 ^ 52) exponent =
        (exponent - 1 - lowestExponent).toNat * 2 ^ 52 + 2 ^ 53 := by
      unfold magnitude
      omega
    rw [hbits]
    refine nearestBits?_of_nearest hnum hden ?_ (nearest_of_roundsTo_narrow hlowest h hlt)
      (hbits ▸ magnitude_lt hn)
    have hge := (hlog 51).2 (by
      norm_num at hlow ⊢
      linarith)
    have hlt := mt (hlog 52).1 (not_le_of_gt hlt)
    rw [floorLog2_eq_log hnum hden]
    omega

end Arcade.Double
