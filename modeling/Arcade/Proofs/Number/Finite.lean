import Mathlib
import Arcade.Proofs.Number.Ranks

/-!
# Results within the range of doubles

A result is rounded to 53 bits, and it is infinite if the exponent that is left is too great. What
is rounded off changes the exponent by one at most. So a product with one hundred is finite exactly
up to a bound that the last bits of the factor decide, adding a half to a finite double never makes
it infinite, and neither does taking anything from one hundred that is not negative.
-/

namespace Arcade.Double

open Float.Model Float.Model.UnpackedFloat

/-! ## Finite doubles -/

/-- Whether what a double is unpacked as is a finite number in the range of doubles. -/
def Fits : UnpackedFloat → Prop
  | .zero _ => True
  | .finite _ _ e _ => e ≤ 971
  | .infinity _ | .notANumber => False

theorem toNat_unpackExponent (b : BitVec Format.binary64.numBits) :
    (unpackExponent b).toNat = b.toNat / 2 ^ 52 % 2048 := by
  rw [unpackExponent_def, BitVec.extractLsb'_toNat, Nat.shiftRight_eq_div_pow]
  rfl

theorem toNat_unpackMantissa (b : BitVec Format.binary64.numBits) :
    (unpackMantissa b).toNat = b.toNat % 2 ^ 52 := by
  rw [unpackMantissa_def, BitVec.extractLsb'_toNat, Nat.shiftRight_zero]

/-- A packed double has the greatest exponent exactly if it does not fit. -/
theorem exponent_pack (u : UnpackedFloat) :
    (UnpackedFloat.pack Format.binary64 u).toNat / 2 ^ 52 % 2048 ≠ 2047 ↔ Fits u := by
  rw [← toNat_unpackExponent]
  cases u with
  | notANumber => exact iff_of_false (by decide) id
  | infinity s => cases s <;> exact iff_of_false (by decide) id
  | zero s => cases s <;> exact iff_of_true (by decide) trivial
  | finite s m e hm =>
    have hbias : (e + (Format.binary64.exponentBias : Int) +
        (Format.binary64.mantissaBitsWithoutImplicit : Int)) = e + 1075 := by
      change e + 1023 + 52 = _
      omega
    unfold UnpackedFloat.pack Fits
    dsimp only
    rw [hbias]
    split
    · refine iff_of_false (fun h => h ?_) (by omega)
      cases s <;> decide
    · rename_i hsmall
      have hlt : (e + 1075).toNat + 1 < 2 ^ 11 := by omega
      refine iff_of_true ?_ (by omega)
      split
      · rw [unpackExponent_packComponents, BitVec.toNat_ofNat]
        omega
      · rw [unpackExponent_packComponents]
        decide

/-- What is unpacked as a finite number has a mantissa and an exponent of a double. -/
theorem normal_of_unpack {b : BitVec Format.binary64.numBits} {s : Sign} {m : Nat} {e : Int}
    {hm : 0 < m} (h : UnpackedFloat.unpack Format.binary64 b = .finite s m e hm) : Normal m e := by
  have hbias : ((Format.binary64.exponentBias : Int) +
      (Format.binary64.mantissaBitsWithoutImplicit : Int)) = 1075 := rfl
  have hfraction := (unpackMantissa b).isLt
  have hfield := (unpackExponent b).isLt
  change _ < 2 ^ 52 at hfraction
  change _ < 2 ^ 11 at hfield
  unfold UnpackedFloat.unpack at h
  dsimp only at h
  rw [hbias] at h
  split at h
  · split at h <;> cases h
  · -- With a field of zero the exponent is the lowest one and the leading bit is absent.
    rename_i hinfinite
    have hlt := fun heq => hinfinite (BitVec.eq_of_toNat_eq heq)
    change ¬ _ = 2047 at hlt
    split at h
    · rename_i hzero
      split at h
      · cases h
      · cases h
        rw [hzero]
        exact ⟨by omega, by decide, by decide, .inr rfl⟩
    · rename_i hnormal
      have hpos := fun heq => hnormal (BitVec.eq_of_toNat_eq heq)
      change ¬ _ = 0 at hpos
      cases h
      have hm : (1#1 ++ unpackMantissa b).toNat = 2 ^ 52 + (unpackMantissa b).toNat := by
        rw [BitVec.toNat_append, ← Nat.shiftLeft_add_eq_or_of_lt hfraction]
        rfl
      have hlow : lowestExponent = -1074 := rfl
      rw [hm]
      exact ⟨by omega, by omega, by omega, .inl (by omega)⟩

theorem fits_unpack (b : BitVec Format.binary64.numBits) :
    Fits (UnpackedFloat.unpack Format.binary64 b) ↔ b.toNat / 2 ^ 52 % 2048 ≠ 2047 := by
  rw [← toNat_unpackExponent]
  by_cases h : unpackExponent b = -1#11
  · refine iff_of_false ?_ (not_not_intro (congrArg BitVec.toNat h))
    unfold UnpackedFloat.unpack
    dsimp only
    rw [if_pos h]
    split <;> exact id
  · refine iff_of_true ?_ (fun heq => h (BitVec.eq_of_toNat_eq heq))
    cases hu : UnpackedFloat.unpack Format.binary64 b with
    | zero s => trivial
    | finite s m e hm => exact (normal_of_unpack hu).exponent_le
    | _ =>
      unfold UnpackedFloat.unpack at hu
      dsimp only at hu
      rw [if_neg h] at hu
      split at hu
      · split at hu <;> cases hu
      · cases hu

/-! ## Rounding -/

/-- The number of bits that are rounded off. -/
def excess (m : Nat) (e : Int) : Nat := (max (m.log2 + e - 52) (-1074) - e).toNat

/-- What is left of a mantissa when bits are rounded off. -/
def rounded (m k : Nat) : Nat := (ExtendedMantissa.mk m false false >>> k).roundedMantissa

theorem mantissa_shiftRight (em : ExtendedMantissa) (k : Nat) :
    (em >>> k).mantissa = em.mantissa / 2 ^ k := by
  induction k with
  | zero => exact (Nat.div_one _).symm
  | succ k ih =>
    change (em >>> k).mantissa / 2 = _
    rw [ih, Nat.div_div_eq_div_mul, Nat.pow_succ]

theorem div_le_rounded (m k : Nat) : m / 2 ^ k ≤ rounded m k := by
  have hm := mantissa_shiftRight ⟨m, false, false⟩ k
  unfold rounded
  generalize ExtendedMantissa.mk m false false >>> k = em at hm ⊢
  rw [← hm]
  obtain ⟨n, r, t⟩ := em
  cases r <;> cases t <;> simp [ExtendedMantissa.roundedMantissa, ExtendedMantissa.accuracy,
    Accuracy.roundToNearestEven]

theorem rounded_zero (m : Nat) : rounded m 0 = m := rfl

/-- What is rounded up was half a step at least. -/
theorem rounded_le (m k : Nat) : 2 ^ (k + 1) * rounded m k ≤ 2 * m + 2 ^ k := by
  cases k with
  | zero =>
    rw [rounded_zero]
    omega
  | succ k =>
    have hm := mantissa_shiftRight ⟨m, false, false⟩ k
    change 2 ^ (k + 2) * (ExtendedMantissa.shiftRightOne
      (ExtendedMantissa.mk m false false >>> k)).roundedMantissa ≤ _
    generalize ExtendedMantissa.mk m false false >>> k = em at hm ⊢
    obtain ⟨n, r, t⟩ := em
    have hfloor : 2 ^ k * n ≤ m := by
      rw [show n = m / 2 ^ k from hm]
      exact Nat.mul_div_le m (2 ^ k)
    have hround : 2 * (ExtendedMantissa.shiftRightOne ⟨n, r, t⟩).roundedMantissa ≤ n + 1 := by
      rcases Nat.mod_two_eq_zero_or_one n with hn | hn <;> cases r <;> cases t <;>
        simp [ExtendedMantissa.shiftRightOne, ExtendedMantissa.roundedMantissa,
          ExtendedMantissa.accuracy, Accuracy.roundToNearestEven, hn] <;> omega
    generalize (ExtendedMantissa.shiftRightOne ⟨n, r, t⟩).roundedMantissa = q at hround ⊢
    calc 2 ^ (k + 2) * q = 2 * (2 ^ k * (2 * q)) := by ring
      _ ≤ 2 * (2 ^ k * (n + 1)) := by gcongr
      _ = 2 * (2 ^ k * n) + 2 ^ (k + 1) := by ring
      _ ≤ 2 * m + 2 ^ (k + 1) := by gcongr

theorem shiftToTargetExponent_exact (m : Nat) (e : Int) :
    shiftToTargetExponent Format.binary64 m e .exact =
      (ExtendedMantissa.mk m false false >>> excess m e, e + excess m e) := by
  have htarget : Format.binary64.targetExponent (totalExponent m e) =
      max (m.log2 + e - 52) (-1074) := by
    unfold Format.targetExponent totalExponent
    simp only [show Format.binary64.minExponent = -1074 from rfl,
      show Format.binary64.mantissaBits = 53 from rfl]
    omega
  unfold shiftToTargetExponent
  rw [htarget]
  rfl

/-- A rounded result fits if nothing is left, or its exponent is not too great after a second shift
of the mantissa, which rounding may have carried over. -/
theorem fits_roundWithAccuracy_iff (s : Sign) (m : Nat) (e : Int) :
    Fits (roundWithAccuracy Format.binary64 s m e .exact) ↔
      rounded m (excess m e) / 2 ^ excess (rounded m (excess m e)) (e + excess m e) = 0 ∨
        e + excess m e + excess (rounded m (excess m e)) (e + excess m e) ≤ 971 := by
  unfold roundWithAccuracy
  rw [shiftToTargetExponent_exact]
  dsimp only
  rw [shiftToTargetExponent_exact, mantissa_shiftRight]
  change Fits (if h : rounded m (excess m e) / _ = 0 then _ else _) ↔ _
  split
  · rename_i h
    exact iff_of_true trivial (.inl h)
  · rename_i h
    exact (or_iff_right h).symm

theorem log2_le_of_lt {n k : Nat} (h : n < 2 ^ (k + 1)) : n.log2 ≤ k := by
  rcases Nat.eq_zero_or_pos n with rfl | hn
  · exact Nat.zero_le k
  · exact Nat.lt_succ_iff.1 ((Nat.log2_lt hn.ne').2 h)

/-- A number that is nearer to the greatest double than to what would come next fits. -/
theorem fits_roundWithAccuracy {s : Sign} {m j : Nat} {e : Int} (hj : e + j = 971)
    (hm : 2 * m < (2 ^ 54 - 1) * 2 ^ j) :
    Fits (roundWithAccuracy Format.binary64 s m e .exact) := by
  have hlog : m.log2 ≤ 52 + j := by
    apply log2_le_of_lt
    rw [show 52 + j + 1 = 53 + j by omega, Nat.pow_add]
    omega
  have hk : excess m e ≤ j := by unfold excess; omega
  have hkeep : m.log2 ≤ 52 + excess m e := by unfold excess; omega
  have hround := rounded_le m (excess m e)
  rw [fits_roundWithAccuracy_iff]
  generalize excess m e = k at hk hkeep hround ⊢
  generalize rounded m k = r at hround ⊢
  refine .inr ?_
  -- On the highest exponent the rounded mantissa has to keep to 53 bits. Below it there is room
  -- for one bit more.
  rcases hk.eq_or_lt with rfl | hlt
  · have hr : r.log2 ≤ 52 := by
      apply log2_le_of_lt
      have hlt : 2 ^ (k + 1) * r < 2 ^ (k + 1) * 2 ^ 53 := by
        rw [Nat.pow_succ] at hround ⊢
        omega
      exact Nat.lt_of_mul_lt_mul_left hlt
    unfold excess
    omega
  · have hr : r.log2 ≤ 53 := by
      apply log2_le_of_lt
      have hm : m < 2 ^ (52 + k + 1) :=
        Nat.lt_log2_self.trans_le (Nat.pow_le_pow_right Nat.two_pos (by omega))
      have hlt : 2 ^ (k + 1) * r < 2 ^ (k + 1) * 2 ^ 54 := by
        rw [show 52 + k + 1 = 53 + k by omega, Nat.pow_add] at hm
        rw [Nat.pow_succ] at hround ⊢
        have := Nat.one_le_two_pow (n := k)
        omega
      exact Nat.lt_of_mul_lt_mul_left hlt
    unfold excess
    omega

/-- A number from the power of two that comes after the greatest double does not fit. -/
theorem not_fits_roundWithAccuracy {s : Sign} {m j : Nat} {e : Int} (hj : e + j = 971)
    (hm : 2 ^ (53 + j) ≤ m) : ¬ Fits (roundWithAccuracy Format.binary64 s m e .exact) := by
  have hpos : m ≠ 0 := (Nat.two_pow_pos _).trans_le hm |>.ne'
  have hlog : 53 + j ≤ m.log2 := (Nat.le_log2 hpos).2 hm
  have hk : m.log2 = 52 + excess m e := by unfold excess; omega
  have hfloor : 2 ^ 52 ≤ rounded m (excess m e) := by
    refine le_trans ?_ (div_le_rounded m (excess m e))
    rw [Nat.le_div_iff_mul_le (Nat.two_pow_pos _), ← Nat.pow_add, ← hk]
    exact Nat.log2_self_le hpos
  rw [fits_roundWithAccuracy_iff]
  generalize excess m e = k at hk hfloor ⊢
  generalize rounded m k = r at hfloor ⊢
  have hr : 2 ^ excess r (e + k) ≤ r := by
    have hpos : r ≠ 0 := by omega
    have hle : excess r (e + k) ≤ r.log2 := by
      have := (Nat.le_log2 hpos).2 hfloor
      unfold excess
      omega
    exact (Nat.pow_le_pow_right Nat.two_pos hle).trans (Nat.log2_self_le hpos)
  rintro (h | h)
  · exact (Nat.div_pos hr (Nat.two_pow_pos _)).ne' h
  · omega

theorem fits_round {s : Sign} {m j : Nat} {e : Int} (hj : e + j = 971)
    (hm : 2 * m < (2 ^ 54 - 1) * 2 ^ j) : Fits (UnpackedFloat.round Format.binary64 s m e) := by
  unfold UnpackedFloat.round decreaseExponent
  dsimp only
  generalize (e - _).toNat = k
  have hj : e - k + (j + k : Nat) = 971 := by omega
  refine fits_roundWithAccuracy hj ?_
  calc 2 * (m <<< k) = 2 * m * 2 ^ k := by rw [Nat.shiftLeft_eq, Nat.mul_assoc]
    _ < (2 ^ 54 - 1) * 2 ^ j * 2 ^ k := by gcongr
    _ = (2 ^ 54 - 1) * 2 ^ (j + k) := by rw [Nat.pow_add, Nat.mul_assoc]

theorem fits_normalize {n : Int} {s : Sign} {j : Nat} {e : Int} (hj : e + j = 971)
    (hn : 2 * n.natAbs < (2 ^ 54 - 1) * 2 ^ j) :
    Fits (UnpackedFloat.normalize Format.binary64 n e s) := by
  unfold UnpackedFloat.normalize
  split
  · rename_i hneg
    rw [Int.compare_eq_lt] at hneg
    exact fits_round hj (by omega)
  · trivial
  · rename_i hpos
    rw [Int.compare_eq_gt] at hpos
    exact fits_round hj (by omega)

/-! ## One hundred times a double -/

/-- The least double whose hundredfold is infinite. -/
def percentLimit : Float := ofBits false (2040 * 2 ^ 52 + 1261007895663739)

theorem unpack_hundred : (100.0 : Float).toModel.unpack =
    .finite .positive (25 * 2 ^ 48) (-46) (by decide) := by rfl

theorem unpack_percentLimit : percentLimit.toModel.unpack =
    .finite .positive 5764607523034235 965 (by decide) := by rfl

theorem fits_mul_hundred {m : Nat} {e : Int} (h : Normal m e) (hm : 0 < m) :
    Fits (UnpackedFloat.mul Format.binary64 (.finite .positive m e hm)
      (.finite .positive (25 * 2 ^ 48) (-46) (by decide))) ↔
        e < 965 ∨ e = 965 ∧ m < 5764607523034235 := by
  change Fits (roundWithAccuracy Format.binary64 .positive (m * (25 * 2 ^ 48)) (e + -46) .exact) ↔ _
  have hmantissa := h.mantissa_lt
  have hexponent := h.exponent_le
  obtain ⟨j, hj⟩ : ∃ j : Nat, e + -46 + j = 971 := ⟨(1017 - e).toNat, by omega⟩
  rcases lt_trichotomy e 965 with hlt | heq | hgt
  · refine iff_of_true (fits_roundWithAccuracy hj ?_) (.inl hlt)
    have hpow : 2 ^ 53 ≤ 2 ^ j := Nat.pow_le_pow_right Nat.two_pos (by omega)
    omega
  · have hpow : 2 ^ j = 2 ^ 52 := congrArg (2 ^ ·) (show j = 52 by omega)
    by_cases hle : m < 5764607523034235
    · exact iff_of_true (fits_roundWithAccuracy hj (by omega)) (.inr ⟨heq, hle⟩)
    · refine iff_of_false (not_fits_roundWithAccuracy hj ?_) (by omega)
      rw [Nat.pow_add]
      omega
  · refine iff_of_false (not_fits_roundWithAccuracy hj ?_) (by omega)
    have hlow : lowestExponent = -1074 := rfl
    have hfull := h.full.resolve_right (by omega)
    have hpow : 2 ^ (53 + j) ≤ 2 ^ 104 := Nat.pow_le_pow_right Nat.two_pos (by omega)
    omega

/-! ## Sums with a small double -/

/-- A double and one whose exponent is not near the greatest add up to what still fits. -/
theorem sum_lt {m n j : Nat} {e f : Int} (hm : Normal m e) (hn : Normal n f) (hf : f ≤ 917)
    (hj : min e f + j = 971) :
    2 * (m * 2 ^ (e - min e f).toNat + n * 2 ^ (f - min e f).toNat) < (2 ^ 54 - 1) * 2 ^ j := by
  have hfirst : m * 2 ^ (e - min e f).toNat ≤ (2 ^ 53 - 1) * 2 ^ j := by
    have hmantissa := hm.mantissa_lt
    have hexponent := hm.exponent_le
    gcongr <;> omega
  have hsecond : 2 * (n * 2 ^ (f - min e f).toNat) < 2 ^ j := by
    calc 2 * (n * 2 ^ (f - min e f).toNat) < 2 * (2 ^ 53 * 2 ^ (f - min e f).toNat) := by
          gcongr
          exact hn.mantissa_lt
      _ = 2 ^ (54 + (f - min e f).toNat) := by rw [← Nat.pow_add, ← Nat.pow_succ']; congr 1; omega
      _ ≤ 2 ^ j := Nat.pow_le_pow_right Nat.two_pos (by omega)
  omega

theorem natAbs_apply (s : Sign) (n : Int) : (s.apply n).natAbs = n.natAbs := by
  cases s with
  | positive => rfl
  | negative => exact Int.natAbs_neg n

variable {s t : Sign} {m n : Nat} {e f : Int}

theorem fits_add (hm : Normal m e) (hn : Normal n f) (hf : f ≤ 917) (hpos : 0 < m) (hpos' : 0 < n) :
    Fits (UnpackedFloat.add Format.binary64 (.finite s m e hpos) (.finite t n f hpos')) := by
  have hle := hm.exponent_le
  obtain ⟨j, hj⟩ : ∃ j : Nat, min e f + j = 971 := ⟨(971 - min e f).toNat, by omega⟩
  refine fits_normalize hj ((Nat.mul_le_mul_left 2 ?_).trans_lt (sum_lt hm hn hf hj))
  refine (Int.natAbs_add_le _ _).trans (Nat.le_of_eq ?_)
  rw [natAbs_apply, natAbs_apply]
  simp only [Int.natAbs_natCast, Nat.shiftLeft_eq]

theorem fits_sub (hm : Normal m e) (hn : Normal n f) (he : e ≤ 917) (hpos : 0 < m) (hpos' : 0 < n) :
    Fits (UnpackedFloat.sub Format.binary64 (.finite s m e hpos) (.finite t n f hpos')) := by
  have hle := hn.exponent_le
  obtain ⟨j, hj⟩ : ∃ j : Nat, min f e + j = 971 := ⟨(971 - min f e).toNat, by omega⟩
  have hlt := sum_lt hn hm he hj
  rw [min_comm] at hj hlt
  refine fits_normalize hj ((Nat.mul_le_mul_left 2 ?_).trans_lt hlt)
  refine (Int.natAbs_sub_le _ _).trans (Nat.le_of_eq ?_)
  rw [natAbs_apply, natAbs_apply]
  simp only [Int.natAbs_natCast, Nat.shiftLeft_eq]
  exact Nat.add_comm _ _

/-! ## Doubles -/

/-- Whether a double is neither infinite nor not a number. -/
def IsFinite (x : Float) : Prop := Fits x.toModel.unpack

theorem isFinite_iff {x : Float} : IsFinite x ↔ x.toBits.toNat / 2 ^ 52 % 2048 ≠ 2047 :=
  fits_unpack _

theorem isFinite_ofModel (u : UnpackedFloat) :
    IsFinite (Float.ofModel (Float.Model.pack u)) ↔ Fits u :=
  (fits_unpack _).trans (exponent_pack u)

theorem isFinite_ofBits {bits : Nat} (h : bits < infinityBits) : IsFinite (ofBits false bits) := by
  refine (isFinite_ofModel _).2 ((fits_unpack _).2 ?_)
  have hbits : (UInt64.ofNat bits).toBitVec.toNat = bits := by
    change bits % 2 ^ 64 = bits
    unfold infinityBits at h
    rw [Nat.pow_eq] at h
    omega
  change (UInt64.ofNat bits).toBitVec.toNat / 2 ^ 52 % 2048 ≠ 2047
  unfold infinityBits at h
  rw [Nat.pow_eq] at h
  omega

variable {x y z : Float}

theorem isFinite_add_half : IsFinite (x + 0.5) ↔ IsFinite x := by
  have hhalf : (0.5 : Float).toModel.unpack = .finite .positive (2 ^ 52) (-53) (by decide) := by rfl
  refine (isFinite_ofModel
    (UnpackedFloat.add _ x.toModel.unpack (0.5 : Float).toModel.unpack)).trans ?_
  rw [IsFinite, hhalf]
  cases hx : x.toModel.unpack with
  | notANumber => exact Iff.rfl
  | infinity s => exact Iff.rfl
  | zero s => exact iff_of_true (show (-53 : Int) ≤ 971 by decide) trivial
  | finite s m e hpos =>
    have hnormal := normal_of_unpack hx
    have hhalf : Normal (2 ^ 52) (-53) := ⟨by decide, by decide, by decide, .inl (Nat.le_refl _)⟩
    exact iff_of_true (fits_add hnormal hhalf (by decide) hpos _) hnormal.exponent_le

/-! ## Percent -/

/-- A positive double can be told in percent exactly if it is below the bound. -/
theorem isFinite_mul_hundred (h : 0.0 < x) : IsFinite (x * 100.0) ↔ x < percentLimit := by
  refine (isFinite_ofModel
    (UnpackedFloat.mul _ x.toModel.unpack (100.0 : Float).toModel.unpack)).trans ?_
  rw [unpack_hundred, lt_iff_rank, unpack_percentLimit]
  rcases unpack_of_pos h with hx | ⟨m, e, hm, hx⟩
  · rw [hx]
    refine iff_of_false id ?_
    rintro ⟨a, ha, b, hb, hab⟩
    obtain rfl := Option.some.inj ha
    obtain rfl := Option.some.inj hb
    revert hab
    decide
  · rw [hx, fits_mul_hundred (normal_of_unpack hx)]
    simp only [rank, Option.mem_def, Option.some.injEq, exists_eq_left',
      Prod.Lex.toLex_lt_toLex, lt_self_iff_false, true_and, false_or]
    omega

/-- What is left of one hundred is finite, unless something infinite or nothing that is a number is
taken from it. -/
theorem hundred_sub_cases (hy : HasPlus y.toModel.unpack) : IsFinite (100.0 - y) ∨
    100.0 - y = nan ∨ 100.0 - y = ofBits true infinityBits := by
  have hpacked : 100.0 - y = Float.ofModel (Float.Model.pack
    (UnpackedFloat.sub Format.binary64 (100.0 : Float).toModel.unpack y.toModel.unpack)) := rfl
  rw [unpack_hundred] at hpacked
  rw [hpacked]
  cases hu : y.toModel.unpack with
  | notANumber => exact .inr (.inl (by rfl))
  | infinity s =>
    rw [hu] at hy
    cases hy
    exact .inr (.inr (by rfl))
  | zero s => exact .inl ((isFinite_ofModel _).2 (show (-46 : Int) ≤ 971 by decide))
  | finite s m e hm =>
    have hhundred : Normal (25 * 2 ^ 48) (-46) :=
      ⟨by decide, by decide, by decide, .inl (by decide)⟩
    exact .inl ((isFinite_ofModel _).2 (fits_sub hhundred (normal_of_unpack hu) (by decide) _ hm))

theorem Nearest.le {n k : Nat} {x : ℚ} (h : Nearest n x) (hx : x < k) : n ≤ k := by
  have hn : 2 * (n : ℚ) ≤ 2 * x + 1 := by
    unfold Nearest at h
    split at h
    · exact h.1
    · exact h.1.le
  have hlt : (n : ℚ) < k + 1 := by linarith
  exact Nat.lt_succ_iff.1 (by exact_mod_cast hlt)

/-- A fraction up to one hundred has a nearest double. -/
theorem exists_ofRatio? {num den : Nat} (hden : 0 < den) (h : num ≤ 100 * den) :
    ∃ x, ofRatio? false num den = some x ∧ IsFinite x := by
  obtain ⟨bits, hbits⟩ : ∃ bits, nearestBits? num den = some bits := by
    rcases Nat.eq_zero_or_pos num with rfl | hnum
    · exact ⟨0, rfl⟩
    have hd : (0 : ℚ) < den := by exact_mod_cast hden
    have hn : (0 : ℚ) < num := by exact_mod_cast hnum
    have hr : (0 : ℚ) < (num : ℚ) / den := div_pos hn hd
    -- One hundred is below the seventh power of two.
    have hlog : floorLog2 num den < 7 := by
      rw [floorLog2_eq_log hnum hden]
      refine (Int.lt_zpow_iff_log_lt (b := 2) (by decide) hr).1 ?_
      have hle : (num : ℚ) ≤ 100 * den := by exact_mod_cast h
      rw [div_lt_iff₀ hd]
      norm_num
      linarith
    obtain ⟨exponent, he⟩ : ∃ e, max lowestExponent (floorLog2 num den - 52) = e := ⟨_, rfl⟩
    have hlow : lowestExponent = -1074 := rfl
    have hnear := nearest_roundDiv (scaleByTwo num den (-exponent)).1
      (scaleByTwo_pos num hden (-exponent))
    rw [scaleByTwo_ratio, zpow_neg, ← div_eq_mul_inv] at hnear
    have hle := hnear.le (k := 2 ^ 53) <| by
      rw [div_lt_iff₀ (two_zpow_pos exponent)]
      have hlt := Int.lt_zpow_succ_log_self (b := 2) (by decide) ((num : ℚ) / den)
      rw [← floorLog2_eq_log hnum hden] at hlt
      calc ((num : ℚ) / den) < 2 ^ (floorLog2 num den + 1) := hlt
        _ ≤ 2 ^ (53 + exponent) := zpow_le_zpow_right₀ (by norm_num) (by omega)
        _ = ((2 ^ 53 : Nat) : ℚ) * 2 ^ exponent := by
          rw [zpow_add₀ (by norm_num)]
          norm_num
    refine ⟨_, nearestBits?_of_nearest hnum hden he hnear ?_⟩
    unfold infinityBits
    rw [Nat.pow_eq]
    omega
  exact ⟨_, congrArg (Option.map (ofBits false)) hbits, isFinite_ofBits (nearestBits?_lt hbits)⟩
end Arcade.Double

namespace Arcade.Number

/-- Only a finite double has an integer part. -/
theorem returns_toInt_iff {x : Float} : (∃ n, toInt (.float x) = .ok n) ↔ Double.IsFinite x := by
  have hmeaning : (∃ negative mantissa exponent,
      Double.meaning x = .finite negative mantissa exponent) ↔ Double.IsFinite x := by
    rw [Double.isFinite_iff]
    unfold Double.meaning
    simp only [Nat.pow_eq]
    split
    · rename_i h
      refine iff_of_false ?_ (not_not_intro h)
      split <;> simp
    · rename_i h
      refine iff_of_true ?_ h
      split <;> exact ⟨_, _, _, rfl⟩
  rw [← hmeaning]
  cases h : Double.meaning x <;> simp [toInt, h]

theorem lt_float (x y : Float) : lt (.float x) (.float y) = decide (x < y) := by
  by_cases h : x < y
  · simp only [lt, compare?, if_pos h, decide_eq_true h]
    rfl
  · simp only [lt, compare?, if_neg h, decide_eq_false h]
    split
    · rfl
    · split <;> rfl

end Arcade.Number
