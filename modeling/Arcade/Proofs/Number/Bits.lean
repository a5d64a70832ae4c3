import Arcade.Proofs.Number.Rounding
import Mathlib

/-!
# Bit patterns of doubles

A double is its sign and the bit pattern of its magnitude. There is one double for each meaning,
also only one that is not a number.
-/

namespace Arcade.Double

/-- The sign and the pattern of the magnitude make the bits of a double. -/
theorem ofBits_of_toNat {x : Float} {negative : Bool} {bits : Nat}
    (h : x.toBits.toNat = if negative then 2 ^ 63 + bits else bits) :
    ofBits negative bits = x := by
  rw [← Nat.pow_eq] at h
  rw [ofBits, ← h, UInt64.ofNat_toNat, Float.ofBits_toBits]

/-- The bits of a double fall into sign, exponent and fraction. -/
theorem toNat_toBits_eq (x : Float) : x.toBits.toNat =
    if (x.toBits.toNat / 2 ^ 63 == 1) = true then
      2 ^ 63 + (x.toBits.toNat / 2 ^ 52 % 2048 * 2 ^ 52 + x.toBits.toNat % 2 ^ 52)
    else x.toBits.toNat / 2 ^ 52 % 2048 * 2 ^ 52 + x.toBits.toNat % 2 ^ 52 := by
  have hlt : x.toBits.toNat < 2 ^ 64 := x.toBits.toNat_lt
  generalize x.toBits.toNat = bits at hlt
  split <;> rename_i h <;> rw [beq_iff_eq] at h <;> omega

/-- A finite double is given by its sign, mantissa and exponent. -/
theorem of_meaning_finite {x : Float} {negative : Bool} {mantissa : Nat} {exponent : Int}
    (h : meaning x = .finite negative mantissa exponent) :
    Normal mantissa exponent ∧ ofBits negative (magnitude mantissa exponent) = x := by
  have hbits := toNat_toBits_eq x
  have hmod := Nat.mod_lt x.toBits.toNat (show 0 < 2 ^ 52 by decide)
  have hfield := Nat.mod_lt (x.toBits.toNat / 2 ^ 52) (show 0 < 2048 by decide)
  unfold meaning at h
  simp only [Nat.pow_eq] at h
  generalize x.toBits.toNat / 2 ^ 52 % 2048 = field at *
  generalize x.toBits.toNat % 2 ^ 52 = fraction at *
  split at h
  · split at h <;> cases h
  · split at h <;> cases h
    · rename_i hzero
      refine ⟨⟨by omega, le_rfl, by decide, .inr rfl⟩, ofBits_of_toNat (hbits.trans ?_)⟩
      have hmagnitude : magnitude mantissa lowestExponent = field * 2 ^ 52 + mantissa := by
        unfold magnitude lowestExponent
        omega
      rw [hmagnitude]
    · refine ⟨⟨by omega, by unfold lowestExponent; omega, by omega, .inl (by omega)⟩,
        ofBits_of_toNat (hbits.trans ?_)⟩
      have hmagnitude : magnitude (fraction + 2 ^ 52) ((field : Int) - 1075) =
          field * 2 ^ 52 + fraction := by
        unfold magnitude lowestExponent
        omega
      rw [hmagnitude]

theorem of_meaning_infinite {x : Float} {negative : Bool} (h : meaning x = .infinite negative) :
    ofBits negative infinityBits = x := by
  have hbits := toNat_toBits_eq x
  unfold meaning at h
  simp only [Nat.pow_eq] at h
  split at h
  · rename_i hfield
    split at h <;> cases h
    rename_i hfraction
    rw [hfield, hfraction] at hbits
    exact ofBits_of_toNat hbits
  · split at h <;> cases h

open Float.Model (Format)
open Float.Model.UnpackedFloat (unpackExponent unpackMantissa packedNaN unpackExponent_def
  unpackMantissa_def)

/-- All that is not a number is kept in one pattern. -/
theorem toBits_of_nan {x : Float} (hexponent : x.toBits.toNat / 2 ^ 52 % 2048 = 2047)
    (hfraction : x.toBits.toNat % 2 ^ 52 ≠ 0) :
    x.toBits.toBitVec = packedNaN Format.binary64 := by
  refine x.toModel.valid.eq_packedNaN ?_ fun hzero => hfraction ?_
  · rw [unpackExponent_def]
    apply BitVec.eq_of_toNat_eq
    rw [BitVec.extractLsb'_toNat, Nat.shiftRight_eq_div_pow]
    exact hexponent
  · rw [unpackMantissa_def] at hzero
    have := congrArg BitVec.toNat hzero
    rwa [BitVec.extractLsb'_toNat, Nat.shiftRight_zero] at this

theorem of_meaning_nan {x : Float} (h : meaning x = .nan) : nan = x := by
  unfold meaning at h
  simp only [Nat.pow_eq] at h
  split at h
  · rename_i hfield
    split at h <;> cases h
    rename_i hfraction
    have hbits := congrArg BitVec.toNat (toBits_of_nan hfield hfraction)
    refine ofBits_of_toNat (hbits.trans ?_)
    decide
  · split at h <;> cases h

end Arcade.Double
