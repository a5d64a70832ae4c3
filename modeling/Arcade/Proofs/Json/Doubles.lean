import Arcade.Proofs.Json.Numbers
import Arcade.Proofs.Number.Bits
import Arcade.Proofs.Number.Shortest

/-!
# Doubles are read back

The text of a double is read back as that double, bit by bit. The decimal in the text rounds to the
double, with or without zeros behind its digits, and reading takes the double that a decimal rounds
to. The values without digits have names of their own.
-/

namespace Arcade.Json

open Decimal

/-- Zeros behind the digits do not change what a decimal stands for. -/
theorem value_padded (d : Scaled) (zeros : Nat) : (d.padded zeros).value = d.value := by
  unfold Scaled.padded Scaled.value
  dsimp only
  rw [zpow_sub₀ (by norm_num), zpow_natCast]
  push_cast
  field_simp

/-- The decimal of a finite double is read as that double. -/
theorem ofDecimal_written {x : Float} {negative : Bool} {mantissa : Nat} {exponent : Int}
    (h : Double.meaning x = .finite negative mantissa exponent) (zeros : Nat) :
    Double.ofDecimal negative ((written mantissa exponent).padded zeros).digits
      ((written mantissa exponent).padded zeros).exponent = x := by
  obtain ⟨hn, hx⟩ := Double.of_meaning_finite h
  rw [← hx]
  by_cases hm : mantissa = 0
  · have he : exponent = Double.lowestExponent := hn.full.resolve_left (by omega)
    rw [written, if_pos hm, hm, he, Scaled.padded, Nat.zero_mul]
    rfl
  · rw [written, if_neg hm]
    have hm := Nat.pos_of_ne_zero hm
    refine Double.ofDecimal_of_roundsTo negative hm hn ?_
    have hround := roundsTo_shortest hm hn
    rwa [← value_padded _ zeros] at hround

/-- The text of a double is read back as that double. -/
theorem rereadDouble_eq (x : Float) : rereadDouble x = x := by
  have htext : writeNumber (.float x) = numberLayout.writeDouble x := rfl
  unfold rereadDouble
  cases h : Double.meaning x with
  | nan =>
    rw [htext, Layout.writeDouble, h]
    exact Double.of_meaning_nan h
  | infinite negative =>
    rw [htext, Layout.writeDouble, h]
    cases negative <;> exact Double.of_meaning_infinite h
  | finite negative mantissa exponent =>
    obtain ⟨zeros, hread⟩ := exists_readScalar_finite h
    have hread := hread [] fun _ h => absurd h (Option.not_mem_none _)
    rw [List.append_nil] at hread
    rw [hread]
    exact ofDecimal_written h zeros

theorem echoNumber_float (x : Float) : echoNumber (.float x) = .ok (.float x) := by
  rw [echoNumber, rereadDouble_eq]

end Arcade.Json
