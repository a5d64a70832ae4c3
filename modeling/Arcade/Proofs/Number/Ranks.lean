import Mathlib
import Arcade.Proofs.Number.Unsigned

/-!
# The order of doubles

Doubles compare by the sign, exponent and mantissa that they are unpacked as, in that order, with
the infinities at both ends. So they are ordered like triples of integers, all but what is not a
number, which compares with nothing, and the two zeros, which are equal.
-/

namespace Arcade.Double

open Float.Model Float.Model.UnpackedFloat

variable {x y z : Float}

/-- Where an unpacked double stands in the order: its sign and kind, exponent and mantissa. -/
def rank : UnpackedFloat → Option (Int ×ₗ Int ×ₗ Int)
  | .notANumber => none
  | .infinity .positive => some (toLex (2, toLex (0, 0)))
  | .finite .positive m e _ => some (toLex (1, toLex (e, m)))
  | .zero _ => some (toLex (0, toLex (0, 0)))
  | .finite .negative m e _ => some (toLex (-1, toLex (-e, -m)))
  | .infinity .negative => some (toLex (-2, toLex (0, 0)))

theorem compare_toLex {α β : Type} [LinearOrder α] [LinearOrder β] (a c : α) (b d : β) :
    compare (toLex (a, b)) (toLex (c, d)) = (compare a c).then (compare b d) := by
  rw [Prod.Lex.compare_def]
  rfl

theorem compare_neg_neg (a b : Int) : compare (-a) (-b) = (compare a b).swap := by
  rcases lt_trichotomy a b with h | rfl | h
  · rw [compare_lt_iff_lt.2 h, compare_gt_iff_gt.2 (neg_lt_neg h)]
    rfl
  · rw [compare_eq_iff_eq.2 rfl, compare_eq_iff_eq.2 rfl]
    rfl
  · rw [compare_gt_iff_gt.2 h, compare_lt_iff_lt.2 (neg_lt_neg h)]
    rfl

theorem compare_natCast (a b : Nat) : compare (a : Int) (b : Int) = compare a b := by
  rcases lt_trichotomy a b with h | rfl | h
  · rw [compare_lt_iff_lt.2 h, compare_lt_iff_lt.2 (Int.ofNat_lt.2 h)]
  · rw [compare_eq_iff_eq.2 rfl, compare_eq_iff_eq.2 rfl]
  · rw [compare_gt_iff_gt.2 h, compare_gt_iff_gt.2 (Int.ofNat_lt.2 h)]

/-- Doubles compare by their ranks. -/
theorem compare_eq_rank (u v : UnpackedFloat) :
    u.compare v = (rank u).bind fun a => (rank v).map fun b => compare a b := by
  rcases u with ⟨_ | _⟩ | _ | _ | ⟨_ | _, m, e, hm⟩ <;>
    rcases v with ⟨_ | _⟩ | _ | _ | ⟨_ | _, n, f, hn⟩ <;>
    try rfl
  · simp only [rank, UnpackedFloat.compare, Option.bind_some, Option.map_some, compare_toLex,
      compare_neg_neg, compare_natCast, Ordering.swap_then]
    rfl
  · simp only [rank, UnpackedFloat.compare, Option.bind_some, Option.map_some, compare_toLex,
      compare_natCast]
    rfl

theorem lt_iff_rank :
    x < y ↔ ∃ a ∈ rank x.toModel.unpack, ∃ b ∈ rank y.toModel.unpack, a < b := by
  rw [lt_iff_compare, compare_eq_rank]
  cases rank x.toModel.unpack <;> cases rank y.toModel.unpack <;> simp [compare_lt_iff_lt]

theorem lt_trans (h : x < y) (h' : y < z) : x < z := by
  rw [lt_iff_rank] at h h' ⊢
  obtain ⟨a, ha, b, hb, hab⟩ := h
  obtain ⟨b', hb', c, hc, hbc⟩ := h'
  obtain rfl := Option.mem_unique hb hb'
  exact ⟨a, ha, c, hc, hab.trans hbc⟩

/-- What is not above a double that something is above, and compares at all, is below that, too. -/
theorem lt_of_not_lt {w : Float} (h : ¬ x < y) (hx : x < z) (hy : w < y) : y < z := by
  rw [lt_iff_rank] at h hx hy ⊢
  obtain ⟨a, ha, c, hc, hac⟩ := hx
  obtain ⟨-, -, b, hb, -⟩ := hy
  exact ⟨b, hb, c, hc, (not_lt.1 fun hab => h ⟨a, ha, b, hb, hab⟩).trans_lt hac⟩

theorem unpack_zero : (0.0 : Float).toModel.unpack = .zero .positive := by rfl

/-- A positive double is infinite or has a positive mantissa. -/
theorem unpack_of_pos (h : 0.0 < x) : x.toModel.unpack = .infinity .positive ∨
    ∃ m e hm, x.toModel.unpack = .finite .positive m e hm := by
  rw [lt_iff_compare, unpack_zero] at h
  cases hx : x.toModel.unpack with
  | notANumber =>
    rw [hx] at h
    cases h
  | infinity s =>
    rw [hx] at h
    cases s with
    | negative => cases h
    | positive => exact .inl rfl
  | zero s =>
    rw [hx] at h
    cases h
  | finite s m e hm =>
    rw [hx] at h
    cases s with
    | negative => cases h
    | positive => exact .inr ⟨m, e, hm, rfl⟩

end Arcade.Double
