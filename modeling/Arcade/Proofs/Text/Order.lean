import Arcade.Text.CodePoint

/-!
# The order of texts is linear

Rows of code points are compared like words in a dictionary. Any two of them compare, turning a
comparison around turns its result around, and what comes later than a later row is later.
-/

namespace Arcade.Text

/-- The first code points decide, unless they are the same. -/
theorem compareCodes_cons (m n : Nat) (ms ns : List Nat) :
    compareCodes (m :: ms) (n :: ns) = (compare m n).then (compareCodes ms ns) := by
  rw [compareCodes, Nat.compare_eq_ite_lt]
  split
  · rfl
  · split <;> rfl

theorem compareCodes_swap (ms ns : List Nat) :
    (compareCodes ms ns).swap = compareCodes ns ms := by
  induction ms generalizing ns with
  | nil => cases ns <;> rfl
  | cons m ms ih =>
    cases ns with
    | nil => rfl
    | cons n ns =>
      rw [compareCodes_cons, compareCodes_cons, Ordering.swap_then, Nat.compare_swap, ih]

theorem compareCodes_trans {ls ms ns : List Nat} (hlm : compareCodes ls ms ≠ .gt)
    (hmn : compareCodes ms ns ≠ .gt) : compareCodes ls ns ≠ .gt := by
  induction ls generalizing ms ns with
  | nil => cases ns <;> simp [compareCodes]
  | cons l ls ih =>
    cases ms with
    | nil => exact absurd rfl hlm
    | cons m ms =>
      cases ns with
      | nil => exact absurd rfl hmn
      | cons n ns =>
        simp only [compareCodes] at hlm hmn ⊢
        by_cases h : l < n
        · simp [h]
        · -- the first code points of all three rows are the same
          have hle : l ≤ m := Nat.not_lt.1 fun hgt => by simp [hgt, Nat.lt_asymm hgt] at hlm
          have hle' : m ≤ n := Nat.not_lt.1 fun hgt => by simp [hgt, Nat.lt_asymm hgt] at hmn
          obtain rfl : l = m := by omega
          obtain rfl : l = n := by omega
          simp only [Nat.lt_irrefl, if_false] at hlm hmn ⊢
          exact ih hlm hmn

theorem le_iff {s t : String} : le s t = true ↔ compareCodes (codes s) (codes t) ≠ .gt := by
  simp [le, order]

theorem le_total (s t : String) : (le s t || le t s) = true := by
  rw [Bool.or_eq_true, le_iff, le_iff, ← compareCodes_swap (codes s)]
  cases compareCodes (codes s) (codes t) <;> simp

theorem le_trans {s t u : String} (hst : le s t = true) (htu : le t u = true) :
    le s u = true :=
  le_iff.2 (compareCodes_trans (le_iff.1 hst) (le_iff.1 htu))

end Arcade.Text
