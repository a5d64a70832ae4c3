/-!
# Totals

The total of a list of natural numbers.
-/

namespace Arcade

/-- The sum of all numbers of a list. -/
def total : List Nat → Nat
  | [] => 0
  | n :: rest => n + total rest

@[simp] theorem total_nil : total [] = 0 := rfl

@[simp] theorem total_cons (n : Nat) (rest : List Nat) : total (n :: rest) = n + total rest := rfl

@[simp] theorem total_append (xs ys : List Nat) : total (xs ++ ys) = total xs + total ys := by
  induction xs with
  | nil => rw [List.nil_append, total_nil, Nat.zero_add]
  | cons n xs ih => rw [List.cons_append, total_cons, total_cons, ih, Nat.add_assoc]

/-- No number of a list is greater than the total. -/
theorem le_total_of_mem {n : Nat} {xs : List Nat} (h : n ∈ xs) : n ≤ total xs := by
  induction xs with
  | nil => cases h
  | cons m xs ih =>
    rw [total_cons]
    rcases List.mem_cons.mp h with rfl | h
    · exact Nat.le_add_right n _
    · exact Nat.le_trans (ih h) (Nat.le_add_left _ m)

end Arcade
