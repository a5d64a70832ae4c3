import Mathlib.Data.Finset.Insert
import Mathlib.Data.List.Nodup
import Arcade.Ledger.Award
import Arcade.Number.Total

/-!
# Changing the first item

Unlocking and completing change the first item of a list with an identifier. What is counted over
the list then changes by that item alone, and among different identifiers the item is the only one
that is changed.
-/

namespace Arcade

variable {α β κ : Type} {p : α → Bool} {change : α → α} {x : α} {l : List α}

theorem map_changeFirst {f : α → β} (h : ∀ x, f (change x) = f x) (l : List α) :
    (changeFirst p change l).map f = l.map f := by
  induction l with
  | nil => rfl
  | cons x rest ih =>
    rw [changeFirst]
    split
    · rw [List.map_cons, List.map_cons, h]
    · rw [List.map_cons, List.map_cons, ih]

/-! ## Sums -/

/-- A sum in which the first item with a property is changed. -/
theorem total_map_changeFirst (change : α → α) (f : α → Nat) (h : l.find? p = some x) :
    total ((changeFirst p change l).map f) + f x = total (l.map f) + f (change x) := by
  induction l with
  | nil => cases h
  | cons y rest ih =>
    rw [List.find?_cons] at h
    cases hy : p y with
    | true =>
      rw [hy] at h
      obtain rfl := Option.some.inj h
      simp only [changeFirst, hy, if_true, List.map_cons, total_cons]
      omega
    | false =>
      rw [hy] at h
      have hrest := ih h
      simp only [changeFirst, hy, Bool.false_eq_true, if_false, List.map_cons, total_cons]
      omega

theorem countP_eq_total (p : α → Bool) (l : List α) :
    l.countP p = total (l.map fun x => (p x).toNat) := by
  induction l with
  | nil => rfl
  | cons x rest ih =>
    rw [List.countP_cons, List.map_cons, total_cons, ih]
    cases p x
    · exact (Nat.zero_add _).symm
    · exact Nat.add_comm _ _

/-- A count in which the first item with a property is changed. -/
theorem countP_changeFirst (change : α → α) (q : α → Bool) (h : l.find? p = some x) :
    (changeFirst p change l).countP q + (q x).toNat = l.countP q + (q (change x)).toNat := by
  rw [countP_eq_total, countP_eq_total]
  exact total_map_changeFirst change (fun x => (q x).toNat) h

theorem total_of_perm {xs ys : List Nat} (h : xs.Perm ys) : total xs = total ys := by
  induction h with
  | nil => rfl
  | cons n _ ih => rw [total_cons, total_cons, ih]
  | swap m n rest =>
    simp only [total_cons]
    omega
  | trans _ _ ih ih' => rw [ih, ih']

/-! ## Different identifiers -/

section Identifiers

variable [DecidableEq κ] {f : α → κ}

/-- Changing the first item with an identifier shows when that identifier is looked for. -/
theorem find?_changeFirst (h : ∀ x, f (change x) = f x) (k k' : κ) (l : List α) :
    (changeFirst (f · = k) change l).find? (f · = k') =
      (l.find? (f · = k')).map fun x => if k' = k then change x else x := by
  induction l with
  | nil => rfl
  | cons x rest ih =>
    rw [changeFirst]
    by_cases hk : f x = k
    · rw [if_pos (decide_eq_true hk), List.find?_cons, List.find?_cons, h]
      by_cases hk' : f x = k'
      · simp [← hk, ← hk']
      · have hne : ¬ k' = k := fun he => hk' (he ▸ hk)
        simp [hk', hne]
    · rw [if_neg (by simpa using hk), List.find?_cons, List.find?_cons]
      by_cases hk' : f x = k'
      · have hne : ¬ k' = k := fun he => hk (he ▸ hk')
        simp [hk', hne]
      · simpa [hk'] using ih

theorem find?_of_mem (h : (l.map f).Nodup) (hx : x ∈ l) : l.find? (f · = f x) = some x := by
  obtain ⟨y, hy⟩ : ∃ y, l.find? (f · = f x) = some y :=
    Option.isSome_iff_exists.1 (List.find?_isSome.2 ⟨x, hx, decide_eq_true rfl⟩)
  have hid : f y = f x := by simpa using List.find?_some hy
  rw [hy, List.inj_on_of_nodup_map h (List.mem_of_find?_eq_some hy) hx hid]

/-- Among different identifiers, the first item with an identifier is the only one. -/
theorem changeFirst_eq_map (h : (l.map f).Nodup) (k : κ) (change : α → α) :
    changeFirst (f · = k) change l = l.map fun x => if f x = k then change x else x := by
  induction l with
  | nil => rfl
  | cons y rest ih =>
    rw [List.map_cons, List.nodup_cons] at h
    rw [changeFirst, List.map_cons]
    by_cases hy : f y = k
    · have hrest : rest.map (fun x => if f x = k then change x else x) = rest := by
        refine (List.map_congr_left fun x hx => if_neg fun he => h.1 ?_).trans (List.map_id rest)
        rw [hy, ← he]
        exact List.mem_map_of_mem hx
      rw [if_pos (decide_eq_true hy), if_pos hy, hrest]
    · rw [if_neg (by simpa using hy), if_neg hy, ih h.2]

/-- Changing one item after all others were treated is another treatment of them all. -/
theorem changeFirst_map (h : (l.map f).Nodup) (hx : x ∈ l) {g g' : α → α}
    (hg : ∀ y, f (g y) = f y) (hself : change (g x) = g' x)
    (hother : ∀ y, f y ≠ f x → g y = g' y) :
    changeFirst (f · = f x) change (l.map g) = l.map g' := by
  have hids : ((l.map g).map f).Nodup := by
    rw [List.map_map]
    exact (List.map_congr_left fun y _ => hg y).symm ▸ h
  rw [changeFirst_eq_map hids, List.map_map]
  refine List.map_congr_left fun y hy => ?_
  rw [Function.comp_apply, hg]
  by_cases hid : f y = f x
  · obtain rfl := List.inj_on_of_nodup_map h hy hx hid
    rw [if_pos rfl, hself]
  · rw [if_neg hid, hother y hid]

/-- Among different identifiers, one more identifier selects one more item. -/
theorem filter_insert_perm (h : (l.map f).Nodup) (hx : x ∈ l) (hp : p x = true) {A : Finset κ}
    (hA : f x ∉ A) : (l.filter fun y => p y && decide (f y ∈ insert (f x) A)).Perm
      (x :: l.filter fun y => p y && decide (f y ∈ A)) := by
  induction l with
  | nil => cases hx
  | cons y rest ih =>
    rw [List.map_cons, List.nodup_cons] at h
    rcases List.mem_cons.1 hx with rfl | hx
    · have hrest : (rest.filter fun y => p y && decide (f y ∈ insert (f x) A)) =
          rest.filter fun y => p y && decide (f y ∈ A) := by
        refine List.filter_congr fun z hz => ?_
        have hne : f z ≠ f x := fun he => h.1 (he ▸ List.mem_map_of_mem hz)
        simp [Finset.mem_insert, hne]
      rw [List.filter_cons_of_pos (by simp [hp]), List.filter_cons_of_neg (by simp [hA]), hrest]
    · have hne : f y ≠ f x := fun he => h.1 (he ▸ List.mem_map_of_mem hx)
      have hrest := ih h.2 hx
      simp only [List.filter_cons, Finset.mem_insert, hne, false_or] at hrest ⊢
      split
      · exact (hrest.cons y).trans (.swap x y _)
      · exact hrest

end Identifiers

end Arcade
