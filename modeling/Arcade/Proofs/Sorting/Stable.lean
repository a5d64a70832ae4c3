import Mathlib.Data.List.Basic

/-!
# Stable sorts

A stable sort of a list holds the same items, in order, and those that the order does not tell apart
stand as they stood before. Merge sort is one. A list with two kinds of items, of which the second
come later and are all alike, is sorted stably by sorting the first and putting the second behind.
-/

namespace Arcade.Sorting

variable {α β : Type} {le le' : α → α → Bool} {items front : List α}

/-- Whether the order does not tell two items apart. -/
def ties (le : α → α → Bool) (a b : α) : Bool := le a b && le b a

/-- A list of the same items in order, in which those that tie are as they were. -/
structure IsStable (le : α → α → Bool) (items sorted : List α) : Prop where
  perm : sorted.Perm items
  ordered : sorted.Pairwise fun a b => le a b = true
  kept : ∀ a, sorted.filter (ties le a) = items.filter (ties le a)

/-- A sublist that is as long as it can be is the whole list. -/
theorem filter_eq_of_sublist {p : α → Bool} {sorted : List α} (hperm : sorted.Perm items)
    (hsub : (items.filter p).Sublist sorted) : sorted.filter p = items.filter p := by
  have hfiltered := hsub.filter p
  rw [List.filter_filter] at hfiltered
  simp only [Bool.and_self] at hfiltered
  exact (hfiltered.eq_of_length (hperm.filter p).length_eq.symm).symm

theorem isStable_mergeSort (trans : ∀ a b c, le a b = true → le b c = true → le a c = true)
    (total : ∀ a b, (le a b || le b a) = true) (items : List α) :
    IsStable le items (items.mergeSort le) := by
  have hperm := List.mergeSort_perm items le
  refine ⟨hperm, List.pairwise_mergeSort trans total items, fun a => ?_⟩
  have hties : (items.filter (ties le a)).Pairwise fun b c => le b c = true := by
    refine List.pairwise_of_forall_mem_list fun b hb c hc => ?_
    have hb' := (List.mem_filter.1 hb).2
    have hc' := (List.mem_filter.1 hc).2
    rw [ties, Bool.and_eq_true] at hb' hc'
    exact trans b a c hb'.2 hc'.1
  exact filter_eq_of_sublist hperm
    (List.sublist_mergeSort trans total hties List.filter_sublist)

/-- Orders that agree on the items of a list sort it in the same way. -/
theorem mergeSort_congr (h : ∀ a ∈ items, ∀ b ∈ items, le a b = le' a b) :
    items.mergeSort le = items.mergeSort le' := by
  have hmap := List.map_mergeSort (f := id) h
  rwa [List.map_id, List.map_id] at hmap

theorem filter_of_imp {p q : α → Bool} (h : ∀ b, q b = true → p b = true) :
    (items.filter p).filter q = items.filter q := by
  rw [List.filter_filter]
  refine List.filter_congr fun b _ => ?_
  cases hb : q b with
  | false => rfl
  | true => rw [h b hb, Bool.and_self]

theorem filter_of_imp_not {p q : α → Bool} (h : ∀ b, q b = true → p b = false) :
    (items.filter p).filter q = [] := by
  refine List.filter_eq_nil_iff.2 fun b hb hq => ?_
  have hp := (List.mem_filter.1 hb).2
  rw [h b hq] at hp
  cases hp

/-- Items of a second kind that come later and all tie are put behind the sorted ones. -/
theorem IsStable.append_rest {p : α → Bool} (h : IsStable le (items.filter p) front)
    (hfirst : ∀ a b, p a = true → p b = false → le a b = true ∧ le b a = false)
    (hrest : ∀ a b, p a = false → p b = false → le a b = true) :
    IsStable le items (front ++ items.filter (!p ·)) := by
  have hfront : ∀ a ∈ front, p a = true := fun a ha =>
    (List.mem_filter.1 (h.perm.mem_iff.1 ha)).2
  have hback : ∀ b ∈ items.filter (!p ·), p b = false := fun b hb => by
    simpa using (List.mem_filter.1 hb).2
  -- items of different kinds never tie
  have hkind : ∀ a b, ties le a b = true → p b = p a := by
    intro a b hab
    rw [ties, Bool.and_eq_true] at hab
    cases ha : p a <;> cases hb : p b
    · rfl
    · rw [(hfirst b a hb ha).2] at hab
      exact absurd hab.1 Bool.false_ne_true
    · rw [(hfirst a b ha hb).2] at hab
      exact absurd hab.2 Bool.false_ne_true
    · rfl
  refine ⟨?perm, ?ordered, fun a => ?kept⟩
  case perm => exact (h.perm.append_right _).trans (List.filter_append_perm p items)
  case ordered =>
    refine List.pairwise_append.2 ⟨h.ordered, ?_, fun a ha b hb => ?_⟩
    · exact List.pairwise_of_forall_mem_list fun a ha b hb => hrest a b (hback a ha) (hback b hb)
    · exact (hfirst a b (hfront a ha) (hback b hb)).1
  case kept =>
    rw [List.filter_append, h.kept]
    cases ha : p a with
    | false =>
      rw [filter_of_imp_not fun b hb => (hkind a b hb).trans ha,
        filter_of_imp fun b hb => by rw [hkind a b hb, ha, Bool.not_false], List.nil_append]
    | true =>
      rw [filter_of_imp fun b hb => (hkind a b hb).trans ha,
        filter_of_imp_not fun b hb => by rw [hkind a b hb, ha, Bool.not_true], List.append_nil]

end Arcade.Sorting
