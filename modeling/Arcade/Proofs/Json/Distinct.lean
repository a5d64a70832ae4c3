import Arcade.Json.Reader

/-!
# No name twice

An object may name a member twice in its text. What is read from it has every name once, with the
last value: so it does not matter how members are looked up.
-/

namespace Arcade.Json

/-- Whether no object in a value has a name twice. -/
inductive Distinct : Json → Prop where
  | null : Distinct .null
  | bool (b : Bool) : Distinct (.bool b)
  | num (n : Number) : Distinct (.num n)
  | str (s : String) : Distinct (.str s)
  | arr {items : List Json} (h : ∀ x ∈ items, Distinct x) : Distinct (.arr items)
  | obj {members : List (String × Json)} (hn : (members.map Prod.fst).Nodup)
    (h : ∀ e ∈ members, Distinct e.2) : Distinct (.obj members)

theorem Distinct.noMembers : Distinct (.obj []) := .obj List.nodup_nil (List.forall_mem_nil _)

theorem Distinct.nodup {members : List (String × Json)} (h : Distinct (.obj members)) :
    (members.map Prod.fst).Nodup := by
  cases h with
  | obj hn => exact hn

theorem Distinct.of_mem {members : List (String × Json)} (h : Distinct (.obj members))
    {e : String × Json} (he : e ∈ members) : Distinct e.2 := by
  cases h with
  | obj _ hall => exact hall e he

theorem Distinct.of_valueAt? {members : List (String × Json)} (h : Distinct (.obj members))
    {name : String} {v : Json} (hv : valueAt? name members = some v) : Distinct v :=
  h.of_mem (mem_of_valueAt? hv)

/-! ## What is read -/

theorem distinct_of_readNumber? {negative : Bool} {cs rest : List Char} {v : Json}
    (h : readNumber? negative cs = some (.ok (v, rest))) : Distinct v := by
  unfold readNumber? at h
  dsimp only at h
  split at h
  · cases h
  · split at h
    · split at h
      · cases h
        exact .num _
      · cases h
    · cases h
      exact .num _

theorem distinct_of_readScalar {cs rest : List Char} {v : Json}
    (h : readScalar cs = .ok (v, rest)) : Distinct v := by
  have hnumber {negative : Bool} {more : List Char} {e : ReadFault}
      (hn : (readNumber? negative more).getD (.error e) = .ok (v, rest)) : Distinct v := by
    cases hr : readNumber? negative more with
    | none =>
      rw [hr] at hn
      cases hn
    | some found =>
      rw [hr] at hn
      obtain rfl : found = .ok (v, rest) := hn
      exact distinct_of_readNumber? hr
  unfold readScalar at h
  dsimp only at h
  split at h
  · rename_i found hfound
    cases h
    obtain ⟨e, he, hword⟩ := List.exists_of_findSome?_eq_some hfound
    obtain ⟨_, -, hpair⟩ := Option.map_eq_some_iff.1 hword
    cases hpair
    simp only [wordValues, List.mem_cons, List.not_mem_nil, or_false] at he
    rcases he with rfl | rfl | rfl | rfl | rfl | rfl
    · exact .null
    · exact .bool true
    · exact .bool false
    · exact .num _
    · exact .num _
    · exact .num _
  · split at h <;> exact hnumber h

mutual

theorem distinct_of_readValue {room fuel : Nat} {cs rest : List Char} {v : Json}
    (h : readValue room fuel cs = .ok (v, rest)) : Distinct v := by
  cases fuel with
  | zero => cases h
  | succ fuel =>
    rw [readValue.eq_def] at h
    dsimp only at h
    split at h
    · obtain ⟨⟨s, left⟩, -, h⟩ := bind_eq_ok.1 h
      cases h
      exact .str s
    · split at h
      · cases h
      · split at h
        · cases h
          exact .arr (List.forall_mem_nil _)
        · exact distinct_of_readItems (List.forall_mem_nil _) h
    · split at h
      · cases h
      · split at h
        · cases h
          exact .noMembers
        · have hnone : (([] : List (String × Json)).map Prod.fst).Nodup := List.nodup_nil
          exact distinct_of_readMembers hnone (List.forall_mem_nil _) h
    · exact distinct_of_readScalar h
termination_by fuel

theorem distinct_of_readItems {room fuel : Nat} {done : List Json} {cs rest : List Char} {v : Json}
    (hd : ∀ x ∈ done, Distinct x) (h : readItems room fuel done cs = .ok (v, rest)) :
    Distinct v := by
  cases fuel with
  | zero => cases h
  | succ fuel =>
    rw [readItems] at h
    obtain ⟨⟨item, left⟩, hitem, h⟩ := bind_eq_ok.1 h
    have hall : ∀ x ∈ item :: done, Distinct x :=
      List.forall_mem_cons.2 ⟨distinct_of_readValue hitem, hd⟩
    dsimp only at h
    split at h
    · exact distinct_of_readItems hall h
    · cases h
      exact .arr fun x hx => hall x (List.mem_reverse.1 hx)
    · cases h
termination_by fuel

theorem distinct_of_readMembers {room fuel : Nat} {done : List (String × Json)}
    {cs rest : List Char} {v : Json} (hn : (done.map Prod.fst).Nodup)
    (hd : ∀ e ∈ done, Distinct e.2) (h : readMembers room fuel done cs = .ok (v, rest)) :
    Distinct v := by
  cases fuel with
  | zero => cases h
  | succ fuel =>
    rw [readMembers.eq_def] at h
    dsimp only at h
    split at h
    · obtain ⟨⟨name, left⟩, -, h⟩ := bind_eq_ok.1 h
      dsimp only at h
      split at h
      · obtain ⟨⟨value, after⟩, hvalue, h⟩ := bind_eq_ok.1 h
        have hput : ((putEntry name value done).map Prod.fst).Nodup := nodup_names_putEntry hn
        have hall : ∀ e ∈ putEntry name value done, Distinct e.2 := fun e he => by
          rcases mem_putEntry he with rfl | he
          · exact distinct_of_readValue hvalue
          · exact hd e he
        dsimp only at h
        split at h
        · exact distinct_of_readMembers hput hall h
        · cases h
          exact .obj hput hall
        · cases h
      · cases h
    · cases h
termination_by fuel

end

/-- No object in what is read from a text has a name twice. -/
theorem distinct_of_read {s : String} {v : Json} (h : read s = .ok v) : Distinct v := by
  unfold read at h
  split at h
  · rename_i w hread
    cases h
    unfold readAll at hread
    split at hread
    · cases hread
    · obtain ⟨⟨value, rest⟩, hvalue, hread⟩ := bind_eq_ok.1 hread
      dsimp only at hread
      split at hread
      · cases hread
        exact distinct_of_readValue hvalue
      · cases hread
  · cases h

theorem distinct_of_reread {text v : Json} (h : text.reread = .ok v) : Distinct v := by
  cases text with
  | str s => exact distinct_of_read h
  | _ => cases h

end Arcade.Json
