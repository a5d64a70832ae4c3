import Arcade.Proofs.Json.Legible

/-!
# Plain values

In a plain value all texts are ASCII, all numbers are integers of a length that is read, no object
has a name twice, and there is room for its depth. A plain value is read back as it is. Whether a
value is plain can be computed without writing it.
-/

namespace Arcade

namespace Text

/-- Whether a text is ASCII. Its bytes are looked at, which are at hand. -/
def isPlain (s : String) : Bool := s.toByteArray.data.toList.all (·.toNat < 128)

/-- A character beyond ASCII has a byte beyond ASCII. -/
theorem exists_byte_of_le_toNat {c : Char} (h : 128 ≤ c.toNat) :
    ∃ b ∈ String.utf8EncodeChar c, 128 ≤ b.toNat := by
  have head : ∀ {n k : Nat}, 128 ≤ k → n + k < 256 → 128 ≤ (UInt8.ofNat (n + k)).toNat := by
    intro n k hk hn
    rw [UInt8.toNat_ofNat', Nat.mod_eq_of_lt hn]
    omega
  have hv : ¬ c.val.toNat ≤ 0x7f := by
    change ¬ c.toNat ≤ 0x7f
    omega
  simp only [String.utf8EncodeChar, if_neg hv]
  split
  · exact ⟨_, List.mem_cons_self, head (by decide) (by omega)⟩
  · split
    · exact ⟨_, List.mem_cons_self, head (by decide) (by omega)⟩
    · exact ⟨_, List.mem_cons_self, head (by decide) (by omega)⟩

theorem toNat_lt_of_isPlain {s : String} (h : isPlain s = true) {c : Char} (hc : c ∈ s.toList) :
    c.toNat < 128 := by
  refine Nat.not_le.1 fun hle => ?_
  obtain ⟨b, hb, hbyte⟩ := exists_byte_of_le_toNat hle
  rw [isPlain, ← String.utf8Encode_toList, List.utf8Encode, List.toList_data_toByteArray,
    List.all_eq_true] at h
  have hlt := of_decide_eq_true (h b (List.mem_flatMap.2 ⟨c, hc, hb⟩))
  omega

theorem isInBlock_of_isPlain {s : String} (h : isPlain s = true) :
    ∀ c ∈ s.toList, isInBlock c.toNat = false :=
  isInBlock_of_ascii fun _ hc => toNat_lt_of_isPlain h hc

theorem rejoined_of_ascii {s : String} (h : ∀ c ∈ s.toList, c.toNat < 128) : rejoined s = s :=
  rejoined_eq_self (isInBlock_of_ascii h)

theorem rejoined_of_isPlain {s : String} (h : isPlain s = true) : rejoined s = s :=
  rejoined_eq_self (isInBlock_of_isPlain h)

/-- No half of a pair stands alone in a text in ASCII. -/
theorem hasSurrogate_of_isPlain {s : String} (h : isPlain s = true) : hasSurrogate s = false := by
  rw [hasSurrogate, codes, signs_eq_map (isInBlock_of_isPlain h), List.map_map, List.any_map,
    List.any_eq_false]
  exact fun c _ => Bool.eq_false_iff.1 (isSurrogate_toNat c)

end Text

namespace Json

mutual

/-- Whether a value is plain and has at most `room` lists and objects inside each other. -/
def isPlain (room : Nat) : Json → Bool
  | .null => true
  | .bool _ => true
  | .num (.int n) => (Nat.toDigits 10 n.natAbs).length ≤ Number.digitLimit
  | .num (.float _) => false
  | .str s => Text.isPlain s
  | .arr items => room ≠ 0 && arePlainItems (room - 1) items
  | .obj members => room ≠ 0 && arePlainMembers (room - 1) members

def arePlainItems (room : Nat) : List Json → Bool
  | [] => true
  | x :: xs => isPlain room x && arePlainItems room xs

def arePlainMembers (room : Nat) : List (String × Json) → Bool
  | [] => true
  | (k, x) :: xs =>
    Text.isPlain k && isPlain room x && decide (k ∉ xs.map Prod.fst) && arePlainMembers room xs

end

mutual

/-- A plain value is legible. -/
theorem legible_of_isPlain (room : Nat) : ∀ v : Json, isPlain room v = true → Legible room v
  | .null, _ => .null
  | .bool b, _ => .bool b
  | .num (.int n), h =>
    .int (show (Nat.toDigits 10 n.natAbs).length ≤ Number.digitLimit from of_decide_eq_true h)
  | .str _, h => .str (Text.rejoined_of_isPlain h)
  | .arr items, h => by
    rw [isPlain, Bool.and_eq_true, decide_eq_true_iff] at h
    obtain ⟨room, rfl⟩ := Nat.exists_eq_succ_of_ne_zero h.1
    exact .arr (legible_of_arePlainItems room items h.2)
  | .obj members, h => by
    rw [isPlain, Bool.and_eq_true, decide_eq_true_iff] at h
    obtain ⟨room, rfl⟩ := Nat.exists_eq_succ_of_ne_zero h.1
    obtain ⟨hn, hall⟩ := legible_of_arePlainMembers room members h.2
    exact .obj hn hall

theorem legible_of_arePlainItems (room : Nat) :
    ∀ xs : List Json, arePlainItems room xs = true → ∀ x ∈ xs, Legible room x
  | [], _ => List.forall_mem_nil _
  | x :: xs, h => by
    rw [arePlainItems, Bool.and_eq_true] at h
    exact List.forall_mem_cons.2
      ⟨legible_of_isPlain room x h.1, legible_of_arePlainItems room xs h.2⟩

theorem legible_of_arePlainMembers (room : Nat) : ∀ xs : List (String × Json),
    arePlainMembers room xs = true → Named xs ∧ ∀ e ∈ xs, Legible room e.2
  | [], _ => ⟨.nil, List.forall_mem_nil _⟩
  | (k, x) :: xs, h => by
    rw [arePlainMembers, Bool.and_eq_true, Bool.and_eq_true, Bool.and_eq_true] at h
    obtain ⟨⟨⟨hk, hx⟩, hnew⟩, hxs⟩ := h
    obtain ⟨hn, hall⟩ := legible_of_arePlainMembers room xs hxs
    exact ⟨⟨List.forall_mem_cons.2 ⟨Text.rejoined_of_isPlain hk, hn.plain⟩,
      List.nodup_cons.2 ⟨of_decide_eq_true hnew, hn.distinct⟩⟩,
      List.forall_mem_cons.2 ⟨legible_of_isPlain room x hx, hall⟩⟩

end

/-- Names in ASCII that do not repeat. -/
theorem named_of_isPlain {members : List (String × Json)} (names : List String)
    (hm : members.map Prod.fst = names) (hp : names.all Text.isPlain = true)
    (hd : names.Nodup) : Named members := by
  subst hm
  exact ⟨fun _ he => Text.rejoined_of_isPlain
    (List.all_eq_true.1 hp _ (List.mem_map_of_mem he)), hd⟩

/-- A plain value is its own echo. -/
theorem echo_of_isPlain (room : Nat) (v : Json) (h : isPlain room v = true) : echo room v = .ok v :=
  echo_of_legible (legible_of_isPlain room v h)

/-- A plain value is read back from its text. -/
theorem read_write_of_isPlain {v : Json} (h : isPlain depthLimit v = true) : read v.write = .ok v :=
  read_write_of_legible (legible_of_isPlain depthLimit v h)

end Json

end Arcade
