import Arcade.Proofs.Progress.Sound

/-!
# Well-typed stats

A counter is well typed if it is an integer that is not negative, and the coins per second are if
they are a finite number that is not negative. Cleaning what comes from outside does not see to
that: a double that is not negative is kept as it is, unless it has no fraction. So it is exactly
the counters with a fraction and the stats that are infinite or not a number that come in ill typed.
-/

namespace Arcade

namespace Number

/-- Whether a number is finite. -/
def IsFinite : Number → Prop
  | .int _ => True
  | .float x => ∃ negative mantissa exponent, Double.meaning x = .finite negative mantissa exponent

/-- Whether a number is finite and has no fraction. -/
def isIntegral : Number → Bool
  | .int _ => true
  | .float x => Double.isIntegral x

end Number

namespace Dict

variable {α : Type} {d : Dict α} {e : String × α}

theorem mem_entries_insert_of_ne (h : e ∈ d.entries) {name : String} (hn : e.1 ≠ name)
    (value : α) : e ∈ (d.insert name value).entries :=
  mem_entries_of_get? ((get?_insert_of_ne hn).trans (get?_of_mem_entries h))

theorem mem_entries_insertAll_of_not_mem {entries : List (String × α)}
    (hn : e.1 ∉ entries.map Prod.fst) (h : e ∈ d.entries) : e ∈ (d.insertAll entries).entries := by
  induction entries generalizing d with
  | nil => exact h
  | cons x rest ih =>
    rw [List.map_cons, List.mem_cons, not_or] at hn
    exact ih hn.2 (mem_entries_insert_of_ne h hn.1 x.2)

/-- Entries with distinct names are all there once they are inserted. -/
theorem mem_entries_insertAll_of_mem {entries : List (String × α)}
    (hd : (entries.map Prod.fst).Nodup) (h : e ∈ entries) : e ∈ (d.insertAll entries).entries := by
  induction entries generalizing d with
  | nil => exact absurd h List.not_mem_nil
  | cons x rest ih =>
    rw [List.map_cons, List.nodup_cons] at hd
    rcases List.mem_cons.1 h with rfl | h
    · have hput : e ∈ (d.insert e.1 e.2).entries := mem_entries_of_get? (get?_insert_self d e.1 e.2)
      exact mem_entries_insertAll_of_not_mem (d := d.insert e.1 e.2) hd.1 hput
    · exact ih hd.2 h

theorem mem_entries_insertNew_of_mem (h : e ∈ d.entries) (name : String) (value : α) :
    e ∈ (d.insertNew name value).entries := by
  unfold insertNew
  split
  · exact h
  · rename_i hn
    have hname : e.1 ∈ d.names := List.mem_map_of_mem h
    refine mem_entries_insert_of_ne h ?_ value
    rintro rfl
    exact hn (contains_iff.2 hname)

end Dict

namespace StatRecord

variable {name : String} {m n : Number} {r more : StatRecord}

/-- Whether a stat is what the stats under its name should be. -/
def WellTypedStat (name : String) (n : Number) : Prop :=
  name ∈ fields ∧
    if name ∈ fractional then n.lt 0 = false ∧ n.IsFinite else ∃ k : Nat, n = .int k

/-- Whether a number from outside makes a stat that is well typed. -/
def Proper (name : String) (n : Number) : Prop :=
  n.lt 0 = true ∨ if name ∈ fractional then n.IsFinite else n.isIntegral = true

/-- A record in which all stats are well typed. -/
def WellTyped (r : StatRecord) : Prop := ∀ e ∈ r.entries, WellTypedStat e.1 e.2

/-! ## Single stats -/

theorem wellTypedStat_int (hn : name ∈ fields) (k : Nat) : WellTypedStat name (.int k) := by
  refine ⟨hn, ?_⟩
  split
  · refine ⟨?_, trivial⟩
    rw [show (0 : Number) = .int 0 from rfl, Number.lt_int]
    exact decide_eq_false (Int.not_lt.2 (Int.natCast_nonneg k))
  · exact ⟨k, rfl⟩

/-- For a counter it is enough to be an integer that is not negative. -/
theorem WellTypedStat.exists_nat (h : WellTypedStat name n) (hc : name ∉ fractional) :
    ∃ k : Nat, n = .int k := by
  have hcount := h.2
  rwa [if_neg hc] at hcount

theorem lt_zero_eq_false (h : atLeastZero n = n) : n.lt 0 = false := by
  cases hlt : n.lt 0 with
  | false => rfl
  | true =>
    have hzero : n = .int 0 := h.symm.trans (if_pos hlt)
    rw [hzero, show (0 : Number) = .int 0 from rfl, Number.lt_int] at hlt
    exact absurd (of_decide_eq_true hlt) (Int.lt_irrefl 0)

/-- A number that is not negative becomes a natural number if it has no fraction. -/
theorem exists_whole_eq_iff (h : atLeastZero n = n) :
    (∃ k : Nat, whole n = .int k) ↔ n.isIntegral = true := by
  constructor
  · rintro ⟨k, hk⟩
    cases n with
    | int i => rfl
    | float x =>
      rw [whole] at hk
      split at hk
      · rename_i hx
        exact hx
      · cases hk
  · intro hn
    obtain ⟨i, hi⟩ : ∃ i, whole n = .int i := by
      cases n with
      | int i => exact ⟨i, rfl⟩
      | float x => exact ⟨_, if_pos hn⟩
    have hnonneg : 0 ≤ i := nonneg_of_whole (h ▸ hi)
    exact ⟨i.toNat, by rw [hi, Int.toNat_of_nonneg hnonneg]⟩

/-- Cleaning leaves exactly the proper numbers well typed. -/
theorem wellTypedStat_clean?_iff (h : clean? name (.num n) = some m) :
    WellTypedStat name m ↔ Proper name n := by
  have hname := (soundStat_of_clean? h).1
  rw [clean?, if_pos hname] at h
  obtain rfl := Option.some.inj h
  cases hlt : n.lt 0 with
  | true =>
    have hzero : atLeastZero n = .int (0 : Nat) := if_pos hlt
    have hclean : (if name ∈ fractional then atLeastZero n else whole (atLeastZero n)) =
        .int (0 : Nat) := by
      rw [hzero]
      split <;> rfl
    exact iff_of_true (hclean ▸ wellTypedStat_int hname 0) (.inl hlt)
  | false =>
    have hsame : atLeastZero n = n := if_neg (Bool.eq_false_iff.1 hlt)
    unfold WellTypedStat Proper
    rw [hsame, hlt]
    by_cases hf : name ∈ fractional
    · simp only [if_pos hf, hname, hlt, true_and, Bool.false_eq_true, false_or]
    · simp only [if_neg hf, hname, true_and, Bool.false_eq_true, false_or, exists_whole_eq_iff hsame]

/-! ## Records -/

theorem WellTyped.insert (h : r.WellTyped) (hn : WellTypedStat name n) :
    WellTyped (Dict.insert r name n) := by
  intro e he
  rcases Dict.mem_entries_insert he with rfl | he
  · exact hn
  · exact h e he

/-- Stats that are merged into a record are all in it afterwards. -/
theorem wellTyped_insertAll_iff (h : r.WellTyped) :
    WellTyped (Dict.insertAll r more.entries) ↔ more.WellTyped := by
  constructor
  · exact fun hall e he => hall e (Dict.mem_entries_insertAll_of_mem more.distinct he)
  · intro h' e he
    rcases Dict.mem_entries_insertAll he with he | he
    · exact h' e he
    · exact h e he

/-- A stat that is looked up is well typed, also where zero stands for none. -/
theorem WellTyped.stat (h : r.WellTyped) (hn : name ∈ fields) :
    WellTypedStat name ((Dict.get? r name).getD 0) := by
  cases hg : Dict.get? r name with
  | some n => exact h (name, n) (Dict.mem_entries_of_get? hg)
  | none => exact wellTypedStat_int hn 0

theorem exists_num_of_clean? {v : Json} (h : clean? name v = some m) :
    name ∈ fields ∧ ∃ n, v = .num n := by
  unfold clean? at h
  split at h
  · rename_i hname
    cases v with
    | num n => exact ⟨hname, n, rfl⟩
    | _ => cases h
  · cases h

theorem exists_clean? (hn : name ∈ fields) (n : Number) : ∃ m, clean? name (.num n) = some m := by
  rw [clean?, if_pos hn]
  exact ⟨_, rfl⟩

/-- The record of entries from outside is well typed exactly if all its numbers are proper. -/
theorem wellTyped_ofEntries_iff {entries : List (String × Json)}
    (hd : (entries.map Prod.fst).Nodup) : (ofEntries entries).WellTyped ↔
      ∀ e ∈ entries, e.1 ∈ fields → ∀ n, e.2 = .num n → Proper e.1 n := by
  have hsub (l : List (String × Json)) :
      ((l.filterMap fun e => (clean? e.1 e.2).map fun n => (e.1, n)).map Prod.fst).Sublist
        (l.map Prod.fst) := by
    induction l with
    | nil => exact .refl _
    | cons e rest ih =>
      cases hc : clean? e.1 e.2 with
      | none =>
        rw [List.filterMap_cons_none (by rw [hc]; rfl)]
        exact ih.cons e.1
      | some n =>
        rw [List.filterMap_cons_some (by rw [hc]; rfl)]
        exact ih.cons_cons e.1
  have hentries := Dict.entries_ofList (hd.sublist (hsub entries))
  unfold WellTyped ofEntries
  rw [hentries]
  constructor
  · rintro hall ⟨name, v⟩ he hname n rfl
    obtain ⟨m, hm⟩ := exists_clean? hname n
    refine (wellTypedStat_clean?_iff hm).1 (hall (name, m) (List.mem_filterMap.2 ⟨_, he, ?_⟩))
    rw [hm]
    rfl
  · intro hall x hx
    obtain ⟨⟨name, v⟩, he, hx⟩ := List.mem_filterMap.1 hx
    obtain ⟨m, hm, rfl⟩ := Option.map_eq_some_iff.1 hx
    obtain ⟨hname, n, rfl⟩ := exists_num_of_clean? hm
    exact (wellTypedStat_clean?_iff hm).2 (hall _ he hname n rfl)

/-- The stats that a player starts with are well typed. -/
theorem wellTyped_startRecord {g : Game} (hg : g ∈ Game.registry) :
    WellTyped (Document.startRecord g) := by
  have hall : ∀ g ∈ Game.registry, ∀ e ∈ g.defaults, e.1 ∈ fields ∧ 0 ≤ e.2 := by decide
  intro e he
  obtain ⟨x, hx, rfl⟩ := List.mem_map.1 (Dict.mem_entries_ofList he)
  obtain ⟨hname, hpos⟩ := hall g hg x hx
  have hstat := wellTypedStat_int hname x.2.toNat
  rwa [Int.toNat_of_nonneg hpos] at hstat

end StatRecord

end Arcade
