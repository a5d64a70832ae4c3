/-!
# Dictionaries in order of insertion

A dictionary maps names to values and lists its entries in the order in which their names were
first inserted. Inserting under a known name replaces the value in place. No name occurs twice,
so looking a name up and listing the entries tell the same story. Names are texts unless a
dictionary says otherwise.
-/

namespace Arcade

variable {α β κ : Type}

/-- Names with values, in order of first insertion. -/
structure Dict (α : Type) (κ : Type := String) where
  entries : List (κ × α)
  distinct : (entries.map Prod.fst).Nodup
deriving DecidableEq

@[ext] theorem Dict.ext {a b : Dict α κ} (h : a.entries = b.entries) : a = b := by
  cases a; cases b; cases h; rfl

variable [DecidableEq κ]

/-- The entries with a value put under a name: in place if the name is known, else at the end. -/
def putEntry (name : κ) (value : α) : List (κ × α) → List (κ × α)
  | [] => [(name, value)]
  | e :: rest => if e.1 = name then (name, value) :: rest else e :: putEntry name value rest

/-- The value of the first entry with a name. -/
def valueAt? (name : κ) : List (κ × α) → Option α
  | [] => none
  | e :: rest => if e.1 = name then some e.2 else valueAt? name rest

theorem mem_names_putEntry {name x : κ} {value : α} {entries : List (κ × α)} :
    x ∈ (putEntry name value entries).map Prod.fst ↔
      x = name ∨ x ∈ entries.map Prod.fst := by
  induction entries with
  | nil => simp [putEntry]
  | cons e rest ih =>
    by_cases h : e.1 = name
    · simp [putEntry, h]
    · rw [putEntry, if_neg h, List.map_cons, List.map_cons, List.mem_cons, List.mem_cons, ih]
      grind

theorem nodup_names_putEntry {name : κ} {value : α} {entries : List (κ × α)}
    (h : (entries.map Prod.fst).Nodup) : ((putEntry name value entries).map Prod.fst).Nodup := by
  induction entries with
  | nil => simp [putEntry]
  | cons e rest ih =>
    rw [List.map_cons, List.nodup_cons] at h
    by_cases he : e.1 = name
    · rw [putEntry, if_pos he, List.map_cons, List.nodup_cons]
      exact ⟨he ▸ h.1, h.2⟩
    · rw [putEntry, if_neg he, List.map_cons, List.nodup_cons, mem_names_putEntry]
      exact ⟨fun hx => hx.elim he h.1, ih h.2⟩

theorem valueAt?_putEntry_self (name : κ) (value : α) (entries : List (κ × α)) :
    valueAt? name (putEntry name value entries) = some value := by
  induction entries with
  | nil => simp [putEntry, valueAt?]
  | cons e rest ih => by_cases h : e.1 = name <;> simp [putEntry, valueAt?, h, ih]

theorem valueAt?_putEntry_of_ne {name other : κ} (h : other ≠ name) (value : α)
    (entries : List (κ × α)) :
    valueAt? other (putEntry name value entries) = valueAt? other entries := by
  induction entries with
  | nil => simp [putEntry, valueAt?, Ne.symm h]
  | cons e rest ih =>
    by_cases he : e.1 = name
    · simp [putEntry, valueAt?, he, Ne.symm h]
    · rw [putEntry, if_neg he, valueAt?, valueAt?, ih]

theorem valueAt?_isSome_iff {name : κ} {entries : List (κ × α)} :
    (valueAt? name entries).isSome = true ↔ name ∈ entries.map Prod.fst := by
  induction entries with
  | nil => simp [valueAt?]
  | cons e rest ih =>
    by_cases he : e.1 = name
    · simp [valueAt?, he]
    · rw [valueAt?, if_neg he, ih, List.map_cons, List.mem_cons]
      exact ⟨.inr, fun h => h.resolve_left (Ne.symm he)⟩

theorem mem_of_valueAt? {name : κ} {value : α} {entries : List (κ × α)}
    (h : valueAt? name entries = some value) : (name, value) ∈ entries := by
  induction entries with
  | nil => cases h
  | cons e rest ih =>
    rw [valueAt?] at h
    split at h
    · rename_i he
      obtain rfl := Option.some.inj h
      exact he ▸ List.mem_cons_self
    · exact List.mem_cons_of_mem e (ih h)

theorem valueAt?_of_mem {name : κ} {value : α} {entries : List (κ × α)}
    (hd : (entries.map Prod.fst).Nodup) (h : (name, value) ∈ entries) :
    valueAt? name entries = some value := by
  induction entries with
  | nil => cases h
  | cons e rest ih =>
    rw [List.map_cons, List.nodup_cons] at hd
    rcases List.mem_cons.mp h with rfl | h
    · exact if_pos rfl
    · have he : e.1 ≠ name := fun he => hd.1 (he ▸ List.mem_map_of_mem (f := Prod.fst) h)
      rw [valueAt?, if_neg he, ih hd.2 h]

theorem mem_putEntry {name : κ} {value : α} {entries : List (κ × α)} {e : κ × α}
    (h : e ∈ putEntry name value entries) : e = (name, value) ∨ e ∈ entries := by
  induction entries with
  | nil => exact .inl (List.mem_singleton.mp h)
  | cons x rest ih =>
    rw [putEntry] at h
    split at h
    · exact (List.mem_cons.mp h).imp_right (List.mem_cons_of_mem x)
    · rcases List.mem_cons.mp h with rfl | h
      · exact .inr List.mem_cons_self
      · exact (ih h).imp_right (List.mem_cons_of_mem x)

theorem putEntry_of_not_mem {name : κ} {value : α} {entries : List (κ × α)}
    (h : name ∉ entries.map Prod.fst) : putEntry name value entries = entries ++ [(name, value)] := by
  induction entries with
  | nil => rfl
  | cons e rest ih =>
    rw [List.map_cons, List.mem_cons, not_or] at h
    rw [putEntry, if_neg (Ne.symm h.1), ih h.2]
    rfl

theorem valueAt?_filter_ne {name other : κ} (h : other ≠ name) {entries : List (κ × α)} :
    valueAt? other (entries.filter fun e => decide (e.1 ≠ name)) = valueAt? other entries := by
  induction entries with
  | nil => rfl
  | cons e rest ih =>
    by_cases he : e.1 = name
    · have ho : e.1 ≠ other := fun ho => h (ho ▸ he)
      rw [List.filter_cons_of_neg (by simp [he]), ih, valueAt?, if_neg ho]
    · rw [List.filter_cons_of_pos (by simp [he]), valueAt?, valueAt?, ih]

theorem putEntry_putEntry (name : κ) (value other : α) (entries : List (κ × α)) :
    putEntry name value (putEntry name other entries) = putEntry name value entries := by
  induction entries with
  | nil => simp [putEntry]
  | cons e rest ih =>
    by_cases he : e.1 = name
    · simp [putEntry, he]
    · simp [putEntry, he, ih]

/-- The other entries do not notice that one is put. -/
theorem filter_putEntry (name : κ) (value : α) (entries : List (κ × α)) :
    (putEntry name value entries).filter (fun e => decide (e.1 ≠ name)) =
      entries.filter fun e => decide (e.1 ≠ name) := by
  induction entries with
  | nil => simp [putEntry]
  | cons e rest ih =>
    by_cases he : e.1 = name
    · simp [putEntry, he]
    · rw [putEntry, if_neg he, List.filter_cons_of_pos (by simp [he]), ih,
        List.filter_cons_of_pos (by simp [he])]

/-- The entries with further ones put one after the other. -/
def putEntries (entries more : List (κ × α)) : List (κ × α) :=
  more.foldl (fun entries e => putEntry e.1 e.2 entries) entries

theorem putEntries_of_nodup {entries more : List (κ × α)}
    (h : ((entries ++ more).map Prod.fst).Nodup) : putEntries entries more = entries ++ more := by
  induction more generalizing entries with
  | nil => exact (List.append_nil entries).symm
  | cons e rest ih =>
    have he : e.1 ∉ entries.map Prod.fst := by
      rw [List.map_append, List.nodup_append] at h
      exact fun hm => h.2.2 _ hm _ List.mem_cons_self rfl
    have hr : entries ++ e :: rest = entries ++ [e] ++ rest := by
      rw [List.append_assoc, List.singleton_append]
    rw [hr] at h
    rw [putEntries, List.foldl_cons, putEntry_of_not_mem he, hr]
    exact ih h

/-- Entries with distinct names put into nothing are listed as they are given. -/
theorem putEntries_nil_of_nodup {more : List (κ × α)} (h : (more.map Prod.fst).Nodup) :
    putEntries [] more = more :=
  putEntries_of_nodup h

namespace Dict

instance [Repr α] [Repr κ] : Repr (Dict α κ) := ⟨fun d n => reprPrec d.entries n⟩

def empty : Dict α κ := ⟨[], List.nodup_nil⟩

instance : Inhabited (Dict α κ) := ⟨empty⟩

/-- The value under a name. -/
def get? (d : Dict α κ) (name : κ) : Option α :=
  valueAt? name d.entries

def contains (d : Dict α κ) (name : κ) : Bool :=
  (d.get? name).isSome

/-- The dictionary with a value under a name. -/
def insert (d : Dict α κ) (name : κ) (value : α) : Dict α κ :=
  ⟨putEntry name value d.entries, nodup_names_putEntry d.distinct⟩

/-- The dictionary with a value under a name unless it has one already. -/
def insertNew (d : Dict α κ) (name : κ) (value : α) : Dict α κ :=
  if d.contains name then d else d.insert name value

/-- Inserts the entries one after the other. -/
def insertAll (d : Dict α κ) (entries : List (κ × α)) : Dict α κ :=
  entries.foldl (fun d e => d.insert e.1 e.2) d

/-- The dictionary of a list of entries; a repeated name keeps its first place and takes its last
value. -/
def ofList (entries : List (κ × α)) : Dict α κ :=
  empty.insertAll entries

/-- The dictionary without an entry for a name. -/
def erase (d : Dict α κ) (name : κ) : Dict α κ :=
  ⟨d.entries.filter fun e => e.1 ≠ name, by
    have := d.distinct
    rw [List.Nodup, List.pairwise_map] at this ⊢
    exact this.filter _⟩

def names (d : Dict α κ) : List κ := d.entries.map Prod.fst

def values (d : Dict α κ) : List α := d.entries.map Prod.snd

def size (d : Dict α κ) : Nat := d.entries.length

/-- Changes each value and keeps the names. -/
def mapValues (f : κ → α → β) (d : Dict α κ) : Dict β κ :=
  ⟨d.entries.map fun e => (e.1, f e.1 e.2), by
    have := d.distinct
    rw [List.Nodup, List.pairwise_map] at this ⊢
    rwa [List.pairwise_map]⟩

@[simp] theorem get?_insert_self (d : Dict α κ) (name : κ) (value : α) :
    (d.insert name value).get? name = some value :=
  valueAt?_putEntry_self name value d.entries

@[simp] theorem get?_insert_of_ne {d : Dict α κ} {name other : κ} {value : α}
    (h : other ≠ name) : (d.insert name value).get? other = d.get? other :=
  valueAt?_putEntry_of_ne h value d.entries

@[simp] theorem get?_empty (name : κ) : (empty : Dict α κ).get? name = none := rfl

theorem mem_names_insert {d : Dict α κ} {name x : κ} {value : α} :
    x ∈ (d.insert name value).names ↔ x = name ∨ x ∈ d.names :=
  mem_names_putEntry

theorem get?_insert (d : Dict α κ) (name other : κ) (value : α) :
    (d.insert name value).get? other = if other = name then some value else d.get? other := by
  split
  · rename_i h
    rw [h, get?_insert_self]
  · rename_i h
    exact get?_insert_of_ne h

theorem insert_insert (d : Dict α κ) (name : κ) (value other : α) :
    (d.insert name other).insert name value = d.insert name value :=
  ext (putEntry_putEntry name value other d.entries)

theorem contains_iff {d : Dict α κ} {name : κ} : d.contains name = true ↔ name ∈ d.names :=
  valueAt?_isSome_iff

theorem mem_entries_of_get? {d : Dict α κ} {name : κ} {value : α} (h : d.get? name = some value) :
    (name, value) ∈ d.entries :=
  mem_of_valueAt? h

theorem get?_of_mem_entries {d : Dict α κ} {name : κ} {value : α}
    (h : (name, value) ∈ d.entries) : d.get? name = some value :=
  valueAt?_of_mem d.distinct h

/-- An entry is the inserted one or was there before. -/
theorem mem_entries_insert {d : Dict α κ} {name : κ} {value : α} {e : κ × α}
    (h : e ∈ (d.insert name value).entries) : e = (name, value) ∨ e ∈ d.entries :=
  mem_putEntry h

theorem mem_entries_insertNew {d : Dict α κ} {name : κ} {value : α} {e : κ × α}
    (h : e ∈ (d.insertNew name value).entries) : e = (name, value) ∨ e ∈ d.entries := by
  unfold insertNew at h
  split at h
  · exact .inr h
  · exact mem_entries_insert h

theorem mem_entries_insertAll {entries : List (κ × α)} {d : Dict α κ} {e : κ × α}
    (h : e ∈ (d.insertAll entries).entries) : e ∈ entries ∨ e ∈ d.entries := by
  induction entries generalizing d with
  | nil => exact .inr h
  | cons x rest ih =>
    rcases ih h with h | h
    · exact .inl (List.mem_cons_of_mem x h)
    · rcases mem_entries_insert h with rfl | h
      · exact .inl List.mem_cons_self
      · exact .inr h

theorem mem_entries_ofList {entries : List (κ × α)} {e : κ × α}
    (h : e ∈ (ofList entries).entries) : e ∈ entries := by
  rcases mem_entries_insertAll h with h | h
  · exact h
  · cases h

theorem names_insertNew {d : Dict α κ} {name x : κ} {value : α} :
    x ∈ (d.insertNew name value).names ↔ x = name ∨ x ∈ d.names := by
  unfold insertNew
  split
  · rename_i h
    constructor
    · exact .inr
    · rintro (rfl | hx)
      · exact contains_iff.1 h
      · exact hx
  · exact mem_names_insert

theorem insertNew_of_mem {d : Dict α κ} {name : κ} {value : α} (h : name ∈ d.names) :
    d.insertNew name value = d := by
  rw [insertNew, if_pos (contains_iff.2 h)]

theorem entries_insertAll (d : Dict α κ) (entries : List (κ × α)) :
    (d.insertAll entries).entries = putEntries d.entries entries := by
  induction entries generalizing d with
  | nil => rfl
  | cons e rest ih => exact ih (d.insert e.1 e.2)

/-- Entries with distinct names are listed as they are given. -/
theorem entries_ofList {entries : List (κ × α)} (h : (entries.map Prod.fst).Nodup) :
    (ofList entries).entries = entries := by
  rw [ofList, entries_insertAll]
  exact putEntries_nil_of_nodup h

@[simp] theorem ofList_entries (d : Dict α κ) : ofList d.entries = d :=
  ext (entries_ofList d.distinct)

@[simp] theorem get?_erase_self (d : Dict α κ) (name : κ) : (d.erase name).get? name = none := by
  cases h : (d.erase name).get? name with
  | none => rfl
  | some value =>
    have hm : (name, value) ∈ d.entries.filter fun e => decide (e.1 ≠ name) :=
      mem_entries_of_get? h
    simp at hm

@[simp] theorem get?_erase_of_ne {d : Dict α κ} {name other : κ} (h : other ≠ name) :
    (d.erase name).get? other = d.get? other :=
  valueAt?_filter_ne h

end Dict

end Arcade
