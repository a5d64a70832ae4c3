import Arcade.Storage.Basic

/-!
# Storages of texts

Who keeps something in a storage keeps texts under texts. In such a storage a write either succeeds
or is refused by the storage: nothing in it stands in the way of counting what is there. A willing
storage refuses no call, so that only a want of room can keep a write from succeeding.
-/

namespace Arcade.Storage

/-- All keys and all values are texts. -/
def Textual (s : Storage) : Prop :=
  ∀ e ∈ s.entries.entries, (∃ k, e.1 = .str k) ∧ ∃ t, e.2 = .str t

/-- No call is refused, and the file behind the storage can be used. -/
def Willing (s : Storage) : Prop :=
  s.sound = true ∧ ∀ n call, s.refuses n call = false

theorem Willing.outage?_eq_none {s : Storage} (h : s.Willing) (call : StorageCall) (key : Json) :
    s.outage? call key = none := by
  rw [outage?, h.2, h.1]
  rfl

/-! ## What calls leave alone -/

@[simp] theorem get_refuses (s : Storage) (key : Json) : (s.get key).2.refuses = s.refuses := by
  unfold get
  split <;> rfl

@[simp] theorem get_sound (s : Storage) (key : Json) : (s.get key).2.sound = s.sound := by
  unfold get
  split <;> rfl

@[simp] theorem set_refuses (s : Storage) (key value : Json) :
    (s.set key value).2.refuses = s.refuses := by
  unfold set
  split
  · rfl
  · split <;> rfl

@[simp] theorem set_sound (s : Storage) (key value : Json) :
    (s.set key value).2.sound = s.sound := by
  unfold set
  split
  · rfl
  · split <;> rfl

@[simp] theorem remove_refuses (s : Storage) (key : Json) :
    (s.remove key).2.refuses = s.refuses := by
  unfold remove
  split
  · rfl
  · split <;> rfl

@[simp] theorem remove_sound (s : Storage) (key : Json) : (s.remove key).2.sound = s.sound := by
  unfold remove
  split
  · rfl
  · split <;> rfl

@[simp] theorem get_limit (s : Storage) (key : Json) : (s.get key).2.limit = s.limit := by
  unfold get
  split <;> rfl

@[simp] theorem set_limit (s : Storage) (key value : Json) :
    (s.set key value).2.limit = s.limit := by
  unfold set
  split
  · rfl
  · split <;> rfl

@[simp] theorem remove_limit (s : Storage) (key : Json) : (s.remove key).2.limit = s.limit := by
  unfold remove
  split
  · rfl
  · split <;> rfl

theorem Willing.get {s : Storage} (h : s.Willing) (key : Json) : (s.get key).2.Willing := by
  rwa [Willing, get_sound, get_refuses]

theorem Willing.set {s : Storage} (h : s.Willing) (key value : Json) :
    (s.set key value).2.Willing := by
  rwa [Willing, set_sound, set_refuses]

theorem Willing.remove {s : Storage} (h : s.Willing) (key : Json) : (s.remove key).2.Willing := by
  rwa [Willing, remove_sound, remove_refuses]

/-- What a look-up finds is there. -/
theorem peek_of_get {s : Storage} {key v : Json} (h : (s.get key).1 = .ok (some v)) :
    s.peek key = some v := by
  unfold get at h
  split at h
  · cases h
  · dsimp only at h
    cases hk : checkKey key with
    | error e =>
      rw [hk] at h
      cases h
    | ok x =>
      rw [hk] at h
      exact Except.ok.inj h

/-! ## Texts as keys -/

@[simp] theorem inUse_str (s : Storage) (k : String) : s.inUse (.str k) = .str k := rfl

@[simp] theorem peek_str (s : Storage) (k : String) :
    s.peek (.str k) = s.entries.get? (.str k) := rfl

/-- A look-up finds what is there or is refused. -/
theorem get_str (s : Storage) (k : String) :
    (s.get (.str k)).1 = .ok (s.peek (.str k)) ∨ ∃ f, (s.get (.str k)).1 = .error (.storage f) := by
  unfold get
  split
  · exact .inr ⟨_, rfl⟩
  · exact .inl rfl

theorem Willing.get_str {s : Storage} (h : s.Willing) (k : String) :
    (s.get (.str k)).1 = .ok (s.peek (.str k)) := by
  rw [Storage.get, h.outage?_eq_none]
  rfl

/-- A successful write is found under its key, and other texts find what they found before. -/
theorem peek_set_of_ok {s : Storage} {k l : String} {value : Json}
    (h : (s.set (.str k) value).1 = .ok ()) :
    (s.set (.str k) value).2.peek (.str l) = if l = k then some value else s.peek (.str l) := by
  rw [peek_str, set_entries, h]
  simp only [inUse_str, Dict.get?_insert, Json.str.injEq]
  rfl

/-- A write that fails changes no entry. -/
theorem peek_set_of_error {s : Storage} {k l : String} {value : Json} {e : Fault}
    (h : (s.set (.str k) value).1 = .error e) :
    (s.set (.str k) value).2.peek (.str l) = s.peek (.str l) := by
  rw [peek_str, set_entries, h]
  rfl

/-- What is found under another key stays. -/
theorem peek_set_of_ne {s : Storage} {k l : String} {value : Json} (h : l ≠ k) :
    (s.set (.str k) value).2.peek (.str l) = s.peek (.str l) := by
  cases hr : (s.set (.str k) value).1 with
  | ok => rw [peek_set_of_ok hr, if_neg h]
  | error e => exact peek_set_of_error hr

theorem peek_get (s : Storage) (key : Json) (k : String) :
    (s.get key).2.peek (.str k) = s.peek (.str k) := by
  rw [peek_str, peek_str, get_entries]

/-- What was written once can be written again, and that changes no entry. -/
theorem Willing.set_again {s t : Storage} {k : String} {value : Json} (hs : s.Willing)
    (ht : t.Willing) (h : (s.set (.str k) value).1 = .ok ()) (hlimit : t.limit = s.limit)
    (hentries : t.entries = (s.set (.str k) value).2.entries) :
    (t.set (.str k) value).1 = .ok () ∧ (t.set (.str k) value).2.entries = t.entries := by
  have hput : t.entries = s.entries.insert (.str k) value := by
    rw [hentries, set_entries, h]
    rfl
  have hroom : t.checkRoom (.str k) value = s.checkRoom (.str k) value := by
    unfold checkRoom sizeWith
    rw [hlimit, hput, Dict.insert, filter_putEntry]
  have hr : (t.set (.str k) value).1 = .ok () := by
    unfold Storage.set at h ⊢
    rw [hs.outage?_eq_none] at h
    rw [ht.outage?_eq_none, hroom]
    dsimp only at h ⊢
    split at h
    · rfl
    · cases h
    · cases h
  refine ⟨hr, ?_⟩
  rw [set_entries, hr, inUse_str]
  dsimp only
  rw [hput, Dict.insert_insert]

theorem Willing.remove_str {s : Storage} (h : s.Willing) (k : String) :
    (s.remove (.str k)).1 = .ok () := by
  rw [Storage.remove, h.outage?_eq_none]
  simp only [checkKey, Json.isKey, if_true, ite_self]

theorem Willing.peek_remove_self {s : Storage} (h : s.Willing) (k : String) :
    (s.remove (.str k)).2.peek (.str k) = none := by
  rw [peek_str, remove_entries, h.remove_str]
  exact Dict.get?_erase_self s.entries (.str k)

theorem peek_remove_of_ne {s : Storage} {k l : String} (h : l ≠ k) :
    (s.remove (.str k)).2.peek (.str l) = s.peek (.str l) := by
  have hk : Json.str l ≠ Json.str k := fun he => h (Json.str.inj he)
  rw [peek_str, remove_entries]
  split
  · exact Dict.get?_erase_of_ne hk
  · rfl

/-! ## Storages of texts stay such -/

theorem Textual.get {s : Storage} (h : s.Textual) (key : Json) : (s.get key).2.Textual := by
  rwa [Textual, get_entries]

theorem Textual.set {s : Storage} (h : s.Textual) (k t : String) :
    (s.set (.str k) (.str t)).2.Textual := by
  intro e he
  rw [set_entries] at he
  split at he
  · rcases Dict.mem_entries_insert he with rfl | he
    · exact ⟨⟨k, rfl⟩, t, rfl⟩
    · exact h e he
  · exact h e he

theorem Textual.remove {s : Storage} (h : s.Textual) (key : Json) :
    (s.remove key).2.Textual := by
  intro e he
  rw [remove_entries] at he
  split at he
  · exact h e ((List.mem_filter.mp he).1)
  · exact h e he

theorem Textual.peek {s : Storage} (h : s.Textual) {k : String} {v : Json}
    (hv : s.peek (.str k) = some v) : ∃ t, v = .str t :=
  (h _ (Dict.mem_entries_of_get? hv)).2

/-- Entries that are texts can be counted. -/
theorem sizeOf_ok {entries : List (Json × Json)}
    (h : ∀ e ∈ entries, (∃ k, e.1 = .str k) ∧ ∃ t, e.2 = .str t) :
    ∃ n, sizeOf entries = .ok n := by
  induction entries with
  | nil => exact ⟨0, rfl⟩
  | cons e rest ih =>
    obtain ⟨⟨k, hk⟩, t, ht⟩ := h e List.mem_cons_self
    obtain ⟨n, hn⟩ := ih fun x hx => h x (List.mem_cons_of_mem e hx)
    refine ⟨Text.length k + Text.length t + n, ?_⟩
    rw [sizeOf, hk, ht, hn]
    rfl

theorem Textual.sizeWith {s : Storage} (h : s.Textual) (k t : String) :
    ∃ n, s.sizeWith (.str k) (.str t) = .ok n := by
  refine sizeOf_ok fun e he => ?_
  rcases List.mem_append.mp he with he | he
  · exact h e ((List.mem_filter.mp he).1)
  · rw [List.mem_singleton.mp he]
    exact ⟨⟨k, rfl⟩, t, rfl⟩

/-- In a storage of texts a write succeeds or is refused. -/
theorem Textual.set_result {s : Storage} (h : s.Textual) (k t : String) :
    (s.set (.str k) (.str t)).1 = .ok () ∨
      ∃ f, (s.set (.str k) (.str t)).1 = .error (.storage f) := by
  obtain ⟨n, hn⟩ := h.sizeWith k t
  unfold Storage.set checkRoom
  rw [hn]
  cases s.outage? .set (.str k) with
  | some cause => exact .inr ⟨cause, rfl⟩
  | none =>
    cases s.limit with
    | none => exact .inl rfl
    | some limit =>
      by_cases hl : limit.lt (.int n) = true
      · refine .inr ⟨.full (Json.str k).text n limit.text, ?_⟩
        simp only [bind, Except.bind, hl, if_true]
        rfl
      · simp only [bind, Except.bind, hl]
        exact .inl rfl

theorem Textual.passOver_set {s : Storage} (h : s.Textual) (k t : String) :
    passOver (s.set (.str k) (.str t)).1 = .ok () := by
  rcases h.set_result k t with hr | ⟨f, hr⟩ <;> rw [hr] <;> rfl

/-! ## Which calls go through

A call goes through if neither the plan of refusals nor the file is in its way. The plan goes by the
number of calls, so that it can be told beforehand of the calls to come.
-/

/-- Whether a call would go through after some others. -/
def permits (s : Storage) (after : Nat) (call : StorageCall) : Bool :=
  s.sound && !s.refuses (s.calls + after) call

theorem Willing.permits {s : Storage} (h : s.Willing) (after : Nat) (call : StorageCall) :
    s.permits after call = true := by
  rw [Storage.permits, h.1, h.2]
  rfl

theorem outage?_eq_none_iff {s : Storage} {call : StorageCall} {key : Json} :
    s.outage? call key = none ↔ s.permits 0 call = true := by
  unfold outage? permits
  cases s.refuses s.calls call <;> cases s.sound <;> simp [*]

theorem exists_outage {s : Storage} {call : StorageCall} (h : s.permits 0 call = false)
    (key : Json) : ∃ f, s.outage? call key = some f := by
  cases ho : s.outage? call key with
  | none =>
    rw [outage?_eq_none_iff.mp ho] at h
    cases h
  | some f => exact ⟨f, rfl⟩

@[simp] theorem permits_get (s : Storage) (key : Json) (after : Nat) (call : StorageCall) :
    (s.get key).2.permits after call = s.permits (after + 1) call := by
  have hcalls : (s.get key).2.calls = s.calls + 1 := by
    unfold get
    split <;> rfl
  unfold permits
  rw [get_sound, get_refuses, hcalls, Nat.add_assoc, Nat.add_comm 1 after]

theorem get_str_of_permits {s : Storage} (h : s.permits 0 .get = true) (k : String) :
    (s.get (.str k)).1 = .ok (s.peek (.str k)) := by
  rw [Storage.get, outage?_eq_none_iff.mpr h]
  rfl

theorem get_str_of_not_permits {s : Storage} (h : s.permits 0 .get = false) (k : String) :
    ∃ f, (s.get (.str k)).1 = .error (.storage f) := by
  obtain ⟨f, hf⟩ := exists_outage h (.str k)
  rw [Storage.get, hf]
  exact ⟨f, rfl⟩

theorem peek_remove_self (s : Storage) (k : String) : (s.remove (.str k)).2.peek (.str k) =
    if s.permits 0 .remove then none else s.peek (.str k) := by
  unfold Storage.remove
  cases h : s.permits 0 .remove with
  | true =>
    rw [outage?_eq_none_iff.mpr h]
    simp only [checkKey, Json.isKey, if_true, ite_self]
    exact Dict.get?_erase_self s.entries (.str k)
  | false =>
    obtain ⟨f, hf⟩ := exists_outage h (.str k)
    rw [hf]
    rfl

end Arcade.Storage
