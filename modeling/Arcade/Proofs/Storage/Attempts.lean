import Arcade.Proofs.Storage.Texts

/-!
# Attempts to write

Whoever writes texts under one key, and goes on when the storage refuses one, finds under the key
the last text whose write succeeded. This needs no knowledge of when writes are refused.
-/

namespace Arcade.Storage

/-- The storage after texts were written under a key one after the other. -/
def attempted (s : Storage) (key : Json) (texts : List String) : Storage :=
  texts.foldl (fun s t => (s.set key (.str t)).2) s

/-- Texts that are written under a key one after the other, each with whether the write succeeds. -/
def attempts (s : Storage) (key : Json) : List String → List (String × Bool)
  | [] => []
  | t :: rest =>
    let written := s.set key (.str t)
    (t, written.1.toOption.isSome) :: attempts written.2 key rest

/-- Writes of texts under a key, however many, only fail because the storage refuses them. -/
def Obliging (s : Storage) (key : Json) : Prop :=
  ∀ texts t, passOver ((s.attempted key texts).set key (.str t)).1 = .ok ()

variable {s : Storage} {key : Json}

theorem attempted_cons (s : Storage) (key : Json) (t : String) (rest : List String) :
    s.attempted key (t :: rest) = (s.set key (.str t)).2.attempted key rest := rfl

theorem attempted_append (s : Storage) (key : Json) (texts more : List String) :
    s.attempted key (texts ++ more) = (s.attempted key texts).attempted key more :=
  List.foldl_append

theorem attempts_append (s : Storage) (key : Json) (texts more : List String) :
    s.attempts key (texts ++ more) =
      s.attempts key texts ++ (s.attempted key texts).attempts key more := by
  induction texts generalizing s with
  | nil => rfl
  | cons t rest ih => rw [List.cons_append, attempts, attempts, ih, List.cons_append,
      attempted_cons]

theorem Obliging.passOver_set (h : s.Obliging key) (t : String) :
    passOver (s.set key (.str t)).1 = .ok () := h [] t

theorem Obliging.attempted (h : s.Obliging key) (texts : List String) :
    (s.attempted key texts).Obliging key := by
  intro more t
  rw [← attempted_append]
  exact h (texts ++ more) t

/-- In a storage of texts, writes under a text only fail because the storage refuses them. -/
theorem Textual.obliging (h : s.Textual) (k : String) : s.Obliging (.str k) := by
  intro texts
  induction texts generalizing s with
  | nil => exact fun t => h.passOver_set k t
  | cons t rest ih => exact ih (h.set k t)

/-- Writes of texts under a key, however many, succeed. -/
def Accepting (s : Storage) (key : Json) : Prop :=
  ∀ texts t, ((s.attempted key texts).set key (.str t)).1 = .ok ()

theorem Accepting.obliging (h : s.Accepting key) : s.Obliging key := by
  intro texts t
  rw [h texts t]
  rfl

/-- In an accepting storage all attempts succeed. -/
theorem Accepting.attempts (h : s.Accepting key) (texts : List String) :
    ∀ a ∈ s.attempts key texts, a.2 = true := by
  induction texts generalizing s with
  | nil => exact fun a ha => absurd ha List.not_mem_nil
  | cons t rest ih =>
    intro a ha
    rcases List.mem_cons.1 ha with rfl | ha
    · have hset : (s.set key (.str t)).1 = .ok () := h [] t
      rw [hset]
      rfl
    · exact ih (fun texts => h (t :: texts)) a ha

/-- A willing storage without a limit accepts texts. -/
theorem Willing.accepting (h : s.Willing) (hl : s.limit = none) (k : String) :
    s.Accepting (.str k) := by
  intro texts
  induction texts generalizing s with
  | nil =>
    intro t
    rw [Storage.attempted, List.foldl_nil, Storage.set, h.outage?_eq_none, checkRoom, hl]
    rfl
  | cons t rest ih => exact ih (h.set _ _) ((set_limit s _ _).trans hl)

/-! ## What is found afterwards -/

/-- The first name with a property, or else a name of one's own, is the same once an entry is put
under it. -/
theorem find?_putEntry {α κ : Type} [DecidableEq κ] (p : κ → Bool) (own : κ) (value : α)
    (entries : List (κ × α)) :
    let name := ((entries.map Prod.fst).find? p).getD own
    (((putEntry name value entries).map Prod.fst).find? p).getD own = name := by
  induction entries with
  | nil => cases h : p own <;> simp [putEntry, h]
  | cons e rest ih =>
    dsimp only at ih ⊢
    rw [List.map_cons, List.find?_cons]
    cases hp : p e.1 with
    | true => simp [putEntry, hp]
    | false =>
      dsimp only
      rw [putEntry]
      split
      · rename_i he
        rw [List.map_cons, List.find?_cons, ← he, hp]
        exact he ▸ rfl
      · rw [List.map_cons, List.find?_cons, hp]
        exact ih

/-- The key in use is the same once a value is under it. -/
theorem inUse_put (s : Storage) (key value : Json) : (s.put key value).inUse key = s.inUse key := by
  cases key with
  | bool b => exact find?_putEntry (Json.equal · (.bool b)) (.bool b) value s.entries.entries
  | num n => exact find?_putEntry (Json.equal · (.num n)) (.num n) value s.entries.entries
  | _ => rfl

theorem set_entries_of_ok {value : Json} (h : (s.set key value).1 = .ok ()) :
    (s.set key value).2.entries = (s.put key value).entries := by
  rw [set_entries, h]
  rfl

/-- A value that is written is found under its key. -/
theorem peek_set_self {value : Json} (h : (s.set key value).1 = .ok ()) :
    (s.set key value).2.peek key = some value := by
  have hkey : (s.set key value).2.inUse key = s.inUse key := by
    rw [← inUse_put s key value]
    unfold inUse
    rw [set_entries_of_ok h]
  rw [peek, hkey, set_entries_of_ok h]
  exact Dict.get?_insert_self s.entries (s.inUse key) value

/-- A value that is refused leaves what is found as it was. -/
theorem peek_set_of_refused {value : Json} {e : Fault} (h : (s.set key value).1 = .error e) :
    (s.set key value).2.peek key = s.peek key := by
  have hentries : (s.set key value).2.entries = s.entries := by rw [set_entries, h]
  unfold peek inUse
  rw [hentries]

/-- The text of the last write that succeeded is found, or what was there before. -/
theorem peek_attempted (s : Storage) (key : Json) (texts : List String) :
    (s.attempted key texts).peek key =
      ((s.attempts key texts).filter Prod.snd).getLast?.elim (s.peek key)
        fun a => some (.str a.1) := by
  induction texts generalizing s with
  | nil => rfl
  | cons t rest ih =>
    rw [attempted_cons, ih, attempts]
    cases h : (s.set key (.str t)).1 with
    | ok =>
      rw [List.filter_cons_of_pos rfl, List.getLast?_cons, peek_set_self h]
      cases (((s.set key (.str t)).2.attempts key rest).filter Prod.snd).getLast? <;> rfl
    | error e => rw [List.filter_cons_of_neg (by simp [Except.toOption]), peek_set_of_refused h]

end Arcade.Storage
