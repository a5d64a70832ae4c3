import Arcade.Proofs.Ledger.Restart

/-!
# Old streaks

Loading folds a streak that was kept apart into the document, removes its key and then writes the
document. Each of these calls can fail by itself. A key that cannot be looked up or removed stays
where it is, so that nothing is lost, and as long as it is there every later loading that can look
it up raises the streaks again. A key that was removed is never folded in again. But it is removed
before the document is written: if that write fails, the streak is nowhere in the storage.
-/

namespace Arcade

/-! ## Streaks of at least some number -/

namespace Number

/-- Whether a number is a double that stands for no value. -/
def IsNan : Number → Prop
  | .int _ => False
  | .float x => Double.meaning x = .nan

theorem isNan_of_compareIntDouble {n : Int} {x : Float} (h : compareIntDouble n x = none) :
    (float x).IsNan := by
  unfold compareIntDouble at h
  split at h
  · assumption
  · cases h
  · cases h

/-- The greater one of a number and an integer is at least the integer, unless nothing compares
with the number. -/
theorem le_max_int (m : Number) (n : Int) :
    le (.int n) (m.max (.int n)) = true ∨ (m.max (.int n)).IsNan := by
  unfold max
  by_cases h : m.lt (.int n) = true
  · rw [if_pos h, le_int]
    exact .inl (decide_eq_true (Int.le_refl n))
  · rw [if_neg h]
    cases m with
    | int m =>
      rw [lt_int, decide_eq_true_iff] at h
      rw [le_int]
      exact .inl (decide_eq_true (Int.not_lt.mp h))
    | float x =>
      change ¬ ((compareIntDouble n x).map Ordering.swap == some .lt) = true at h
      change (compareIntDouble n x == some .lt || compareIntDouble n x == some .eq) = true ∨ _
      cases hc : compareIntDouble n x with
      | none => exact .inr (isNan_of_compareIntDouble hc)
      | some order =>
        rw [hc] at h
        cases order with
        | lt => exact .inl rfl
        | eq => exact .inl rfl
        | gt => exact absurd rfl h

end Number

namespace Document

/-- Both streaks of the game whose streaks used to be kept apart are at least `n`, as far as they
are numbers that compare. -/
def HoldsStreak (n : Nat) (d : Document) : Prop :=
  ∀ field ∈ ["streak", "bestStreak"],
    Number.le (.int n) (d.stat streakGame field) = true ∨ (d.stat streakGame field).IsNan

theorem stat_withStreak (d : Document) (n : Nat) {field : String}
    (h : field ∈ ["streak", "bestStreak"]) : (d.withStreak n).stat streakGame field =
      ((d.record streakGame).get? field |>.getD 0).max (.int n) := by
  have hrecord : (d.withStreak n).record streakGame =
      ((d.record streakGame).insert "streak"
        (((d.record streakGame).get? "streak" |>.getD 0).max (.int n))).insert "bestStreak"
        (((d.record streakGame).get? "bestStreak" |>.getD 0).max (.int n)) := by
    unfold withStreak
    rw [record, Dict.get?_insert_self]
    rfl
  unfold stat
  rw [hrecord]
  rcases List.mem_pair.mp h with rfl | rfl
  · rw [Dict.get?_insert_of_ne (by decide), Dict.get?_insert_self]
    rfl
  · rw [Dict.get?_insert_self]
    rfl

/-- A streak that was folded in is held. -/
theorem holdsStreak_withStreak (d : Document) (n : Nat) : (d.withStreak n).HoldsStreak n := by
  intro field h
  rw [stat_withStreak d n h]
  exact Number.le_max_int _ n

end Document

namespace Shelf

variable {k l text : String} {n : Nat} {s t u : Shelf} {d : Document} {now : Instant}

/-! ## One loading -/

/-- What is stored after a write, by whether it succeeded. -/
theorem Orderly.peek_save (h : Orderly k s) :
    (Shelf.save.outcome s).2.storage.peek (.str k) =
      if (Shelf.save.outcome s).2.ledger.persisted then
        some (.str s.ledger.document.toJson.write)
      else s.storage.peek (.str k) := by
  have hpersisted : (Shelf.save.outcome s).2.ledger.persisted = persistedAfter s.ledger.persisted
      (s.storage.set (.str k) (.str s.ledger.document.toJson.write)).1 := by
    rw [← h.dataKey]
    rfl
  rw [h.storage_save, hpersisted]
  rcases h.textual.set_result k s.ledger.document.toJson.write with hr | ⟨f, hr⟩
  · rw [Storage.peek_set_of_ok hr, hr, if_pos rfl]
    rfl
  · rw [Storage.peek_set_of_error hr, hr]
    rfl

theorem peek_prepared (hl : s.ledger.streakKey = .str l) (hkl : l ≠ k) (d : Document)
    (n? : Option Nat) (now : Instant) :
    (s.prepared d n? now).storage.peek (.str k) = s.storage.peek (.str k) := by
  apply prepared_preserve (P := fun t => t.peek (.str k) = s.storage.peek (.str k))
  · intro t key ht
    rwa [Storage.peek_get]
  · intro t ht
    rwa [hl, Storage.peek_remove_of_ne hkl.symm]
  · rfl

/-- The key of an old streak is gone if one was found and the third call went through. -/
theorem peek_streak_prepared (hl : s.ledger.streakKey = .str l) (d : Document) (n? : Option Nat)
    (now : Instant) : (s.prepared d n? now).storage.peek (.str l) =
      if n?.isSome && s.storage.permits 2 .remove then none else s.storage.peek (.str l) := by
  cases n? with
  | none =>
    show ((s.storage.get _).2.get _).2.peek (.str l) = s.storage.peek (.str l)
    rw [Storage.peek_get, Storage.peek_get]
  | some n =>
    show (Storage.remove ((s.storage.get _).2.get _).2 s.ledger.streakKey).2.peek (.str l) = _
    rw [hl, Storage.peek_remove_self, Storage.permits_get, Storage.permits_get, Storage.peek_get,
      Storage.peek_get]
    rfl

/-- What is stored after loading, by whether the write at its end succeeded. -/
theorem Orderly.peek_load (h : Orderly k s) (hl : s.ledger.streakKey = .str l) (hkl : l ≠ k)
    (d : Document) (n? : Option Nat) (now : Instant) :
    (Shelf.save.outcome (s.prepared d n? now)).2.storage.peek (.str k) =
      if (Shelf.save.outcome (s.prepared d n? now)).2.ledger.persisted then
        some (.str ((d.withOldStreak n?).withDay now).toJson.write)
      else s.storage.peek (.str k) := by
  have hpeek := (h.prepared d n? now).peek_save
  rwa [peek_prepared hl hkl, prepared_document] at hpeek

/-- A ledger on a storage that has an old streak of `n`, written as a text. -/
structure Streaked (k l text : String) (n : Nat) (s : Shelf) : Prop extends Orderly k s where
  streakKey : s.ledger.streakKey = .str l
  distinct : l ≠ k
  found : s.storage.peek (.str l) = some (.str text)
  reads : oldStreak (.str text) = .ok n

namespace Streaked

theorem lookedUp (h : Streaked k l text n s) (key : Json) :
    Streaked k l text n (s.lookedUp key) :=
  ⟨h.toOrderly.lookedUp key, h.streakKey, h.distinct, (Storage.peek_get _ _ _).trans h.found,
    h.reads⟩

theorem oldStreak?_eq (h : Streaked k l text n s) :
    s.oldStreak? = .ok (if s.storage.permits 0 .get then some n else none) := by
  unfold oldStreak?
  rw [h.streakKey]
  cases hp : s.storage.permits 0 .get with
  | true =>
    rw [Storage.get_str_of_permits hp, h.found]
    exact congrArg (Except.map some) h.reads
  | false =>
    obtain ⟨f, hf⟩ := Storage.get_str_of_not_permits hp l
    rw [hf]
    rfl

/-- What loading does once a document is found to start from, by the calls that go through. The
look-up of the document comes first, so that the call after it looks up the streak. -/
theorem loaded (h : Streaked k l text n s) (ht : s.taken now = .ok d) :
    ∃ e t, (load now).outcome s = (.ok e, t) ∧
      (s.storage.permits 1 .get = true → e.HoldsStreak n) ∧
      t.storage.peek (.str l) =
        (if s.storage.permits 1 .get && s.storage.permits 2 .remove then none
          else some (.str text)) ∧
      t.storage.peek (.str k) =
        if t.ledger.persisted then some (.str e.toJson.write) else s.storage.peek (.str k) := by
  have hold : (s.lookedUp s.ledger.dataKey).oldStreak? =
      .ok (if s.storage.permits 1 .get then some n else none) := by
    rw [(h.lookedUp s.ledger.dataKey).oldStreak?_eq]
    change Except.ok (if (s.storage.get _).2.permits 0 .get then some n else none) = _
    rw [Storage.permits_get]
  have hload := h.toOrderly.outcome_load hold now
  rw [ht] at hload
  refine ⟨_, _, hload, ?_, ?_, h.toOrderly.peek_load h.streakKey h.distinct d _ now⟩
  · intro hget
    rw [if_pos hget]
    exact Document.holdsStreak_withStreak d n
  · rw [(h.toOrderly.prepared d _ now).storage_save, Storage.peek_set_of_ne h.distinct,
      peek_streak_prepared h.streakKey, h.found]
    cases s.storage.permits 1 .get <;> rfl

end Streaked

/-! ## Later loadings -/

/-- A ledger with two different texts for its keys, `l` for old streaks, on a storage of texts. -/
def Keyed (l : String) (s : Shelf) : Prop :=
  ∃ k, Orderly k s ∧ s.ledger.streakKey = .str l ∧ l ≠ k

theorem Streaked.keyed (h : Streaked k l text n s) : Keyed l s :=
  ⟨k, h.toOrderly, h.streakKey, h.distinct⟩

/-- Whether a shelf comes after another one as far as old streaks go: what was under their key is
still there, or the key is gone. -/
structure Follows (l : String) (s t : Shelf) : Prop where
  keyed : Keyed l t
  entry : t.storage.peek (.str l) = s.storage.peek (.str l) ∨ t.storage.peek (.str l) = none

namespace Follows

theorem refl (h : Keyed l s) : Follows l s s := ⟨h, .inl rfl⟩

theorem gone (h : Follows l s t) (hs : s.storage.peek (.str l) = none) :
    t.storage.peek (.str l) = none := by
  rcases h.entry with he | he
  · exact he.trans hs
  · exact he

theorem lookedUp (h : Follows l s t) (key : Json) : Follows l s (t.lookedUp key) := by
  obtain ⟨⟨k, hk, hl, hkl⟩, he⟩ := h
  refine ⟨⟨k, hk.lookedUp key, hl, hkl⟩, ?_⟩
  have hpeek : (t.lookedUp key).storage.peek (.str l) = t.storage.peek (.str l) :=
    Storage.peek_get _ _ _
  rwa [hpeek]

theorem withDocument (h : Follows l s t) (d : Document) : Follows l s (t.withDocument d) := by
  obtain ⟨⟨k, hk, hl, hkl⟩, he⟩ := h
  exact ⟨⟨k, hk.withDocument d, hl, hkl⟩, he⟩

theorem opened (h : Follows l s t) (now : Instant) : Follows l s (t.opened now) := by
  obtain ⟨⟨k, hk, hl, hkl⟩, he⟩ := h
  exact ⟨⟨k, hk.opened now, hl, hkl⟩, he⟩

theorem folded (h : Follows l s t) (n : Nat) : Follows l s (t.folded n) := by
  obtain ⟨⟨k, hk, hl, hkl⟩, he⟩ := h
  refine ⟨⟨k, hk.folded n, hl, hkl⟩, ?_⟩
  have hpeek : (t.folded n).storage.peek (.str l) =
      if t.storage.permits 0 .remove then none else t.storage.peek (.str l) := by
    rw [← Storage.peek_remove_self, ← hl]
    rfl
  rw [hpeek]
  split
  · exact .inr rfl
  · exact he

theorem save (h : Follows l s t) : Follows l s (save.outcome t).2 := by
  obtain ⟨⟨k, hk, hl, hkl⟩, he⟩ := h
  refine ⟨⟨k, hk.save, hl, hkl⟩, ?_⟩
  rwa [hk.storage_save, Storage.peek_set_of_ne hkl]

theorem keep (h : Follows l s t) (d : Document) : Follows l s ((keep d).outcome t).2 := by
  rw [outcome_keep]
  exact (h.withDocument d).save

theorem emit (h : Follows l s t) (e : Event) : Follows l s (t.emit e) := by
  obtain ⟨⟨k, hk, hl, hkl⟩, he⟩ := h
  refine ⟨⟨k, hk.emit e, ?_, hkl⟩, ?_⟩ <;> rw [emit_eq]
  · exact hl
  · exact he

theorem load (h : Follows l s t) (now : Instant) : Follows l s ((load now).outcome t).2 :=
  load_preserve (P := Follows l s) (fun _ key ht => ht.lookedUp key)
    (fun _ d ht => ht.withDocument d) (fun _ n ht => ht.folded n) (fun _ now ht => ht.opened now)
    (fun _ ht => ht.save) h now

/-- No operation brings an old streak back. -/
theorem act (h : Follows l s t) (o : Operation) (now : Instant) :
    Follows l s ((o.act now).outcome t).2 := by
  by_cases ho : o = .load
  · subst ho
    rw [Operation.act, Act.outcome_discard]
    exact h.load now
  · exact Moves.preserve (fun _ d hu _ => hu.keep d) (fun _ e hu => hu.emit e)
      (o.steady_act ho now t) h

end Follows

/-- What can become of a shelf: operations, another ledger with the same key for old streaks on its
storage, and whatever else is done to the storage that leaves that key alone. -/
inductive Later (l : String) (s : Shelf) : Shelf → Prop
  | now : Later l s s
  | act {t : Shelf} (h : Later l s t) (o : Operation) (now : Instant) :
      Later l s ((o.act now).outcome t).2
  | renewed {t : Shelf} (h : Later l s t) (ledger : Ledger) (k : String)
      (dataKey : ledger.dataKey = .str k) (streakKey : ledger.streakKey = .str l)
      (distinct : l ≠ k) : Later l s ⟨ledger, t.storage⟩
  | elsewhere {t : Shelf} (h : Later l s t) (storage : Storage) (textual : storage.Textual)
      (same : storage.peek (.str l) = t.storage.peek (.str l)) : Later l s ⟨t.ledger, storage⟩

theorem Later.follows (h : Later l s t) (hs : Keyed l s) : Follows l s t := by
  -- Another ledger may keep its document elsewhere, so that its key is part of what is carried.
  induction h with
  | now => exact .refl hs
  | act _ o now ih => exact ih.act o now
  | renewed _ ledger k dataKey streakKey distinct ih =>
    obtain ⟨⟨_, hk, _, _⟩, he⟩ := ih
    exact ⟨⟨k, ⟨dataKey, hk.textual⟩, streakKey, distinct⟩, he⟩
  | elsewhere _ storage textual same ih =>
    obtain ⟨⟨k, hk, hl, hkl⟩, he⟩ := ih
    refine ⟨⟨k, ⟨hk.dataKey, textual⟩, hl, hkl⟩, ?_⟩
    change storage.peek (.str l) = _ ∨ storage.peek (.str l) = none
    rwa [same]

theorem oldStreak?_of_gone (hl : s.ledger.streakKey = .str l)
    (hgone : s.storage.peek (.str l) = none) : s.oldStreak? = .ok none := by
  unfold oldStreak?
  rw [hl]
  rcases s.storage.get_str l with hr | ⟨f, hr⟩
  · rw [hr, hgone]
  · rw [hr]

/-- Without an old streak loading only adds the log of the day to what it starts from. -/
theorem Keyed.load_result (h : Keyed l s) (hgone : s.storage.peek (.str l) = none)
    (now : Instant) : ((load now).outcome s).1 = (s.taken now).map fun d => d.withDay now := by
  obtain ⟨k, hk, hl, -⟩ := h
  have hpeek : (s.lookedUp s.ledger.dataKey).storage.peek (.str l) = none :=
    (Storage.peek_get _ _ _).trans hgone
  rw [hk.outcome_load (oldStreak?_of_gone (s := s.lookedUp s.ledger.dataKey) hl hpeek)]
  cases s.taken now <;> rfl

/-! ## Where the streak is -/

/-- Whether an old streak of `n` is in the storage, under its own key or in the document. -/
def HasStreak (k l text : String) (n : Nat) (s : Shelf) : Prop :=
  s.storage.peek (.str l) = some (.str text) ∨
    ∃ d : Document, d.HoldsStreak n ∧ s.storage.peek (.str k) = some (.str d.toJson.write)

/-- Every loading that can look an old streak up holds it. -/
theorem Streaked.holdsStreak_load (h : Streaked k l text n s)
    (hget : s.storage.permits 1 .get = true) (hd : ((load now).outcome s).1 = .ok d) :
    d.HoldsStreak n := by
  cases ht : s.taken now with
  | error e =>
    rw [outcome_load, ht] at hd
    cases hd
  | ok d' =>
    obtain ⟨e, t, he, hholds, -, -⟩ := h.loaded ht
    rw [he] at hd
    exact Except.ok.inj hd ▸ hholds hget

/-- The key is gone after loading just if a document was found and both calls went through. -/
theorem Streaked.gone_load_iff (h : Streaked k l text n s) {r : Except Fault Document}
    (hload : (load now).outcome s = (r, t)) : t.storage.peek (.str l) = none ↔
      (∃ d, r = .ok d) ∧ s.storage.permits 1 .get = true ∧ s.storage.permits 2 .remove = true := by
  cases ht : s.taken now with
  | error e =>
    rw [outcome_load, ht] at hload
    obtain ⟨rfl, rfl⟩ := Prod.mk.inj hload
    rw [(h.lookedUp s.ledger.dataKey).found]
    exact ⟨nofun, fun ⟨⟨_, hd⟩, _⟩ => (nomatch hd)⟩
  | ok d =>
    obtain ⟨e, v, he, -, hl, -⟩ := h.loaded ht
    obtain ⟨rfl, rfl⟩ := Prod.mk.inj (hload.symm.trans he)
    rw [hl]
    cases s.storage.permits 1 .get <;> cases s.storage.permits 2 .remove <;> simp

/-- The storage has the streak after loading, unless its key is gone and the document could not be
written. -/
theorem Streaked.hasStreak_load (h : Streaked k l text n s) {r : Except Fault Document}
    (hload : (load now).outcome s = (r, t))
    (hkept : ¬ (t.storage.peek (.str l) = none ∧ t.ledger.persisted = false)) :
    HasStreak k l text n t := by
  cases ht : s.taken now with
  | error e =>
    rw [outcome_load, ht] at hload
    obtain ⟨rfl, rfl⟩ := Prod.mk.inj hload
    exact .inl (h.lookedUp s.ledger.dataKey).found
  | ok d =>
    obtain ⟨e, v, he, hholds, hl, hk⟩ := h.loaded ht
    obtain ⟨rfl, rfl⟩ := Prod.mk.inj (hload.symm.trans he)
    by_cases hgone : t.storage.peek (.str l) = none
    · -- The key is gone, so that it is up to the write.
      have hp : t.ledger.persisted = true :=
        Bool.eq_true_of_not_eq_false fun hp => hkept ⟨hgone, hp⟩
      rw [hp, if_pos rfl] at hk
      exact .inr ⟨e, hholds ((h.gone_load_iff hload).mp hgone).2.1, hk⟩
    · left
      rw [hl] at hgone ⊢
      split at hgone
      · exact absurd rfl hgone
      · rw [if_neg (by assumption)]

/-- A write that failed leaves the stored document as it was. -/
theorem Streaked.peek_load_of_unwritten (h : Streaked k l text n s)
    {r : Except Fault Document} (hload : (load now).outcome s = (r, t))
    (hp : t.ledger.persisted = false) :
    t.storage.peek (.str k) = s.storage.peek (.str k) := by
  cases ht : s.taken now with
  | error e =>
    rw [outcome_load, ht] at hload
    obtain ⟨rfl, rfl⟩ := Prod.mk.inj hload
    exact Storage.peek_get _ _ _
  | ok d =>
    obtain ⟨e, v, he, -, -, hk⟩ := h.loaded ht
    obtain ⟨rfl, rfl⟩ := Prod.mk.inj (hload.symm.trans he)
    rw [hk, hp]
    rfl

/-- Let a ledger be loaded from a storage that has an old streak of `n` under its key, whatever
calls the storage refuses. The key is gone afterwards just if a document was found to start from and
both the look-up and the removal went through; if the look-up did, the document holds the streak.
The storage has the streak afterwards, under its key or in the document, unless the key is gone and
the write failed; then the stored document is the old one, and the streak is lost. A key that is
gone adds nothing to any later loading, by this ledger or another one, while one that is still there
makes every later loading that can look it up hold the streak again. -/
theorem old_streak_moves (h : Streaked k l text n s) {r : Except Fault Document}
    (hload : (load now).outcome s = (r, t)) :
    (t.storage.peek (.str l) = none ↔ (∃ d, r = .ok d) ∧
      s.storage.permits 1 .get = true ∧ s.storage.permits 2 .remove = true) ∧
    (∀ d, r = .ok d → s.storage.permits 1 .get = true → d.HoldsStreak n) ∧
    (¬ (t.storage.peek (.str l) = none ∧ t.ledger.persisted = false) → HasStreak k l text n t) ∧
    (t.storage.peek (.str l) = none → t.ledger.persisted = false →
      t.storage.peek (.str k) = s.storage.peek (.str k)) ∧
    ∀ u, Later l t u → ∀ later : Instant,
      (t.storage.peek (.str l) = none →
        ((load later).outcome u).1 = (u.taken later).map fun d => d.withDay later) ∧
      (u.storage.peek (.str l) = some (.str text) → u.storage.permits 1 .get = true →
        ∀ d, ((load later).outcome u).1 = .ok d → d.HoldsStreak n) := by
  refine ⟨h.gone_load_iff hload, ?_, h.hasStreak_load hload,
    fun _ hp => h.peek_load_of_unwritten hload hp, fun u hu later => ?_⟩
  · intro d hd hget
    exact h.holdsStreak_load hget ((congrArg Prod.fst hload).trans hd)
  · have hkeyed : Keyed l t := by
      have hfollows := (Follows.refl h.keyed).load now
      rw [hload] at hfollows
      exact hfollows.keyed
    have hfollows := hu.follows hkeyed
    refine ⟨fun hgone => hfollows.keyed.load_result (hfollows.gone hgone) later, ?_⟩
    intro hfound hget d hd
    obtain ⟨k', hk, hl, hkl⟩ := hfollows.keyed
    have hu' : Streaked k' l text n u := ⟨hk, hl, hkl, hfound, h.reads⟩
    exact hu'.holdsStreak_load hget hd

/-- A new ledger on a storage that has an old streak of seven and refuses its fourth call, a
write. -/
def endangered : Shelf where
  ledger := (blank "gameverse-data" "rps-streak").ledger
  storage := {
    entries := Dict.ofList [(.str "rps-streak", .str "7")]
    refuses := fun before call => decide (before = 3 ∧ call = .set)
  }

theorem streaked_endangered : Streaked "gameverse-data" "rps-streak" "7" 7 endangered where
  dataKey := rfl
  textual := by
    intro e he
    rw [List.mem_singleton.mp he]
    exact ⟨⟨"rps-streak", rfl⟩, "7", rfl⟩
  streakKey := rfl
  distinct := by decide
  found := rfl
  reads := by decide

theorem taken_endangered : endangered.taken noon = .ok newcomer := by
  have hstored : endangered.stored? = .ok none := rfl
  unfold taken
  rw [hstored]
  exact freshOn_noon

/-- The streak of seven is removed from the storage and not written to it. -/
theorem old_streak_lost : ∃ d t, (load noon).outcome endangered = (.ok d, t) ∧ d.HoldsStreak 7 ∧
    t.storage.peek (.str "rps-streak") = none ∧ t.storage.peek (.str "gameverse-data") = none ∧
    ∀ u, Later "rps-streak" t u → ∀ later : Instant,
      ((load later).outcome u).1 = (u.taken later).map fun d => d.withDay later := by
  obtain ⟨d, t, hload, -, -, -⟩ := streaked_endangered.loaded taken_endangered
  obtain ⟨hgone, hholds, -, hstored, hlater⟩ := old_streak_moves streaked_endangered hload
  have hl : t.storage.peek (.str "rps-streak") = none := hgone.mpr ⟨⟨d, rfl⟩, rfl, rfl⟩
  have hp : t.ledger.persisted = false := by
    have hrefused : ((load noon).outcome endangered).2.ledger.persisted = false := by
      decide
    rwa [hload] at hrefused
  exact ⟨d, t, hload, hholds d rfl rfl, hl, (hstored hl hp).trans rfl,
    fun u hu later => (hlater u hu later).1 hl⟩

end Shelf

end Arcade
