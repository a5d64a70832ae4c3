import Arcade.Ledger.Award
import Arcade.Proofs.Ledger.Loading
import Arcade.Proofs.Ledger.Operation
import Arcade.Proofs.Storage.Texts

/-!
# Ledgers on storages of texts

With a text for its key and nothing but texts in the storage, a ledger can always write: a write
succeeds or is refused, and either way the ledger goes on.
-/

namespace Arcade.Shelf

/-- A ledger with a text for its key on a storage of texts. -/
structure Orderly (k : String) (s : Shelf) : Prop where
  dataKey : s.ledger.dataKey = .str k
  textual : s.storage.Textual

variable {k l : String} {s : Shelf} {now : Instant}

namespace Orderly

theorem withDocument (h : Orderly k s) (d : Document) : Orderly k (s.withDocument d) :=
  ⟨h.dataKey, h.textual⟩

theorem lookedUp (h : Orderly k s) (key : Json) : Orderly k (s.lookedUp key) :=
  ⟨h.dataKey, h.textual.get key⟩

theorem opened (h : Orderly k s) (now : Instant) : Orderly k (s.opened now) :=
  ⟨h.dataKey, h.textual⟩

theorem folded (h : Orderly k s) (n : Nat) : Orderly k (s.folded n) :=
  ⟨h.dataKey, h.textual.remove _⟩

theorem emit (h : Orderly k s) (e : Event) : Orderly k (s.emit e) := by
  rw [emit_eq]
  exact ⟨h.dataKey, h.textual⟩

theorem save (h : Orderly k s) : Orderly k (save.outcome s).2 := by
  refine ⟨h.dataKey, ?_⟩
  change (s.storage.set s.ledger.dataKey _).2.Textual
  rw [h.dataKey]
  exact h.textual.set k _

theorem keep (h : Orderly k s) (d : Document) : Orderly k ((keep d).outcome s).2 := by
  rw [outcome_keep]
  exact (h.withDocument d).save

/-! ## Writes -/

theorem save_result (h : Orderly k s) : (Shelf.save.outcome s).1 = .ok () := by
  change Storage.passOver (s.storage.set s.ledger.dataKey _).1 = _
  rw [h.dataKey]
  exact h.textual.passOver_set k _

theorem keep_result (h : Orderly k s) (d : Document) :
    ((Shelf.keep d).outcome s).1 = .ok () := by
  rw [outcome_keep]
  exact (h.withDocument d).save_result

/-- An act that writes a document and goes on. -/
theorem outcome_keep_bind {α : Type} (h : Orderly k s) (d : Document)
    (f : Unit → Act Shelf α) : (Shelf.keep d >>= f).outcome s =
      (f ()).outcome ((Shelf.keep d).outcome s).2 := by
  have hok := h.keep_result d
  rw [Act.outcome_bind]
  cases hk : (Shelf.keep d).outcome s with
  | mk r t =>
    rw [hk] at hok
    obtain rfl : r = .ok () := hok
    rfl

/-- A write is remembered as successful only if it was. -/
theorem set_of_persisted (h : Orderly k s)
    (hp : (Shelf.save.outcome s).2.ledger.persisted = true) :
    (s.storage.set (.str k) (.str s.ledger.document.toJson.write)).1 = .ok () := by
  change persistedAfter _ (s.storage.set s.ledger.dataKey _).1 = true at hp
  rw [h.dataKey] at hp
  rcases h.textual.set_result k s.ledger.document.toJson.write with hr | ⟨f, hr⟩
  · exact hr
  · rw [hr] at hp
    cases hp

theorem storage_save (h : Orderly k s) : (Shelf.save.outcome s).2.storage =
    (s.storage.set (.str k) (.str s.ledger.document.toJson.write)).2 := by
  rw [← h.dataKey]
  rfl

/-! ## Challenges and streaks -/

theorem outcome_replaceChallenges (h : Orderly k s) (challenges : List Challenge) :
    (replaceChallenges challenges).outcome s =
      (.ok (), ((Shelf.keep { s.ledger.document with challenges := challenges }).outcome s).2.emit
        { kind := .challengesRefreshed }) := by
  unfold replaceChallenges
  rw [Act.outcome_bind, Act.outcome_get]
  dsimp only
  rw [h.outcome_keep_bind, Act.outcome_modify]

/-- Any text can be read as an old streak. -/
theorem oldStreak_str (t : String) : ∃ n, oldStreak (.str t) = .ok n := by
  rw [oldStreak, Json.toInt]
  cases hr : Number.readInt t with
  | ok n => exact ⟨n.toNat, rfl⟩
  | error e =>
    obtain rfl := Number.readInt_error hr
    exact ⟨0, rfl⟩

/-- What is found of an old streak is nothing or what some text is read as. -/
theorem oldStreak?_result (h : Orderly k s) (hl : s.ledger.streakKey = .str l) :
    s.oldStreak? = .ok none ∨ ∃ t n, oldStreak (.str t) = .ok n ∧ s.oldStreak? = .ok (some n) := by
  unfold oldStreak?
  rw [hl]
  rcases s.storage.get_str l with hr | ⟨f, hr⟩
  · rw [hr]
    cases hv : s.storage.peek (.str l) with
    | none => exact .inl rfl
    | some v =>
      obtain ⟨t, rfl⟩ := h.textual.peek hv
      obtain ⟨n, hn⟩ := oldStreak_str t
      exact .inr ⟨t, n, hn, congrArg (Except.map some) hn⟩
  · rw [hr]
    exact .inl rfl

/-! ## Loading -/

theorem prepared (h : Orderly k s) (d : Document) (n? : Option Nat) (now : Instant) :
    Orderly k (s.prepared d n? now) := by
  have hkeys := ((h.lookedUp s.ledger.dataKey).withDocument d).lookedUp s.ledger.streakKey
  apply Orderly.opened
  cases n? with
  | none => exact hkeys
  | some n => exact hkeys.folded n

/-- Loading goes on whether or not the write succeeds. -/
theorem outcome_load (h : Orderly k s) {n? : Option Nat}
    (hold : (s.lookedUp s.ledger.dataKey).oldStreak? = .ok n?) (now : Instant) :
    (Shelf.load now).outcome s =
      match s.taken now with
      | .error e => (.error e, s.lookedUp s.ledger.dataKey)
      | .ok d => (.ok ((d.withOldStreak n?).withDay now),
          (Shelf.save.outcome (s.prepared d n? now)).2) := by
  rw [outcome_load_of_oldStreak? hold]
  cases s.taken now with
  | error e => rfl
  | ok d =>
    dsimp only
    rw [(h.prepared d n? now).save_result]
    rfl

/-- Loading fails only if no document is found to start from. -/
theorem exists_load_iff (h : Orderly k s) (hl : s.ledger.streakKey = .str l) (now : Instant) :
    (∃ d, ((load now).outcome s).1 = .ok d) ↔ ∃ d, s.taken now = .ok d := by
  have hfound : ∃ n?, (s.lookedUp s.ledger.dataKey).oldStreak? = .ok n? := by
    rcases (h.lookedUp s.ledger.dataKey).oldStreak?_result hl with hold | ⟨t, n, -, hold⟩
    · exact ⟨none, hold⟩
    · exact ⟨some n, hold⟩
  obtain ⟨n?, hold⟩ := hfound
  rw [h.outcome_load hold]
  cases s.taken now <;> simp

/-! ## Operations -/

theorem load (h : Orderly k s) (now : Instant) : Orderly k ((Shelf.load now).outcome s).2 :=
  load_preserve (P := Orderly k) (fun _ key ht => ht.lookedUp key)
    (fun _ d ht => ht.withDocument d) (fun _ n ht => ht.folded n) (fun _ now ht => ht.opened now)
    (fun _ ht => ht.save) h now

theorem act (h : Orderly k s) (o : Operation) (now : Instant) :
    Orderly k ((o.act now).outcome s).2 := by
  by_cases ho : o = .load
  · subst ho
    rw [Operation.act, Act.outcome_discard]
    exact h.load now
  · exact Moves.preserve (fun _ d ht _ => ht.keep d) (fun _ e ht => ht.emit e)
      (o.steady_act ho now s) h

theorem run (h : Orderly k s) (steps : List (Operation × Instant)) : Orderly k (s.run steps) :=
  run_preserve (P := Orderly k) (fun _ o now ht => ht.act o now) h steps

end Orderly

end Arcade.Shelf
