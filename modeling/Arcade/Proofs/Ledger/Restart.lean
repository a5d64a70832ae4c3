import Arcade.Proofs.Challenge.Generations
import Arcade.Proofs.Json.Plain
import Arcade.Proofs.Ledger.Loading
import Arcade.Proofs.Ledger.NewPlayers
import Arcade.Proofs.Ledger.Operation
import Arcade.Proofs.Ledger.Orderly
import Arcade.Proofs.Ledger.Upkeep
import Arcade.Proofs.Storage.Texts

/-!
# Restarting

A ledger that was loaded keeps the storage in step with its document: as long as the last write
succeeded, the stored text is the text of the document, and no old streak is left to fold in. A new
ledger on that storage therefore starts with the document as it was left, brought up to the instant
at which it starts, and loading once more changes nothing.

This needs two different keys. With one key for both, the document itself is taken for an old
streak.
-/

namespace Arcade

theorem Json.toList_write_obj (k : String) (x : Json) (members : List (String × Json)) :
    ∃ cs, (Json.obj ((k, x) :: members)).write.toList = '\x7b' :: cs :=
  ⟨_, toList_write 0 (.obj ((k, x) :: members))⟩

theorem Json.write_ne_empty (v : Json) : v.write ≠ "" := by
  intro h
  obtain ⟨c, cs, hc, -⟩ := spread_head lineGaps 0 v
  rw [← toList_write, h] at hc
  cases hc

theorem Operation.Change.sound {now : Instant} {o : Operation} {d d' : Document}
    (h : o.Change now d d') (hd : d.Sound) : d'.Sound := by
  cases o with
  | importText text =>
    obtain ⟨e, f, he, hf, rfl⟩ := h
    exact (Document.sound_broughtUp he hf).withDay now
  | _ => exact Document.Change.sound h hd

namespace Shelf

/-! ## Ledgers on willing storages -/

/-- A ledger with texts for keys on a storage of texts that refuses nothing. -/
structure Ordinary (k l : String) (s : Shelf) : Prop extends Orderly k s where
  streakKey : s.ledger.streakKey = .str l
  willing : s.storage.Willing

variable {k l : String} {s : Shelf} {now : Instant}

theorem Ordinary.withDocument (h : Ordinary k l s) (d : Document) :
    Ordinary k l (s.withDocument d) :=
  ⟨h.toOrderly.withDocument d, h.streakKey, h.willing⟩

theorem Ordinary.lookedUp (h : Ordinary k l s) (key : Json) : Ordinary k l (s.lookedUp key) :=
  ⟨h.toOrderly.lookedUp key, h.streakKey, h.willing.get key⟩

theorem Ordinary.opened (h : Ordinary k l s) (now : Instant) : Ordinary k l (s.opened now) :=
  ⟨h.toOrderly.opened now, h.streakKey, h.willing⟩

theorem Ordinary.folded (h : Ordinary k l s) (n : Nat) : Ordinary k l (s.folded n) :=
  ⟨h.toOrderly.folded n, h.streakKey, h.willing.remove _⟩

theorem Ordinary.emit (h : Ordinary k l s) (e : Event) : Ordinary k l (s.emit e) := by
  refine ⟨h.toOrderly.emit e, ?_, ?_⟩ <;> rw [emit_eq]
  · exact h.streakKey
  · exact h.willing

theorem Ordinary.save (h : Ordinary k l s) : Ordinary k l (save.outcome s).2 :=
  ⟨h.toOrderly.save, h.streakKey, h.willing.set _ _⟩

/-! ## Storages in step with the document -/

/-- The document is sound, what was written last is its text, and there is no old streak. -/
structure InStep (k l : String) (s : Shelf) : Prop extends Ordinary k l s where
  sound : s.ledger.document.Sound
  written : s.ledger.persisted = true →
    s.storage.peek (.str k) = some (.str s.ledger.document.toJson.write)
  noStreak : s.storage.peek (.str l) = none

/-- Writing a sound document brings the storage in step with it. -/
theorem Ordinary.inStep_save (h : Ordinary k l s) (hkl : l ≠ k) (hd : s.ledger.document.Sound)
    (hl : s.storage.peek (.str l) = none) : InStep k l (Shelf.save.outcome s).2 where
  toOrdinary := h.save
  sound := hd
  written hp := by
    rw [h.storage_save, Storage.peek_set_of_ok (h.set_of_persisted hp), if_pos rfl]
    rfl
  noStreak := by rw [h.storage_save, Storage.peek_set_of_ne hkl, hl]

theorem InStep.keep (h : InStep k l s) (hkl : l ≠ k) {d : Document} (hd : d.Sound) :
    InStep k l ((keep d).outcome s).2 := by
  rw [outcome_keep]
  exact (h.toOrdinary.withDocument d).inStep_save hkl hd h.noStreak

theorem InStep.emit (h : InStep k l s) (e : Event) : InStep k l (s.emit e) := by
  refine ⟨h.toOrdinary.emit e, ?_, ?_, ?_⟩ <;> rw [emit_eq]
  · exact h.sound
  · exact h.written
  · exact h.noStreak

theorem InStep.lookedUp (h : InStep k l s) (key : Json) : InStep k l (s.lookedUp key) where
  toOrdinary := h.toOrdinary.lookedUp key
  sound := h.sound
  written hp := (Storage.peek_get s.storage key k).trans (h.written hp)
  noStreak := (Storage.peek_get s.storage key l).trans h.noStreak

/-! ## Loading -/

theorem exists_read_of_stored? {d : Document} (h : s.stored? = .ok (some d)) :
    ∃ v, Document.read v = .ok d := by
  unfold stored? at h
  split at h
  · rename_i v hv
    split at h
    · split at h
      · rename_i e he
        cases h
        exact ⟨v, he⟩
      · split at h <;> cases h
    · cases h
  · cases h

/-- Loading starts from a sound document. -/
theorem sound_taken {d : Document} (h : s.taken now = .ok d) : d.Sound := by
  obtain ⟨found, hf, h⟩ := bind_eq_ok.1 h
  cases found with
  | none => exact Document.sound_freshOn h
  | some e =>
    obtain ⟨v, hv⟩ := exists_read_of_stored? hf
    exact Document.sound_broughtUp hv h

theorem Ordinary.oldStreak?_eq (h : Ordinary k l s) : s.oldStreak? =
    match s.storage.peek (.str l) with
    | none => .ok none
    | some v => (oldStreak v).map some := by
  unfold oldStreak?
  rw [h.streakKey, h.willing.get_str]
  cases hv : s.storage.peek (.str l) with
  | none => rfl
  | some v =>
    obtain ⟨t, rfl⟩ := h.textual.peek hv
    rfl

/-- Whatever streak is folded in, it is gone from the storage afterwards. -/
theorem Ordinary.foldStreak (h : Ordinary k l s) (hd : s.ledger.document.Sound)
    (ho : (foldStreak.outcome s).1 = .ok ()) :
    Ordinary k l (Shelf.foldStreak.outcome s).2 ∧
      (Shelf.foldStreak.outcome s).2.ledger.document.Sound ∧
      (Shelf.foldStreak.outcome s).2.storage.peek (.str l) = none := by
  have hlooked := h.lookedUp s.ledger.streakKey
  rw [outcome_foldStreak, h.oldStreak?_eq] at ho ⊢
  cases hv : s.storage.peek (.str l) with
  | none => exact ⟨hlooked, hd, (Storage.peek_get _ _ _).trans hv⟩
  | some v =>
    rw [hv] at ho
    dsimp only at ho ⊢
    cases hn : oldStreak v with
    | error e =>
      rw [hn] at ho
      cases ho
    | ok n =>
      refine ⟨hlooked.folded n, hd.withStreak n, ?_⟩
      have hkey : ((s.lookedUp s.ledger.streakKey).folded n).storage =
          ((s.lookedUp s.ledger.streakKey).storage.remove (.str l)).2 := by
        rw [← h.streakKey]
        rfl
      exact hkey ▸ hlooked.willing.peek_remove_self l

theorem Ordinary.take (h : Ordinary k l s) (hkl : l ≠ k) {d e : Document} (hd : d.Sound)
    (ho : ((take d now).outcome s).1 = .ok e) : InStep k l ((Shelf.take d now).outcome s).2 := by
  have hfold := (h.withDocument d).foldStreak hd
  rw [outcome_take] at ho ⊢
  cases hf : Shelf.foldStreak.outcome (s.withDocument d) with
  | mk r t =>
    rw [hf] at ho hfold
    cases r with
    | error e => cases ho
    | ok x =>
      obtain ⟨ht, hsound, hl⟩ := hfold rfl
      exact (ht.opened now).inStep_save hkl (hsound.withDay now) hl

/-- Loading brings the storage in step with the document. -/
theorem Ordinary.load (h : Ordinary k l s) (hkl : l ≠ k) {d : Document}
    (ho : ((load now).outcome s).1 = .ok d) : InStep k l ((Shelf.load now).outcome s).2 := by
  rw [outcome_load] at ho ⊢
  cases ht : s.taken now with
  | error e =>
    rw [ht] at ho
    cases ho
  | ok d' =>
    rw [ht] at ho
    exact (h.lookedUp _).take hkl (sound_taken ht) ho

/-- The shelf after a ledger started with a document and found no old streak. -/
def started (s : Shelf) (d : Document) (now : Instant) : Shelf :=
  ((((s.lookedUp s.ledger.dataKey).withDocument d).lookedUp s.ledger.streakKey).opened now)

theorem started_document (s : Shelf) (d : Document) (now : Instant) :
    (s.started d now).ledger.document = d.withDay now := rfl

theorem Ordinary.started (h : Ordinary k l s) (d : Document) (now : Instant) :
    Ordinary k l (s.started d now) :=
  (((h.lookedUp _).withDocument d).lookedUp _).opened now

/-- Without an old streak only the log of the day is added to what loading starts from. -/
theorem Ordinary.outcome_take (h : Ordinary k l s) (hl : s.storage.peek (.str l) = none)
    (d : Document) (now : Instant) : (Shelf.take d now).outcome s =
      (.ok (d.withDay now),
        (Shelf.save.outcome (((s.withDocument d).lookedUp (.str l)).opened now)).2) := by
  have hd := h.withDocument d
  have hfold : Shelf.foldStreak.outcome (s.withDocument d) =
      (.ok (), (s.withDocument d).lookedUp (.str l)) := by
    rw [outcome_foldStreak, hd.oldStreak?_eq]
    have hl' : (s.withDocument d).storage.peek (.str l) = none := hl
    rw [hl', ← h.streakKey]
    rfl
  rw [Shelf.outcome_take, hfold]
  dsimp only
  rw [((hd.lookedUp (.str l)).opened now).save_result]
  rfl

/-- Loading from an empty storage takes the document of a new player. -/
theorem Ordinary.outcome_load_fresh (h : Ordinary k l s) (he : s.storage.entries = Dict.empty)
    {d : Document} (hd : Document.freshOn now = .ok d) : (Shelf.load now).outcome s =
      (.ok (d.withDay now), (Shelf.save.outcome (s.started d now)).2) := by
  have hpeek : ∀ x, s.storage.peek (.str x) = none := by
    intro x
    rw [Storage.peek_str, he]
    rfl
  have htaken : s.taken now = .ok d := by
    unfold taken stored?
    rw [h.dataKey, h.willing.get_str, hpeek]
    exact hd
  rw [Shelf.outcome_load, htaken]
  unfold Shelf.started
  rw [h.streakKey]
  exact (h.lookedUp _).outcome_take ((Storage.peek_get _ _ _).trans (hpeek l)) d now

/-- Loading a storage in step either changes nothing but the number of calls, or leaves the storage
in step. -/
theorem InStep.load (h : InStep k l s) (hkl : l ≠ k) (now : Instant) :
    InStep k l ((Shelf.load now).outcome s).2 := by
  have hlooked := h.lookedUp s.ledger.dataKey
  rw [outcome_load]
  cases ht : s.taken now with
  | error e => exact hlooked
  | ok d =>
    refine hlooked.toOrdinary.take hkl (e := d.withDay now) (sound_taken ht) ?_
    rw [hlooked.toOrdinary.outcome_take hlooked.noStreak]

/-! ## Runs -/

theorem InStep.act (h : InStep k l s) (hkl : l ≠ k) (o : Operation) (now : Instant) :
    InStep k l ((o.act now).outcome s).2 := by
  by_cases ho : o = .load
  · subst ho
    rw [Operation.act, Act.outcome_discard]
    exact h.load hkl now
  · refine Moves.preserve ?_ ?_ (o.steady_act ho now s) h
    · exact fun t d ht hd => ht.keep hkl (Operation.Change.sound hd ht.sound)
    · exact fun t e ht => ht.emit e

/-- The storage stays in step over any run. -/
theorem InStep.run (h : InStep k l s) (hkl : l ≠ k) (steps : List (Operation × Instant)) :
    InStep k l (s.run steps) :=
  run_preserve (P := InStep k l) (fun _ o now ht => ht.act hkl o now) h steps

/-! ## Starting again -/

/-- What a ledger finds that can look up the text of a document. -/
theorem stored?_of_permits (hk : s.ledger.dataKey = .str k)
    (hget : s.storage.permits 0 .get = true) {d e : Document}
    (hp : s.storage.peek (.str k) = some (.str d.toJson.write))
    (hread : Document.read (.str d.toJson.write) = .ok e) : s.stored? = .ok (some e) := by
  have htext : (Json.str d.toJson.write).truthy = true :=
    decide_eq_true (Json.write_ne_empty d.toJson)
  unfold stored?
  rw [hk, Storage.get_str_of_permits hget, hp]
  dsimp only
  rw [htext, hread]
  rfl

/-- What a ledger finds whose storage has the text of a document. -/
theorem Ordinary.stored?_eq (h : Ordinary k l s) {d : Document}
    (hp : s.storage.peek (.str k) = some (.str d.toJson.write)) (hd : d.Sound)
    (hw : d.WholeStats) (hr : d.Readable) : s.stored? = .ok (some d) :=
  stored?_of_permits h.dataKey (h.willing.permits 0 .get) hp (Document.read_of_readable hd hw hr)

/-- Bringing a sound document up to date is to make sure that its challenges are fresh. -/
theorem Ordinary.broughtUp_eq (h : Ordinary k l s) (hd : s.ledger.document.Sound)
    (now : Instant) : s.ledger.document.broughtUp now =
      ((ensureFresh now).outcome s).1.map
        fun _ => ((ensureFresh now).outcome s).2.ledger.document := by
  unfold Document.broughtUp ensureFresh Challenge.refreshed
  rw [hd.withCatalog_eq, Act.outcome_bind, Act.outcome_get]
  dsimp only
  rw [Act.outcome_bind, Act.outcome_lift]
  cases Challenge.replacement? s.ledger.document.challenges now with
  | error e => rfl
  | ok replaced =>
    cases replaced with
    | none => rfl
    | some challenges =>
      dsimp only
      rw [Act.outcome_bind, h.outcome_replaceChallenges]
      dsimp only
      rw [Act.outcome_pure, emit_eq]
      exact congrArg Except.ok (keep_document _ s).symm

/-- Loading on the entries of a storage in step ends with the document as it was left, brought up
to date. -/
theorem InStep.outcome_load (h : InStep k l s) (hp : s.ledger.persisted = true)
    (hw : s.ledger.document.WholeStats) (hr : s.ledger.document.Readable) {new : Shelf}
    (hn : Ordinary k l new) (hs : new.storage.entries = s.storage.entries) (now : Instant) :
    (Shelf.load now).outcome new =
      match s.ledger.document.broughtUp now with
      | .error e => (.error e, new.lookedUp new.ledger.dataKey)
      | .ok d => (.ok (d.withDay now), (Shelf.save.outcome (new.started d now)).2) := by
  have hpeek : new.storage.peek (.str k) = some (.str s.ledger.document.toJson.write) := by
    rw [← h.written hp, Storage.peek_str, Storage.peek_str, hs]
  have htaken : new.taken now = s.ledger.document.broughtUp now := by
    unfold taken
    rw [hn.stored?_eq hpeek h.sound hw hr]
    rfl
  have hl : (new.lookedUp new.ledger.dataKey).storage.peek (.str l) = none := by
    rw [← h.noStreak, Storage.peek_str, Storage.peek_str, ← hs]
    exact congrArg (Dict.get? · _) (Storage.get_entries _ _)
  rw [Shelf.outcome_load, htaken]
  cases s.ledger.document.broughtUp now with
  | error e => rfl
  | ok d =>
    unfold Shelf.started
    rw [hn.streakKey]
    exact (hn.lookedUp _).outcome_take hl d now

end Shelf

/-! ## Loading twice -/

namespace Document

variable {d e : Document} {now : Instant}

theorem exists_refreshed_of_broughtUp (hd : d.Sound) (h : d.broughtUp now = .ok e) :
    ∃ challenges, Challenge.refreshed d.challenges now = .ok challenges ∧
      e = { d with challenges := challenges } := by
  unfold broughtUp at h
  rw [hd.withCatalog_eq] at h
  obtain ⟨challenges, hc, h⟩ := bind_eq_ok.1 h
  exact ⟨challenges, hc, (Except.ok.inj h).symm⟩

theorem withDay_withDay (d : Document) (now : Instant) :
    (d.withDay now).withDay now = d.withDay now := by
  have hday : now.dayKey ∈ (d.tally.days.insertNew now.dayKey {}).names :=
    Dict.names_insertNew.2 (.inl rfl)
  unfold withDay
  dsimp only
  rw [Dict.insertNew_of_mem hday]

/-- There is nothing to bring up in a document that was brought up at the same instant. -/
theorem broughtUp_withDay (hd : d.Sound) (h : d.broughtUp now = .ok e) :
    (e.withDay now).Sound ∧ (e.withDay now).broughtUp now = .ok (e.withDay now) := by
  obtain ⟨challenges, hc, rfl⟩ := exists_refreshed_of_broughtUp hd h
  have hsound := (hd.withChallenges challenges).withDay now
  refine ⟨hsound, ?_⟩
  unfold broughtUp
  rw [hsound.withCatalog_eq]
  exact bind_eq_ok.2 ⟨challenges, Challenge.refreshed_refreshed hc, rfl⟩

/-- There is nothing to bring up in the document of a new player either. -/
theorem broughtUp_freshOn (h : freshOn now = .ok d) :
    (d.withDay now).broughtUp now = .ok (d.withDay now) := by
  have hsound := (sound_freshOn h).withDay now
  obtain ⟨challenges, hc, h⟩ := bind_eq_ok.1 h
  obtain rfl := Except.ok.inj h
  unfold broughtUp
  rw [hsound.withCatalog_eq]
  exact bind_eq_ok.2 ⟨challenges,
    Challenge.refreshed_eq_ok.2 (.inl ⟨Challenge.needsRefresh_generation hc, rfl⟩), rfl⟩

theorem wholeStats_withDay (hd : d.Sound) (hw : d.WholeStats) (h : d.broughtUp now = .ok e) :
    (e.withDay now).WholeStats := by
  obtain ⟨challenges, -, rfl⟩ := exists_refreshed_of_broughtUp hd h
  exact hw

end Document

namespace Shelf

variable {k l : String} {s : Shelf} {now : Instant}

/-- Writing the same document once more changes nothing. -/
theorem Ordinary.save_again {t : Shelf} (hs : Ordinary k l s) (ht : Ordinary k l t)
    (hp : (Shelf.save.outcome s).2.ledger.persisted = true)
    (hledger : t.ledger = (Shelf.save.outcome s).2.ledger)
    (hlimit : t.storage.limit = s.storage.limit)
    (hentries : t.storage.entries = (Shelf.save.outcome s).2.storage.entries) :
    (Shelf.save.outcome t).2.ledger = t.ledger ∧
      (Shelf.save.outcome t).2.storage.entries = t.storage.entries := by
  have hdocument : t.ledger.document = s.ledger.document := by
    rw [hledger]
    rfl
  have hpersisted : t.ledger.persisted = true := by rw [hledger, hp]
  rw [hs.storage_save] at hentries
  obtain ⟨hok, hsame⟩ := hs.willing.set_again ht.willing (hs.set_of_persisted hp) hlimit hentries
  have hafter : persistedAfter t.ledger.persisted
      (t.storage.set t.ledger.dataKey (.str t.ledger.document.toJson.write)).1 =
        t.ledger.persisted := by
    rw [ht.dataKey, hdocument, hok, hpersisted]
    rfl
  refine ⟨?_, ?_⟩
  · exact congrArg (fun p => ({ t.ledger with persisted := p } : Ledger)) hafter
  · rw [ht.storage_save, hdocument, hsame]

/-- Loading again at the same instant gives the same document and changes no entry. -/
theorem Ordinary.outcome_load_again (hs : Ordinary k l s) {d : Document} {t : Shelf}
    (ht : t = (Shelf.save.outcome (s.started d now)).2) (hstep : InStep k l t)
    (hp : t.ledger.persisted = true) (hw : t.ledger.document.WholeStats)
    (hr : t.ledger.document.Readable)
    (hfresh : t.ledger.document.broughtUp now = .ok t.ledger.document) :
    ((Shelf.load now).outcome t).1 = .ok t.ledger.document ∧
      ((Shelf.load now).outcome t).2.ledger = t.ledger ∧
      ((Shelf.load now).outcome t).2.storage.entries = t.storage.entries := by
  have hday : t.ledger.document.withDay now = t.ledger.document := by
    rw [ht]
    exact Document.withDay_withDay d now
  have hledger : (t.started t.ledger.document now).ledger = t.ledger := by
    change { t.ledger with document := t.ledger.document.withDay now, loaded := true } = t.ledger
    rw [hday, ht]
    rfl
  have hentries : (t.started t.ledger.document now).storage.entries = t.storage.entries := by
    change ((t.storage.get _).2.get _).2.entries = _
    rw [Storage.get_entries, Storage.get_entries]
  have hlimit : (t.started t.ledger.document now).storage.limit =
      (s.started d now).storage.limit := by
    change ((t.storage.get _).2.get _).2.limit = _
    rw [Storage.get_limit, Storage.get_limit, ht]
    exact Storage.set_limit _ _ _
  have hagain := (hs.started d now).save_again (hstep.started t.ledger.document now) (ht ▸ hp)
    (hledger.trans (congrArg Shelf.ledger ht)) hlimit
    (hentries.trans (congrArg (fun u : Shelf => u.storage.entries) ht))
  rw [hstep.outcome_load hp hw hr hstep.toOrdinary rfl, hfresh]
  dsimp only
  rw [hagain.1, hagain.2, hday]
  exact ⟨rfl, hledger, hentries⟩

/-- Let a ledger with two different texts for keys be loaded and driven by any operations, on a
storage that refuses nothing and of which the last write succeeded, and let the counters of its
document be integers. Then the stored text stands for the document. Whoever loads these entries at
an instant gets the document after the challenges were made fresh and the log of the day was made,
or the fault for which they cannot be made fresh, and loading again at that instant changes
nothing. The text of each document is taken to be read back as what was written. -/
theorem restart {s₀ : Shelf} (hs : Ordinary k l s₀) (hkl : l ≠ k) {start : Instant}
    {d₀ : Document} (hload : ((load start).outcome s₀).1 = .ok d₀)
    (steps : List (Operation × Instant)) {s : Shelf}
    (hrun : s = ((load start).outcome s₀).2.run steps) (hp : s.ledger.persisted = true)
    (hw : s.ledger.document.WholeStats) (hr : s.ledger.document.Readable) :
    (∃ text, s.storage.peek (.str k) = some (.str text) ∧
      Document.read (.str text) = .ok s.ledger.document) ∧
    ∀ (now : Instant) (new : Shelf), Ordinary k l new →
      new.storage.entries = s.storage.entries →
      ((load now).outcome new).1 = (((ensureFresh now).outcome s).1.map fun _ =>
        ((ensureFresh now).outcome s).2.ledger.document.withDay now) ∧
      ∀ d t, (load now).outcome new = (.ok d, t) →
        t.ledger.document = d ∧
        (t.ledger.persisted = true → d.Readable →
          ((load now).outcome t).1 = .ok d ∧ ((load now).outcome t).2.ledger = t.ledger ∧
          ((load now).outcome t).2.storage.entries = t.storage.entries) := by
  have h : InStep k l s := hrun ▸ (hs.load hkl hload).run hkl steps
  refine ⟨⟨_, h.written hp, Document.read_of_readable h.sound hw hr⟩, fun now new hn he => ?_⟩
  have hout := h.outcome_load hp hw hr hn he now
  have hfresh := h.toOrdinary.broughtUp_eq h.sound now
  refine ⟨?_, fun d t hdt => ?_⟩
  · rw [hout, hfresh]
    cases ((ensureFresh now).outcome s).1 <;> rfl
  · have hstep : InStep k l t := by
      have hl := hn.load hkl (congrArg Prod.fst hdt)
      rwa [hdt] at hl
    rw [hout] at hdt
    cases hb : s.ledger.document.broughtUp now with
    | error e =>
      rw [hb] at hdt
      cases hdt
    | ok e =>
      rw [hb] at hdt
      obtain ⟨hd, ht⟩ := Prod.mk.inj hdt
      have hdocument : t.ledger.document = d := by
        rw [← ht, ← Except.ok.inj hd]
        rfl
      refine ⟨hdocument, fun htp htr => ?_⟩
      have hsound := Document.broughtUp_withDay h.sound hb
      have hwhole := Document.wholeStats_withDay h.sound hw hb
      rw [Except.ok.inj hd, ← hdocument] at hsound hwhole
      rw [← hdocument] at htr ⊢
      exact hn.outcome_load_again ht.symm hstep htp hwhole htr hsound.2

/-- A ledger that was not loaded yet, on an empty storage. -/
def blank (k l : String) : Shelf where
  ledger := {
    dataKey := .str k
    streakKey := .str l
    document := Document.fresh []
  }
  storage := {}

theorem ordinary_blank (k l : String) : Ordinary k l (blank k l) :=
  ⟨⟨rfl, nofun⟩, rfl, ⟨rfl, fun _ _ => rfl⟩⟩

/-- Noon of a day. -/
def noon : Instant :=
  ⟨⟨2026, 10, 18, by decide⟩, { TimeOfDay.midnight with hour := ⟨12, by decide⟩ }⟩

/-- The document of a player who starts at noon. -/
def newcomer : Document :=
  Document.fresh (Challenge.catalog.map (Challenge.ofDesign · "2026-10-19T00:00:00"))

theorem freshOn_noon : Document.freshOn noon = .ok newcomer := by
  have hm : noon.nextMidnight = .ok ⟨⟨2026, 10, 19, by decide⟩, TimeOfDay.midnight⟩ := rfl
  have ht : Instant.timestamp ⟨⟨2026, 10, 19, by decide⟩, TimeOfDay.midnight⟩ =
      "2026-10-19T00:00:00" := by decide
  unfold Document.freshOn newcomer
  rw [Challenge.generation_eq_ok.2 ⟨_, hm, rfl⟩, ht]
  rfl

theorem outcome_load_blank (k l : String) : (load noon).outcome (blank k l) =
    (.ok (newcomer.withDay noon), (save.outcome ((blank k l).started newcomer noon)).2) :=
  (ordinary_blank k l).outcome_load_fresh rfl freshOn_noon

theorem legible_newcomer : Json.Legible 4 (newcomer.withDay noon).toJson :=
  show Json.Legible 4 ((newcomer.withOldStreak none).withDay noon).toJson from
    Document.legible_newPlayer freshOn_noon nofun

theorem readable_firstPlay :
    ((newcomer.withDay noon).countPlay "rock-paper-scissors" noon).Readable := by
  let d := (newcomer.withDay noon).countPlay "rock-paper-scissors" noon
  have hrecords : ∀ e ∈ d.progress.entries,
      Text.isPlain e.1 = true ∧ Json.isPlain 2 e.2.toJson = true := by decide
  have htally : Json.isPlain 3 d.tally.toJson = true := by decide
  have hlegible : Json.Legible 4 d.toJson := by
    apply Document.legible_of_parts
    · exact fun e he => ⟨Text.rejoined_of_isPlain (hrecords e he).1,
        Json.legible_of_isPlain _ _ (hrecords e he).2⟩
    · exact fun b hb => (Document.legible_freshBadge hb).mono (by decide)
    · intro c hc
      obtain ⟨design, hdesign, rfl⟩ := List.mem_map.1 hc
      exact (Document.legible_ofDesign hdesign (Text.rejoined_of_isPlain (by decide))).mono
        (by decide)
    · exact Json.legible_of_isPlain _ _ htally
  exact Json.read_write_of_legible (hlegible.mono (by decide))

theorem restart_after_first_play :
    ∃ text, (((load noon).outcome (blank "gameverse-data" "rps-streak")).2.run
        [(.countPlay "rock-paper-scissors", noon)]).storage.peek (.str "gameverse-data") =
      some (.str text) ∧
    Document.read (.str text) =
      .ok ((newcomer.withDay noon).countPlay "rock-paper-scissors" noon) := by
  have hdocument : (((load noon).outcome (blank "gameverse-data" "rps-streak")).2.run
      [(.countPlay "rock-paper-scissors", noon)]).ledger.document =
        (newcomer.withDay noon).countPlay "rock-paper-scissors" noon := by
    rw [run, List.foldl_cons, List.foldl_nil, countPlay_document, outcome_load_blank,
      save_document, started_document]
  obtain ⟨text, hpeek, hread⟩ := (restart (ordinary_blank "gameverse-data" "rps-streak") (by decide)
    (congrArg Prod.fst (outcome_load_blank _ _)) [(.countPlay "rock-paper-scissors", noon)] rfl
    (by decide) (by decide) (hdocument ▸ readable_firstPlay)).1
  exact ⟨text, hpeek, hread.trans (congrArg Except.ok hdocument)⟩

/-! ## One key for both -/

/-- The text of a document is no integer, so that it is read as a streak of zero. -/
theorem oldStreak_write (d : Document) : oldStreak (.str d.toJson.write) = .ok 0 := by
  obtain ⟨cs, hcs⟩ : ∃ cs, d.toJson.write.toList = '\x7b' :: cs := by
    unfold Document.toJson
    exact Json.toList_write_obj _ _ _
  rw [oldStreak, Json.toInt, Number.readInt_of_brace hcs]

/-- With one key for both, loading takes the stored document for an old streak of zero. -/
theorem Ordinary.outcome_load_one_key (h : Ordinary k k s) {d e : Document}
    (hp : s.storage.peek (.str k) = some (.str d.toJson.write)) (hd : d.Sound)
    (hw : d.WholeStats) (hr : d.Readable) (hb : d.broughtUp now = .ok e) :
    ((Shelf.load now).outcome s).2.ledger.document = (e.withStreak 0).withDay now := by
  have htaken : s.taken now = .ok e := by
    unfold taken
    rw [h.stored?_eq hp hd hw hr]
    exact hb
  have hfold : Shelf.foldStreak.outcome ((s.lookedUp s.ledger.dataKey).withDocument e) =
      (.ok (), (((s.lookedUp s.ledger.dataKey).withDocument e).lookedUp (.str k)).folded 0) := by
    have hpeek : ((s.lookedUp s.ledger.dataKey).withDocument e).storage.peek (.str k) =
        some (.str d.toJson.write) := (Storage.peek_get _ _ _).trans hp
    rw [outcome_foldStreak, ((h.lookedUp _).withDocument e).oldStreak?_eq, hpeek]
    dsimp only
    rw [oldStreak_write, ← h.streakKey]
    rfl
  rw [Shelf.outcome_load, htaken]
  dsimp only
  rw [Shelf.outcome_take, hfold]
  rfl

/-- With one key for both, loading a second time changes the document of a new player. -/
theorem load_again_of_one_key :
    ∃ d s, (load noon).outcome (blank "gameverse-data" "gameverse-data") = (.ok d, s) ∧
      s.ledger.persisted = true ∧ d.WholeStats ∧ d.Readable ∧
      ((load noon).outcome s).2.ledger.document ≠ d := by
  have hload := outcome_load_blank "gameverse-data" "gameverse-data"
  have hstarted := (ordinary_blank "gameverse-data" "gameverse-data").started newcomer noon
  have hsaved := hstarted.save
  have hpersisted : (save.outcome ((blank "gameverse-data" "gameverse-data").started newcomer
    noon)).2.ledger.persisted = true := rfl
  have hpeek := Storage.peek_set_of_ok (l := "gameverse-data") (hstarted.set_of_persisted hpersisted)
  rw [← hstarted.storage_save, if_pos rfl, started_document] at hpeek
  have hwhole : (newcomer.withDay noon).WholeStats := by decide
  have hreadable : (newcomer.withDay noon).Readable :=
    Json.read_write_of_legible (legible_newcomer.mono (by decide))
  generalize (save.outcome ((blank "gameverse-data" "gameverse-data").started newcomer noon)).2 = s
    at hload hsaved hpersisted hpeek
  refine ⟨newcomer.withDay noon, s, hload, hpersisted, hwhole, hreadable, ?_⟩
  rw [hsaved.outcome_load_one_key hpeek ((Document.sound_freshOn freshOn_noon).withDay noon)
    hwhole hreadable (Document.broughtUp_freshOn freshOn_noon)]
  intro h
  have hstreak := congrArg (fun d => (d.record Document.streakGame).get? "streak") h
  revert hstreak
  decide

end Shelf

end Arcade
