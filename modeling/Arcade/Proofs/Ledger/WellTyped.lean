import Arcade.Proofs.Ledger.Mutation
import Arcade.Proofs.Ledger.Restart
import Arcade.Proofs.Progress.WellTyped

/-!
# Documents stay well typed

A ledger starts with well-typed stats, and whatever it counts by itself stays well typed. Stats that
are ill typed come from outside only: with new values from a game, with a stored document and with
an imported one. So the documents of a run are all well typed exactly if what the run takes in is.
What holds without that is less: names are known, and no integer and no rate is below zero.
-/

namespace Arcade

open StatRecord

namespace Document

variable {d d' e : Document} {now : Instant}

/-- Whether all stats of a document are well typed. -/
def WellTyped (d : Document) : Prop :=
  ∀ e ∈ d.progress.entries, StatRecord.WellTyped e.2

/-! ## Records of games -/

theorem WellTyped.congr (h : d.WellTyped) (hp : d'.progress = d.progress) : d'.WellTyped := by
  unfold WellTyped
  rw [hp]
  exact h

theorem WellTyped.record (h : d.WellTyped) (game : String) :
    StatRecord.WellTyped (d.record game) := by
  unfold Document.record
  cases hg : d.progress.get? game with
  | none => exact fun e he => nomatch he
  | some r => exact h (game, r) (Dict.mem_entries_of_get? hg)

theorem WellTyped.stat (h : d.WellTyped) (game : String) {field : String}
    (hf : field ∈ StatRecord.fields) : WellTypedStat field (d.stat game field) :=
  StatRecord.WellTyped.stat (h.record game) hf

/-- A record that is put into a well-typed document is all that counts. -/
theorem WellTyped.withRecord_iff (h : d.WellTyped) {game : String} {r : StatRecord} :
    (d.withRecord game r).WellTyped ↔ r.WellTyped := by
  constructor
  · exact fun hall => hall (game, r) (Dict.mem_entries_of_get? (Dict.get?_insert_self _ _ _))
  · intro hr e he
    rcases Dict.mem_entries_insert he with rfl | he
    · exact hr
    · exact h e he

/-! ## Documents from outside -/

theorem wellTyped_freshOn (h : freshOn now = .ok d) : d.WellTyped := by
  obtain ⟨challenges, -, h⟩ := bind_eq_ok.1 h
  obtain rfl := Except.ok.inj h
  intro e he
  obtain ⟨g, hg, rfl⟩ := List.mem_map.1 (Dict.mem_entries_ofList he)
  exact wellTyped_startRecord hg

theorem mem_entries_addGames_of_mem {gs : List Game} {progress : Dict StatRecord}
    {e : String × StatRecord} (h : e ∈ progress.entries) : e ∈ (addGames gs progress).entries := by
  induction gs generalizing progress with
  | nil => exact h
  | cons g rest ih => exact ih (Dict.mem_entries_insertNew_of_mem h _ _)

/-- What is added to bring a document up to date is well typed. -/
theorem wellTyped_broughtUp_iff (h : d.broughtUp now = .ok d') : d'.WellTyped ↔ d.WellTyped := by
  obtain ⟨challenges, -, h⟩ := bind_eq_ok.1 h
  obtain rfl := Except.ok.inj h
  rw [withCatalog_eq]
  constructor
  · exact fun hall e he => hall e (mem_entries_addGames_of_mem he)
  · intro hd e he
    rcases mem_entries_addGames he with he | ⟨g, hg, rfl⟩
    · exact hd e he
    · exact wellTyped_startRecord hg

/-! ## Changes -/

theorem Tending.wellTyped (h : Tending now d d') (hd : d.WellTyped) : d'.WellTyped := by
  cases h with
  | unlock found locked => exact hd.congr rfl
  | complete found isOpen current => exact hd.congr rfl
  | renew h => exact hd.congr rfl
  | reset h => exact (wellTyped_freshOn h).congr rfl

end Document

namespace StatRecord

variable {name other : String} {m n : Number}

theorem WellTypedStat.succ (h : WellTypedStat name n) (hc : name ∉ fractional) :
    WellTypedStat name n.succ := by
  obtain ⟨k, rfl⟩ := h.exists_nat hc
  exact wellTypedStat_int h.1 (k + 1)

theorem WellTypedStat.add (h : WellTypedStat name n) (hc : name ∉ fractional) {seconds : Nat}
    (hm : n.add (.int seconds) = .ok m) : WellTypedStat name m := by
  obtain ⟨k, rfl⟩ := h.exists_nat hc
  obtain rfl := Except.ok.inj hm
  exact wellTypedStat_int h.1 (k + seconds)

theorem WellTypedStat.max (h : WellTypedStat name m) (h' : WellTypedStat name n) :
    WellTypedStat name (m.max n) := by
  unfold Number.max
  split
  · exact h'
  · exact h

/-- A counter that is well typed is so under the name of every other counter. -/
theorem WellTypedStat.rename (h : WellTypedStat name n) (hc : name ∉ fractional)
    (ho : other ∈ fields) : WellTypedStat other n := by
  obtain ⟨k, rfl⟩ := h.exists_nat hc
  exact wellTypedStat_int ho k

end StatRecord

namespace Document

variable {d : Document} {now : Instant}

/-- An alteration leaves a document well typed exactly if the record that it puts, if any, is. -/
theorem WellTyped.alter_iff (h : d.WellTyped) (a : Alteration) :
    (d.alter now a).WellTyped ↔ ∀ game stats gain, a = .record game stats gain →
      stats.WellTyped := by
  cases a with
  | record game stats gain =>
    have halter : (d.alter now (.record game stats gain)).WellTyped ↔
        (d.withRecord game stats).WellTyped := ⟨fun ha => ha.congr rfl, fun ha => ha.congr rfl⟩
    rw [halter, h.withRecord_iff]
    exact ⟨fun hs _ _ _ ha => by cases ha; exact hs, fun hall => hall game stats gain rfl⟩
  | unlock id => exact iff_of_true (h.congr rfl) nofun
  | complete id coins => exact iff_of_true (h.congr rfl) nofun

theorem WellTyped.streakAfter (h : d.WellTyped) (game : String) (won : Option Bool) :
    WellTypedStat "streak" (d.streakAfter game won) := by
  have hstreak : WellTypedStat "streak" (d.stat game "streak") := h.stat game (by decide)
  unfold Document.streakAfter
  rcases won with _ | _ | _
  · exact hstreak
  · exact wellTypedStat_int (by decide) 0
  · exact hstreak.succ (by decide)

/-- The record that a mutation decides on is well typed, unless it has ill-typed values from
outside. -/
theorem WellTyped.decide (h : d.WellTyped) {m : Mutation} {x : Operation.Answer} {game : String}
    {stats : StatRecord} {gain : Gain}
    (hm : m.decide now d = .ok (x, some (.record game stats gain)))
    (hvalues : ∀ game values, m = .update game values → (StatRecord.ofJson values).WellTyped) :
    stats.WellTyped := by
  cases m with
  | update game values =>
    rw [Mutation.decide] at hm
    split at hm <;> cases hm
    exact (wellTyped_insertAll_iff (h.record _)).2 (hvalues _ _ rfl)
  | countPlay game =>
    cases hm
    exact (h.record _).insert ((h.stat _ (by decide)).succ (by decide))
  | addTime game seconds =>
    rw [Mutation.decide] at hm
    split at hm
    · cases hm
    · cases hm
    · rename_i whole _
      cases hsum : (d.stat game "timeSpent").add (.int whole) with
      | error e =>
        rw [hsum] at hm
        cases hm
      | ok sum =>
        rw [hsum] at hm
        cases hm
        exact (h.record _).insert ((h.stat _ (by decide)).add (by decide) hsum)
  | addRound game won =>
    cases hm
    -- The best streak is the larger of two numbers that are well typed under either name.
    have hstreak := h.streakAfter game won
    exact ((h.record _).insert hstreak).insert
      ((h.stat _ (by decide)).max (hstreak.rename (by decide) (by decide)))
  | unlock id =>
    have hitem := Mutation.item_of_decide hm
    cases hitem
  | complete id =>
    have hitem := Mutation.item_of_decide hm
    cases hitem

end Document

namespace Shelf

variable {s : Shelf} {now : Instant}

/-! ## Documents from outside in a ledger -/

/-- The document that loading leaves: the one that it starts from, with an old streak folded in. If
the old streak is a fault, there is no log for the day yet. -/
def found (s : Shelf) (now : Instant) : Except Fault Document := do
  let d ← s.taken now
  return match (s.lookedUp s.ledger.dataKey).oldStreak? with
    | .ok none => d.withDay now
    | .ok (some n) => (d.withStreak n).withDay now
    | .error _ => d

theorem load_document (s : Shelf) (now : Instant) :
    ((load now).outcome s).2.ledger.document =
      match s.found now with
      | .ok d => d
      | .error _ => s.ledger.document := by
  rw [outcome_load, found]
  cases s.taken now with
  | error e => rfl
  | ok d =>
    have hstreak : ((s.lookedUp s.ledger.dataKey).withDocument d).oldStreak? =
        (s.lookedUp s.ledger.dataKey).oldStreak? := rfl
    dsimp only
    rw [outcome_take, outcome_foldStreak, hstreak]
    cases (s.lookedUp s.ledger.dataKey).oldStreak? with
    | error e => rfl
    | ok n => cases n <;> rfl

theorem sound_found {d : Document} (h : s.found now = .ok d) : d.Sound := by
  obtain ⟨e, he, h⟩ := bind_eq_ok.1 h
  obtain rfl := Except.ok.inj h
  have hsound := sound_taken he
  split
  · exact hsound.withDay now
  · exact (hsound.withStreak _).withDay now
  · exact hsound

/-- Importing leaves the document that it takes, brought up to date and with a log for the day, or
the one that was there. -/
theorem importText_document (text : Json) (s : Shelf) (now : Instant) :
    ((importText text now).outcome s).2.ledger.document =
      match Document.read text >>= fun d => d.broughtUp now with
      | .ok d => d.withDay now
      | .error _ => s.ledger.document := by
  unfold importText
  cases Document.read text with
  | error e => rfl
  | ok d =>
    dsimp only
    rw [Act.outcome_bind, Act.outcome_lift]
    cases hup : d.broughtUp now with
    | error e =>
      rw [bind_eq_error.2 (.inr ⟨d, rfl, hup⟩)]
    | ok f =>
      have hkeep := keep_document (f.withDay now) s
      rw [bind_eq_ok.2 ⟨d, rfl, hup⟩]
      dsimp only
      rw [Act.outcome_bind]
      generalize (keep _).outcome s = r at hkeep ⊢
      obtain ⟨_ | _, t⟩ := r
      · exact hkeep
      · rw [← hkeep]
        exact emit_document t _

/-- Importing leaves the records of the document that it takes, or those that were there. -/
theorem importText_progress (text : Json) (s : Shelf) (now : Instant) :
    ((importText text now).outcome s).2.ledger.document.progress =
      match Document.read text >>= fun d => d.broughtUp now with
      | .ok d => d.progress
      | .error _ => s.ledger.document.progress := by
  rw [importText_document]
  cases Document.read text >>= fun d => d.broughtUp now <;> rfl

end Shelf

namespace Operation

/-- Whether all stats that an operation takes in from outside are well typed. -/
def Fits (s : Shelf) (now : Instant) : Operation → Prop
  | load => ∀ d, s.found now = .ok d → d.WellTyped
  | importText text => ∀ d e, Document.read text = .ok d → d.broughtUp now = .ok e → d.WellTyped
  | update _ values => (StatRecord.ofJson values).WellTyped
  | _ => True

variable {s : Shelf} {now : Instant}

/-- What a mutation leaves is well typed if the values that it merges, if any, are. -/
theorem wellTyped_result (h : s.ledger.document.WellTyped) {m : Mutation}
    (hvalues : ∀ game values, m = .update game values → (StatRecord.ofJson values).WellTyped) :
    ((m.decide now s.ledger.document).result now s.ledger.document).WellTyped := by
  rcases hm : m.decide now s.ledger.document with e | ⟨x, _ | a⟩
  · exact h
  · exact h
  · exact (h.alter_iff a).2 fun game stats gain ha => h.decide (ha ▸ hm) hvalues

/-- Values that are merged into a well-typed document show in what is left. -/
theorem wellTyped_update_iff (h : s.ledger.document.WellTyped) (now : Instant) (game : String)
    (values : Json) : (((Mutation.update game values).decide now s.ledger.document).result now
      s.ledger.document).WellTyped ↔ (StatRecord.ofJson values).WellTyped := by
  refine ⟨fun hleft => ?_, fun hvalues => wellTyped_result h fun _ _ hm => by cases hm; exact hvalues⟩
  by_cases hnone : (StatRecord.ofJson values).entries = []
  · intro e he
    rw [hnone] at he
    cases he
  · have hmerged : (s.ledger.document.withRecord game
        ((s.ledger.document.record game).insertAll (StatRecord.ofJson values).entries)).WellTyped := by
      rw [Document.withRecord_eq_alter _ now]
      rw [Mutation.decide] at hleft
      rwa [if_neg hnone] at hleft
    exact (wellTyped_insertAll_iff (h.record game)).1 (h.withRecord_iff.1 hmerged)

/-- An operation on a well-typed document leaves it well typed exactly if what it takes in fits. -/
theorem wellTyped_act_iff (h : s.ledger.document.WellTyped) (o : Operation) :
    ((o.act now).outcome s).2.ledger.document.WellTyped ↔ o.Fits s now := by
  -- Records from outside come in with an update, documents with loading and importing. The other
  -- operations count or tend to what there is.
  have mutation (m : Mutation) : ((m.operation.act now).outcome s).2.ledger.document =
      (m.decide now s.ledger.document).result now s.ledger.document := by
    rw [outcome_act]
    exact Shelf.document_mutation m now s
  have counting (m : Mutation) (hm : ∀ game values, m ≠ .update game values) :
      ((m.operation.act now).outcome s).2.ledger.document.WellTyped := by
    rw [mutation]
    exact wellTyped_result h fun game values hv => absurd hv (hm game values)
  have tending (ho : o.tends = true) : ((o.act now).outcome s).2.ledger.document.WellTyped :=
    Shelf.Moves.preserve (P := fun t => t.ledger.document.WellTyped)
      (fun t d ht hd => by rw [Shelf.keep_document]; exact hd.wellTyped ht)
      (fun t e ht => by rw [Shelf.emit_document]; exact ht) (o.steady_tends ho now s) h
  cases o with
  | load =>
    rw [act, Act.outcome_discard, Shelf.load_document]
    cases hf : s.found now with
    | error e => exact iff_of_true h fun d hd => by rw [hf] at hd; cases hd
    | ok d => exact ⟨fun ht d' hd' => Except.ok.inj (hf.symm.trans hd') ▸ ht, fun hfits => hfits d hf⟩
  | importText text =>
    have hleft := Shelf.importText_progress text s now
    rw [act, Act.outcome_discard]
    cases hf : Document.read text >>= fun d => d.broughtUp now with
    | error e =>
      rw [hf] at hleft
      refine iff_of_true (h.congr hleft) fun d d' hd hd' => ?_
      rw [bind_eq_ok.2 ⟨d, hd, hd'⟩] at hf
      cases hf
    | ok f =>
      rw [hf] at hleft
      obtain ⟨d, hd, hup⟩ := bind_eq_ok.1 hf
      rw [show Fits s now (importText text) ↔ d.WellTyped from
        ⟨fun hfits => hfits d f hd hup, fun hall d' _ hd' _ =>
          Except.ok.inj (hd.symm.trans hd') ▸ hall⟩, ← Document.wellTyped_broughtUp_iff hup]
      exact ⟨fun ht => ht.congr hleft.symm, fun hf => hf.congr hleft⟩
  | update game values =>
    have hupdate := wellTyped_update_iff h now game values
    rwa [← mutation] at hupdate
  | countPlay game =>
    exact iff_of_true (counting (.countPlay game) fun _ _ hm => by cases hm) trivial
  | addTime game seconds =>
    exact iff_of_true (counting (.addTime game seconds) fun _ _ hm => by cases hm) trivial
  | addRound game won =>
    exact iff_of_true (counting (.addRound game won) fun _ _ hm => by cases hm) trivial
  | _ => exact iff_of_true (tending rfl) trivial

/-- Every operation keeps the document sound, whatever it takes in. -/
theorem sound_act (h : s.ledger.document.Sound) (o : Operation) (now : Instant) :
    ((o.act now).outcome s).2.ledger.document.Sound := by
  by_cases ho : o = .load
  · subst ho
    rw [act, Act.outcome_discard, Shelf.load_document]
    cases hf : s.found now with
    | error e => exact h
    | ok d => exact Shelf.sound_found hf
  · exact Shelf.Moves.preserve (P := fun t => t.ledger.document.Sound)
      (fun t d ht hd => by rw [Shelf.keep_document]; exact hd.sound ht)
      (fun t e ht => by rw [Shelf.emit_document]; exact ht) (o.steady_act ho now s) h

end Operation

namespace Shelf

variable {s : Shelf}

/-- A run from a well-typed document is well typed all the way exactly if whatever it takes in is,
as it stands at that point of the run. -/
theorem wellTyped_run_iff (h : s.ledger.document.WellTyped) (steps : List (Operation × Instant)) :
    (∀ before, before <+: steps → (s.run before).ledger.document.WellTyped) ↔
      ∀ before x, before ++ [x] <+: steps → x.1.Fits (s.run before) x.2 :=
  run_preserve_iff (P := fun t => t.ledger.document.WellTyped) (Q := fun t o now => o.Fits t now)
    (fun _ o _ ht => Operation.wellTyped_act_iff ht o) h steps

/-- The stats of a ledger that was started on any storage, over any run. All their names are known,
and no integer and no rate is below zero. They are all well typed exactly if everything is that the
run takes in, and a record from outside is exactly if its numbers are proper. -/
theorem stats_of_run {settings : Settings} {start : Instant}
    (hs : Ledger.start settings start = .ok s.ledger) (steps : List (Operation × Instant)) :
    (∀ e ∈ (s.run steps).ledger.document.progress.entries, ∀ f ∈ e.2.entries, f.1 ∈ fields ∧
      (∀ k, f.2 = .int k → 0 ≤ k) ∧ (f.1 ∈ fractional → f.2.lt 0 = false)) ∧
    ((∀ before, before <+: steps → (s.run before).ledger.document.WellTyped) ↔
      ∀ before x, before ++ [x] <+: steps → x.1.Fits (s.run before) x.2) ∧
    ∀ entries : List (String × Json), (entries.map Prod.fst).Nodup →
      ((StatRecord.ofJson (.obj entries)).WellTyped ↔
        ∀ e ∈ entries, e.1 ∈ fields → ∀ n, e.2 = .num n → Proper e.1 n) := by
  obtain ⟨_, -, hs⟩ := bind_eq_ok.1 hs
  obtain ⟨d, hd, hs⟩ := bind_eq_ok.1 hs
  have hdocument : s.ledger.document = d :=
    (congrArg Ledger.document (Except.ok.inj hs)).symm
  have hsound : (s.run steps).ledger.document.Sound :=
    run_preserve (P := fun t => t.ledger.document.Sound)
      (fun _ o now ht => Operation.sound_act ht o now)
      (hdocument ▸ Document.sound_freshOn hd) steps
  refine ⟨fun e he f hf => ?_, ?_, fun entries => wellTyped_ofEntries_iff⟩
  · obtain ⟨hname, hint, hrate⟩ := hsound.records e he f hf
    exact ⟨hname, hint, fun hf => lt_zero_eq_false (hrate hf)⟩
  · exact wellTyped_run_iff (hdocument ▸ Document.wellTyped_freshOn hd) steps

theorem stats_of_run_updated : ∃ ledger, Ledger.start ⟨.obj []⟩ noon = .ok ledger ∧
    ((⟨ledger, {}⟩ : Shelf).run [(.update "dice-roller" (.obj [("plays", .num (.int 3))]), noon),
      (.addRound "dice-roller" (some true), noon)]).ledger.document.WellTyped := by
  have hstart : ∃ ledger, Ledger.start ⟨.obj []⟩ noon = .ok ledger := ⟨_, rfl⟩
  obtain ⟨ledger, hl⟩ := hstart
  obtain ⟨-, hwell, hproper⟩ := stats_of_run (s := ⟨ledger, {}⟩) hl
    [(.update "dice-roller" (.obj [("plays", .num (.int 3))]), noon),
      (.addRound "dice-roller" (some true), noon)]
  have hvalues : (StatRecord.ofJson (.obj [("plays", .num (.int 3))])).WellTyped := by
    refine (hproper _ (by decide)).2 fun e he _ n hn => ?_
    obtain rfl := List.mem_singleton.1 he
    obtain rfl := Json.num.inj hn
    exact .inr rfl
  refine ⟨ledger, hl, hwell.2 (fun before x hx => ?_) _ List.prefix_rfl⟩
  rcases List.mem_cons.1 (hx.subset List.mem_concat_self) with rfl | hx
  · exact hvalues
  · obtain rfl := List.mem_singleton.1 hx
    exact trivial

end Shelf

end Arcade
