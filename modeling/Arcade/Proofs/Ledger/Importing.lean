import Arcade.Proofs.Challenge.Generations
import Arcade.Proofs.Ledger.Errand
import Arcade.Proofs.Progress.Normalising

/-!
# Importing is atomic

A text is imported as a whole or not at all. Everything that can raise a fault comes before the
first change: reading the text, and making new challenges for it. What comes after that is one write
and one event. So an import that fails leaves the shelf as it was, and one that succeeds leaves a
document that depends on the text and the instant only, whatever was in memory before and whatever
becomes of the write.
-/

namespace Arcade

variable {now : Instant}

/-! ## Challenges that are due -/

namespace Challenge

/-- Whether challenges are due for replacement: the first one, if there is any, names no end that
lies after the start of the day. -/
def Due (challenges : List Challenge) (now : Instant) : Prop :=
  ∀ c ∈ challenges.head?, ∀ expires,
    Timestamp.read c.expiresAt = .ok (some expires) → expires ≤ now.startOfDay

theorem needsRefresh_iff_due {challenges : List Challenge} {due : Bool}
    (h : needsRefresh challenges now = .ok due) : due = true ↔ Due challenges now := by
  cases challenges with
  | nil =>
    obtain rfl := Except.ok.inj h
    exact ⟨fun _ c hc => (nomatch hc), fun _ => rfl⟩
  | cons c rest =>
    obtain ⟨found, hfound, h⟩ := bind_eq_ok.1 h
    cases found with
    | none =>
      obtain rfl := Except.ok.inj h
      refine ⟨fun _ x hx expires hread => ?_, fun _ => rfl⟩
      obtain rfl := Option.some.inj hx
      rw [hfound] at hread
      cases hread
    | some expires =>
      obtain rfl := Except.ok.inj h
      rw [decide_eq_true_iff]
      constructor
      · intro hle x hx e hread
        obtain rfl := Option.some.inj hx
        rw [hfound] at hread
        obtain rfl := Option.some.inj (Except.ok.inj hread)
        exact hle
      · intro hdue
        exact hdue c rfl expires hfound

end Challenge

/-! ## What is made of a document -/

theorem Dict.entries_insertNew {α κ : Type} [DecidableEq κ] (d : Dict α κ) (name : κ) (value : α) :
    (d.insertNew name value).entries =
      d.entries ++ if name ∈ d.names then [] else [(name, value)] := by
  by_cases h : name ∈ d.names
  · rw [insertNew_of_mem h, if_pos h, List.append_nil]
  · rw [insertNew, if_neg (fun hc => h (contains_iff.1 hc)), if_neg h]
    exact putEntry_of_not_mem h

namespace Document

/-- The records of missing games stand after the others, in the order of the games. -/
theorem entries_addGames {gs : List Game} (hgs : (gs.map Game.id).Nodup)
    (progress : Dict StatRecord) :
    (addGames gs progress).entries = progress.entries ++
      (gs.filter fun g => g.id ∉ progress.names).map fun g => (g.id, startRecord g) := by
  induction gs generalizing progress with
  | nil => rw [addGames, List.foldl_nil, List.filter_nil, List.map_nil, List.append_nil]
  | cons g rest ih =>
    rw [List.map_cons, List.nodup_cons] at hgs
    have hrest : rest.filter (fun x => x.id ∉ (progress.insertNew g.id (startRecord g)).names) =
        rest.filter fun x => x.id ∉ progress.names := by
      refine List.filter_congr fun x hx => ?_
      have hne : x.id ≠ g.id := fun he => hgs.1 (he ▸ List.mem_map_of_mem hx)
      simp only [Dict.names_insertNew, hne, false_or]
    rw [addGames, List.foldl_cons, ← addGames, ih hgs.2, hrest, Dict.entries_insertNew]
    by_cases h : g.id ∈ progress.names
    · simp [h]
    · simp [h]

theorem nodup_registry : (Game.registry.map Game.id).Nodup := by decide

/-- What importing makes of a document that was read: it gains the badges of the catalog and the
games of the registry that it lacks, new challenges if those it has are due, and a log for the day.
Nothing else about it changes. -/
structure Imported (now : Instant) (e d : Document) : Prop where
  badges : d.badges = e.badges ++ Badge.fresh.filter fun b => b.id ∉ e.badges.map Badge.id
  progress : d.progress.entries = e.progress.entries ++
    (Game.registry.filter fun g => g.id ∉ e.progress.names).map fun g => (g.id, startRecord g)
  replaced : Challenge.Due e.challenges now → Challenge.generation now = .ok d.challenges
  kept : ¬ Challenge.Due e.challenges now → d.challenges = e.challenges
  days : d.tally.days.entries =
    e.tally.days.entries ++ if now.dayKey ∈ e.tally.days.names then [] else [(now.dayKey, ({} : DayLog))]
  counts : d.tally = { e.tally with days := d.tally.days }

theorem imported_of_broughtUp {e f : Document} (h : e.broughtUp now = .ok f) :
    Imported now e (f.withDay now) := by
  obtain ⟨challenges, hc, h⟩ := bind_eq_ok.1 h
  obtain rfl := Except.ok.inj h
  rw [withCatalog_eq] at hc ⊢
  have hchallenges : (Challenge.Due e.challenges now → Challenge.generation now = .ok challenges) ∧
      (¬ Challenge.Due e.challenges now → challenges = e.challenges) := by
    rcases Challenge.refreshed_eq_ok.1 hc with ⟨hneeds, rfl⟩ | ⟨hneeds, hg⟩
    · have hdue := Challenge.needsRefresh_iff_due hneeds
      exact ⟨fun hd => absurd (hdue.2 hd) Bool.false_ne_true, fun _ => rfl⟩
    · have hdue := Challenge.needsRefresh_iff_due hneeds
      exact ⟨fun _ => hg, fun hd => absurd (hdue.1 rfl) hd⟩
  exact {
    badges := rfl
    progress := entries_addGames nodup_registry e.progress
    replaced := hchallenges.1
    kept := hchallenges.2
    days := Dict.entries_insertNew e.tally.days now.dayKey {}
    counts := rfl }

/-- What importing makes of a document is determined by the document and the instant. -/
theorem Imported.unique {e d d' : Document} (h : Imported now e d) (h' : Imported now e d') :
    d = d' := by
  have hchallenges : d.challenges = d'.challenges := by
    by_cases hdue : Challenge.Due e.challenges now
    · exact Except.ok.inj ((h.replaced hdue).symm.trans (h'.replaced hdue))
    · rw [h.kept hdue, h'.kept hdue]
  have htally : d.tally = d'.tally := by
    rw [h.counts, h'.counts, Dict.ext (h.days.trans h'.days.symm)]
  cases d
  cases d'
  simp only [Document.mk.injEq]
  exact ⟨Dict.ext (h.progress.trans h'.progress.symm), h.badges.trans h'.badges.symm,
    hchallenges, htally⟩

/-- The document that a text is imported as at an instant, or why it is refused. -/
def imported (v : Json) (now : Instant) : Except Fault Document :=
  match read v with
  | .error e => .error (if e.isUnreadable then .rejectedImport e else e)
  | .ok d => (d.broughtUp now).map fun d => d.withDay now

theorem exists_of_imported {v : Json} {d : Document} (h : imported v now = .ok d) :
    ∃ e, read v = .ok e ∧ Imported now e d := by
  unfold imported at h
  cases hread : read v with
  | error e =>
    rw [hread] at h
    cases h
  | ok e =>
    rw [hread] at h
    dsimp only at h
    cases hup : e.broughtUp now with
    | error x =>
      rw [hup] at h
      cases h
    | ok f =>
      rw [hup] at h
      obtain rfl := Except.ok.inj h
      exact ⟨e, rfl, imported_of_broughtUp hup⟩

end Document

namespace Shelf

variable {s t : Shelf}

/-- The shelf after a document was imported: written, as far as the storage takes it, and told to
the listeners. -/
def received (s : Shelf) (d : Document) : Shelf :=
  (s.stroke (.write d)).stroke (.tell { kind := .dataImported })

theorem outcome_importText (h : s.Writable) (v : Json) (now : Instant) :
    (importText v now).outcome s =
      match Document.imported v now with
      | .error e => (.error e, s)
      | .ok d => (.ok d, s.received d) := by
  unfold importText Document.imported
  cases Document.read v with
  | error e => rfl
  | ok e =>
    dsimp only
    rw [Act.outcome_bind, Act.outcome_lift]
    cases e.broughtUp now with
    | error x => rfl
    | ok f =>
      dsimp only
      have hdocument : (s.received (f.withDay now)).ledger.document = f.withDay now := by
        rw [received, stroke_tell, stroke_write]
      rw [Act.outcome_bind_of_ok (h.outcome_keep (f.withDay now)), Act.outcome_bind,
        Act.outcome_modify]
      exact congrArg (fun d => (Except.ok d, s.received (f.withDay now))) hdocument

theorem received_eq (h : s.Writable) (d : Document) :
    let written := s.storage.set s.ledger.dataKey (.str d.toJson.write)
    s.received d = {
      ledger := { s.ledger with
        document := d
        persisted := written.1.toOption.isSome
        deliveries := s.ledger.deliveries ++
          s.ledger.listeners.map fun l => (l, { kind := .dataImported }) }
      storage := written.2 } := by
  intro written
  rw [received, stroke_tell, stroke_write, h.persistedAfter]

end Shelf

end Arcade
