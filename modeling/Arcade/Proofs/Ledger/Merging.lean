import Arcade.Proofs.Ledger.Importing
import Arcade.Proofs.Ledger.Loading
import Arcade.Proofs.Ledger.OldStreak
import Arcade.Proofs.Progress.Reading

/-!
# Merging what is stored

A stored document may be older or newer than the catalog and the registry, and it may be damaged.
Loading and importing make the same of it: everything that can be kept is kept, in its order, and
what is missing is added at the end. Loading may fold in an old streak besides, which only changes
the two streaks of one game.
-/

namespace Arcade

open List (Forall₂)

variable {now : Instant}

/-- Whether stored challenges are used: there are some, all can be read and the first is not due. -/
def Challenge.Usable (now : Instant) (entries : List Json) (cs : List Challenge) : Prop :=
  cs ≠ [] ∧ Forall₂ Reads entries cs ∧ ¬Due cs now

namespace Document

variable {members games : List (String × Json)} {badges : List Json} {d e : Document}

/-! ## Records -/

/-- The fields in which streaks are kept. -/
def streakFields : List String := ["streak", "bestStreak"]

/-- The fields of all records: of what is stored for games what can be kept of it, and of the games
that are missing those that a player starts with. -/
def records (games : List (String × Json)) : List (String × (String → Option Number)) :=
  games.map (fun g => (g.1, StatRecord.validated? g.2)) ++
    (Game.registry.filter fun g => g.id ∉ games.map Prod.fst).map fun g =>
      (g.id, (startRecord g).get?)

/-- What becomes of a streak if an old one is folded in. -/
def raised (old? : Option Nat) (streak : Option Number) : Option Number :=
  match old? with
  | none => streak
  | some n => some ((streak.getD 0).max (.int n))

/-- Whether a record has the given fields, the streaks of their game raised if an old one was folded
in. -/
def Holds (old? : Option Nat) (e : String × (String → Option Number)) (r : String × StatRecord) :
    Prop :=
  r.1 = e.1 ∧ ∀ field, r.2.get? field =
    if e.1 = streakGame ∧ field ∈ streakFields then raised old? (e.2 field) else e.2 field

theorem holds_none {e : String × (String → Option Number)} {r : String × StatRecord} :
    Holds none e r ↔ r.1 = e.1 ∧ ∀ field, r.2.get? field = e.2 field := by
  unfold Holds raised
  simp only [ite_self]

/-- What is made of what is stored, where an old streak may have been folded in. -/
structure Merged (now : Instant) (old? : Option Nat) (members games : List (String × Json))
    (badges : List Json) (d : Document) : Prop where
  badges : ∃ kept, Forall₂ Badge.Reads (badges.filter Badge.isReadable) kept ∧
    d.badges = kept ++
      (Badge.catalog.filter fun b => b.id ∉ kept.map Badge.id).map Badge.ofDesign
  progress : Forall₂ (Holds old?) (records games) d.progress.entries
  used : ∀ cs, Challenge.Usable now (storedChallenges members) cs → d.challenges = cs
  replaced : (¬∃ cs, Challenge.Usable now (storedChallenges members) cs) →
    Challenge.generation now = .ok d.challenges
  days : ∃ kept, Forall₂ DayLog.Reads ((storedDays members).filter fun e => e.2.isObject) kept ∧
    d.tally.days.entries =
      kept ++ if now.dayKey ∈ kept.map Prod.fst then [] else [(now.dayKey, ({} : DayLog))]

/-! ## What is brought up to date -/

/-- If none that are stored are used, those that were decoded are due. -/
theorem Decoded.due (h : Decoded members games badges e)
    (hunusable : ¬∃ cs, Challenge.Usable now (storedChallenges members) cs) :
    Challenge.Due e.challenges now := by
  by_contra hdue
  have hsome : e.challenges ≠ [] := by
    intro hnone
    rw [hnone] at hdue
    exact hdue fun c hc => (nomatch hc)
  rcases h.challenges with hreads | ⟨hnone, -⟩
  · exact hunusable ⟨e.challenges, hsome, hreads, hdue⟩
  · exact hsome hnone

/-- Stored challenges stand for one list only. -/
theorem Decoded.challenges_eq (h : Decoded members games badges e) {cs : List Challenge}
    (hcs : Forall₂ Challenge.Reads (storedChallenges members) cs) : e.challenges = cs := by
  have hunique : Relator.RightUnique Challenge.Reads := fun v c c' hc hc' =>
    Except.ok.inj ((Challenge.ofJson_eq_ok.2 hc).symm.trans (Challenge.ofJson_eq_ok.2 hc'))
  rcases h.challenges with hreads | ⟨-, hnone⟩
  · exact hunique.forall₂ hreads hcs
  · exact absurd ⟨cs, hcs⟩ hnone

theorem Decoded.names (h : Decoded members games badges e) :
    e.progress.names = games.map Prod.fst :=
  map_fst_of_forall₂ (fun _ _ h => h.1) h.progress

/-- What was decoded is merged by being brought up to date. -/
theorem Decoded.merged (h : Decoded members games badges e) (hi : Imported now e d) :
    Merged now none members games badges d where
  badges := by
    refine ⟨e.badges, h.badges, ?_⟩
    rw [hi.badges, Badge.fresh, List.filter_map]
    rfl
  progress := by
    rw [hi.progress, h.names]
    refine List.rel_append ?_ ?_
    · rw [List.forall₂_map_left_iff]
      exact h.progress.imp fun g r hr => holds_none.2 hr
    · rw [List.forall₂_map_left_iff, List.forall₂_map_right_iff, List.forall₂_same]
      exact fun g _ => holds_none.2 ⟨rfl, fun _ => rfl⟩
  used cs hcs := by
    obtain ⟨-, hreads, hdue⟩ := hcs
    have heq := h.challenges_eq hreads
    rw [← heq] at hdue ⊢
    exact hi.kept hdue
  replaced hunusable := hi.replaced (h.due hunusable)
  days := by
    refine ⟨e.tally.days.entries, h.days, ?_⟩
    rw [hi.days]
    rfl

theorem imported_of_read {text : Json} {f : Document} (hread : read text = .ok e)
    (hf : e.broughtUp now = .ok f) : imported text now = .ok (f.withDay now) := by
  unfold imported
  rw [hread]
  dsimp only
  rw [hf]
  rfl

/-! ## Old streaks -/

/-- A value that is put in the place of another changes what is related at that place only. -/
theorem forall₂_putEntry {α β : Type} {R R' : β → String × α → Prop} {name : String}
    {old value : α} (hkeep : ∀ x e, e.1 ≠ name → R x e → R' x e)
    (hput : ∀ x, R x (name, old) → R' x (name, value)) {l : List β}
    {entries : List (String × α)} (h : Forall₂ R l entries)
    (hn : (entries.map Prod.fst).Nodup) (hold : valueAt? name entries = some old) :
    Forall₂ R' l (putEntry name value entries) := by
  have hothers {xs : List β} {rest : List (String × α)} (hrest : Forall₂ R xs rest)
      (hnew : name ∉ rest.map Prod.fst) : Forall₂ R' xs rest := by
    induction hrest with
    | nil => exact .nil
    | cons hx _ ih =>
      rw [List.map_cons, List.mem_cons, not_or] at hnew
      exact .cons (hkeep _ _ (Ne.symm hnew.1) hx) (ih hnew.2)
  induction h with
  | nil => cases hold
  | @cons x e xs rest hx hrest ih =>
    rw [List.map_cons, List.nodup_cons] at hn
    rw [valueAt?] at hold
    rw [putEntry]
    split at hold
    · rename_i he
      rw [if_pos he]
      have hentry : e = (name, old) := Prod.ext he (Option.some.inj hold)
      exact .cons (hput x (hentry ▸ hx)) (hothers hrest (he ▸ hn.1))
    · rename_i he
      rw [if_neg he]
      exact .cons (hkeep x e he hx) (ih hn.2 hold)

/-- The game with the streaks is among all that are to be found. -/
theorem streakGame_mem_records (games : List (String × Json)) :
    streakGame ∈ (records games).map Prod.fst := by
  have hregistry : ∃ g ∈ Game.registry, g.id = streakGame := by decide
  obtain ⟨g, hg, hid⟩ := hregistry
  unfold records
  rw [List.map_append, List.map_map, List.map_map, List.mem_append]
  by_cases hstored : streakGame ∈ games.map Prod.fst
  · exact .inl hstored
  · refine .inr (List.mem_map.2 ⟨g, List.mem_filter.2 ⟨hg, ?_⟩, hid⟩)
    rw [hid]
    exact decide_eq_true hstored

/-- Folding in a streak puts a record in the place of another that differs in the streaks only. -/
theorem exists_withStreak (d : Document) (n : Nat) : ∃ r : StatRecord,
    (d.withStreak n).progress = d.progress.insert streakGame r ∧
      ∀ field, r.get? field = if field ∈ streakFields
        then raised (some n) ((d.record streakGame).get? field)
        else (d.record streakGame).get? field := by
  refine ⟨_, rfl, fun field => ?_⟩
  split
  · rename_i h
    rcases List.mem_pair.1 h with rfl | rfl
    · rw [Dict.get?_insert_of_ne (by decide), Dict.get?_insert_self]
      rfl
    · rw [Dict.get?_insert_self]
      rfl
  · rename_i h
    have hstreak : field ≠ "streak" := fun he => h (he ▸ by decide)
    have hbest : field ≠ "bestStreak" := fun he => h (he ▸ by decide)
    rw [Dict.get?_insert_of_ne hbest, Dict.get?_insert_of_ne hstreak]

theorem Merged.withStreak (h : Merged now none members games badges d) (n : Nat) :
    Merged now (some n) members games badges (d.withStreak n) where
  badges := h.badges
  progress := by
    have hnames : streakGame ∈ d.progress.names := by
      have heq : d.progress.names = (records games).map Prod.fst :=
        map_fst_of_forall₂ (fun _ _ h => h.1) h.progress
      rw [heq]
      exact streakGame_mem_records games
    obtain ⟨old, hold⟩ := Option.isSome_iff_exists.1 (Dict.contains_iff.2 hnames)
    obtain ⟨r, hr, hfields⟩ := d.exists_withStreak n
    rw [record, hold, Option.getD_some] at hfields
    rw [hr]
    refine forall₂_putEntry ?_ ?_ h.progress d.progress.distinct hold
    · intro x e he hx
      obtain ⟨hname, hx⟩ := holds_none.1 hx
      refine ⟨hname, fun field => ?_⟩
      rw [if_neg fun hstreak => he (hname.trans hstreak.1)]
      exact hx field
    · intro x hx
      obtain ⟨hname, hx⟩ := holds_none.1 hx
      refine ⟨hname, fun field => ?_⟩
      rw [hfields, hx]
      simp only [← hname, true_and]
  used := h.used
  replaced := h.replaced
  days := h.days

end Document

namespace Shelf

variable {s t : Shelf} {d e : Document} {text v : Json}

/-! ## Loading and importing -/

theorem truthy_of_reread (h : text.reread = .ok v) : text.truthy = true := by
  have hempty : ∃ e, (Json.str "").reread = .error e := ⟨_, rfl⟩
  obtain ⟨e, he⟩ := hempty
  cases text with
  | str s =>
    refine decide_eq_true fun hs => ?_
    rw [hs, he] at h
    cases h
  | _ => cases h

theorem read_of_reread (hv : text.reread = .ok v) (he : Document.ofJson v = .ok e) :
    Document.read text = .ok e := bind_eq_ok.2 ⟨v, hv, he⟩

theorem stored?_of_reread (hfound : (s.storage.get s.ledger.dataKey).1 = .ok (some text))
    (hv : text.reread = .ok v) (he : Document.ofJson v = .ok e) : s.stored? = .ok (some e) := by
  unfold stored?
  rw [hfound]
  dsimp only
  rw [if_pos (truthy_of_reread hv), read_of_reread hv he]

/-- What is returned in the end is what has been written. -/
theorem document_of_opened {u : Shelf} (h : ((save.outcome (u.opened now)).1.map fun _ =>
    (u.opened now).ledger.document, (save.outcome (u.opened now)).2) = (.ok d, t)) :
    t.ledger.document = d ∧ d = u.ledger.document.withDay now := by
  obtain ⟨hresult, hleft⟩ := Prod.mk.inj h
  cases hsaved : (save.outcome (u.opened now)).1 with
  | error x =>
    rw [hsaved] at hresult
    cases hresult
  | ok =>
    rw [hsaved] at hresult
    cases hresult
    exact ⟨hleft ▸ rfl, rfl⟩

/-- What loading returns of a stored document: brought up to date, with a log for the day and with
the old streak, if there is one. -/
theorem exists_of_load (hstored : s.stored? = .ok (some e))
    (h : (load now).outcome s = (.ok d, t)) : ∃ f streak?, e.broughtUp now = .ok f ∧
      (s.lookedUp s.ledger.dataKey).oldStreak? = .ok streak? ∧ t.ledger.document = d ∧
      d = (streak?.elim f f.withStreak).withDay now := by
  have htaken : s.taken now = e.broughtUp now := by
    unfold taken
    rw [hstored]
    rfl
  rw [outcome_load, htaken] at h
  cases hf : e.broughtUp now with
  | error x =>
    rw [hf] at h
    cases h
  | ok f =>
    rw [hf] at h
    dsimp only at h
    rw [outcome_take, outcome_foldStreak] at h
    have hstreak : ((s.lookedUp s.ledger.dataKey).withDocument f).oldStreak? =
        (s.lookedUp s.ledger.dataKey).oldStreak? := rfl
    rw [hstreak] at h
    cases hfound : (s.lookedUp s.ledger.dataKey).oldStreak? with
    | error x =>
      rw [hfound] at h
      cases h
    | ok streak? =>
      rw [hfound] at h
      refine ⟨f, streak?, rfl, rfl, ?_⟩
      cases streak? with
      | none => exact document_of_opened h
      | some n => exact document_of_opened h

theorem exists_of_importText (h : (importText text now).outcome s = (.ok d, t)) :
    ∃ e f, Document.read text = .ok e ∧ e.broughtUp now = .ok f ∧ t.ledger.document = d ∧
      d = f.withDay now := by
  unfold importText at h
  cases hread : Document.read text with
  | error x =>
    rw [hread] at h
    cases h
  | ok e =>
    rw [hread] at h
    dsimp only at h
    rw [Act.outcome_bind, Act.outcome_lift] at h
    cases hf : e.broughtUp now with
    | error x =>
      rw [hf] at h
      cases h
    | ok f =>
      rw [hf] at h
      dsimp only at h
      refine ⟨e, f, rfl, hf, ?_⟩
      rw [Act.outcome_bind, outcome_keep] at h
      have hdocument := save_document (s.withDocument (f.withDay now))
      rcases hsaved : save.outcome (s.withDocument (f.withDay now)) with ⟨r, u⟩
      rw [hsaved] at h hdocument
      cases r with
      | error x => cases h
      | ok =>
        dsimp only at h hdocument
        rw [Act.outcome_bind, Act.outcome_modify] at h
        cases h
        rw [emit_document, hdocument]
        exact ⟨rfl, rfl⟩

/-- Whatever can be read as a document, what loading and importing return of it has all that can be
kept of each of its parts, in its order, followed by what it lacks. An old streak that loading folds
in only changes the streaks of its game. -/
theorem every_part_kept (hv : text.reread = .ok v) (he : Document.ofJson v = .ok e)
    (now : Instant) : ∃ members games badges, Document.Shape v members games badges ∧
    (∀ s d t, (s.storage.get s.ledger.dataKey).1 = .ok (some text) →
      (load now).outcome s = (.ok d, t) → t.ledger.document = d ∧
      ∃ old?, (s.lookedUp s.ledger.dataKey).oldStreak? = .ok old? ∧
        Document.Merged now old? members games badges d) ∧
    ∀ s d t, (importText text now).outcome s = (.ok d, t) → t.ledger.document = d ∧
      Document.Merged now none members games badges d := by
  obtain ⟨members, games, badges, hs, hdecoded⟩ :=
    Document.decoded_of_ofJson (Json.distinct_of_reread hv) he
  have hmerged {f : Document} (hf : e.broughtUp now = .ok f) :
      Document.Merged now none members games badges (f.withDay now) :=
    hdecoded.merged (Document.imported_of_broughtUp hf)
  refine ⟨members, games, badges, hs, fun s d t hfound h => ?_, fun s d t h => ?_⟩
  · obtain ⟨f, streak?, hf, hstreak, hdocument, rfl⟩ :=
      exists_of_load (stored?_of_reread hfound hv he) h
    refine ⟨hdocument, streak?, hstreak, ?_⟩
    cases streak? with
    | none => exact hmerged hf
    | some n => exact (hmerged hf).withStreak n
  · obtain ⟨e', f, he', hf, hdocument, rfl⟩ := exists_of_importText h
    obtain rfl := Except.ok.inj ((read_of_reread hv he).symm.trans he')
    exact ⟨hdocument, hmerged hf⟩

/-- A stored value with little to keep: a game that is not known with a stat that is none, a badge
without an identifier, challenges that are no list, and a day that is no object. -/
def tattered : Json :=
  .obj [
    ("gameProgress", .obj [
      ("ludo", .obj [("plays", .int (-3)), ("mood", .str "grim"), ("wins", .int 2)])]),
    ("badges", .arr [.int 7, .obj [("title", .str "lost")],
      .obj [("id", .str "veteran"), ("unlocked", .bool true), ("unlockedAt", .str "2020")]]),
    ("challenges", .str "none"),
    ("sessionStats", .obj [("dailyLogs", .obj [
      ("2026-01-01", .obj [("gamesPlayed", .str "many"), ("timeSpent", .int 60)]),
      ("2026-01-02", .int 4)])])]

/-- A ledger on a storage with that and with an old streak. -/
def ragged : Shelf where
  ledger := (blank "gameverse-data" "rps-streak").ledger
  storage := {
    entries := Dict.ofList [(.str "gameverse-data", .str tattered.write),
      (.str "rps-streak", .str "7")] }

theorem streaked_ragged : Streaked "gameverse-data" "rps-streak" "7" 7 ragged where
  dataKey := rfl
  textual := by
    intro e he
    rcases List.mem_pair.mp he with rfl | rfl
    · exact ⟨⟨"gameverse-data", rfl⟩, tattered.write, rfl⟩
    · exact ⟨⟨"rps-streak", rfl⟩, "7", rfl⟩
  streakKey := rfl
  distinct := by decide
  found := rfl
  reads := by decide

theorem reread_tattered : (Json.str tattered.write).reread = .ok tattered := by
  have hplain : Json.isPlain Json.depthLimit tattered = true := by decide
  unfold Json.reread
  exact Json.read_write_of_isPlain hplain

/-- Little as it is, it can be brought up to date. -/
theorem exists_broughtUp_tattered : ∃ e f, Document.ofJson tattered = .ok e ∧
    e.broughtUp noon = .ok f := by
  have hchallenges : (Document.ofJson tattered).toOption.map Document.challenges = some [] := by
    decide
  cases he : Document.ofJson tattered with
  | error x =>
    rw [he] at hchallenges
    cases hchallenges
  | ok e =>
    rw [he] at hchallenges
    have hnone : e.challenges = [] := Option.some.inj hchallenges
    have hm : noon.nextMidnight = .ok ⟨⟨2026, 10, 19, by decide⟩, TimeOfDay.midnight⟩ := rfl
    have hdue : Challenge.needsRefresh e.challenges noon = .ok true := by
      rw [hnone]
      rfl
    have hrefreshed := Challenge.refreshed_eq_ok.2
      (.inr ⟨hdue, Challenge.generation_eq_ok.2 ⟨_, hm, rfl⟩⟩)
    have hcatalog : e.withCatalog.challenges = e.challenges := by rw [Document.withCatalog_eq]
    rw [← hcatalog] at hrefreshed
    exact ⟨e, _, rfl, bind_eq_ok.2 ⟨_, hrefreshed, rfl⟩⟩

/-- What there is to keep is kept, both by loading with an old streak and by importing; the badge
that can be read comes first. -/
theorem every_part_kept_tattered : ∃ members games badges,
    Document.Shape tattered members games badges ∧
    (∃ d t, (load noon).outcome ragged = (.ok d, t) ∧
      Document.Merged noon (some 7) members games badges d) ∧
    ∃ d t, (importText (.str tattered.write) noon).outcome ragged = (.ok d, t) ∧
      Document.Merged noon none members games badges d ∧
      d.badges.head?.map (fun b => (b.id, b.unlocked, b.unlockedAt)) =
        some ("veteran", true, .str "2020") := by
  obtain ⟨e, f, he, hf⟩ := exists_broughtUp_tattered
  obtain ⟨members, games, badges, hs, hload, himport⟩ :=
    every_part_kept reread_tattered he noon
  have hfound : (ragged.storage.get ragged.ledger.dataKey).1 = .ok (some (.str tattered.write)) :=
    rfl
  refine ⟨members, games, badges, hs, ?_, ?_⟩
  · have htaken : ragged.taken noon = .ok f :=
      bind_eq_ok.2 ⟨some e, stored?_of_reread hfound reread_tattered he, hf⟩
    obtain ⟨d, t, hloaded, -⟩ := streaked_ragged.loaded htaken
    obtain ⟨-, streak?, hstreak, hmerged⟩ := hload ragged d t hfound hloaded
    rw [(streaked_ragged.lookedUp _).oldStreak?_eq] at hstreak
    obtain rfl : some 7 = streak? := Except.ok.inj hstreak
    exact ⟨d, t, hloaded, hmerged⟩
  · have hout := outcome_importText (streaked_ragged.toOrderly.writable) (.str tattered.write) noon
    rw [Document.imported_of_read (read_of_reread reread_tattered he) hf] at hout
    obtain ⟨-, hmerged⟩ := himport _ _ _ hout
    refine ⟨_, _, hout, hmerged, ?_⟩
    obtain ⟨kept, hkept, hbadges⟩ := hmerged.badges
    obtain rfl : _ = members := Json.obj.inj hs.isObject
    obtain rfl : _ = badges := Json.arr.inj (Option.some.inj hs.hasBadges)
    obtain _ | ⟨hreads, hnil⟩ := hkept
    cases hnil
    obtain ⟨_, id, hobject, hid, rfl⟩ := hreads
    obtain rfl := Json.obj.inj hobject
    obtain rfl := Option.some.inj hid
    rw [hbadges]
    rfl

end Shelf

end Arcade
