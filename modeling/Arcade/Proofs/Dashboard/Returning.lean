import Arcade.Proofs.Dashboard.Groups
import Arcade.Proofs.Dashboard.Performance
import Arcade.Proofs.Ledger.Importing
import Arcade.Proofs.Text.Lowercase

/-!
# Summaries of an imported document

Importing a document cleans its stat records, but it keeps the texts and the time of a badge as they
are found and stats of any size. So some summaries always return, and others depend on what was
found. A badge with a text that is not one is in the way of every query whose words are in none of
the texts before it, and there are such words. The badges can be put in order by time exactly if
the times of the unlocked ones can be read.
-/

namespace Arcade

namespace Text

theorem isLower_z : IsLower 'z' := fun _ _ => rfl

/-- For all texts there are words that none of them mentions. -/
theorem exists_unmentioned (texts : List String) : ∃ query : String,
    lower (trim query) ≠ "" ∧ ∀ s ∈ texts, mentions s (lower (trim query)) = false := by
  obtain ⟨n, hn⟩ : ∃ n, n = (texts.map String.length).sum + 1 := ⟨_, rfl⟩
  have htrimmed : Trimmed isBlank (List.replicate n 'z') := by
    refine ⟨fun c hc => ?_, fun c hc => ?_⟩
    · rw [List.eq_of_mem_replicate (List.mem_of_mem_head? hc)]
      rfl
    · rw [List.eq_of_mem_replicate (List.mem_of_mem_getLast? hc)]
      rfl
  have hwords : lower (trim (String.ofList (List.replicate n 'z'))) =
      String.ofList (List.replicate n 'z') := by
    rw [trim, trimWhere, String.toList_ofList, trimChars_eq_self htrimmed, lower,
      String.toList_ofList, lowerChars_of_isLower]
    intro c hc
    rw [List.eq_of_mem_replicate hc]
    exact isLower_z
  refine ⟨String.ofList (List.replicate n 'z'), ?_, fun s hs => ?_⟩
  · rw [hwords]
    intro hempty
    have hnil := congrArg String.toList hempty
    rw [String.toList_ofList, hn, List.replicate_succ] at hnil
    cases hnil
  · rw [hwords]
    by_contra hmentions
    obtain ⟨before, after, h⟩ := occursIn_iff.1 (Bool.eq_true_of_not_eq_false hmentions)
    have hle : s.length ≤ (texts.map String.length).sum :=
      List.le_sum_of_mem (List.mem_map_of_mem hs)
    have hlength := congrArg List.length h
    rw [String.toList_ofList, List.length_append, List.length_append, List.length_replicate,
      String.length_toList] at hlength
    omega

end Text

namespace Dashboard

variable {badges : List Badge}

/-! ## The badge screen -/

/-- Nothing on the way may fail if all of a list is to be read. -/
theorem returns_of_mapM {α β : Type} {f : α → Except Fault β} {l : List α} {l' : List β}
    (h : l.mapM f = .ok l') : ∀ x ∈ l, ∃ y, f x = .ok y := by
  rw [mapM_eq_ok] at h
  induction h with
  | nil => exact nofun
  | cons hy _ ih => exact List.forall_mem_cons.2 ⟨⟨_, hy⟩, ih⟩

theorem returns_of_filterAuxM {p : Badge → Except Fault Bool} {found r : List Badge}
    (h : List.filterAuxM p badges found = .ok r) : ∀ b ∈ badges, ∃ x, p b = .ok x := by
  induction badges generalizing found with
  | nil => exact nofun
  | cons b badges ih =>
    rw [List.forall_mem_cons]
    obtain ⟨x, hx, h⟩ := bind_eq_ok.1 h
    exact ⟨⟨x, hx⟩, ih h⟩

/-- Words that are in none of the texts are looked for in all of them. -/
theorem texts_of_anyHolds {words : String} {vs : List Json} {found : Bool}
    (h : anyHolds words vs = .ok found)
    (hnone : ∀ v ∈ vs, Text.mentions (Text.lower v.text) words = false) :
    ∀ v ∈ vs, ∃ s, v = .str s := by
  induction vs with
  | nil => exact nofun
  | cons v vs ih =>
    rw [List.forall_mem_cons] at hnone ⊢
    obtain ⟨s, hs, h⟩ := bind_eq_ok.1 h
    cases v with
    | str t =>
      obtain rfl := Except.ok.inj hs
      have hmentions : Text.mentions (Text.lower t) words = false := hnone.1
      rw [if_neg (Bool.eq_false_iff.1 hmentions)] at h
      exact ⟨⟨t, rfl⟩, ih h hnone.2⟩
    | _ => cases hs

/-- Every query returns only if all texts of the badges are texts. -/
theorem hasTexts_of_filterBadges
    (h : ∀ query : String, ∃ found, filterBadges badges (.str "all") (.str query) = .ok found) :
    ∀ b ∈ badges, b.HasTexts := by
  obtain ⟨query, hwords, hnone⟩ := Text.exists_unmentioned <| badges.flatMap fun b =>
    [b.title, b.description, b.game, b.requirement].map fun v => Text.lower v.text
  obtain ⟨found, hfound⟩ := h query
  have hall : badges.filter (isOnTab (.str "all")) = badges :=
    List.filter_eq_self.2 fun b _ => by simp [isOnTab]
  rw [filterBadges_str, if_neg hwords, hall] at hfound
  obtain ⟨kept, hkept, -⟩ := bind_eq_ok.1 hfound
  intro b hb
  obtain ⟨x, hx⟩ := returns_of_filterAuxM hkept b hb
  have htexts := texts_of_anyHolds hx fun v hv =>
    hnone _ (List.mem_flatMap.2 ⟨b, hb, List.mem_map_of_mem hv⟩)
  simp only [List.forall_mem_cons] at htexts
  exact ⟨htexts.1, htexts.2.1, htexts.2.2.1, htexts.2.2.2.1⟩

theorem hasTime_of_sortBadges (h : ∃ sorted, sortBadges badges .oldest = .ok sorted) :
    ∀ b ∈ badges, b.unlocked = true → b.HasTime := by
  intro b hb hunlocked
  obtain ⟨sorted, h⟩ := h
  obtain ⟨pairs, hpairs, -⟩ := bind_eq_ok.1 h
  obtain ⟨pair, hpair⟩ := returns_of_mapM hpairs b (List.mem_filter.2 ⟨hb, hunlocked⟩)
  obtain ⟨i, hi, -⟩ := bind_eq_ok.1 hpair
  obtain ⟨t, ht, -⟩ := bind_eq_ok.1 hi
  exact ⟨t, ht⟩

/-- The badge screen can be shown in every way exactly if all texts of the badges are texts, and
the times at which they were unlocked can be read. -/
theorem returns_badgeScreen : ((∃ groups, badgesByGame badges = .ok groups) ∧
    (∀ tab query : String, ∃ found, filterBadges badges (.str tab) (.str query) = .ok found) ∧
    ∀ order, ∃ sorted, sortBadges badges order = .ok sorted) ↔
      ∀ b ∈ badges, b.HasTexts ∧ (b.unlocked = true → b.HasTime) := by
  constructor
  · rintro ⟨-, hfilter, hsort⟩ b hb
    exact ⟨hasTexts_of_filterBadges (hfilter "all") b hb,
      hasTime_of_sortBadges (hsort .oldest) b hb⟩
  · intro h
    have htexts : ∀ b ∈ badges, b.HasTexts := fun b hb => (h b hb).1
    have htimes : ∀ b ∈ badges, b.unlocked = true → b.HasTime := fun b hb => (h b hb).2
    refine ⟨⟨_, badgesByGame_eq fun b hb => (htexts b hb).game⟩,
      fun tab query => ⟨_, filterBadges_texts htexts (.str tab) query⟩, fun order => ?_⟩
    cases order with
    | standard => exact ⟨_, sortBadges_standard fun b hb => (htexts b hb).game⟩
    | alphabetical => exact ⟨_, sortBadges_alphabetical fun b hb => (htexts b hb).title⟩
    | oldest => exact ⟨_, sortBadges_oldest htimes⟩
    | newest => exact ⟨_, sortBadges_newest htimes⟩

/-! ## Imported documents -/

theorem clean_startRecord {g : Game} (hg : g ∈ Game.registry) :
    (Document.startRecord g).Clean := by
  intro e he
  have hsound := StatRecord.sound_startRecord hg e he
  obtain ⟨x, -, rfl⟩ := List.mem_map.1 (Dict.mem_entries_ofList he)
  exact StatRecord.clean?_of_soundStat hsound (.inr ⟨x.2, rfl⟩)

/-- The stats of an imported document are clean. -/
theorem clean_of_imported {v : Json} {now : Instant} {d : Document}
    (h : Document.imported v now = .ok d) : ∀ e ∈ d.progress.entries, StatRecord.Clean e.2 := by
  obtain ⟨e, hread, hi⟩ := Document.exists_of_imported h
  obtain ⟨w, -, hw⟩ := bind_eq_ok.1 hread
  intro x hx
  rw [hi.progress] at hx
  rcases List.mem_append.1 hx with hx | hx
  · exact Document.clean_of_ofJson hw x hx
  · obtain ⟨g, hg, rfl⟩ := List.mem_map.1 hx
    exact clean_startRecord (List.mem_of_mem_filter hg)

/-- Of an imported document, the shares of badges and challenges are always told. The badge screen
can be shown in every way exactly if the texts of all badges are texts and the times at which they
were unlocked can be read. The best performance is told exactly if the win rates are doubles below
the bound for a percentage and, unless one of them is positive, the reaction time can be divided. -/
theorem summaries_return {s : Shelf} (hs : s.Writable) {v : Json} {now : Instant} {d : Document}
    (h : ((Shelf.importText v now).outcome s).1 = .ok d) :
    (∃ share, badgeProgress d = .ok share) ∧
    (∃ share, challengeProgress d = .ok share) ∧
    (((∃ groups, badgesByGame d.badges = .ok groups) ∧
      (∀ tab query : String, ∃ found, filterBadges d.badges (.str tab) (.str query) = .ok found) ∧
      ∀ order, ∃ sorted, sortBadges d.badges order = .ok sorted) ↔
        ∀ b ∈ d.badges, b.HasTexts ∧ (b.unlocked = true → b.HasTime)) ∧
    ((∃ words, bestPerformance d = .ok words) ↔
      (∀ e ∈ d.progress.entries, HasRate e.2) ∧
        ((∃ e ∈ d.progress.entries, ∃ x, winRate? e.2 = .ok (some x) ∧ 0.0 < x) ∨
          ∀ e ∈ d.progress.entries, e.1 = "reaction-speed" →
            ∃ time, (stat e.2 "bestTime").div 5 = .ok time)) := by
  have himported : Document.imported v now = .ok d := by
    rw [Shelf.outcome_importText hs] at h
    cases hi : Document.imported v now with
    | error e =>
      rw [hi] at h
      cases h
    | ok e =>
      rw [hi] at h
      obtain rfl := Except.ok.inj h
      rfl
  exact ⟨returns_badgeProgress d, returns_challengeProgress d, returns_badgeScreen,
    returns_bestPerformance (clean_of_imported himported)⟩

/-- A badge whose title is a number. -/
def oddBadge : Badge := ⟨"x", .num 5, .str "", .str "", .str "", .str "", false, .null⟩

/-- A document with nothing but that badge can be imported, and the best performance is told, but
not everything that can be asked of the badge screen is. -/
theorem summaries_return_odd :
    let text : Json := .str (Document.exported ⟨Dict.empty, [oddBadge], [], {}⟩)
    let now : Instant := ⟨⟨2026, 10, 18, by decide⟩, .midnight⟩
    let shelf := Shelf.bare fun _ _ => false
    shelf.Writable ∧ ∃ d, ((Shelf.importText text now).outcome shelf).1 = .ok d ∧
      (∃ words, bestPerformance d = .ok words) ∧
      ¬ ((∃ groups, badgesByGame d.badges = .ok groups) ∧
        (∀ tab query : String,
          ∃ found, filterBadges d.badges (.str tab) (.str query) = .ok found) ∧
        ∀ order, ∃ sorted, sortBadges d.badges order = .ok sorted) := by
  intro text now shelf
  have hshelf : shelf.Writable := Shelf.writable_bare _
  have hread : Document.read text = .ok ⟨Dict.empty, [oddBadge], [], {}⟩ :=
    Document.read_exported (v := Document.toJson ⟨Dict.empty, [oddBadge], [], {}⟩) rfl
      (Json.read_writeIndented.2 (Json.echo_of_isPlain _ _ rfl))
  have hm : now.nextMidnight = .ok ⟨⟨2026, 10, 19, by decide⟩, .midnight⟩ := rfl
  obtain ⟨f, hup⟩ : ∃ f, Document.broughtUp ⟨Dict.empty, [oddBadge], [], {}⟩ now = .ok f :=
    ⟨_, bind_eq_ok.2 ⟨_, Challenge.refreshed_eq_ok.2
      (.inr ⟨rfl, Challenge.generation_eq_ok.2 ⟨_, hm, rfl⟩⟩), rfl⟩⟩
  have hd : ((Shelf.importText text now).outcome shelf).1 = .ok (f.withDay now) := by
    rw [Shelf.outcome_importText hshelf, Document.imported, hread]
    dsimp only
    rw [hup]
    rfl
  have hi := Document.imported_of_broughtUp hup
  have hbadge : oddBadge ∈ (f.withDay now).badges := by
    rw [hi.badges]
    exact List.mem_append_left _ List.mem_cons_self
  have hstart : ∀ g ∈ Game.registry, winRate? (Document.startRecord g) = .ok none ∧
      (stat (Document.startRecord g) "bestTime").isZero = true := by decide
  have hentries : ∀ e ∈ (f.withDay now).progress.entries,
      winRate? e.2 = .ok none ∧ (stat e.2 "bestTime").isZero = true := by
    rw [hi.progress]
    intro e he
    obtain ⟨g, hg, rfl⟩ := List.mem_map.1 he
    exact hstart g (List.mem_of_mem_filter hg)
  obtain ⟨-, -, hscreen, hbest⟩ := summaries_return hshelf hd
  refine ⟨hshelf, _, hd, hbest.2 ⟨fun e he => ⟨none, (hentries e he).1, fun x hx =>
      absurd hx (Option.not_mem_none x)⟩,
    .inr fun e he _ => returns_div_of_isZero (hentries e he).2⟩, fun hall => ?_⟩
  obtain ⟨s, hs⟩ := (hscreen.1 hall oddBadge hbadge).1.title
  cases hs

end Dashboard

end Arcade
