import Arcade.Dashboard.Progress
import Arcade.Proofs.Calendar.TextOrder
import Arcade.Proofs.Ledger.DatedDays
import Arcade.Proofs.Ledger.Restart

/-!
# The most recent days

The activity of some days shows the logs of the days with the last names. When none are asked for,
it shows the logs of all days. The names of the days of a ledger are the texts of dates, which sort
as the dates do, so that what is shown is the most recent, in whichever order the clock showed it.
-/

namespace Arcade

namespace Text

/-- Whether a text comes before another one. -/
def Before (s t : String) : Prop := le s t = true ∧ s ≠ t

end Text

namespace Dashboard

variable {d : Document} {days : Int}

/-- The names of the logged days in order. -/
def loggedDays (d : Document) : List String := d.tally.days.names.mergeSort Text.le

theorem mem_loggedDays {day : String} : day ∈ loggedDays d ↔ day ∈ d.tally.days.names :=
  (List.mergeSort_perm _ _).mem_iff

theorem length_loggedDays (d : Document) : (loggedDays d).length = d.tally.days.size := by
  rw [loggedDays, List.length_mergeSort, Dict.names, List.length_map, Dict.size]

/-- No two days have one name, so that the names rise. -/
theorem pairwise_loggedDays (d : Document) : (loggedDays d).Pairwise Text.Before := by
  have hordered : (loggedDays d).Pairwise fun s t => Text.le s t = true := by
    refine List.pairwise_mergeSort ?_ ?_ d.tally.days.names
    · intro s t u hst htu
      exact Text.le_trans hst htu
    · exact Text.le_total
  have hdistinct : (loggedDays d).Nodup :=
    (List.mergeSort_perm _ Text.le).nodup_iff.2 d.tally.days.distinct
  exact hordered.and hdistinct

/-- The last days are all but so many of the first. -/
theorem lastDays_eq_drop (h : 0 ≤ days) (names : List String) : lastDays days names =
    names.drop (if days = 0 then 0 else names.length - days.toNat) := by
  unfold lastDays
  by_cases hzero : days = 0
  · rw [if_neg (by omega), if_pos hzero, hzero]
    rfl
  · rw [if_pos (by omega), if_neg hzero]

theorem length_lastDays (h : 0 ≤ days) (names : List String) : (lastDays days names).length =
    min (if days = 0 then names.length else days.toNat) names.length := by
  rw [lastDays_eq_drop h, List.length_drop]
  split <;> omega

/-- Every name that is kept is the name of a log. -/
theorem map_fst_dailyActivity (h : 0 ≤ days) (d : Document) :
    (dailyActivity d days).map Prod.fst = lastDays days (loggedDays d) := by
  have hlog : ∀ day ∈ lastDays days (loggedDays d),
      ((d.tally.days.get? day).map fun log => (day, log)).map Prod.fst = some day := by
    intro day hday
    rw [lastDays_eq_drop h] at hday
    have hname := mem_loggedDays.1 (List.mem_of_mem_drop hday)
    obtain ⟨log, hlog⟩ := Option.isSome_iff_exists.1 (Dict.contains_iff.2 hname)
    rw [hlog]
    rfl
  rw [dailyActivity, List.map_filterMap]
  exact (List.filterMap_congr hlog).trans List.filterMap_some

theorem get?_of_mem_dailyActivity {e : String × DayLog} (h : e ∈ dailyActivity d days) :
    d.tally.days.get? e.1 = some e.2 := by
  obtain ⟨day, -, hday⟩ := List.mem_filterMap.1 h
  obtain ⟨log, hlog, rfl⟩ := Option.map_eq_some_iff.1 hday
  exact hlog

/-- The logs of the most recent days of a document, so many of them if there are as many. -/
structure MostRecent (d : Document) (n : Nat) (shown : List (String × DayLog)) : Prop where
  count : shown.length = min n d.tally.days.size
  rising : (shown.map Prod.fst).Pairwise Text.Before
  stored : ∀ e ∈ shown, d.tally.days.get? e.1 = some e.2
  latest : ∀ day ∈ d.tally.days.names, day ∉ shown.map Prod.fst →
    ∀ e ∈ shown, Text.Before day e.1

theorem MostRecent.mem_names {n : Nat} {shown : List (String × DayLog)} {e : String × DayLog}
    (h : MostRecent d n shown) (he : e ∈ shown) : e.1 ∈ d.tally.days.names :=
  List.mem_map_of_mem (Dict.mem_entries_of_get? (h.stored e he))

/-- What a drop leaves out of a list in order comes before what it keeps. -/
theorem rel_of_not_mem_drop {α : Type} {r : α → α → Prop} {items : List α} {k : Nat} {x y : α}
    (h : items.Pairwise r) (hx : x ∈ items) (hleft : x ∉ items.drop k) (hy : y ∈ items.drop k) :
    r x y := by
  rw [← List.take_append_drop k items] at h hx
  have hfront := (List.mem_append.1 hx).resolve_right hleft
  exact (List.pairwise_append.1 h).2.2 x hfront y hy

/-- When no days are asked for, all are shown. -/
theorem mostRecent_dailyActivity (h : 0 ≤ days) (d : Document) :
    MostRecent d (if days = 0 then d.tally.days.size else days.toNat) (dailyActivity d days) := by
  have hnames := (map_fst_dailyActivity h d).trans (lastDays_eq_drop h (loggedDays d))
  refine ⟨?_, ?_, fun e => get?_of_mem_dailyActivity, fun day hday hleft e he => ?_⟩
  · rw [← List.length_map Prod.fst, map_fst_dailyActivity h, length_lastDays h, length_loggedDays]
  · rw [hnames]
    exact (pairwise_loggedDays d).drop
  · have he := List.mem_map_of_mem (f := Prod.fst) he
    rw [hnames] at hleft he
    exact rel_of_not_mem_drop (pairwise_loggedDays d) (mem_loggedDays.2 hday) hleft he

/-! ## Days of the clock -/

theorem ordinal_lt_of_before {i j : Instant} (h : Text.Before i.dayKey j.dayKey) :
    i.date.ordinal < j.date.ordinal := by
  obtain ⟨hle, hne⟩ := h
  rw [Text.le, bne_iff_ne, Instant.dayKey, Instant.dayKey, Date.order_text,
    Nat.compare_ne_gt] at hle
  refine Nat.lt_of_le_of_ne hle fun heq => hne ?_
  have hkey : i.date.key = j.date.key := by
    have := Date.compare_ordinal i.date j.date
    rwa [Nat.compare_eq_eq.2 heq, eq_comm, Nat.compare_eq_eq] at this
  rw [Instant.dayKey, Date.key_injective hkey, ← Instant.dayKey]

/-- Names that rise and are days of the clock are those of readings on later and later days. -/
theorem exists_instants_of_pairwise {readings : Instant → Prop} {names : List String}
    (hdated : ∀ day ∈ names, ∃ i, readings i ∧ day = i.dayKey)
    (hrising : names.Pairwise Text.Before) :
    ∃ instants : List Instant, (∀ i ∈ instants, readings i) ∧
      names = instants.map Instant.dayKey ∧
      instants.Pairwise fun i j => i.date.ordinal < j.date.ordinal := by
  have hnames : names ∈ Set.range (List.map fun i : Subtype readings => i.1.dayKey) := by
    rw [Set.range_list_map]
    intro day hday
    obtain ⟨i, hi, rfl⟩ := hdated day hday
    exact ⟨⟨i, hi⟩, rfl⟩
  obtain ⟨instants, rfl⟩ := hnames
  refine ⟨instants.map Subtype.val, fun i hi => ?_, by rw [List.map_map]; rfl, ?_⟩
  · obtain ⟨x, -, rfl⟩ := List.mem_map.1 hi
    exact x.2
  · rw [List.pairwise_map] at hrising ⊢
    exact hrising.imp ordinal_lt_of_before

/-- The activity of some days, zero or more, shows the most recent logs, as many as are asked for;
but all of them when none are asked for. The days of the clock sort as their names do, so that after
any run of a ledger what is shown are days of the clock, each later than the one before, if there
were no others at the start and in what the run took in. -/
theorem dailyActivity_latest (h : 0 ≤ days) (d : Document) :
    MostRecent d (if days = 0 then d.tally.days.size else days.toNat) (dailyActivity d days) ∧
    (MostRecent d days.toNat (dailyActivity d days) ↔ (days = 0 → d.tally.days.size = 0)) ∧
    (∀ i j : Instant, Text.order i.dayKey j.dayKey = compare i.date.ordinal j.date.ordinal) ∧
    ∀ (readings : Instant → Prop) (s : Shelf) (steps : List (Operation × Instant)),
      s.ledger.document.DatedBy readings → (∀ x ∈ steps, readings x.2) →
      (∀ before x e, before ++ [x] <+: steps → x.1.Takes (s.run before) x.2 e →
        e.DatedBy readings) →
      ∃ instants : List Instant, (∀ i ∈ instants, readings i) ∧
        (dailyActivity (s.run steps).ledger.document days).map Prod.fst =
          instants.map Instant.dayKey ∧
        instants.Pairwise fun i j => i.date.ordinal < j.date.ordinal := by
  have hrecent := mostRecent_dailyActivity h
  refine ⟨hrecent d, ⟨fun hasked hzero => ?_, fun hempty => ?_⟩,
    fun i j => Date.order_text i.date j.date, fun readings s steps hs hsteps htaken => ?_⟩
  · have hcount := (hrecent d).count
    rw [hasked.count, hzero] at hcount
    simpa using hcount.symm
  · by_cases hzero : days = 0
    · subst hzero
      have hall := hrecent d
      rwa [if_pos rfl, hempty rfl] at hall
    · have hall := hrecent d
      rwa [if_neg hzero] at hall
  · have hdated := Shelf.datedBy_run hs steps hsteps htaken
    have hshown := hrecent (s.run steps).ledger.document
    refine exists_instants_of_pairwise (fun day hday => ?_) hshown.rising
    obtain ⟨e, he, rfl⟩ := List.mem_map.1 hday
    exact hdated e.1 (hshown.mem_names he)

/-- A play on the day after noon, and one when the clock was set back. -/
def setBack : List (Operation × Instant) :=
  [(.countPlay "dice-roller", ⟨⟨2026, 10, 19, by decide⟩, TimeOfDay.midnight⟩),
    (.countPlay "dice-roller", Shelf.noon)]

theorem dailyActivity_latest_set_back :
    let d := ((Shelf.blank "gameverse-data" "rps-streak").run setBack).ledger.document
    (0 : Int) ≤ 1 ∧ d.tally.days.names = ["2026-10-19", "2026-10-18"] ∧
      (dailyActivity d 1).map Prod.fst = ["2026-10-19"] := by
  intro d
  have hnames : d.tally.days.names = ["2026-10-19", "2026-10-18"] := by
    have hdocument : d = ((Document.fresh []).countPlay "dice-roller"
        ⟨⟨2026, 10, 19, by decide⟩, TimeOfDay.midnight⟩).countPlay "dice-roller" Shelf.noon := by
      simp only [d, setBack, Shelf.run, List.foldl_cons, List.foldl_nil, Shelf.countPlay_document]
      rfl
    rw [hdocument]
    decide
  have hsize : d.tally.days.size = 2 := by
    rw [Dict.size, ← List.length_map Prod.fst, ← Dict.names, hnames]
    rfl
  obtain ⟨hrecent, -⟩ := dailyActivity_latest (show (0 : Int) ≤ 1 by decide) d
  refine ⟨by decide, hnames, ?_⟩
  obtain ⟨e, he⟩ : ∃ e, dailyActivity d 1 = [e] := by
    have hcount := hrecent.count
    rw [hsize] at hcount
    exact List.length_eq_one_iff.1 hcount
  have hmem : e ∈ dailyActivity d 1 := he ▸ List.mem_singleton_self e
  have hname := hrecent.mem_names hmem
  rw [he, List.map_singleton]
  rw [hnames] at hname
  rcases List.mem_cons.1 hname with hlast | hname
  · rw [hlast]
  · -- were the first day shown, the last one would come before it
    have hfirst := List.mem_singleton.1 hname
    have hbefore := hrecent.latest "2026-10-19" (by rw [hnames]; decide)
      (by rw [he, List.map_singleton, hfirst]; decide) e hmem
    rw [hfirst] at hbefore
    exact absurd hbefore.1 (by decide)

end Dashboard

end Arcade
