import Arcade.Proofs.Calendar.Days
import Arcade.Proofs.Challenge.Lasting

/-!
# A generation lives for its day

The challenges that are made on a day all name the midnight at the start of the day after as their
end. Until then none of them is expired and the list is not due for replacement. From then on all of
them are expired and the list is due, and it is replaced by a list that stays as it is for the rest
of that day.
-/

namespace Arcade

namespace Instant

variable {a b m : Instant}

/-- Every day but the last one ends with a midnight. -/
theorem exists_nextMidnight (h : a.date.ordinal < Date.last.ordinal) :
    ∃ m, a.nextMidnight = .ok m ∧ m.date.ordinal = a.date.ordinal + 1 ∧
      m.time = TimeOfDay.midnight := by
  obtain ⟨e, he⟩ := Date.exists_next h
  exact ⟨⟨e, TimeOfDay.midnight⟩, bind_eq_ok.2 ⟨e, he, rfl⟩, Date.ordinal_next he, rfl⟩

/-- The midnight at the end of a day has passed at the start of every later day. -/
theorem nextMidnight_le_startOfDay_iff (h : a.nextMidnight = .ok m) :
    m ≤ b.startOfDay ↔ a.date.ordinal < b.date.ordinal := by
  obtain ⟨hnext, -⟩ := date_of_nextMidnight h
  have hm : m.startOfDay = m := isMidnight_of_nextMidnight h
  rw [← hm, startOfDay_le_iff, Date.key_next_le_iff hnext]

end Instant

namespace Challenge

variable {a b m now : Instant} {c : Challenge} {cs : List Challenge}

/-- There are challenges for every day but the last one. -/
theorem exists_generation (h : a.date.ordinal < Date.last.ordinal) :
    ∃ cs, generation a = .ok cs := by
  obtain ⟨m, hm, -⟩ := Instant.exists_nextMidnight h
  exact ⟨_, generation_eq_ok.2 ⟨m, hm, rfl⟩⟩

/-- A generation is due for replacement on every later day. -/
theorem needsRefresh_generation_eq (h : generation a = .ok cs) (b : Instant) :
    needsRefresh cs b = .ok (decide (a.date.ordinal < b.date.ordinal)) := by
  obtain ⟨m, hm, rfl⟩ := generation_eq_ok.1 h
  obtain ⟨first, others, hcatalog⟩ : ∃ d ds, catalog = d :: ds := ⟨_, _, rfl⟩
  have hread : Timestamp.read (ofDesign first m.timestamp).expiresAt = .ok (some m) :=
    read_nextMidnight hm
  rw [hcatalog, List.map_cons, needsRefresh_of_read hread,
    decide_eq_decide.2 (Instant.nextMidnight_le_startOfDay_iff hm)]

/-- Challenges that are not due are not replaced. -/
theorem replacement?_of_not_due (h : needsRefresh cs now = .ok false) :
    replacement? cs now = .ok none :=
  replacement?_eq_ok.2 (.inl ⟨h, rfl⟩)

/-- What is due on a day that is not the last one is replaced. -/
theorem exists_refreshed {due : Bool} (hdue : needsRefresh cs now = .ok due)
    (h : now.date.ordinal < Date.last.ordinal) : ∃ fresh, refreshed cs now = .ok fresh := by
  cases due with
  | false => exact ⟨cs, refreshed_eq_ok.2 (.inl ⟨hdue, rfl⟩)⟩
  | true =>
    obtain ⟨fresh, hfresh⟩ := exists_generation h
    exact ⟨fresh, refreshed_eq_ok.2 (.inr ⟨hdue, hfresh⟩)⟩

/-- A generation names one end, the midnight that follows its day. It is due for replacement exactly
on later days, which is when all of its challenges are expired, and also when one of them is. Until
then it is kept as it is. What it is brought up to date to at some instant is kept there. -/
theorem lives_its_day {a b : Instant} (ha : a.date.ordinal < Date.last.ordinal)
    (hb : b.date.ordinal < Date.last.ordinal) :
    ∃ cs, generation a = .ok cs ∧ cs ≠ [] ∧
      (∃ e m, (∀ c ∈ cs, c.expiresAt = e) ∧ Timestamp.read e = .ok (some m) ∧
        m.date.ordinal = a.date.ordinal + 1 ∧ m.time = TimeOfDay.midnight) ∧
      (∃ due, needsRefresh cs b = .ok due ∧ ∀ c ∈ cs, ∃ expired, c.isExpired b = .ok expired) ∧
      (needsRefresh cs b = .ok true ↔ a.date.ordinal < b.date.ordinal) ∧
      (needsRefresh cs b = .ok true ↔ ∀ c ∈ cs, c.isExpired b = .ok true) ∧
      (needsRefresh cs b = .ok true ↔ ∃ c ∈ cs, c.isExpired b = .ok true) ∧
      (needsRefresh cs b ≠ .ok true → replacement? cs b = .ok none ∧ refreshed cs b = .ok cs) ∧
      ∃ fresh, refreshed cs b = .ok fresh ∧ replacement? fresh b = .ok none ∧
        refreshed fresh b = .ok fresh := by
  obtain ⟨m, hm, hordinal, hmidnight⟩ := Instant.exists_nextMidnight ha
  have hgeneration := generation_eq_ok.2 ⟨m, hm, rfl⟩
  generalize hcs : catalog.map (ofDesign · m.timestamp) = cs at hgeneration
  have hends : ∀ c ∈ cs, c.expiresAt = m.timestamp := by
    rintro c hc
    rw [← hcs] at hc
    obtain ⟨d, -, rfl⟩ := List.mem_map.1 hc
    rfl
  have hne : cs ≠ [] := by
    rintro rfl
    cases hcs
  have hdue := needsRefresh_generation_eq hgeneration b
  have hexpired : ∀ c ∈ cs, c.isExpired b = needsRefresh cs b := fun c hc =>
    (uniform_generation hgeneration).isExpired hc b
  obtain ⟨first, hfirst⟩ := List.exists_mem_of_ne_nil cs hne
  obtain ⟨fresh, hfresh⟩ := exists_refreshed hdue hb
  refine ⟨cs, hgeneration, hne, ⟨_, m, hends, read_nextMidnight hm, hordinal, hmidnight⟩,
    ⟨_, hdue, fun c hc => ⟨_, (hexpired c hc).trans hdue⟩⟩, ?_, ?_, ?_, fun hnot => ?_,
    fresh, hfresh, replacement?_of_not_due (needsRefresh_refreshed hfresh),
    refreshed_refreshed hfresh⟩
  · rw [hdue, Except.ok.injEq, decide_eq_true_iff]
  · exact ⟨fun h c hc => (hexpired c hc).trans h, fun h => hexpired first hfirst ▸ h first hfirst⟩
  · exact ⟨fun h => ⟨first, hfirst, (hexpired first hfirst).trans h⟩,
      fun ⟨c, hc, h⟩ => hexpired c hc ▸ h⟩
  · have hfalse : needsRefresh cs b = .ok false := by
      rw [hdue] at hnot ⊢
      rw [Ne, Except.ok.injEq, Bool.not_eq_true] at hnot
      rw [hnot]
    exact ⟨replacement?_of_not_due hfalse, refreshed_eq_ok.2 (.inl ⟨hfalse, rfl⟩)⟩

/-- The last microsecond of a year. -/
def newYearsEve : Instant :=
  ⟨⟨2023, 12, 31, by decide⟩, ⟨Fin.last 23, Fin.last 59, Fin.last 59, Fin.last 999999⟩⟩

/-- The first microsecond of the next year. -/
def newYear : Instant := ⟨⟨2024, 1, 1, by decide⟩, TimeOfDay.midnight⟩

/-- The challenges of New Year's Eve are due and expired a microsecond later. -/
theorem lives_its_day_newYear : newYearsEve.date.ordinal < Date.last.ordinal ∧
    newYear.date.ordinal < Date.last.ordinal ∧ ∃ cs, generation newYearsEve = .ok cs ∧ cs ≠ [] ∧
      needsRefresh cs newYear = .ok true ∧ ∀ c ∈ cs, c.isExpired newYear = .ok true := by
  have heve : newYearsEve.date.ordinal < Date.last.ordinal := by decide
  have hnew : newYear.date.ordinal < Date.last.ordinal := by decide
  obtain ⟨cs, hgeneration, hne, -, -, hlater, hall, -⟩ := lives_its_day heve hnew
  have hdue := hlater.2 (by decide)
  exact ⟨heve, hnew, cs, hgeneration, hne, hdue, hall.1 hdue⟩

end Challenge

end Arcade
