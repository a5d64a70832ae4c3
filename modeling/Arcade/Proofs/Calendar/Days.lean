import Arcade.Calendar.Instant
import Mathlib.Tactic.IntervalCases

/-!
# Days in a row

The ordinal of a date counts the days from the first one on. The day after a date has the next
ordinal, at the end of a month, of a leap year and of a century as well, and only the last day of
all has no day after it. Dates are in the order of their ordinals, so that there is no date between
a day and the next one.
-/

namespace Arcade

namespace Calendar

/-- The number of days of a year. -/
def daysInYear (year : Nat) : Nat := if isLeap year then 366 else 365

theorem isLeap_iff (year : Nat) : isLeap year = true ↔ 4 ∣ year ∧ (100 ∣ year → 400 ∣ year) := by
  simp only [isLeap, Bool.and_eq_true, Bool.or_eq_true, beq_iff_eq, bne_iff_ne, ne_eq,
    ← Nat.dvd_iff_mod_eq_zero, imp_iff_not_or]

theorem daysBeforeYear_succ {year : Nat} (h : 1 ≤ year) :
    daysBeforeYear (year + 1) = daysBeforeYear year + daysInYear year := by
  obtain ⟨y, rfl⟩ := Nat.exists_eq_add_of_le' h
  -- A century is divisible by 4 as well, and four centuries by 100.
  have hcentury : 100 ∣ y + 1 → 4 ∣ y + 1 := Nat.dvd_trans (by decide)
  have hfour : 400 ∣ y + 1 → 100 ∣ y + 1 := Nat.dvd_trans (by decide)
  have hle : y / 100 ≤ y / 4 := Nat.div_le_div_left (by decide) (by decide)
  simp only [daysBeforeYear, daysInYear, isLeap_iff, Nat.add_sub_cancel, Nat.succ_div]
  generalize y / 4 = fours, y / 100 = centuries, y / 400 = quads at hle ⊢
  by_cases h4 : 4 ∣ y + 1
  · by_cases h100 : 100 ∣ y + 1
    · by_cases h400 : 400 ∣ y + 1
      · simp only [h4, h100, h400, if_true, true_and, imp_self]
        omega
      · simp only [h4, h100, h400, if_true, if_false, true_and, true_implies]
        omega
    · simp only [h4, h100, mt hfour h100, if_true, if_false, true_and, false_implies]
      omega
  · simp only [h4, mt hcentury h4, mt hfour (mt hcentury h4), if_false, false_and]
    omega

/-- A year begins after all days of the years before it. -/
theorem daysBeforeYear_mono {y z : Nat} (hy : 1 ≤ y) (h : y ≤ z) :
    daysBeforeYear y ≤ daysBeforeYear z := by
  induction z, h using Nat.le_induction with
  | base => exact Nat.le_refl _
  | succ z hz ih =>
    rw [daysBeforeYear_succ (Nat.le_trans hy hz)]
    exact Nat.le_trans ih (Nat.le_add_right _ _)

theorem daysBeforeMonth_succ (year : Nat) {month : Nat} (h : 1 ≤ month) :
    daysBeforeMonth year (month + 1) = daysBeforeMonth year month + daysInMonth year month := by
  obtain ⟨m, rfl⟩ := Nat.exists_eq_add_of_le' h
  unfold daysBeforeMonth
  rw [Nat.add_sub_cancel, Nat.add_sub_cancel, List.range_succ, List.map_append, total_append,
    List.map_singleton, total_cons, total_nil, Nat.add_zero]

theorem daysBeforeMonth_mono (year : Nat) {m n : Nat} (hm : 1 ≤ m) (h : m ≤ n) :
    daysBeforeMonth year m ≤ daysBeforeMonth year n := by
  induction n, h using Nat.le_induction with
  | base => exact Nat.le_refl _
  | succ n hn ih =>
    rw [daysBeforeMonth_succ year (Nat.le_trans hm hn)]
    exact Nat.le_trans ih (Nat.le_add_right _ _)

/-- The twelve months make the year. -/
theorem daysBeforeMonth_thirteen (year : Nat) : daysBeforeMonth year 13 = daysInYear year := by
  unfold daysInYear
  cases hl : isLeap year <;> simp [daysBeforeMonth, daysInMonth, List.range_succ, hl]

end Calendar

namespace Date

open Calendar

variable {a b d e : Date}

/-- The last day of all. -/
def last : Date := ⟨9999, 12, 31, by decide⟩

theorem ofParts?_eq_some {year month day : Nat} :
    ofParts? year month day = some d ↔ d.year = year ∧ d.month = month ∧ d.day = day := by
  unfold ofParts?
  constructor
  · intro h
    split at h
    · cases h
      exact ⟨rfl, rfl, rfl⟩
    · cases h
  · rintro ⟨rfl, rfl, rfl⟩
    rw [dif_pos d.valid]

theorem ofParts?_eq_none {year month day : Nat} : ofParts? year month day = none ↔
    ¬ (1 ≤ year ∧ year ≤ lastYear ∧ 1 ≤ day ∧ day ≤ daysInMonth year month) := by
  unfold ofParts?
  split
  · rename_i h
    exact iff_of_false (Option.some_ne_none _) (not_not_intro h)
  · rename_i h
    exact iff_of_true rfl h

/-! ## The day after -/

/-- Every month of the year has a first day. -/
theorem daysInMonth_pos (year : Nat) {month : Nat} (h : 1 ≤ month) (h' : month ≤ 12) :
    1 ≤ daysInMonth year month := by
  cases hleap : isLeap year <;> interval_cases month <;> simp [daysInMonth, hleap]

/-- The day after a date is the next day of the month, the first of the next month after the end of
a month, or the first of January after the end of a year. -/
theorem next_cases (h : d.next = .ok e) :
    (e.year = d.year ∧ e.month = d.month ∧ e.day = d.day + 1) ∨
    (d.day = daysInMonth d.year d.month ∧
      ((e.year = d.year ∧ e.month = d.month + 1 ∧ e.day = 1) ∨
        (d.month = 12 ∧ e.year = d.year + 1 ∧ e.month = 1 ∧ e.day = 1))) := by
  have hvalid := d.valid
  have hmonth := d.month_le
  unfold next at h
  cases hday : ofParts? d.year d.month (d.day + 1) with
  | some x =>
    rw [hday] at h
    cases h
    exact .inl (ofParts?_eq_some.1 hday)
  | none =>
    -- The next day of the month is no date only after the last one.
    have hend : d.day = daysInMonth d.year d.month := by
      have := ofParts?_eq_none.1 hday
      omega
    rw [hday] at h
    refine .inr ⟨hend, ?_⟩
    dsimp only at h
    cases hmore : ofParts? d.year (d.month + 1) 1 with
    | some x =>
      rw [hmore] at h
      cases h
      exact .inl (ofParts?_eq_some.1 hmore)
    | none =>
      -- Every month has a first day, so that there is no next month only after December.
      have htwelve : d.month = 12 := by
        have := ofParts?_eq_none.1 hmore
        have := daysInMonth_pos d.year (Nat.le_add_left 1 d.month)
        omega
      rw [hmore] at h
      dsimp only at h
      cases hyear : ofParts? (d.year + 1) 1 1 with
      | some x =>
        rw [hyear] at h
        cases h
        exact .inr ⟨htwelve, ofParts?_eq_some.1 hyear⟩
      | none =>
        rw [hyear] at h
        cases h

/-- The day after a date has the next ordinal. -/
theorem ordinal_next (h : d.next = .ok e) : e.ordinal = d.ordinal + 1 := by
  have hfirst : ∀ year, daysBeforeMonth year 1 = 0 := fun _ => rfl
  unfold ordinal
  rcases next_cases h with ⟨hy, hm, hd⟩ | ⟨hend, ⟨hy, hm, hd⟩ | ⟨htwelve, hy, hm, hd⟩⟩
  · rw [hy, hm, hd, Nat.add_assoc _ d.day 1]
  · rw [hy, hm, hd, daysBeforeMonth_succ _ d.month_pos, ← hend]
    omega
  · have hyear := daysBeforeMonth_thirteen d.year
    rw [daysBeforeMonth_succ d.year (show 1 ≤ 12 by decide), ← htwelve, ← hend] at hyear
    rw [hy, hm, hd, daysBeforeYear_succ d.valid.1, hfirst, ← hyear]
    omega

/-! ## The order of dates -/

/-- Dates are ordered by the year, then by the month, then by the day. -/
theorem key_lt_iff : a.key < b.key ↔ a.year < b.year ∨ a.year = b.year ∧
    (a.month < b.month ∨ a.month = b.month ∧ a.day < b.day) := by
  have ha := daysInMonth_le a.year a.month
  have hb := daysInMonth_le b.year b.month
  have ha' := a.valid
  have hb' := b.valid
  have hma := a.month_le
  have hmb := b.month_le
  unfold key
  omega

theorem ordinal_lt_of_key (h : a.key < b.key) : a.ordinal < b.ordinal := by
  have ha := a.valid
  have hb := b.valid
  have hmonth := daysBeforeMonth_succ a.year a.month_pos
  unfold ordinal
  rcases key_lt_iff.1 h with hy | ⟨hy, hm | ⟨hm, hd⟩⟩
  · -- A date is in its year, which is over when a later one begins.
    have hin := daysBeforeMonth_mono a.year (Nat.le_add_left 1 a.month)
      (show a.month + 1 ≤ 13 from Nat.succ_le_succ a.month_le)
    rw [daysBeforeMonth_thirteen] at hin
    have hover := daysBeforeYear_mono (Nat.le_add_left 1 a.year) (Nat.succ_le_of_lt hy)
    rw [daysBeforeYear_succ ha.1] at hover
    omega
  · have hover := daysBeforeMonth_mono a.year (Nat.le_add_left 1 a.month) (Nat.succ_le_of_lt hm)
    rw [hy] at hover
    rw [hy] at hmonth ha ⊢
    omega
  · rw [hy, hm]
    omega

/-- Dates are in the order of their ordinals. -/
theorem ordinal_lt_iff : a.ordinal < b.ordinal ↔ a.key < b.key := by
  refine ⟨fun h => Nat.lt_of_not_le fun hle => ?_, ordinal_lt_of_key⟩
  rcases Nat.lt_or_eq_of_le hle with hlt | heq
  · exact Nat.lt_asymm h (ordinal_lt_of_key hlt)
  · rw [key_injective heq] at h
    exact Nat.lt_irrefl _ h

/-- No date is between a day and the next one. -/
theorem key_next_le_iff (h : d.next = .ok e) : e.key ≤ b.key ↔ d.ordinal < b.ordinal := by
  rw [← Nat.not_lt, ← ordinal_lt_iff, ordinal_next h, Nat.not_lt, Nat.succ_le_iff]

/-- Every day before the last year is before the last day. -/
theorem ordinal_lt_last (h : d.year < lastYear) : d.ordinal < last.ordinal :=
  ordinal_lt_iff.2 (key_lt_iff.2 (.inl h))

/-- Every day but the last one has a day after it. -/
theorem exists_next (h : d.ordinal < last.ordinal) : ∃ e, d.next = .ok e := by
  have hkey := key_lt_iff.1 (ordinal_lt_iff.1 h)
  have hvalid := d.valid
  have hmonth := d.month_le
  have hyear : d.year = 9999 → d.month = 12 → d.day < 31 := by
    intro hy hm
    rw [hy, hm] at hkey
    simpa [last] using hkey
  unfold next
  cases hday : ofParts? d.year d.month (d.day + 1) with
  | some x => exact ⟨x, rfl⟩
  | none =>
    dsimp only
    cases hmore : ofParts? d.year (d.month + 1) 1 with
    | some x => exact ⟨x, rfl⟩
    | none =>
      dsimp only
      cases hnew : ofParts? (d.year + 1) 1 1 with
      | some x => exact ⟨x, rfl⟩
      | none =>
        -- This would be the last of December, and a year after the last one.
        exfalso
        have hend := ofParts?_eq_none.1 hday
        have htwelve := ofParts?_eq_none.1 hmore
        have hlast := ofParts?_eq_none.1 hnew
        have hpos := daysInMonth_pos d.year (Nat.le_add_left 1 d.month)
        have hjanuary : daysInMonth (d.year + 1) 1 = 31 := rfl
        have hdecember : daysInMonth d.year 12 = 31 := rfl
        have hm : d.month = 12 := by omega
        rw [hm] at hend hvalid
        unfold lastYear at *
        omega

end Date

end Arcade
