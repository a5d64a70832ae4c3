import Arcade.Rule.Evaluation

/-!
# What rules read in a record

A record that a ledger keeps holds numbers only. A rule that looks at such a record never stumbles:
it finds a number or nothing, and two numbers can always be compared.
-/

namespace Arcade

section Lists

variable {α β κ : Type} [DecidableEq κ]

theorem valueAt?_map (f : κ → α → β) (name : κ) (entries : List (κ × α)) :
    valueAt? name (entries.map fun e => (e.1, f e.1 e.2)) =
      (valueAt? name entries).map (f name) := by
  induction entries with
  | nil => rfl
  | cons e rest ih =>
    by_cases he : e.1 = name
    · rw [List.map_cons, valueAt?, if_pos he, valueAt?, if_pos he, Option.map_some, he]
    · rw [List.map_cons, valueAt?, if_neg he, valueAt?, if_neg he, ih]

@[simp] theorem Dict.get?_mapValues (f : κ → α → β) (d : Dict α κ) (name : κ) :
    (d.mapValues f).get? name = (d.get? name).map (f name) :=
  valueAt?_map f name d.entries

end Lists

/-! ## Numbers as values -/

theorem Number.same_eq_accepts (m n : Number) :
    m.same n = Comparator.equal.accepts (m.compare? n) := by
  unfold Number.same Comparator.accepts
  rcases m.compare? n with _ | _ | _ | _ <;> rfl

/-- Two numbers can always be compared. -/
@[simp] theorem Comparator.relates_num (c : Comparator) (m n : Number) :
    c.relates (.num m) (.num n) = .ok (c.accepts (m.compare? n)) := by
  cases c with
  | equal => exact congrArg Except.ok (Number.same_eq_accepts m n)
  | atLeast | above | atMost => rfl

theorem Comparator.accepts_atLeast_int (m n : Int) :
    Comparator.atLeast.accepts (some (compare m n)) = decide (n ≤ m) := by
  rcases h : compare m n with _ | _ | _
  · rw [Int.compare_eq_lt] at h
    exact (decide_eq_false (Int.not_le.2 h)).symm
  · rw [Int.compare_eq_eq] at h
    exact (decide_eq_true (Int.le_of_eq h.symm)).symm
  · rw [Int.compare_eq_gt] at h
    exact (decide_eq_true (Int.le_of_lt h)).symm

theorem Comparator.accepts_above_int (m n : Int) :
    Comparator.above.accepts (some (compare m n)) = decide (n < m) := by
  rcases h : compare m n with _ | _ | _
  · rw [Int.compare_eq_lt] at h
    exact (decide_eq_false (Int.not_lt.2 (Int.le_of_lt h))).symm
  · rw [Int.compare_eq_eq] at h
    exact (decide_eq_false (Int.not_lt.2 (Int.le_of_eq h))).symm
  · rw [Int.compare_eq_gt] at h
    exact (decide_eq_true h).symm

namespace StatRecord

variable (r : StatRecord) (field : String)

/-! ## Stats -/

@[simp] theorem member?_toJson :
    r.toJson.member? field = .ok ((Dict.get? r field).map Json.num) :=
  congrArg Except.ok (valueAt?_map (fun _ n => Json.num n) field r.entries)

/-- What a stat counts as: nothing recorded is zero. -/
def reading : Number := ((Dict.get? r field).filter fun n => !n.isZero).getD 0

theorem reading_of_none {r : StatRecord} {field : String} (h : Dict.get? r field = none) :
    r.reading field = 0 := by
  rw [reading, h]
  rfl

theorem reading_of_some {r : StatRecord} {field : String} {n : Number}
    (h : Dict.get? r field = some n) : r.reading field = if n.isZero then 0 else n := by
  rw [reading, h]
  cases hz : n.isZero <;> simp [Option.filter, hz]

theorem reading_of_getD {r : StatRecord} {field : String} {k : Int}
    (h : (Dict.get? r field).getD 0 = .int k) : r.reading field = .int k := by
  cases hg : Dict.get? r field with
  | none =>
    rw [reading_of_none hg]
    rwa [hg] at h
  | some n =>
    obtain rfl : n = .int k := by rwa [hg] at h
    rw [reading_of_some hg, Number.isZero, show (0 : Number) = .int 0 from rfl, Number.same_int]
    by_cases hk : k = 0 <;> simp [hk]

@[simp] theorem valueOrZero_toJson : r.toJson.valueOrZero field = .ok (.num (r.reading field)) := by
  rw [Json.valueOrZero, member?_toJson]
  cases h : Dict.get? r field with
  | none =>
    rw [reading_of_none h]
    rfl
  | some n =>
    rw [reading_of_some h]
    cases hz : n.isZero with
    | true =>
      simp only [Option.map_some, bind, Except.bind, Json.truthy, hz, pure, Except.pure]
      rfl
    | false => simp [Json.truthy, hz, bind, Except.bind, pure, Except.pure]

@[simp] theorem statOrZero_toJson : r.toJson.statOrZero field = .ok (r.reading field) := by
  rw [Json.statOrZero, valueOrZero_toJson]
  rfl

/-! ## Streaks -/

/-- The streak that a rule looks at: the current one if it is greater than the best one. -/
def streak : Number :=
  if Comparator.above.accepts ((r.reading "streak").compare? (r.reading "bestStreak")) then
    r.reading "streak"
  else r.reading "bestStreak"

theorem holds_streak (n : Json) :
    (Condition.streak n).holds r.toJson = Comparator.atLeast.relates (.num r.streak) n := by
  rw [Condition.holds, valueOrZero_toJson, valueOrZero_toJson, streak]
  simp only [Comparator.relates_num, bind, Except.bind]
  split <;> rfl

end StatRecord

namespace Rule

/-- The record that a rule looks at, in a snapshot of records that a ledger keeps. -/
theorem recordOf_mapValues {s : Snapshot} {progress : Dict StatRecord}
    (h : s.records = progress.mapValues fun _ r => r.toJson) (game : String) :
    recordOf s game = ((progress.get? game).getD Dict.empty).toJson := by
  rw [recordOf, h, Dict.get?_mapValues]
  cases progress.get? game with
  | none => rfl
  | some r =>
    obtain ⟨entries, hd⟩ := r
    cases entries <;> rfl

end Rule

end Arcade
