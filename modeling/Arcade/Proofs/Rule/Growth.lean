import Arcade.Rule.Evaluation

/-!
# Rules and growing counts

While badges are unlocked and challenges completed, the stats stay as they are and no count falls.
All rules of the catalogs that look at a count ask for at least so many or for more, so that a rule
that holds keeps holding. The rules for badges do not look at the current generation of challenges,
so that it does not matter to them when it is replaced.
-/

namespace Arcade

namespace Comparator

/-- Whether a comparison with a bound keeps holding for greater values. -/
def isRising : Comparator → Bool
  | .atLeast | .above => true
  | .atMost | .equal => false

/-- Among integers, a rising comparison holds for all values from the first on. -/
theorem holds_mono {c : Comparator} (hc : c.isRising = true) {bound i j : Int} (hij : i ≤ j)
    (h : c.holds (.int i) (.int bound) = true) : c.holds (.int j) (.int bound) = true := by
  have hlt : ∀ a b : Int, Number.lt (.int a) (.int b) = true ↔ a < b := fun a b => by
    simp [Number.lt, Number.compare?, Int.compare_eq_lt]
  have hle : ∀ a b : Int, Number.le (.int a) (.int b) = true ↔ a ≤ b := fun a b => by
    simp [Number.le, Number.compare?, Int.compare_eq_lt, Int.le_iff_lt_or_eq]
  cases c with
  | atLeast => exact (hle _ _).2 (Int.le_trans ((hle _ _).1 h) hij)
  | above => exact (hlt _ _).2 (Int.lt_of_lt_of_le ((hlt _ _).1 h) hij)
  | atMost => cases hc
  | equal => cases hc

end Comparator

namespace Rule

/-- Whether a rule keeps holding when counts grow. -/
def isRising : Rule → Bool
  | .record _ _ => true
  | .counts _ comparator (.int _) => comparator.isRising
  | .counts _ _ (.float _) => false

/-- Whether a rule looks at the current generation of challenges. -/
def readsGeneration : Rule → Bool
  | .counts .generationCompleted _ _ => true
  | _ => false

end Rule

theorem Badge.exists_design_of_rule? {id : String} {r : Rule} (h : Badge.rule? id = some r) :
    ∃ d ∈ Badge.catalog, d.rule = r := by
  obtain ⟨d, hd, hr⟩ := Option.map_eq_some_iff.1 h
  exact ⟨d, List.mem_of_find?_eq_some hd, hr⟩

theorem Badge.isRising_of_rule? {id : String} {r : Rule} (h : Badge.rule? id = some r) :
    r.isRising = true := by
  have hall : ∀ d ∈ Badge.catalog, d.rule.isRising = true := by decide
  obtain ⟨d, hd, rfl⟩ := Badge.exists_design_of_rule? h
  exact hall d hd

theorem Badge.readsGeneration_of_rule? {id : String} {r : Rule} (h : Badge.rule? id = some r) :
    r.readsGeneration = false := by
  have hall : ∀ d ∈ Badge.catalog, d.rule.readsGeneration = false := by decide
  obtain ⟨d, hd, rfl⟩ := Badge.exists_design_of_rule? h
  exact hall d hd

theorem Challenge.isRising_of_rule? {id : String} {r : Rule} (h : Challenge.rule? id = some r) :
    r.isRising = true := by
  have hall : ∀ d ∈ Challenge.catalog, d.rule.isRising = true := by decide
  obtain ⟨d, hd, hr⟩ := Option.map_eq_some_iff.1 h
  exact hr ▸ hall d (List.mem_of_find?_eq_some hd)

namespace Document

/-- A document with the same stats as another, in which no count is lower. -/
structure Grown (d d' : Document) : Prop where
  progress : d'.progress = d.progress
  badges : d.badges.countP Badge.unlocked ≤ d'.badges.countP Badge.unlocked
  challenges : d.challenges.countP Challenge.completed ≤ d'.challenges.countP Challenge.completed
  badgeUnlocks : d.tally.badgesUnlocked ≤ d'.tally.badgesUnlocked
  challengesCompleted : d.tally.challengesCompleted ≤ d'.tally.challengesCompleted

variable {d d' : Document}

theorem Grown.records (h : Grown d d') : d'.snapshot.records = d.snapshot.records := by
  unfold snapshot
  rw [h.progress]

/-- A measure has the same value, or it is a number of things that has grown. -/
theorem Grown.value (h : Grown d d') (m : Measure) : m.value d'.snapshot = m.value d.snapshot ∨
    ∃ i j : Int, i ≤ j ∧ m.value d.snapshot = .ok (.int i) ∧ m.value d'.snapshot = .ok (.int j) := by
  cases m with
  | gamesPlayed | totalPlays =>
    left
    unfold Measure.value
    rw [h.records]
  | badgesUnlocked => exact .inr ⟨_, _, Int.ofNat_le.2 h.badges, rfl, rfl⟩
  | challengesCompleted => exact .inr ⟨_, _, Int.ofNat_le.2 h.challengesCompleted, rfl, rfl⟩
  | badgeUnlocks => exact .inr ⟨_, _, Int.ofNat_le.2 h.badgeUnlocks, rfl, rfl⟩
  | generationCompleted => exact .inr ⟨_, _, Int.ofNat_le.2 h.challenges, rfl, rfl⟩

/-- A rising rule keeps holding. -/
theorem Grown.holds (h : Grown d d') {r : Rule} (hr : r.isRising = true)
    (hd : r.holds d.snapshot = true) : r.holds d'.snapshot = true := by
  cases r with
  | record game conditions =>
    have hsame : Rule.recordOf d'.snapshot game = Rule.recordOf d.snapshot game := by
      unfold Rule.recordOf
      rw [h.records]
    unfold Rule.holds at hd ⊢
    rwa [Rule.eval, hsame]
  | counts m c bound =>
    unfold Rule.holds at hd ⊢
    rw [Rule.eval] at hd ⊢
    rcases h.value m with hsame | ⟨i, j, hij, hi, hj⟩
    · rwa [hsame]
    · cases bound with
      | int n =>
        rw [hi] at hd
        rw [hj]
        exact Comparator.holds_mono hr hij hd
      | float x => cases hr

/-- What satisfies a rule of a table of rising rules keeps satisfying it. -/
theorem Grown.satisfies (h : Grown d d') {rule? : String → Option Rule}
    (hr : ∀ id r, rule? id = some r → r.isRising = true) {id : String}
    (hd : d.snapshot.satisfies rule? id = true) : d'.snapshot.satisfies rule? id = true := by
  unfold Snapshot.satisfies at hd ⊢
  cases hid : rule? id with
  | none =>
    rw [hid] at hd
    cases hd
  | some r =>
    rw [hid] at hd
    exact h.holds (hr id r hid) hd

/-- Whether a badge is earned. -/
def Earns (d : Document) (id : String) : Prop := d.snapshot.satisfies Badge.rule? id = true

/-- Whether a challenge is met. -/
def Meets (d : Document) (id : String) : Prop := d.snapshot.satisfies Challenge.rule? id = true

theorem Grown.earns (h : Grown d d') {id : String} (hd : d.Earns id) : d'.Earns id :=
  h.satisfies (fun _ _ => Badge.isRising_of_rule?) hd

theorem Grown.meets (h : Grown d d') {id : String} (hd : d.Meets id) : d'.Meets id :=
  h.satisfies (fun _ _ => Challenge.isRising_of_rule?) hd

/-- Which badges are earned does not depend on the current generation of challenges. -/
theorem earns_withChallenges (d : Document) (challenges : List Challenge) (id : String) :
    Earns { d with challenges := challenges } id ↔ d.Earns id := by
  unfold Earns Snapshot.satisfies
  cases hid : Badge.rule? id with
  | none => exact Iff.rfl
  | some r =>
    cases r with
    | record game conditions => exact Iff.rfl
    | counts m c bound =>
      have hm := Badge.readsGeneration_of_rule? hid
      cases m with
      | generationCompleted => cases hm
      | _ => exact Iff.rfl

end Document

end Arcade
