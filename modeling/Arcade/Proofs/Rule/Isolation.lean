import Arcade.Rule.Evaluation

/-!
# Isolation of rules

The rules are evaluated one after the other over one shared snapshot, in which the record of a game
may be any value. A badge is earned, or a challenge met, by its own rule alone: it is pending, its
rule is looked up by its identifier, and that rule says yes without stumbling. What other rules do,
and whether they stumble, plays no part.

A rule watches the record of the game that it is over, and the rules that count plays watch the
records of all games. Two snapshots that differ in the record of one game look the same to every
rule that does not watch this game.
-/

namespace Arcade

variable {s s' : Snapshot} {g id : String} {r : Rule}

/-! ## What a rule watches -/

/-- Whether a measure looks at the records of games. -/
def Measure.countsPlays : Measure → Bool
  | .gamesPlayed | .totalPlays => true
  | _ => false

/-- Whether the record of a game has a say in a rule. -/
def Rule.watches (g : String) : Rule → Bool
  | .record game _ => game = g
  | .counts m _ _ => m.countsPlays

/-- Snapshots that differ at most in the record of a game, which one of them may lack. -/
structure Snapshot.DifferAt (g : String) (s s' : Snapshot) : Prop where
  records : ∀ game, game ≠ g → s'.records.get? game = s.records.get? game
  badges : s'.badges = s.badges
  challenges : s'.challenges = s.challenges
  badgesUnlocked : s'.badgesUnlocked = s.badgesUnlocked
  challengesCompleted : s'.challengesCompleted = s.challengesCompleted

/-- A measure that does not count plays has the same value in both snapshots. -/
theorem Snapshot.DifferAt.value (h : s.DifferAt g s') {m : Measure} (hm : m.countsPlays = false) :
    m.value s' = m.value s := by
  cases m with
  | gamesPlayed | totalPlays => cases hm
  | badgesUnlocked => rw [Measure.value, Measure.value, h.badges]
  | challengesCompleted => rw [Measure.value, Measure.value, h.challengesCompleted]
  | badgeUnlocks => rw [Measure.value, Measure.value, h.badgesUnlocked]
  | generationCompleted => rw [Measure.value, Measure.value, h.challenges]

/-- A rule that does not watch the game comes to the same outcome, a fault included. -/
theorem Snapshot.DifferAt.eval (h : s.DifferAt g s') (hr : r.watches g = false) :
    r.eval s' = r.eval s := by
  cases r with
  | record game conditions =>
    have hrecord : Rule.recordOf s' game = Rule.recordOf s game := by
      rw [Rule.recordOf, Rule.recordOf, h.records game (of_decide_eq_false hr)]
    rw [Rule.eval, Rule.eval, hrecord]
  | counts m comparator bound => rw [Rule.eval, Rule.eval, h.value hr]

/-! ## What a snapshot satisfies -/

theorem Rule.holds_iff : r.holds s = true ↔ r.eval s = .ok true := by
  unfold holds
  cases h : r.eval s with
  | ok b => rw [Except.ok.injEq]
  | error f => exact iff_of_false Bool.false_ne_true nofun

theorem Snapshot.satisfies_iff {rule? : String → Option Rule} :
    s.satisfies rule? id = true ↔ ∃ r, rule? id = some r ∧ r.eval s = .ok true := by
  unfold satisfies
  cases h : rule? id with
  | none => exact iff_of_false Bool.false_ne_true nofun
  | some r =>
    constructor
    · exact fun hr => ⟨r, rfl, Rule.holds_iff.1 hr⟩
    · rintro ⟨found, hfound, hr⟩
      cases hfound
      exact Rule.holds_iff.2 hr

/-- A badge is earned exactly if it is locked and its own rule holds. -/
theorem Snapshot.mem_earnedBadges : id ∈ s.earnedBadges ↔
    (∃ b ∈ s.badges, b.unlocked = false ∧ b.id = id) ∧ s.satisfies Badge.rule? id = true := by
  simp only [earnedBadges, List.mem_filter, List.mem_map, Bool.not_eq_true', and_assoc]

/-- A challenge is met exactly if it is open and its own rule holds. -/
theorem Snapshot.mem_metChallenges : id ∈ s.metChallenges ↔
    (∃ c ∈ s.challenges, c.completed = false ∧ c.id = id) ∧
      s.satisfies Challenge.rule? id = true := by
  simp only [metChallenges, List.mem_filter, List.mem_map, Bool.not_eq_true', and_assoc]

/-! ## Isolation -/

/-- What is earned or met does not depend on the record of a game that its rule does not watch. -/
theorem Snapshot.DifferAt.satisfies (h : s.DifferAt g s') {rule? : String → Option Rule}
    (hr : ∀ r, rule? id = some r → r.watches g = false) :
    s'.satisfies rule? id = s.satisfies rule? id := by
  rw [Bool.eq_iff_iff, satisfies_iff, satisfies_iff]
  constructor <;> rintro ⟨r, hid, hyes⟩ <;> refine ⟨r, hid, ?_⟩
  · rwa [h.eval (hr r hid)] at hyes
  · rwa [h.eval (hr r hid)]

/-- Every badge and challenge is judged by its own rule alone, whatever the records hold, and a rule
that does not watch a game comes to the same outcome whatever the record of that game is. -/
theorem rules_isolated :
    (∀ (s : Snapshot) (id : String),
      (id ∈ s.earnedBadges ↔ (∃ b ∈ s.badges, b.unlocked = false ∧ b.id = id) ∧
        ∃ r, Badge.rule? id = some r ∧ r.eval s = .ok true) ∧
      (id ∈ s.metChallenges ↔ (∃ c ∈ s.challenges, c.completed = false ∧ c.id = id) ∧
        ∃ r, Challenge.rule? id = some r ∧ r.eval s = .ok true)) ∧
    ∀ (g : String) (s s' : Snapshot), s.DifferAt g s' →
      (∀ r : Rule, r.watches g = false → r.eval s' = r.eval s) ∧
      (∀ id, (∀ r, Badge.rule? id = some r → r.watches g = false) →
        (id ∈ s'.earnedBadges ↔ id ∈ s.earnedBadges)) ∧
      ∀ id, (∀ r, Challenge.rule? id = some r → r.watches g = false) →
        (id ∈ s'.metChallenges ↔ id ∈ s.metChallenges) := by
  refine ⟨fun s id => ⟨?_, ?_⟩, fun g s s' h => ⟨fun r => h.eval, fun id hr => ?_, fun id hr => ?_⟩⟩
  · rw [Snapshot.mem_earnedBadges, Snapshot.satisfies_iff]
  · rw [Snapshot.mem_metChallenges, Snapshot.satisfies_iff]
  · rw [Snapshot.mem_earnedBadges, Snapshot.mem_earnedBadges, h.badges, h.satisfies hr]
  · rw [Snapshot.mem_metChallenges, Snapshot.mem_metChallenges, h.challenges, h.satisfies hr]

/-- Progress in which the record of one game is a given value, a second record has text as its
plays, and a third is as it should be. -/
def muddled (record : Json) : Snapshot where
  records := (Dict.ofList [("dice-roller", .obj [("plays", .str "many")]),
    ("card-battle", .obj [("wins", 3), ("plays", 4)])]).insert "rock-paper-scissors" record
  badges := Badge.fresh
  challenges := []
  badgesUnlocked := 0
  challengesCompleted := 0

/-- The rule over a record that is a number stumbles and its badge is not earned, while the badge of
another game is earned as it is beside a record that is an empty list. -/
theorem rules_isolated_muddled :
    (muddled (.arr [])).DifferAt "rock-paper-scissors" (muddled 7) ∧
      "rps_novice" ∉ (muddled 7).earnedBadges ∧
      "battle_novice" ∈ (muddled (.arr [])).earnedBadges ∧
      "battle_novice" ∈ (muddled 7).earnedBadges := by
  have hdiffer : (muddled (.arr [])).DifferAt "rock-paper-scissors" (muddled 7) :=
    { records := fun game hgame => by
        rw [muddled, muddled, Dict.get?_insert_of_ne hgame, Dict.get?_insert_of_ne hgame]
      badges := rfl
      challenges := rfl
      badgesUnlocked := rfl
      challengesCompleted := rfl }
  have hnovice : Badge.rule? "rps_novice" =
      some (.record "rock-paper-scissors" [.least "wins" 3]) := by decide
  have hbattle : Badge.rule? "battle_novice" = some (.record "card-battle" [.least "wins" 3]) := by
    decide
  have hpending : ∃ b ∈ (muddled (.arr [])).badges, b.unlocked = false ∧ b.id = "battle_novice" :=
    by decide
  have hearned : "battle_novice" ∈ (muddled (.arr [])).earnedBadges :=
    (rules_isolated.1 _ _).1.2
      ⟨hpending, _, hbattle, Rule.holds_iff.1 (by decide)⟩
  refine ⟨hdiffer, fun h => ?_, hearned, ?_⟩
  · obtain ⟨-, r, hr, hyes⟩ := (rules_isolated.1 _ _).1.1 h
    cases hnovice.symm.trans hr
    cases hyes
  · refine ((rules_isolated.2 _ _ _ hdiffer).2.1 _ fun r hr => ?_).2 hearned
    cases hbattle.symm.trans hr
    decide

end Arcade
