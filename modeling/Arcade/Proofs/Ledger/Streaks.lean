import Mathlib.Data.List.DropRight
import Mathlib.Order.Bounds.Basic
import Arcade.Proofs.Ledger.Commuting
import Arcade.Proofs.Rule.Recorded

/-!
# What streaks mean

A round is won, lost or drawn. A stretch of rounds is a part of the rounds in a row without a loss
in it; a draw does not end it. What is stored as the streak of a game is the number of wins since
the last loss, and what is stored as the best streak is the greatest number of wins in a stretch.
The number of wins in a stretch that ends with the last round decides whether the greatest number
grows.
-/

namespace Arcade

/-! ## Rounds -/

namespace Rounds

variable {rounds part : List (Option Bool)}

/-- The number of rounds that were won. -/
def wins (rounds : List (Option Bool)) : Nat := rounds.count (some true)

/-- Rounds in a row without a loss. -/
def IsStretch (part rounds : List (Option Bool)) : Prop := part <:+: rounds ∧ some false ∉ part

/-- The rounds since the last loss. -/
def sinceLoss (rounds : List (Option Bool)) : List (Option Bool) :=
  rounds.rtakeWhile fun won => won ≠ some false

/-- The numbers of wins in a stretch. -/
def stretchWins (rounds : List (Option Bool)) : Set Nat :=
  {k | ∃ part, IsStretch part rounds ∧ wins part = k}

theorem wins_concat (rounds : List (Option Bool)) (won : Option Bool) :
    wins (rounds ++ [won]) = wins rounds + if won = some true then 1 else 0 := by
  rw [wins, wins, List.count_append, List.count_singleton]
  simp

theorem sinceLoss_concat (rounds : List (Option Bool)) (won : Option Bool) :
    sinceLoss (rounds ++ [won]) = if won = some false then [] else sinceLoss rounds ++ [won] := by
  rw [sinceLoss, List.rtakeWhile_concat]
  by_cases h : won = some false <;> simp [h, sinceLoss]

/-- The rounds since the last loss are a stretch. -/
theorem isStretch_sinceLoss (rounds : List (Option Bool)) : IsStretch (sinceLoss rounds) rounds :=
  ⟨(List.rtakeWhile_suffix _ _).isInfix, fun h => by simpa using List.mem_rtakeWhile_imp h⟩

/-- No stretch that ends with the last round has more wins than there are since the last loss. -/
theorem wins_le_of_suffix (h : part <:+ rounds) (hloss : some false ∉ part) :
    wins part ≤ wins (sinceLoss rounds) := by
  induction rounds using List.reverseRecOn generalizing part with
  | nil => rw [List.suffix_nil.1 h]; exact Nat.zero_le _
  | append_singleton rounds won ih =>
    rcases List.suffix_concat_iff.1 h with rfl | ⟨front, rfl, hfront⟩
    · exact Nat.zero_le _
    · rw [List.mem_append, not_or, List.mem_singleton] at hloss
      rw [sinceLoss_concat, if_neg (Ne.symm hloss.2), wins_concat, wins_concat]
      exact Nat.add_le_add_right (ih hfront hloss.1) _

theorem isGreatest_nil : IsGreatest (stretchWins []) 0 := by
  refine ⟨⟨[], ⟨List.infix_rfl, List.not_mem_nil⟩, rfl⟩, ?_⟩
  rintro k ⟨part, ⟨hpart, -⟩, rfl⟩
  rw [List.infix_nil.1 hpart]
  exact Nat.le_refl 0

/-- One more round: the stretches that end with it have no more wins than there are since the last
loss, and all others were there before. -/
theorem isGreatest_concat {k : Nat} (h : IsGreatest (stretchWins rounds) k) (won : Option Bool) :
    IsGreatest (stretchWins (rounds ++ [won])) (max k (wins (sinceLoss (rounds ++ [won])))) := by
  obtain ⟨⟨best, hbest, rfl⟩, hgreatest⟩ := h
  constructor
  · rcases max_choice (wins best) (wins (sinceLoss (rounds ++ [won]))) with hmax | hmax
    · rw [hmax]
      exact ⟨best, ⟨hbest.1.trans (List.prefix_append rounds [won]).isInfix, hbest.2⟩, rfl⟩
    · rw [hmax]
      exact ⟨_, isStretch_sinceLoss _, rfl⟩
  · rintro n ⟨part, ⟨hpart, hloss⟩, rfl⟩
    rcases List.infix_concat_iff.1 hpart with hlast | hbefore
    · exact le_max_of_le_right (wins_le_of_suffix hlast hloss)
    · exact le_max_of_le_left (hgreatest ⟨part, ⟨hbefore, hloss⟩, rfl⟩)

/-- Some stretch has at least `n` wins exactly if the greatest number of wins is at least `n`. -/
theorem exists_stretch_iff {k : Nat} (h : IsGreatest (stretchWins rounds) k) (n : Int) :
    (∃ part, IsStretch part rounds ∧ n ≤ wins part) ↔ n ≤ k := by
  constructor
  · rintro ⟨part, hpart, hn⟩
    exact hn.trans (Int.ofNat_le.2 (h.2 ⟨part, hpart, rfl⟩))
  · intro hn
    obtain ⟨part, hpart, rfl⟩ := h.1
    exact ⟨part, hpart, hn⟩

/-! ## Streaks in a record -/

/-- A record in which the streaks of some rounds are kept, once there are any rounds. -/
structure KeptIn (rounds : List (Option Bool)) (r : StatRecord) : Prop where
  streak : (Dict.get? r "streak").getD 0 = .int (wins (sinceLoss rounds))
  best : ∃ k : Nat, IsGreatest (stretchWins rounds) k ∧ (Dict.get? r "bestStreak").getD 0 = .int k
  stored : rounds ≠ [] → Dict.get? r "streak" ≠ none ∧ Dict.get? r "bestStreak" ≠ none

variable {r : StatRecord}

theorem keptIn_nil (hs : (Dict.get? r "streak").getD 0 = 0)
    (hb : (Dict.get? r "bestStreak").getD 0 = 0) : KeptIn [] r :=
  ⟨hs, ⟨0, isGreatest_nil, hb⟩, fun h => absurd rfl h⟩

/-- Other stats can be set. -/
theorem KeptIn.insert (h : KeptIn rounds r) {name : String} (hs : "streak" ≠ name)
    (hb : "bestStreak" ≠ name) (n : Number) : KeptIn rounds (Dict.insert r name n) := by
  obtain ⟨hstreak, hbest, hstored⟩ := h
  constructor
  · rwa [Dict.get?_insert_of_ne hs]
  · rwa [Dict.get?_insert_of_ne hb]
  · rwa [Dict.get?_insert_of_ne hs, Dict.get?_insert_of_ne hb]

theorem KeptIn.get?_streak (h : KeptIn rounds r) (hne : rounds ≠ []) :
    Dict.get? r "streak" = some (.int (wins (sinceLoss rounds))) := by
  obtain ⟨n, hn⟩ := Option.ne_none_iff_exists'.1 (h.stored hne).1
  have hstreak := h.streak
  rw [hn] at hstreak ⊢
  exact congrArg some hstreak

theorem KeptIn.get?_bestStreak (h : KeptIn rounds r) (hne : rounds ≠ []) :
    ∃ k : Nat, IsGreatest (stretchWins rounds) k ∧ Dict.get? r "bestStreak" = some (.int k) := by
  obtain ⟨n, hn⟩ := Option.ne_none_iff_exists'.1 (h.stored hne).2
  obtain ⟨k, hk, hbest⟩ := h.best
  rw [hn] at hbest ⊢
  exact ⟨k, hk, congrArg some hbest⟩

end Rounds

theorem max_natCast (m n : Nat) : Number.max (.int m) (.int n) = .int (max m n : Nat) := by
  rw [Number.max, Number.lt_int]
  by_cases h : m < n
  · rw [if_pos (decide_eq_true (Int.ofNat_lt.2 h)), Nat.max_eq_right h.le]
  · rw [if_neg (by simpa using h), Nat.max_eq_left (Nat.not_lt.1 h)]

/-! ## Mutations -/

section Steps

open Rounds

variable {d : Document} {now : Instant} {game : String} {rounds : List (Option Bool)}

/-- A changed record is what it was changed to. -/
theorem record_alter_record (d : Document) (now : Instant) (game : String) (stats : StatRecord)
    (gain : Gain) : (d.alter now (.record game stats gain)).record game = stats := by
  rw [Document.record, Document.alter, Alteration.progress, Dict.get?_insert_self, Option.getD_some]

/-- One more round: the streak that is counted is the number of wins since the last loss. -/
theorem Rounds.KeptIn.streakAfter (h : KeptIn rounds (d.record game)) (won : Option Bool) :
    d.streakAfter game won = .int (wins (sinceLoss (rounds ++ [won]))) := by
  have hstreak : d.stat game "streak" = .int (wins (sinceLoss rounds)) := h.streak
  unfold Document.streakAfter
  rw [sinceLoss_concat, hstreak]
  rcases won with _ | _ | _
  · simp [wins_concat]
  · rfl
  · simp [wins_concat, Number.succ]

theorem Rounds.KeptIn.addRound (h : KeptIn rounds (d.record game)) (won : Option Bool) :
    KeptIn (rounds ++ [won])
      (((d.record game).insert "streak" (d.streakAfter game won)).insert "bestStreak"
        ((d.stat game "bestStreak").max (d.streakAfter game won))) := by
  obtain ⟨k, hk, hbest⟩ := h.best
  have hne : ("streak" : String) ≠ "bestStreak" := by decide
  have hmax : (d.stat game "bestStreak").max (d.streakAfter game won) =
      .int (max k (wins (sinceLoss (rounds ++ [won]))) : Nat) := by
    rw [h.streakAfter, show d.stat game "bestStreak" = .int k from hbest, max_natCast]
  constructor
  · rw [Dict.get?_insert_of_ne hne, Dict.get?_insert_self, Option.getD_some, h.streakAfter]
  · rw [Dict.get?_insert_self, Option.getD_some, hmax]
    exact ⟨_, isGreatest_concat hk won, rfl⟩
  · intro _
    rw [Dict.get?_insert_self, Dict.get?_insert_of_ne hne, Dict.get?_insert_self]
    exact ⟨Option.some_ne_none _, Option.some_ne_none _⟩

/-- The outcome of the round of a game that a mutation counts, if it counts one. -/
def Mutation.round? (game : String) : Mutation → Option (Option Bool)
  | .addRound g won => if g = game then some won else none
  | _ => none

theorem Mutation.round?_of_item_ne {m : Mutation} (h : m.item ≠ .game game) :
    m.round? game = none := by
  cases m with
  | addRound g won => exact if_neg fun hg => h (congrArg Item.game hg)
  | _ => rfl

/-- Every mutation but an update of the game itself keeps the streaks. -/
theorem Rounds.KeptIn.result (h : KeptIn rounds (d.record game)) {m : Mutation}
    (hm : ∀ values, m ≠ .update game values) :
    KeptIn (rounds ++ (m.round? game).toList)
      (((m.decide now d).result now d).record game) := by
  -- What is not about the game leaves its record as it is.
  by_cases hitem : m.item = .game game
  · cases m with
    | update g values =>
      obtain rfl := Item.game.inj hitem
      exact absurd rfl (hm values)
    | countPlay g =>
      obtain rfl := Item.game.inj hitem
      change KeptIn (rounds ++ []) _
      rw [List.append_nil]
      exact (record_alter_record d now g _ _).symm ▸ h.insert (by decide) (by decide) _
    | addTime g seconds =>
      obtain rfl := Item.game.inj hitem
      change KeptIn (rounds ++ []) _
      rw [List.append_nil, Mutation.decide]
      rcases Mutation.wholeSeconds seconds with e | _ | whole
      · exact h
      · exact h
      · dsimp only
        cases (d.stat g "timeSpent").add (.int whole) with
        | error e => exact h
        | ok sum =>
          exact (record_alter_record d now g _ _).symm ▸ h.insert (by decide) (by decide) _
    | addRound g won =>
      obtain rfl := Item.game.inj hitem
      rw [Mutation.round?, if_pos rfl, Option.toList_some]
      exact (record_alter_record d now g _ _).symm ▸ h.addRound won
    | unlock id => cases hitem
    | complete id => cases hitem
  · have hsame : ((m.decide now d).result now d).record game = d.record game :=
      agrees_result (n := .countPlay game) hitem
    rwa [Mutation.round?_of_item_ne hitem, hsame, Option.toList_none, List.append_nil]

end Steps

/-! ## Rules -/

namespace StatRecord

open Rounds

/-- A rule that asks for a streak finds the greatest number of wins in a stretch. -/
theorem streak_of_keptIn {r : StatRecord} {rounds : List (Option Bool)} (h : KeptIn rounds r)
    {k : Nat} (hk : IsGreatest (stretchWins rounds) k) : r.streak = .int k := by
  obtain ⟨k', hk', hbest⟩ := h.best
  obtain rfl : k' = k := hk'.unique hk
  have hle : wins (sinceLoss rounds) ≤ k' := hk.2 ⟨_, isStretch_sinceLoss rounds, rfl⟩
  have hnot : ¬ ((k' : Int) < wins (sinceLoss rounds)) := Int.not_lt.2 (Int.ofNat_le.2 hle)
  rw [streak, reading_of_getD h.streak, reading_of_getD hbest, Number.compare?_int,
    Comparator.accepts_above_int, decide_eq_false hnot]
  rfl

theorem holds_streak_of_keptIn {r : StatRecord} {rounds : List (Option Bool)}
    (h : KeptIn rounds r) (n : Int) : (Condition.streak (.int n)).holds r.toJson = .ok true ↔
      ∃ part, IsStretch part rounds ∧ n ≤ wins part := by
  obtain ⟨k, hk, -⟩ := h.best
  rw [holds_streak, streak_of_keptIn h hk, exists_stretch_iff hk, Json.int,
    Comparator.relates_num, Number.compare?_int, Comparator.accepts_atLeast_int,
    Except.ok.injEq, decide_eq_true_iff]

end StatRecord

/-! ## Runs -/

namespace Shelf

open Rounds

/-- The rounds of a game in a sequence of mutations, in order. -/
def rounds (game : String) (steps : List (Mutation × Instant)) : List (Option Bool) :=
  steps.filterMap fun x => x.1.round? game

variable {s : Shelf} {game : String} {steps : List (Mutation × Instant)}

theorem keptIn_run (hs : KeptIn [] (s.ledger.document.record game))
    (hm : ∀ x ∈ steps, ∀ values, x.1 ≠ .update game values) :
    KeptIn (rounds game steps)
      ((s.run (steps.map fun x => (x.1.operation, x.2))).ledger.document.record game) := by
  induction steps using List.reverseRecOn with
  | nil => exact hs
  | append_singleton before x ih =>
    have hbefore := ih fun y hy => hm y (List.mem_append_left [x] hy)
    have hx : (rounds game (before ++ [x])) =
        rounds game before ++ (x.1.round? game).toList := by
      rw [rounds, List.filterMap_append, List.filterMap_cons, List.filterMap_nil]
      cases x.1.round? game <;> rfl
    rw [List.map_append, List.map_singleton, run_concat, Operation.outcome_act,
      document_mutation, hx]
    exact hbefore.result (hm x List.mem_concat_self)

/-- After any rounds of a game, whatever else is done in between but setting its stats from outside,
the stored streak is the number of wins since the last loss, the stored best streak is the greatest
number of wins in a stretch, and a rule that asks for a streak of `n` holds exactly if some stretch
has `n` wins. -/
theorem streaks_of_rounds (hs : s.ledger.document.stat game "streak" = 0)
    (hb : s.ledger.document.stat game "bestStreak" = 0)
    (hm : ∀ x ∈ steps, ∀ values, x.1 ≠ .update game values) (hne : rounds game steps ≠ []) :
    let d := (s.run (steps.map fun x => (x.1.operation, x.2))).ledger.document
    (d.record game).get? "streak" = some (.int (wins (sinceLoss (rounds game steps)))) ∧
    (∃ k : Nat, IsGreatest {k | ∃ part, IsStretch part (rounds game steps) ∧ wins part = k} k ∧
      (d.record game).get? "bestStreak" = some (.int k)) ∧
    ∀ n : Int, (Rule.record game [.streak (.int n)]).holds d.snapshot = true ↔
      ∃ part, IsStretch part (rounds game steps) ∧ n ≤ wins part := by
  intro d
  have hkept : KeptIn (rounds game steps) (d.record game) := keptIn_run (keptIn_nil hs hb) hm
  refine ⟨hkept.get?_streak hne, hkept.get?_bestStreak hne, fun n => ?_⟩
  have hrecord : Rule.recordOf d.snapshot game = (d.record game).toJson :=
    Rule.recordOf_mapValues rfl game
  rw [← StatRecord.holds_streak_of_keptIn hkept n, Rule.holds, Rule.eval, hrecord, Rule.allHold]
  rcases (Condition.streak (.int n)).holds (d.record game).toJson with e | _ | _ <;>
    simp [bind, Except.bind, pure, Except.pure, Rule.allHold]

/-- Five rounds with a draw between the first two wins, among other things that are done. -/
def fiveRounds : List (Mutation × Instant) :=
  [.addRound "rock-paper-scissors" (some true), .countPlay "rock-paper-scissors",
    .addRound "rock-paper-scissors" none, .addRound "dice-roller" (some false),
    .addRound "rock-paper-scissors" (some true), .addTime "rock-paper-scissors" (.int 40),
    .addRound "rock-paper-scissors" (some false), .update "dice-roller" (.obj []),
    .addRound "rock-paper-scissors" (some true)].map fun m => (m, default)

theorem streaks_of_rounds_five :
    let s := (bare fun _ _ => false).withDocument twoGames
    let d := (s.run (fiveRounds.map fun x => (x.1.operation, x.2))).ledger.document
    rounds "rock-paper-scissors" fiveRounds =
      [some true, none, some true, some false, some true] ∧
    (d.record "rock-paper-scissors").get? "streak" = some 1 ∧
    (d.record "rock-paper-scissors").get? "bestStreak" = some 2 ∧
    (Rule.record "rock-paper-scissors" [.streak (.int 2)]).holds d.snapshot = true := by
  intro s d
  have hrounds : rounds "rock-paper-scissors" fiveRounds =
      [some true, none, some true, some false, some true] := by decide
  have hgreatest : IsGreatest (stretchWins [some true, none, some true, some false, some true]) 2 :=
    isGreatest_concat (isGreatest_concat (isGreatest_concat (isGreatest_concat
      (isGreatest_concat isGreatest_nil (some true)) none) (some true)) (some false)) (some true)
  have hupdate : ∀ x ∈ fiveRounds, ∀ values, x.1 ≠ .update "rock-paper-scissors" values := by
    simp [fiveRounds]
  obtain ⟨hstreak, ⟨k, hk, hbest⟩, hrule⟩ := streaks_of_rounds (s := s) (by decide) (by decide)
    hupdate (hrounds ▸ List.cons_ne_nil _ _)
  rw [hrounds] at hstreak hk hrule
  obtain rfl := hk.unique hgreatest
  refine ⟨hrounds, hstreak, hbest, (hrule 2).2 ⟨[some true, none, some true], ⟨?_, ?_⟩, ?_⟩⟩
  · exact ⟨[], [some false, some true], rfl⟩
  · decide
  · decide

end Shelf

end Arcade
