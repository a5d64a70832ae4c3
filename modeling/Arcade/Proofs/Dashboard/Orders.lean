import Arcade.Dashboard.Badges
import Arcade.Proofs.Challenge.Generations
import Arcade.Proofs.Progress.Decoding
import Arcade.Proofs.Sorting.Stable
import Arcade.Proofs.Text.Order

/-!
# The orders of the badge screen

Badges whose title and game are texts, and whose time of unlocking is null or a text that is no
timestamp or one within range, can be put in each of the four orders. Every order is total on such
badges, and what the screen shows is their stable sort: badges that tie stay as they were, also in
the order that starts with the newest. The locked badges come last and tie, except where the order
is by title.
-/

namespace Arcade

namespace Instant

theorem le_total (a b : Instant) : (decide (a ≤ b) || decide (b ≤ a)) = true := by
  rw [Bool.or_eq_true, decide_eq_true_iff, decide_eq_true_iff]
  exact Nat.le_total a.key b.key

/-- No instant is earlier than the first one. -/
theorem first_le (i : Instant) : first ≤ i := by
  have hdate : Date.first.key ≤ i.date.key := by
    have hyear := i.date.valid.1
    have hmonth := i.date.month_pos
    have hday := i.date.valid.2.2.1
    change 449 ≤ (i.date.year * 13 + i.date.month) * 32 + i.date.day
    omega
  rw [le_iff, key, key]
  exact Nat.add_le_add (Nat.mul_le_mul_right _ hdate) (Nat.zero_le _)

end Instant

namespace Json

theorem sameKey_str {s t : String} : sameKey (.str s) (.str t) = true ↔ s = t := by
  simp [sameKey, equal, depth, looselyEqual]

/-- Texts compare by their code points. -/
theorem compare?_str (s t : String) : compare? (.str s) (.str t) = some (Text.order s t) := by
  unfold compare?
  split
  · rename_i h
    obtain rfl := sameKey_str.1 h
    rw [Text.order, Text.compareCodes_self]
  · rfl

end Json

namespace Badge

/-- A badge that has a place in every order. -/
structure Sortable (b : Badge) : Prop where
  title : ∃ s, b.title = .str s
  game : ∃ s, b.game = .str s
  time : b.unlockedAt = .null ∨ ∃ s, b.unlockedAt = .str s ∧ ∃ t, Timestamp.read s = .ok t

/-- A badge whose time of unlocking is none, no timestamp, or one within range. -/
def HasTime (b : Badge) : Prop := ∃ t, Timestamp.ofJson b.unlockedAt = .ok t

/-- The time of unlocking, the first instant of all where there is none or none can be read. -/
def time (b : Badge) : Instant :=
  ((Timestamp.ofJson b.unlockedAt).toOption.join).getD Instant.first

theorem Sortable.hasTime {b : Badge} (h : b.Sortable) : b.HasTime := by
  rcases h.time with h | ⟨s, h, t, ht⟩
  · exact ⟨none, by rw [h]; rfl⟩
  · rw [HasTime, h]
    by_cases hs : s = ""
    · exact ⟨none, by rw [hs]; rfl⟩
    · refine ⟨t, ?_⟩
      rw [Timestamp.ofJson, if_pos (by simpa [Json.truthy] using hs)]
      exact ht

theorem HasTime.unlockTime {b : Badge} (h : b.HasTime) :
    Dashboard.unlockTime b = .ok b.time := by
  obtain ⟨t, ht⟩ := h
  rw [Dashboard.unlockTime, Badge.time, ht]
  rfl

end Badge

namespace Dashboard

/-! ## What each order says -/

/-- The unlocked badges before the locked ones, each part in an order of its own. -/
def unlockedFirst (le : Badge → Badge → Bool) (a b : Badge) : Bool :=
  if a.unlocked = b.unlocked then le a b else a.unlocked

/-- Whether the first of two badges may stand before the second. -/
def BadgeOrder.le : BadgeOrder → Badge → Badge → Bool
  | .alphabetical => fun a b => Text.le (Text.lower a.title.text) (Text.lower b.title.text)
  | .standard => unlockedFirst fun a b => Text.le a.game.text b.game.text
  | .oldest => unlockedFirst fun a b => !a.unlocked || decide (a.time ≤ b.time)
  | .newest => unlockedFirst fun a b => !a.unlocked || decide (b.time ≤ a.time)

/-! ## Every order is total -/

variable {le : Badge → Badge → Bool} {badges : List Badge}

theorem unlockedFirst_trans
    (h : ∀ a b c, a.unlocked = b.unlocked → le a b = true → le b c = true → le a c = true)
    (a b c : Badge) (hab : unlockedFirst le a b = true) (hbc : unlockedFirst le b c = true) :
    unlockedFirst le a c = true := by
  unfold unlockedFirst at *
  by_cases hsame : a.unlocked = b.unlocked
  · rw [if_pos hsame] at hab
    rw [hsame]
    by_cases hsame' : b.unlocked = c.unlocked
    · rw [if_pos hsame'] at hbc ⊢
      exact h a b c hsame hab hbc
    · rw [if_neg hsame'] at hbc ⊢
      exact hbc
  · rw [if_neg hsame] at hab
    by_cases hac : a.unlocked = c.unlocked
    · -- the first is unlocked and the second locked, so that the third is locked as well
      have hb : b.unlocked = false := Bool.eq_false_iff.2 fun hb => hsame (hab.trans hb.symm)
      have hbc' : b.unlocked ≠ c.unlocked := fun he => hsame (hac.trans he.symm)
      rw [if_neg hbc', hb] at hbc
      cases hbc
    · rw [if_neg hac]
      exact hab

theorem unlockedFirst_total (h : ∀ a b, (le a b || le b a) = true) (a b : Badge) :
    (unlockedFirst le a b || unlockedFirst le b a) = true := by
  unfold unlockedFirst
  by_cases hsame : a.unlocked = b.unlocked
  · rw [if_pos hsame, if_pos hsame.symm]
    exact h a b
  · rw [if_neg hsame, if_neg (Ne.symm hsame)]
    cases ha : a.unlocked <;> cases hb : b.unlocked <;> simp_all

/-- A comparison of times, for which all locked badges tie. -/
theorem byTime_trans (h : ∀ a b c, le a b = true → le b c = true → le a c = true)
    (a b c : Badge) (hsame : a.unlocked = b.unlocked) (hab : (!a.unlocked || le a b) = true)
    (hbc : (!b.unlocked || le b c) = true) : (!a.unlocked || le a c) = true := by
  cases ha : a.unlocked with
  | false => rfl
  | true =>
    rw [ha] at hab
    rw [← hsame, ha] at hbc
    exact h a b c hab hbc

theorem byTime_total (h : ∀ a b, (le a b || le b a) = true) (a b : Badge) :
    ((!a.unlocked || le a b) || (!b.unlocked || le b a)) = true := by
  have hab := h a b
  revert hab
  cases a.unlocked <;> cases b.unlocked <;> cases le a b <;> simp

theorem time_trans (a b c : Badge) (hab : decide (a.time ≤ b.time) = true)
    (hbc : decide (b.time ≤ c.time) = true) : decide (a.time ≤ c.time) = true :=
  decide_eq_true (Instant.le_trans (of_decide_eq_true hab) (of_decide_eq_true hbc))

theorem BadgeOrder.le_trans (order : BadgeOrder) :
    ∀ a b c, order.le a b = true → order.le b c = true → order.le a c = true := by
  cases order with
  | alphabetical => exact fun _ _ _ => Text.le_trans
  | standard => exact unlockedFirst_trans fun _ _ _ _ => Text.le_trans
  | oldest => exact unlockedFirst_trans (byTime_trans time_trans)
  | newest =>
    exact unlockedFirst_trans (byTime_trans fun a b c hab hbc => time_trans c b a hbc hab)

theorem BadgeOrder.le_total (order : BadgeOrder) :
    ∀ a b, (order.le a b || order.le b a) = true := by
  cases order with
  | alphabetical => exact fun a b => Text.le_total _ _
  | standard => exact unlockedFirst_total fun a b => Text.le_total _ _
  | oldest => exact unlockedFirst_total (byTime_total fun a b => Instant.le_total a.time b.time)
  | newest => exact unlockedFirst_total (byTime_total fun a b => Instant.le_total b.time a.time)

/-! ## Sorting by keys -/

theorem withKeys_eq_ok {α : Type} {key : Badge → Except Fault α} {f : Badge → α}
    (h : ∀ b ∈ badges, key b = .ok (f b)) :
    withKeys key badges = .ok (badges.map fun b => (f b, b)) := by
  rw [withKeys, mapM_eq_ok, List.forall₂_map_right_iff, List.forall₂_same]
  intro b hb
  rw [h b hb]
  rfl

/-- Sorting badges with their keys is sorting them by their keys. -/
theorem sortByKey_map {α : Type} (le : α → α → Bool) (f : Badge → α) (badges : List Badge) :
    sortByKey le (badges.map fun b => (f b, b)) = badges.mergeSort fun a b => le (f a) (f b) := by
  have hkeys : ∀ p ∈ badges.map (fun b => (f b, b)), ∀ q ∈ badges.map (fun b => (f b, b)),
      le p.1 q.1 = le (f p.2) (f q.2) := by
    intro p hp q hq
    obtain ⟨a, -, rfl⟩ := List.mem_map.1 hp
    obtain ⟨b, -, rfl⟩ := List.mem_map.1 hq
    rfl
  rw [sortByKey, List.map_mergeSort (s := fun a b => le (f a) (f b)) hkeys, List.map_map]
  congr 1
  exact List.map_id badges

/-- The unlocked badges sorted by time, followed by the locked ones. -/
theorem isStable_byTime (htrans : ∀ a b c, le a b = true → le b c = true → le a c = true)
    (htotal : ∀ a b, (le a b || le b a) = true) (badges : List Badge) :
    Sorting.IsStable (unlockedFirst fun a b => !a.unlocked || le a b) badges
      ((badges.filter (·.unlocked)).mergeSort le ++ badges.filter (!·.unlocked)) := by
  have hagree : ∀ a ∈ badges.filter (·.unlocked), ∀ b ∈ badges.filter (·.unlocked),
      le a b = unlockedFirst (fun a b => !a.unlocked || le a b) a b := by
    intro a ha b hb
    have ha' : a.unlocked = true := (List.mem_filter.1 ha).2
    have hb' : b.unlocked = true := (List.mem_filter.1 hb).2
    rw [unlockedFirst, if_pos (ha'.trans hb'.symm), ha']
    rfl
  rw [Sorting.mergeSort_congr hagree]
  refine Sorting.IsStable.append_rest (p := Badge.unlocked) ?sorted ?first ?rest
  case sorted =>
    exact Sorting.isStable_mergeSort (unlockedFirst_trans (byTime_trans htrans))
      (unlockedFirst_total (byTime_total htotal)) _
  case first =>
    intro a b ha hb
    simp [unlockedFirst, ha, hb]
  case rest =>
    intro a b ha hb
    simp [unlockedFirst, ha, hb]

/-! ## The screen -/

theorem allPairs_of_forall {α : Type} {r : α → α → Bool} {items : List α}
    (h : ∀ a ∈ items, ∀ b ∈ items, r a b = true) : allPairs r items = true := by
  induction items with
  | nil => rfl
  | cons x xs ih =>
    rw [allPairs, Bool.and_eq_true, List.all_eq_true]
    exact ⟨fun y hy => h x List.mem_cons_self y (List.mem_cons_of_mem x hy),
      ih fun a ha b hb => h a (List.mem_cons_of_mem x ha) b (List.mem_cons_of_mem x hb)⟩

/-- Badges whose games are texts compare, by whether they are unlocked and by game. -/
theorem standardLe_eq {a b : Badge} (ha : ∃ s, a.game = .str s) (hb : ∃ s, b.game = .str s) :
    comparable a b = true ∧ standardLe a b = BadgeOrder.le .standard a b := by
  obtain ⟨s, hs⟩ := ha
  obtain ⟨t, ht⟩ := hb
  have hcompare := Json.compare?_str s t
  refine ⟨?_, ?_⟩
  · rw [comparable, hs, ht, hcompare]
    simp
  · change _ = unlockedFirst (fun a b => Text.le a.game.text b.game.text) a b
    rw [standardLe, unlockedFirst, hs, ht, hcompare]
    rfl

theorem sortBadges_standard (h : ∀ b ∈ badges, ∃ s, b.game = .str s) :
    sortBadges badges .standard = .ok (badges.mergeSort (BadgeOrder.le .standard)) := by
  have hpairs : allPairs comparable badges = true :=
    allPairs_of_forall fun a ha b hb => (standardLe_eq (h a ha) (h b hb)).1
  rw [sortBadges, if_pos hpairs,
    Sorting.mergeSort_congr fun a ha b hb => (standardLe_eq (h a ha) (h b hb)).2]

theorem sortBadges_alphabetical (h : ∀ b ∈ badges, ∃ s, b.title = .str s) :
    sortBadges badges .alphabetical = .ok (badges.mergeSort (BadgeOrder.le .alphabetical)) := by
  have hkeys : ∀ b ∈ badges, (do return Text.lower (← b.title.string)) =
      Except.ok (ε := Fault) (Text.lower b.title.text) := by
    intro b hb
    obtain ⟨s, hs⟩ := h b hb
    rw [hs]
    rfl
  rw [sortBadges, withKeys_eq_ok hkeys]
  exact congrArg Except.ok (sortByKey_map Text.le (fun b => Text.lower b.title.text) badges)

theorem withKeys_unlockTime (h : ∀ b ∈ badges, b.unlocked = true → b.HasTime) :
    withKeys unlockTime (badges.filter (·.unlocked)) =
      .ok ((badges.filter (·.unlocked)).map fun b => (b.time, b)) :=
  withKeys_eq_ok fun b hb =>
    (h b (List.mem_of_mem_filter hb) (List.mem_filter.1 hb).2).unlockTime

theorem sortBadges_oldest (h : ∀ b ∈ badges, b.unlocked = true → b.HasTime) :
    sortBadges badges .oldest =
      .ok ((badges.filter (·.unlocked)).mergeSort (fun a b => decide (a.time ≤ b.time)) ++
        badges.filter (!·.unlocked)) := by
  rw [sortBadges, withKeys_unlockTime h, ← sortByKey_map (fun s t => decide (s ≤ t)) Badge.time]
  rfl

theorem sortBadges_newest (h : ∀ b ∈ badges, b.unlocked = true → b.HasTime) :
    sortBadges badges .newest =
      .ok ((badges.filter (·.unlocked)).mergeSort (fun a b => decide (b.time ≤ a.time)) ++
        badges.filter (!·.unlocked)) := by
  rw [sortBadges, withKeys_unlockTime h, ← sortByKey_map (fun s t => decide (t ≤ s)) Badge.time]
  rfl

/-- Whatever the order, the badges are sorted, and those that the order does not tell apart stay as
they were: those with one title, those of one game among the unlocked or the locked, those unlocked
at one time, and in the orders by time all the locked ones. A badge without a time that can be read
counts as unlocked before all others. -/
theorem sortBadges_isStable (h : ∀ b ∈ badges, b.Sortable) (order : BadgeOrder) :
    (∃ sorted, sortBadges badges order = .ok sorted ∧
      Sorting.IsStable order.le badges sorted) ∧
    ∀ b ∈ badges, Timestamp.ofJson b.unlockedAt = .ok none → ∀ i, b.time ≤ i := by
  have htime : ∀ b ∈ badges, b.unlocked = true → b.HasTime := fun b hb _ => (h b hb).hasTime
  refine ⟨?_, fun b _ hnone i => ?_⟩
  · cases order with
    | standard =>
      exact ⟨_, sortBadges_standard fun b hb => (h b hb).game,
        Sorting.isStable_mergeSort (BadgeOrder.le_trans _) (BadgeOrder.le_total _) badges⟩
    | alphabetical =>
      exact ⟨_, sortBadges_alphabetical fun b hb => (h b hb).title,
        Sorting.isStable_mergeSort (BadgeOrder.le_trans _) (BadgeOrder.le_total _) badges⟩
    | oldest =>
      exact ⟨_, sortBadges_oldest htime,
        isStable_byTime time_trans (fun a b => Instant.le_total a.time b.time) badges⟩
    | newest =>
      exact ⟨_, sortBadges_newest htime,
        isStable_byTime (fun a b c hab hbc => time_trans c b a hbc hab)
          (fun a b => Instant.le_total b.time a.time) badges⟩
  · rw [Badge.time, hnone]
    exact Instant.first_le i

/-- Five badges, of which two were unlocked at one time and one at a time that cannot be read. -/
def shownBadges : List Badge :=
  [⟨"late", .str "B", .str "", .str "word-unscramble", .str "", .str "", true,
      .str "2026-10-10T10:00:00"⟩,
    ⟨"locked", .str "C", .str "", .str "card-battle", .str "", .str "", false,
      .str "2026-10-30T10:00:00"⟩,
    ⟨"unreadable", .str "b", .str "", .str "all", .str "", .str "", true, .str "soon"⟩,
    ⟨"as late", .str "A", .str "", .str "dice-roller", .str "", .str "", true,
      .str "2026-10-10T10:00:00"⟩,
    ⟨"none", .str "a", .str "", .str "dice-roller", .str "", .str "", false, .null⟩]

theorem sortable_shownBadges : ∀ b ∈ shownBadges, b.Sortable := by
  have hlate : ∃ t, Timestamp.read "2026-10-10T10:00:00" = .ok t := ⟨_, rfl⟩
  have hlast : ∃ t, Timestamp.read "2026-10-30T10:00:00" = .ok t := ⟨_, rfl⟩
  have hsoon : ∃ t, Timestamp.read "soon" = .ok t := ⟨_, rfl⟩
  simp only [shownBadges, List.forall_mem_cons, List.not_mem_nil, false_imp_iff, implies_true,
    and_true]
  exact ⟨⟨⟨_, rfl⟩, ⟨_, rfl⟩, .inr ⟨_, rfl, hlate⟩⟩, ⟨⟨_, rfl⟩, ⟨_, rfl⟩, .inr ⟨_, rfl, hlast⟩⟩,
    ⟨⟨_, rfl⟩, ⟨_, rfl⟩, .inr ⟨_, rfl, hsoon⟩⟩, ⟨⟨_, rfl⟩, ⟨_, rfl⟩, .inr ⟨_, rfl, hlate⟩⟩,
    ⟨⟨_, rfl⟩, ⟨_, rfl⟩, .inl rfl⟩⟩

/-- The two badges that were unlocked at one time are not turned around. -/
theorem sortBadges_isStable_newest : (∀ b ∈ shownBadges, b.Sortable) ∧
    ∃ sorted, sortBadges shownBadges .newest = .ok sorted ∧
      Sorting.IsStable (BadgeOrder.le .newest) shownBadges sorted ∧
      ∀ b ∈ shownBadges, b.id = "late" →
        (sorted.filter (Sorting.ties (BadgeOrder.le .newest) b)).map Badge.id =
          ["late", "as late"] := by
  obtain ⟨sorted, hsorted, hstable⟩ :=
    (sortBadges_isStable sortable_shownBadges .newest).1
  refine ⟨sortable_shownBadges, sorted, hsorted, hstable, ?_⟩
  simp only [hstable.kept]
  decide

end Dashboard

end Arcade
