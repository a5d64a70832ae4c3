import Mathlib.Data.Finset.Lattice.Basic
import Mathlib.Data.List.Nodup
import Mathlib.Logic.Relation
import Mathlib.Order.Bounds.Basic
import Arcade.Proofs.Ledger.ChangeFirst
import Arcade.Proofs.Rule.Growth

/-!
# Awards in any order

An award unlocks a badge that is earned or completes a challenge that is met and not past its end.
Awards change what other badges and challenges count, but they never take anything away, so that
the order in which they are made does not matter: in whatever order, awards that are made until
there is none left to make lead to one document. Its unlocked badges and completed challenges are
the least that are closed under the rules.
-/

namespace Arcade

open Relation

namespace Badge

variable {b : Badge} {ids : Finset String} {now : Instant}

/-- The badge, unlocked at an instant. -/
def unlockedOn (b : Badge) (now : Instant) : Badge :=
  { b with unlocked := true, unlockedAt := .str now.timestamp }

theorem unlockedOn_id (b : Badge) (now : Instant) : (b.unlockedOn now).id = b.id := rfl

/-- Whether a badge is locked and has one of some identifiers. -/
def isLockedAmong (ids : Finset String) (b : Badge) : Bool := !b.unlocked && decide (b.id ∈ ids)

/-- The badge, unlocked at an instant if it is locked and has one of some identifiers. -/
def awarded (ids : Finset String) (now : Instant) (b : Badge) : Badge :=
  if b.isLockedAmong ids then b.unlockedOn now else b

@[simp] theorem isLockedAmong_iff :
    b.isLockedAmong ids = true ↔ b.unlocked = false ∧ b.id ∈ ids := by
  simp [isLockedAmong]

theorem isLockedAmong_insert_of_ne {id : String} (h : b.id ≠ id) :
    b.isLockedAmong (insert id ids) = b.isLockedAmong ids := by
  simp [isLockedAmong, h]

theorem awarded_of_not_mem (h : b.id ∉ ids) : b.awarded ids now = b :=
  if_neg fun hin => h (isLockedAmong_iff.1 hin).2

theorem awarded_insert_self (h : b.unlocked = false) :
    b.awarded (insert b.id ids) now = b.unlockedOn now :=
  if_pos (isLockedAmong_iff.2 ⟨h, Finset.mem_insert_self _ _⟩)

theorem awarded_insert_of_ne {id : String} (h : b.id ≠ id) :
    b.awarded (insert id ids) now = b.awarded ids now := by
  unfold awarded
  rw [isLockedAmong_insert_of_ne h]

@[simp] theorem awarded_id : (b.awarded ids now).id = b.id := by
  unfold awarded
  split <;> rfl

@[simp] theorem awarded_unlocked :
    (b.awarded ids now).unlocked = (b.unlocked || decide (b.id ∈ ids)) := by
  unfold awarded isLockedAmong
  cases hb : b.unlocked <;> by_cases hid : b.id ∈ ids <;> simp [hb, hid, unlockedOn]

end Badge

namespace Challenge

variable {c : Challenge} {ids : Finset String} {now : Instant}

/-- The challenge, completed at an instant. -/
def completedOn (c : Challenge) (now : Instant) : Challenge :=
  { c with completed := true, completedAt := .str now.timestamp }

theorem completedOn_id (c : Challenge) (now : Instant) : (c.completedOn now).id = c.id := rfl

theorem completedOn_expiresAt (c : Challenge) (now : Instant) :
    (c.completedOn now).expiresAt = c.expiresAt := rfl

/-- Whether a challenge is open and has one of some identifiers. -/
def isOpenAmong (ids : Finset String) (c : Challenge) : Bool := !c.completed && decide (c.id ∈ ids)

/-- The challenge, completed at an instant if it is open and has one of some identifiers. -/
def awarded (ids : Finset String) (now : Instant) (c : Challenge) : Challenge :=
  if c.isOpenAmong ids then c.completedOn now else c

@[simp] theorem isOpenAmong_iff :
    c.isOpenAmong ids = true ↔ c.completed = false ∧ c.id ∈ ids := by
  simp [isOpenAmong]

theorem isOpenAmong_insert_of_ne {id : String} (h : c.id ≠ id) :
    c.isOpenAmong (insert id ids) = c.isOpenAmong ids := by
  simp [isOpenAmong, h]

theorem awarded_of_not_mem (h : c.id ∉ ids) : c.awarded ids now = c :=
  if_neg fun hin => h (isOpenAmong_iff.1 hin).2

theorem awarded_insert_self (h : c.completed = false) :
    c.awarded (insert c.id ids) now = c.completedOn now :=
  if_pos (isOpenAmong_iff.2 ⟨h, Finset.mem_insert_self _ _⟩)

theorem awarded_insert_of_ne {id : String} (h : c.id ≠ id) :
    c.awarded (insert id ids) now = c.awarded ids now := by
  unfold awarded
  rw [isOpenAmong_insert_of_ne h]

@[simp] theorem awarded_id : (c.awarded ids now).id = c.id := by
  unfold awarded
  split <;> rfl

@[simp] theorem awarded_completed :
    (c.awarded ids now).completed = (c.completed || decide (c.id ∈ ids)) := by
  unfold awarded isOpenAmong
  cases hc : c.completed <;> by_cases hid : c.id ∈ ids <;> simp [hc, hid, completedOn]

end Challenge

namespace Document

variable {d d' e f : Document} {now : Instant} {a : Finset String × Finset String}

/-! ## Single awards -/

/-- A locked badge that is earned is unlocked. -/
inductive Unlocks (now : Instant) (d : Document) : Document → Prop
  | unlock {id : String} {b : Badge} (found : d.badge? id = some b) (locked : b.unlocked = false)
      (earned : d.Earns id) : Unlocks now d (d.unlock id now)

/-- An open challenge that is met and not past its end is completed. -/
inductive Completes (now : Instant) (d : Document) : Document → Prop
  | complete {id : String} {c : Challenge} (found : d.challenge? id = some c)
      (isOpen : c.completed = false) (current : c.isExpired now = .ok false) (met : d.Meets id) :
      Completes now d (d.complete id c.rewardCoins now)

/-- One badge is unlocked or one challenge completed. -/
def Award (now : Instant) (d d' : Document) : Prop := d.Unlocks now d' ∨ d.Completes now d'

/-- The number of locked badges and open challenges. -/
def pending (d : Document) : Nat :=
  d.badges.countP (fun b => !b.unlocked) + d.challenges.countP (fun c => !c.completed)

theorem Unlocks.locked_lt (h : d.Unlocks now d') :
    d'.badges.countP (fun b => !b.unlocked) < d.badges.countP (fun b => !b.unlocked) := by
  obtain ⟨found, locked, -⟩ := h
  have hcount := countP_changeFirst (·.unlockedOn now) (fun b : Badge => !b.unlocked) found
  rw [locked] at hcount
  exact Nat.lt_of_succ_le (Nat.le_of_eq hcount)

theorem Unlocks.challenges (h : d.Unlocks now d') : d'.challenges = d.challenges := by
  cases h
  rfl

theorem Completes.open_lt (h : d.Completes now d') :
    d'.challenges.countP (fun c => !c.completed) < d.challenges.countP (fun c => !c.completed) := by
  obtain ⟨found, isOpen, -, -⟩ := h
  have hcount := countP_changeFirst (·.completedOn now)
    (fun c : Challenge => !c.completed) found
  rw [isOpen] at hcount
  exact Nat.lt_of_succ_le (Nat.le_of_eq hcount)

theorem Completes.badges (h : d.Completes now d') : d'.badges = d.badges := by
  cases h
  rfl

/-- Every award leaves fewer to make. -/
theorem Award.pending_lt (h : d.Award now d') : d'.pending < d.pending := by
  unfold pending
  rcases h with h | h
  · rw [h.challenges]
    exact Nat.add_lt_add_right h.locked_lt _
  · rw [h.badges]
    exact Nat.add_lt_add_left h.open_lt _

theorem Unlocks.grown (h : d.Unlocks now d') : d.Grown d' := by
  obtain ⟨found, locked, -⟩ := h
  have hcount := countP_changeFirst (·.unlockedOn now) Badge.unlocked found
  rw [locked] at hcount
  exact {
    progress := rfl
    badges := Nat.le_of_lt (Nat.lt_of_succ_le (Nat.le_of_eq hcount.symm))
    challenges := Nat.le_refl _
    badgeUnlocks := Nat.le_succ _
    challengesCompleted := Nat.le_refl _ }

theorem Completes.grown (h : d.Completes now d') : d.Grown d' := by
  obtain ⟨found, isOpen, -, -⟩ := h
  have hcount := countP_changeFirst (·.completedOn now) Challenge.completed found
  rw [isOpen] at hcount
  exact {
    progress := rfl
    badges := Nat.le_refl _
    challenges := Nat.le_of_lt (Nat.lt_of_succ_le (Nat.le_of_eq hcount.symm))
    badgeUnlocks := Nat.le_refl _
    challengesCompleted := Nat.le_succ _ }

/-- A document in which no award can be made. -/
def Final (now : Instant) (d : Document) : Prop := ∀ d', ¬ d.Award now d'

/-- Awards can be made until there is none left to make. -/
theorem exists_final (now : Instant) (d : Document) :
    ∃ f, ReflTransGen (Award now) d f ∧ f.Final now := by
  induction hn : d.pending using Nat.strong_induction_on generalizing d with
  | _ n ih =>
    by_cases h : d.Final now
    · exact ⟨d, .refl, h⟩
    · obtain ⟨d', hd⟩ : ∃ d', d.Award now d' := by simpa [Final] using h
      obtain ⟨f, hf, hfinal⟩ := ih d'.pending (hn ▸ hd.pending_lt) d' rfl
      exact ⟨f, hf.head hd, hfinal⟩

/-! ## Sets of awards -/

/-- The identifiers of the unlocked badges and of the completed challenges. -/
def awards (d : Document) : Finset String × Finset String :=
  (((d.badges.filter Badge.unlocked).map Badge.id).toFinset,
    ((d.challenges.filter Challenge.completed).map Challenge.id).toFinset)

/-- The days of a tally, on one of which coins are earned if any challenges were completed. -/
def daysWith (d : Document) (now : Instant) (completed : List Challenge) : Dict DayLog :=
  let log := (d.tally.days.get? now.dayKey).getD {}
  if completed = [] then d.tally.days
  else d.tally.days.insert now.dayKey
    { log with coinsEarned := log.coinsEarned + total (completed.map Challenge.rewardCoins) }

/-- The document with other badges and challenges, after some badges were unlocked and some
challenges completed at an instant. -/
def withAwards (d : Document) (now : Instant) (badges : List Badge) (unlocks : Nat)
    (challenges completed : List Challenge) : Document :=
  { d with
    badges := badges
    challenges := challenges
    tally := { d.tally with
      badgesUnlocked := d.tally.badgesUnlocked + unlocks
      challengesCompleted := d.tally.challengesCompleted + completed.length
      totalCoins := d.tally.totalCoins + total (completed.map Challenge.rewardCoins)
      days := d.daysWith now completed } }

/-- The document in which the badges and the challenges with some identifiers are unlocked and
completed at an instant, as far as they are not yet, with everything counted that comes with it. -/
def awarded (d : Document) (now : Instant) (a : Finset String × Finset String) : Document :=
  d.withAwards now (d.badges.map (Badge.awarded a.1 now))
    (d.badges.filter (Badge.isLockedAmong a.1)).length
    (d.challenges.map (Challenge.awarded a.2 now))
    (d.challenges.filter (Challenge.isOpenAmong a.2))

@[simp] theorem awarded_badges : (d.awarded now a).badges = d.badges.map (Badge.awarded a.1 now) :=
  rfl

@[simp] theorem awarded_challenges :
    (d.awarded now a).challenges = d.challenges.map (Challenge.awarded a.2 now) := rfl

/-- Sets that the rules add nothing to: a badge that is earned with them is among them, and so is a
challenge that is met with them and not past its end. -/
structure Closed (d : Document) (now : Instant) (a : Finset String × Finset String) : Prop where
  badges : ∀ b ∈ d.badges, (d.awarded now a).Earns b.id → b.id ∈ a.1
  challenges : ∀ c ∈ d.challenges, c.isExpired now = .ok false → (d.awarded now a).Meets c.id →
    c.id ∈ a.2

/-- The identifiers of the badges are different, and so are those of the challenges. -/
structure Distinct (d : Document) : Prop where
  badges : (d.badges.map Badge.id).Nodup
  challenges : (d.challenges.map Challenge.id).Nodup

/-! ## Documents with sets of awards -/

theorem mem_awards_badges {id : String} :
    id ∈ d.awards.1 ↔ ∃ b ∈ d.badges, b.unlocked = true ∧ b.id = id := by
  simp [awards, and_assoc]

theorem mem_awards_challenges {id : String} :
    id ∈ d.awards.2 ↔ ∃ c ∈ d.challenges, c.completed = true ∧ c.id = id := by
  simp [awards, and_assoc]

/-- More badges unlocked and more challenges completed are more of everything that is counted. -/
theorem grown_awarded {a c : Finset String × Finset String} (h : a ≤ c) (d : Document)
    (now : Instant) : (d.awarded now a).Grown (d.awarded now c) := by
  have hbadges : (d.badges.filter (Badge.isLockedAmong a.1)).length ≤
      (d.badges.filter (Badge.isLockedAmong c.1)).length := by
    refine (List.monotone_filter_right _ fun b hb => ?_).length_le
    rw [Badge.isLockedAmong_iff] at hb ⊢
    exact ⟨hb.1, h.1 hb.2⟩
  have hchallenges : (d.challenges.filter (Challenge.isOpenAmong a.2)).length ≤
      (d.challenges.filter (Challenge.isOpenAmong c.2)).length := by
    refine (List.monotone_filter_right _ fun x hx => ?_).length_le
    rw [Challenge.isOpenAmong_iff] at hx ⊢
    exact ⟨hx.1, h.2 hx.2⟩
  refine ⟨rfl, ?_, ?_, Nat.add_le_add_left hbadges _, Nat.add_le_add_left hchallenges _⟩
  · rw [awarded_badges, awarded_badges, List.countP_map, List.countP_map]
    refine List.countP_mono_left fun b _ hb => ?_
    simp only [Function.comp_apply, Badge.awarded_unlocked, Bool.or_eq_true,
      decide_eq_true_eq] at hb ⊢
    exact hb.imp_right fun hb => h.1 hb
  · rw [awarded_challenges, awarded_challenges, List.countP_map, List.countP_map]
    refine List.countP_mono_left fun x _ hx => ?_
    simp only [Function.comp_apply, Challenge.awarded_completed, Bool.or_eq_true,
      decide_eq_true_eq] at hx ⊢
    exact hx.imp_right fun hx => h.2 hx

/-! ## Awards one by one -/

/-- With the awards that a document has already, it stays as it is. -/
theorem awarded_awards (h : e.Distinct) (now : Instant) : e.awarded now e.awards = e := by
  have hlocked : ∀ b ∈ e.badges, ¬ b.isLockedAmong e.awards.1 = true := by
    intro b hb hin
    obtain ⟨hlocked, hid⟩ := Badge.isLockedAmong_iff.1 hin
    obtain ⟨b', hb', hunlocked, hsame⟩ := mem_awards_badges.1 hid
    obtain rfl := List.inj_on_of_nodup_map h.badges hb' hb hsame
    exact Bool.false_ne_true (hlocked.symm.trans hunlocked)
  have hopen : ∀ c ∈ e.challenges, ¬ c.isOpenAmong e.awards.2 = true := by
    intro c hc hin
    obtain ⟨hopen, hid⟩ := Challenge.isOpenAmong_iff.1 hin
    obtain ⟨c', hc', hcompleted, hsame⟩ := mem_awards_challenges.1 hid
    obtain rfl := List.inj_on_of_nodup_map h.challenges hc' hc hsame
    exact Bool.false_ne_true (hopen.symm.trans hcompleted)
  have hbadges : e.badges.map (Badge.awarded e.awards.1 now) = e.badges :=
    (List.map_congr_left fun b hb => if_neg (hlocked b hb)).trans (List.map_id _)
  have hchallenges : e.challenges.map (Challenge.awarded e.awards.2 now) = e.challenges :=
    (List.map_congr_left fun c hc => if_neg (hopen c hc)).trans (List.map_id _)
  unfold awarded
  rw [hbadges, hchallenges, List.filter_eq_nil_iff.2 hlocked, List.filter_eq_nil_iff.2 hopen]
  rfl

theorem badge?_awarded (id : String) :
    (e.awarded now a).badge? id = (e.badge? id).map (Badge.awarded a.1 now) := by
  unfold badge?
  rw [awarded_badges, List.find?_map]
  congr 2
  funext b
  simp

theorem challenge?_awarded (id : String) :
    (e.awarded now a).challenge? id = (e.challenge? id).map (Challenge.awarded a.2 now) := by
  unfold challenge?
  rw [awarded_challenges, List.find?_map]
  congr 2
  funext c
  simp

theorem unlock_withAwards {badges : List Badge} {unlocks : Nat}
    {challenges completed : List Challenge} (id : String) :
    (d.withAwards now badges unlocks challenges completed).unlock id now =
      d.withAwards now (changeFirst (·.id = id) (·.unlockedOn now) badges) (unlocks + 1) challenges
        completed := rfl

/-- The coins of one more challenge are earned on the same day. -/
theorem changeDay_daysWith (completed : List Challenge) (c : Challenge) :
    let log := ((d.daysWith now completed).get? now.dayKey).getD {}
    (d.daysWith now completed).insert now.dayKey
        { log with coinsEarned := log.coinsEarned + c.rewardCoins } =
      d.daysWith now (c :: completed) := by
  unfold daysWith
  rw [if_neg (List.cons_ne_nil c completed)]
  by_cases h : completed = []
  · subst h
    rfl
  · simp only [if_neg h, Dict.get?_insert_self, Option.getD_some, Dict.insert_insert, List.map_cons,
      total_cons]
    rw [Nat.add_assoc, Nat.add_comm (total _)]

theorem complete_withAwards {badges : List Badge} {unlocks : Nat}
    {challenges completed : List Challenge} (id : String) (c : Challenge) :
    (d.withAwards now badges unlocks challenges completed).complete id c.rewardCoins now =
      d.withAwards now badges unlocks (changeFirst (·.id = id) (·.completedOn now) challenges)
        (c :: completed) := by
  have hcoins : d.tally.totalCoins + total (completed.map Challenge.rewardCoins) + c.rewardCoins =
      d.tally.totalCoins + total ((c :: completed).map Challenge.rewardCoins) := by
    rw [List.map_cons, total_cons]
    omega
  unfold withAwards
  rw [← changeDay_daysWith completed c, ← hcoins]
  rfl

/-- The order in which challenges were completed does not show. -/
theorem withAwards_of_perm {badges : List Badge} {unlocks : Nat}
    {challenges completed completed' : List Challenge} (h : completed.Perm completed') :
    d.withAwards now badges unlocks challenges completed =
      d.withAwards now badges unlocks challenges completed' := by
  have hempty : completed = [] ↔ completed' = [] := by
    rw [← List.length_eq_zero_iff, ← List.length_eq_zero_iff, h.length_eq]
  unfold withAwards daysWith
  simp only [h.length_eq, total_of_perm (h.map Challenge.rewardCoins), hempty]

/-- Unlocking one more badge is to have it among those that are unlocked. -/
theorem unlock_awarded (h : e.Distinct) {b : Badge} (hb : b ∈ e.badges) (hl : b.unlocked = false)
    (ha : b.id ∉ a.1) :
    (e.awarded now a).unlock b.id now = e.awarded now (insert b.id a.1, a.2) := by
  have hbadges : changeFirst (·.id = b.id) (·.unlockedOn now)
      (e.badges.map (Badge.awarded a.1 now)) =
      e.badges.map (Badge.awarded (insert b.id a.1) now) := by
    refine changeFirst_map h.badges hb (fun _ => Badge.awarded_id) ?_ fun x hx => ?_
    · rw [Badge.awarded_of_not_mem ha, Badge.awarded_insert_self hl]
    · rw [Badge.awarded_insert_of_ne hx]
  have hcount : (e.badges.filter (Badge.isLockedAmong (insert b.id a.1))).length =
      (e.badges.filter (Badge.isLockedAmong a.1)).length + 1 := by
    have hlocked : (!b.unlocked) = true := by rw [hl]; rfl
    exact (filter_insert_perm (p := fun b : Badge => !b.unlocked) h.badges hb hlocked ha).length_eq
  unfold awarded
  rw [unlock_withAwards, hbadges, hcount]

/-- Completing one more challenge is to have it among those that are completed. -/
theorem complete_awarded (h : e.Distinct) {c : Challenge} (hc : c ∈ e.challenges)
    (ho : c.completed = false) (ha : c.id ∉ a.2) :
    (e.awarded now a).complete c.id c.rewardCoins now =
      e.awarded now (a.1, insert c.id a.2) := by
  have hchallenges : changeFirst (·.id = c.id) (·.completedOn now)
      (e.challenges.map (Challenge.awarded a.2 now)) =
      e.challenges.map (Challenge.awarded (insert c.id a.2) now) := by
    refine changeFirst_map h.challenges hc (fun _ => Challenge.awarded_id) ?_ fun x hx => ?_
    · rw [Challenge.awarded_of_not_mem ha, Challenge.awarded_insert_self ho]
    · rw [Challenge.awarded_insert_of_ne hx]
  have hperm : (e.challenges.filter (Challenge.isOpenAmong (insert c.id a.2))).Perm
      (c :: e.challenges.filter (Challenge.isOpenAmong a.2)) := by
    have hopen : (!c.completed) = true := by rw [ho]; rfl
    exact filter_insert_perm (p := fun c : Challenge => !c.completed) h.challenges hc hopen ha
  unfold awarded
  rw [complete_withAwards, hchallenges, ← withAwards_of_perm hperm]

/-! ## Runs of awards -/

/-- Sets of awards that can be made from a document one after the other: they hold what was awarded
before, only challenges that are not past their end are new, and no closed sets go without them. -/
structure Reached (e : Document) (now : Instant) (a : Finset String × Finset String) : Prop where
  start : e.awards ≤ a
  badges : ∀ id ∈ a.1, ∃ b ∈ e.badges, b.id = id
  challenges : ∀ id ∈ a.2, ∃ c ∈ e.challenges, c.id = id
  current : ∀ c ∈ e.challenges, c.id ∈ a.2 → c.completed = true ∨ c.isExpired now = .ok false
  below : ∀ closed, e.awards ≤ closed → e.Closed now closed → a ≤ closed

theorem reached_awards (h : e.Distinct) (now : Instant) : e.Reached now e.awards where
  start := le_rfl
  badges := by
    intro id hid
    obtain ⟨b, hb, -, hsame⟩ := mem_awards_badges.1 hid
    exact ⟨b, hb, hsame⟩
  challenges := by
    intro id hid
    obtain ⟨c, hc, -, hsame⟩ := mem_awards_challenges.1 hid
    exact ⟨c, hc, hsame⟩
  current := by
    intro c hc hid
    obtain ⟨c', hc', hcompleted, hsame⟩ := mem_awards_challenges.1 hid
    obtain rfl := List.inj_on_of_nodup_map h.challenges hc' hc hsame
    exact .inl hcompleted
  below := fun _ hstart _ => hstart

/-- A badge that is locked after some awards was locked before and is not among them. -/
theorem locked_of_badge?_awarded {id : String} {b : Badge}
    (found : (e.awarded now a).badge? id = some b) (locked : b.unlocked = false) :
    b ∈ e.badges ∧ b.id = id ∧ b.id ∉ a.1 := by
  rw [badge?_awarded] at found
  obtain ⟨b', hb', rfl⟩ := Option.map_eq_some_iff.1 found
  rw [Badge.awarded_unlocked, Bool.or_eq_false_iff, decide_eq_false_iff_not] at locked
  rw [Badge.awarded_of_not_mem locked.2]
  exact ⟨List.mem_of_find?_eq_some hb', by simpa using List.find?_some hb', locked.2⟩

/-- A challenge that is open after some awards was open before and is not among them. -/
theorem open_of_challenge?_awarded {id : String} {c : Challenge}
    (found : (e.awarded now a).challenge? id = some c) (isOpen : c.completed = false) :
    c ∈ e.challenges ∧ c.id = id ∧ c.id ∉ a.2 := by
  rw [challenge?_awarded] at found
  obtain ⟨c', hc', rfl⟩ := Option.map_eq_some_iff.1 found
  rw [Challenge.awarded_completed, Bool.or_eq_false_iff, decide_eq_false_iff_not] at isOpen
  rw [Challenge.awarded_of_not_mem isOpen.2]
  exact ⟨List.mem_of_find?_eq_some hc', by simpa using List.find?_some hc', isOpen.2⟩

theorem Reached.unlock (h : e.Reached now a) (he : e.Distinct)
    (hf : (e.awarded now a).Unlocks now f) :
    ∃ a', e.Reached now a' ∧ f = e.awarded now a' := by
  cases hf with
  | unlock found locked earned =>
    obtain ⟨hb, rfl, hid⟩ := locked_of_badge?_awarded found locked
    refine ⟨_, ⟨?_, ?_, ?_, ?_, ?_⟩, unlock_awarded he hb locked hid⟩
    · exact ⟨h.start.1.trans (Finset.subset_insert _ _), h.start.2⟩
    · intro id hmem
      rcases Finset.mem_insert.1 hmem with rfl | hmem
      · exact ⟨_, hb, rfl⟩
      · exact h.badges id hmem
    · exact h.challenges
    · exact h.current
    · intro closed hstart hclosed
      have hle := h.below closed hstart hclosed
      have hin := hclosed.badges _ hb ((grown_awarded hle e now).earns earned)
      exact ⟨Finset.insert_subset hin hle.1, hle.2⟩

theorem Reached.complete (h : e.Reached now a) (he : e.Distinct)
    (hf : (e.awarded now a).Completes now f) :
    ∃ a', e.Reached now a' ∧ f = e.awarded now a' := by
  cases hf with
  | complete found isOpen current met =>
    obtain ⟨hc, rfl, hid⟩ := open_of_challenge?_awarded found isOpen
    refine ⟨_, ⟨?_, ?_, ?_, ?_, ?_⟩, complete_awarded he hc isOpen hid⟩
    · exact ⟨h.start.1, h.start.2.trans (Finset.subset_insert _ _)⟩
    · exact h.badges
    · intro id hmem
      rcases Finset.mem_insert.1 hmem with rfl | hmem
      · exact ⟨_, hc, rfl⟩
      · exact h.challenges id hmem
    · intro x hx hmem
      rcases Finset.mem_insert.1 hmem with hsame | hmem
      · obtain rfl := List.inj_on_of_nodup_map he.challenges hx hc hsame
        exact .inr current
      · exact h.current x hx hmem
    · intro closed hstart hclosed
      have hle := h.below closed hstart hclosed
      have hin := hclosed.challenges _ hc current ((grown_awarded hle e now).meets met)
      exact ⟨hle.1, Finset.insert_subset hin hle.2⟩

/-- Whatever awards are made, the document is determined by the sets that they lead to. -/
theorem exists_reached (he : e.Distinct) (h : ReflTransGen (Award now) e f) :
    ∃ a, e.Reached now a ∧ f = e.awarded now a := by
  induction h with
  | refl => exact ⟨_, reached_awards he now, (awarded_awards he now).symm⟩
  | tail _ hstep ih =>
    obtain ⟨a, ha, rfl⟩ := ih
    rcases hstep with hstep | hstep
    · exact ha.unlock he hstep
    · exact ha.complete he hstep

/-- The sets that awards lead to are those of the document. -/
theorem Reached.awards_awarded (h : e.Reached now a) : (e.awarded now a).awards = a := by
  ext id
  · rw [mem_awards_badges]
    constructor
    · rintro ⟨_, hmem, hunlocked, rfl⟩
      obtain ⟨b, hb, rfl⟩ := List.mem_map.1 hmem
      rw [Badge.awarded_unlocked, Bool.or_eq_true, decide_eq_true_eq] at hunlocked
      rw [Badge.awarded_id]
      exact hunlocked.elim (fun hb' => h.start.1 (mem_awards_badges.2 ⟨b, hb, hb', rfl⟩)) id
    · intro hid
      obtain ⟨b, hb, rfl⟩ := h.badges id hid
      exact ⟨_, List.mem_map_of_mem hb, by simp [hid], Badge.awarded_id⟩
  · rw [mem_awards_challenges]
    constructor
    · rintro ⟨_, hmem, hcompleted, rfl⟩
      obtain ⟨c, hc, rfl⟩ := List.mem_map.1 hmem
      rw [Challenge.awarded_completed, Bool.or_eq_true, decide_eq_true_eq] at hcompleted
      rw [Challenge.awarded_id]
      exact hcompleted.elim (fun hc' => h.start.2 (mem_awards_challenges.2 ⟨c, hc, hc', rfl⟩)) id
    · intro hid
      obtain ⟨c, hc, rfl⟩ := h.challenges id hid
      exact ⟨_, List.mem_map_of_mem hc, by simp [hid], Challenge.awarded_id⟩

/-- A challenge that was open and is not among the awards is found as it was. -/
theorem challenge?_awarded_of_not_mem (he : e.Distinct) {c : Challenge} (hc : c ∈ e.challenges)
    (hid : c.id ∉ a.2) : (e.awarded now a).challenge? c.id = some c := by
  have hfound : e.challenge? c.id = some c := find?_of_mem he.challenges hc
  rw [challenge?_awarded, hfound, Option.map_some, Challenge.awarded_of_not_mem hid]

theorem badge?_awarded_of_not_mem (he : e.Distinct) {b : Badge} (hb : b ∈ e.badges)
    (hid : b.id ∉ a.1) : (e.awarded now a).badge? b.id = some b := by
  have hfound : e.badge? b.id = some b := find?_of_mem he.badges hb
  rw [badge?_awarded, hfound, Option.map_some, Badge.awarded_of_not_mem hid]

/-- If no award is left to make, the sets are closed. -/
theorem Reached.closed (h : e.Reached now a) (he : e.Distinct)
    (hfinal : (e.awarded now a).Final now) : e.Closed now a := by
  constructor
  · intro b hb hearned
    by_contra hid
    have hlocked : b.unlocked = false := by
      refine Bool.eq_false_iff.2 fun hunlocked => hid (h.start.1 ?_)
      exact mem_awards_badges.2 ⟨b, hb, hunlocked, rfl⟩
    exact hfinal _ (.inl (.unlock (badge?_awarded_of_not_mem he hb hid) hlocked hearned))
  · intro c hc hcurrent hmet
    by_contra hid
    have hopen : c.completed = false := by
      refine Bool.eq_false_iff.2 fun hcompleted => hid (h.start.2 ?_)
      exact mem_awards_challenges.2 ⟨c, hc, hcompleted, rfl⟩
    exact hfinal _ (.inr (.complete (challenge?_awarded_of_not_mem he hc hid) hopen hcurrent hmet))

theorem Reached.isLeast (h : e.Reached now a) (he : e.Distinct)
    (hfinal : (e.awarded now a).Final now) :
    IsLeast {a | e.awards ≤ a ∧ e.Closed now a} a :=
  ⟨⟨h.start, h.closed he hfinal⟩, fun closed hclosed => h.below closed hclosed.1 hclosed.2⟩

/-- All awards that are made until none is left to make lead to the document of the least closed
sets. -/
theorem eq_awarded_of_final (he : e.Distinct)
    (ha : IsLeast {a | e.awards ≤ a ∧ e.Closed now a} a) (h : ReflTransGen (Award now) e f)
    (hfinal : f.Final now) : f = e.awarded now a := by
  obtain ⟨a', hreached, rfl⟩ := exists_reached he h
  rw [(hreached.isLeast he hfinal).unique ha]

end Document

end Arcade
