import Arcade.Hub.Basic
import Arcade.Proofs.Challenge.Generations
import Arcade.Proofs.Ledger.Awards
import Arcade.Proofs.Ledger.Orderly
import Arcade.Proofs.Rule.Isolation

/-!
# Settling

Checking badges and challenges until neither changes makes awards one after the other, and stops
when there is none left to make. A round that makes no award is the last one, and every other round
leaves fewer awards to make, so that the fuel of the rounds is never used up. Only a challenge that
is met and whose end is out of range keeps the rounds from going on.
-/

namespace Arcade

open Relation

namespace Document

variable {d d' e : Document} {now : Instant}

/-- A document with no badge to unlock and no challenge to complete, where all challenges that are
met and still open are past their end. -/
structure Settled (now : Instant) (d : Document) : Prop where
  badges : ∀ d', ¬ d.Unlocks now d'
  challenges : ∀ id c, d.challenge? id = some c → c.completed = false → d.Meets id →
    c.isExpired now = .ok true

/-- A document with an open challenge that is met and whose end is out of range. -/
def Blocked (now : Instant) (d : Document) (e : Fault) : Prop :=
  ∃ id c, d.challenge? id = some c ∧ c.completed = false ∧ d.Meets id ∧ c.isExpired now = .error e

/-- A document in which all challenges that are met and still open are past their end. -/
def NoneLeft (now : Instant) (d : Document) : Prop :=
  ∀ id c, d.challenge? id = some c → c.completed = false → d.Meets id → c.isExpired now = .ok true

theorem NoneLeft.not_completes (h : d.NoneLeft now) : ¬ d.Completes now d' := by
  intro hd
  cases hd with
  | complete found isOpen current met =>
    rw [h _ _ found isOpen met] at current
    cases current

theorem NoneLeft.not_blocked (h : d.NoneLeft now) {f : Fault} : ¬ d.Blocked now f := by
  rintro ⟨id, c, found, isOpen, met, hf⟩
  rw [h id c found isOpen met] at hf
  cases hf

theorem Settled.noneLeft (h : d.Settled now) : d.NoneLeft now := h.challenges

theorem Settled.final (h : d.Settled now) : d.Final now := by
  rintro d' (hd | hd)
  · exact h.badges d' hd
  · exact h.noneLeft.not_completes hd

/-- Awards leave the ends of the challenges alone. -/
theorem Award.map_expiresAt (h : d.Award now d') :
    d'.challenges.map Challenge.expiresAt = d.challenges.map Challenge.expiresAt := by
  rcases h with h | h
  · rw [h.challenges]
  · cases h with
    | complete found isOpen current met =>
      have hend : ∀ c : Challenge, (c.completedOn now).expiresAt = c.expiresAt := fun _ => rfl
      exact map_changeFirst hend d.challenges

theorem needsRefresh_congr {cs cs' : List Challenge}
    (h : cs'.map Challenge.expiresAt = cs.map Challenge.expiresAt) (now : Instant) :
    Challenge.needsRefresh cs' now = Challenge.needsRefresh cs now := by
  cases cs with
  | nil => rw [List.map_eq_nil_iff.1 h]
  | cons c rest =>
    cases cs' with
    | nil => cases h
    | cons c' rest' =>
      have hends : c'.expiresAt = c.expiresAt := (List.cons.inj h).1
      rw [Challenge.needsRefresh, Challenge.needsRefresh, hends]

theorem needsRefresh_of_awards (h : ReflTransGen (Award now) d d') :
    Challenge.needsRefresh d'.challenges now = Challenge.needsRefresh d.challenges now := by
  induction h with
  | refl => rfl
  | tail _ hstep ih => rw [needsRefresh_congr hstep.map_expiresAt, ih]

/-- A challenge that is found open once another was completed was found so before. -/
theorem Completes.challenge?_of_open (h : d.Completes now d') {id : String} {c : Challenge}
    (hc : d'.challenge? id = some c) (ho : c.completed = false) : d.challenge? id = some c := by
  cases h with
  | @complete other x found isOpen current met =>
    have hfind := find?_changeFirst (Challenge.completedOn_id · now) other id d.challenges
    obtain ⟨x, hx, rfl⟩ := Option.map_eq_some_iff.1 (hfind.symm.trans hc)
    by_cases hid : id = other
    · rw [if_pos hid] at ho
      cases ho
    · rw [if_neg hid]
      exact hx

theorem challenge?_complete_self {id : String} {c : Challenge} (h : d.challenge? id = some c)
    (coins : Nat) : (d.complete id coins now).challenge? id = some (c.completedOn now) := by
  have hfind := find?_changeFirst (Challenge.completedOn_id · now) id id d.challenges
  have hc : d.challenges.find? (·.id = id) = some c := h
  rw [hc, Option.map_some, if_pos rfl] at hfind
  exact hfind

theorem challenge?_of_completes (h : ReflTransGen (Completes now) d d') {id : String}
    {c : Challenge} (hc : d'.challenge? id = some c) (ho : c.completed = false) :
    d.challenge? id = some c := by
  induction h with
  | refl => exact hc
  | tail _ hstep ih => exact ih (hstep.challenge?_of_open hc ho)

theorem pending_lt_of_awards (h : TransGen (Award now) d d') : d'.pending < d.pending := by
  induction h with
  | single hstep => exact hstep.pending_lt
  | tail _ hstep ih => exact Nat.lt_trans hstep.pending_lt ih

theorem locked_lt_of_unlocks (h : TransGen (Unlocks now) d d') :
    d'.badges.countP (fun b => !b.unlocked) < d.badges.countP (fun b => !b.unlocked) := by
  induction h with
  | single hstep => exact hstep.locked_lt
  | tail _ hstep ih => exact Nat.lt_trans hstep.locked_lt ih

theorem challenges_of_unlocks (h : ReflTransGen (Unlocks now) d d') :
    d'.challenges = d.challenges := by
  induction h with
  | refl => rfl
  | tail _ hstep ih => rw [hstep.challenges, ih]

/-- Badges are unlocked alike whatever the challenges are. -/
theorem Unlocks.withChallenges (h : d.Unlocks now d') (cs : List Challenge) :
    Unlocks now { d with challenges := cs } { d' with challenges := cs } := by
  cases h with
  | unlock found locked earned =>
    exact .unlock found locked ((d.earns_withChallenges cs _).2 earned)

theorem Unlocks.of_withChallenges {cs : List Challenge}
    (h : Unlocks now { d with challenges := cs } e) : ∃ d', d.Unlocks now d' := by
  cases h with
  | unlock found locked earned =>
    exact ⟨_, .unlock found locked ((d.earns_withChallenges cs _).1 earned)⟩

end Document

namespace Shelf

variable {k : String} {s t u : Shelf} {now : Instant}

/-- A check that ends with some events has made awards, and one that ends with none has changed
nothing. -/
def Advances (k : String) (change : Document → Document → Prop) (s : Shelf) (events : List Event)
    (t : Shelf) : Prop :=
  Orderly k t ∧ (events = [] ∧ t = s ∨
    events ≠ [] ∧ TransGen change s.ledger.document t.ledger.document)

section Advances

variable {change change' : Document → Document → Prop} {events more : List Event}

theorem Advances.none (h : Orderly k s) : Advances k change s [] s := ⟨h, .inl ⟨rfl, rfl⟩⟩

theorem Advances.awards (h : Advances k change s events t) :
    ReflTransGen change s.ledger.document t.ledger.document := by
  rcases h.2 with ⟨-, rfl⟩ | ⟨-, h⟩
  · exact .refl
  · exact h.to_reflTransGen

theorem Advances.append (h : Advances k change s events t) (h' : Advances k change t more u) :
    Advances k change s (events ++ more) u := by
  refine ⟨h'.1, ?_⟩
  rcases h.2 with ⟨rfl, rfl⟩ | ⟨he, ht⟩
  · rw [List.nil_append]
    exact h'.2
  · refine .inr ⟨fun hnil => he (List.append_eq_nil_iff.1 hnil).1, ?_⟩
    exact ht.trans_left h'.awards

theorem Advances.mono (h : Advances k change s events t)
    (hc : ∀ d d', change d d' → change' d d') : Advances k change' s events t :=
  ⟨h.1, h.2.imp_right fun h' => ⟨h'.1, TransGen.mono hc _ _ h'.2⟩⟩

end Advances

/-! ## Badges -/

namespace Orderly

/-- A badge is unlocked if it is known and locked, and else nothing happens. -/
theorem unlock_cases (h : Orderly k s) (id : String) (now : Instant) :
    (∃ b e t, s.ledger.document.badge? id = some b ∧ b.unlocked = false ∧
      (Shelf.unlock id now).outcome s = (.ok (some e), t) ∧ Orderly k t ∧
      t.ledger.document = s.ledger.document.unlock id now) ∨
    (∀ b, s.ledger.document.badge? id = some b → b.unlocked = true) ∧
      (Shelf.unlock id now).outcome s = (.ok none, s) := by
  unfold Shelf.unlock
  rw [Act.outcome_bind, Act.outcome_get]
  dsimp only
  cases hb : s.ledger.document.badge? id with
  | none => exact .inr ⟨nofun, rfl⟩
  | some b =>
    dsimp only
    by_cases hl : b.unlocked = true
    · rw [if_pos hl]
      exact .inr ⟨fun b' hb' => Option.some.inj hb' ▸ hl, rfl⟩
    · rw [if_neg hl, h.outcome_keep_bind, Act.outcome_bind, Act.outcome_modify]
      refine .inl ⟨b, _, _, rfl, Bool.eq_false_iff.2 hl, rfl, (h.keep _).emit _, ?_⟩
      rw [emit_eq]
      exact keep_document _ s

/-- Badges that are earned are unlocked one after the other. -/
theorem unlockAll_result (h : Orderly k s) {ids : List String}
    (hids : ∀ id ∈ ids, s.ledger.document.Earns id) :
    ∃ events t, (unlockAll now ids).outcome s = (.ok events, t) ∧
      Advances k (Document.Unlocks now) s events t ∧
      (events = [] → ∀ id ∈ ids, ∀ b, s.ledger.document.badge? id = some b → b.unlocked = true) := by
  induction ids generalizing s with
  | nil => exact ⟨[], s, rfl, .none h, fun _ id hid => absurd hid List.not_mem_nil⟩
  | cons id rest ih =>
    rcases h.unlock_cases id now with ⟨b, e, t, found, locked, hout, ht, hdoc⟩ | ⟨hall, hout⟩
    · have hstep : s.ledger.document.Unlocks now t.ledger.document := by
        rw [hdoc]
        exact .unlock found locked (hids id List.mem_cons_self)
      obtain ⟨events, u, hrest, hu, -⟩ := ih ht fun x hx =>
        hstep.grown.earns (hids x (List.mem_cons_of_mem id hx))
      refine ⟨e :: events, u, ?_, ⟨hu.1, .inr ⟨List.cons_ne_nil e events, ?_⟩⟩, nofun⟩
      · rw [unlockAll, Act.outcome_bind_of_ok hout, Act.outcome_bind_of_ok hrest]
        rfl
      · exact .head' hstep hu.awards
    · obtain ⟨events, u, hrest, hu, hnone⟩ := ih h fun x hx =>
        hids x (List.mem_cons_of_mem id hx)
      refine ⟨events, u, ?_, hu, fun he x hx => ?_⟩
      · rw [unlockAll, Act.outcome_bind_of_ok hout, Act.outcome_bind_of_ok hrest]
        rfl
      · rcases List.mem_cons.1 hx with rfl | hx
        · exact hall
        · exact hnone he x hx

/-- All badges that are earned are unlocked. If there is none, nothing happens. -/
theorem unlockEarned_result (h : Orderly k s) (now : Instant) :
    ∃ events t, (unlockEarned now).outcome s = (.ok events, t) ∧
      Advances k (Document.Unlocks now) s events t ∧
      (events = [] → ∀ d, ¬ s.ledger.document.Unlocks now d) := by
  have hearned : ∀ id ∈ (s.ledger.document.badges.map Badge.id).filter
      (· ∈ s.ledger.document.snapshot.earnedBadges), s.ledger.document.Earns id := by
    intro id hid
    exact (Snapshot.mem_earnedBadges.1 (of_decide_eq_true (List.mem_filter.1 hid).2)).2
  obtain ⟨events, t, hout, ht, hnone⟩ := h.unlockAll_result hearned
  refine ⟨events, t, hout, ht, ?_⟩
  rintro he d ⟨found, locked, earned⟩
  rename_i id b
  have hb : b ∈ s.ledger.document.badges ∧ b.id = id :=
    ⟨List.mem_of_find?_eq_some found, by simpa using List.find?_some found⟩
  have hin : id ∈ s.ledger.document.snapshot.earnedBadges :=
    Snapshot.mem_earnedBadges.2 ⟨⟨b, hb.1, locked, hb.2⟩, earned⟩
  have hunlocked := hnone he id (List.mem_filter.2
    ⟨List.mem_map.2 ⟨b, hb.1, hb.2⟩, decide_eq_true hin⟩) b found
  rw [locked] at hunlocked
  cases hunlocked

/-- With fuel for more rounds than there are locked badges, badges are unlocked until none is
earned. -/
theorem unlockRounds_result (h : Orderly k s) (now : Instant) {fuel : Nat}
    (hf : s.ledger.document.badges.countP (fun b => !b.unlocked) < fuel) :
    ∃ events t, (unlockRounds now fuel).outcome s = (.ok events, t) ∧
      Advances k (Document.Unlocks now) s events t ∧
      ∀ d, ¬ t.ledger.document.Unlocks now d := by
  induction fuel generalizing s with
  | zero => exact absurd hf (Nat.not_lt_zero _)
  | succ fuel ih =>
    obtain ⟨events, t, hout, ht, hnone⟩ := h.unlockEarned_result now
    rw [unlockRounds, Act.outcome_bind_of_ok hout]
    by_cases he : events = []
    · rw [if_pos he]
      obtain ⟨-, rfl⟩ := ht.2.resolve_right fun h' => h'.1 he
      exact ⟨[], t, rfl, .none h, hnone he⟩
    · obtain ⟨-, hlt⟩ := ht.2.resolve_left fun h' => he h'.1
      obtain ⟨more, u, hrest, hu, hlast⟩ := ih ht.1
        (Nat.lt_of_lt_of_le (Document.locked_lt_of_unlocks hlt) (Nat.le_of_lt_succ hf))
      rw [if_neg he, Act.outcome_bind_of_ok hrest]
      exact ⟨events ++ more, u, rfl, ht.append hu, hlast⟩

theorem checkBadges_result (h : Orderly k s) (now : Instant) :
    ∃ events t, (checkBadges now).outcome s = (.ok events, t) ∧
      Advances k (Document.Unlocks now) s events t ∧
      ∀ d, ¬ t.ledger.document.Unlocks now d :=
  h.unlockRounds_result now (Nat.lt_succ_of_le List.countP_le_length)

/-- More fuel than that makes no difference. -/
theorem unlockRounds_fuel (h : Orderly k s) (now : Instant) {m n : Nat}
    (hm : s.ledger.document.badges.countP (fun b => !b.unlocked) < m)
    (hn : s.ledger.document.badges.countP (fun b => !b.unlocked) < n) :
    (unlockRounds now m).outcome s = (unlockRounds now n).outcome s := by
  induction m generalizing s n with
  | zero => exact absurd hm (Nat.not_lt_zero _)
  | succ m ih =>
    cases n with
    | zero => exact absurd hn (Nat.not_lt_zero _)
    | succ n =>
      obtain ⟨events, t, hout, ht, -⟩ := h.unlockEarned_result now
      rw [unlockRounds, unlockRounds, Act.outcome_bind_of_ok hout, Act.outcome_bind_of_ok hout]
      by_cases he : events = []
      · rw [if_pos he, if_pos he]
      · obtain ⟨-, hlt⟩ := ht.2.resolve_left fun h' => he h'.1
        have hfewer := Document.locked_lt_of_unlocks hlt
        rw [if_neg he, if_neg he, Act.outcome_bind, Act.outcome_bind,
          ih ht.1 (Nat.lt_of_lt_of_le hfewer (Nat.le_of_lt_succ hm))
            (Nat.lt_of_lt_of_le hfewer (Nat.le_of_lt_succ hn))]

end Orderly

/-! ## Challenges -/

/-- Completes all challenges that are met, in the order of the document. -/
def completeMet (now : Instant) : Act Shelf (List Event) := do
  let d := (← get).ledger.document
  let met := d.snapshot.metChallenges
  completeAll now ((d.challenges.map Challenge.id).filter (· ∈ met))

namespace Orderly

/-- A challenge is completed if it is known, open and not past its end. If its end is out of range,
that is a fault, and else nothing happens. -/
theorem complete_cases (h : Orderly k s) (id : String) (now : Instant) :
    (∃ c e t, s.ledger.document.challenge? id = some c ∧ c.completed = false ∧
      c.isExpired now = .ok false ∧ (Shelf.complete id now).outcome s = (.ok (some e), t) ∧
      Orderly k t ∧ t.ledger.document = s.ledger.document.complete id c.rewardCoins now) ∨
    (∃ c f, s.ledger.document.challenge? id = some c ∧ c.completed = false ∧
      c.isExpired now = .error f ∧ (Shelf.complete id now).outcome s = (.error f, s)) ∨
    (∀ c, s.ledger.document.challenge? id = some c → c.completed = false →
      c.isExpired now = .ok true) ∧ (Shelf.complete id now).outcome s = (.ok none, s) := by
  unfold Shelf.complete
  rw [Act.outcome_bind, Act.outcome_get]
  dsimp only
  cases hc : s.ledger.document.challenge? id with
  | none => exact .inr (.inr ⟨nofun, rfl⟩)
  | some c =>
    dsimp only
    by_cases ho : c.completed = true
    · rw [if_pos ho]
      refine .inr (.inr ⟨fun c' hc' ho' => ?_, rfl⟩)
      obtain rfl := Option.some.inj hc'
      rw [ho] at ho'
      cases ho'
    · -- The end is looked at only of a challenge that is open.
      have hopen := Bool.eq_false_iff.2 ho
      rw [if_neg ho, Act.outcome_bind, Act.outcome_lift]
      cases he : c.isExpired now with
      | error f => exact .inr (.inl ⟨c, f, rfl, hopen, he, rfl⟩)
      | ok expired =>
        cases expired with
        | true =>
          refine .inr (.inr ⟨fun c' hc' _ => ?_, rfl⟩)
          obtain rfl := Option.some.inj hc'
          exact he
        | false =>
          dsimp only
          rw [if_neg Bool.false_ne_true, h.outcome_keep_bind, Act.outcome_bind,
            Act.outcome_modify]
          refine .inl ⟨c, _, _, rfl, hopen, he, rfl, (h.keep _).emit _, ?_⟩
          rw [emit_eq]
          exact keep_document _ s

/-- Challenges that are met are completed one after the other, up to one whose end is out of range.
Without such a one, those that are left open are past their end. -/
theorem completeAll_result (h : Orderly k s) {ids : List String}
    (hids : ∀ id ∈ ids, s.ledger.document.Meets id) :
    (∃ events t, (completeAll now ids).outcome s = (.ok events, t) ∧
      Advances k (Document.Completes now) s events t ∧
      ∀ id ∈ ids, ∀ c, t.ledger.document.challenge? id = some c → c.completed = false →
        c.isExpired now = .ok true) ∨
    ∃ f t, (completeAll now ids).outcome s = (.error f, t) ∧
      ReflTransGen (Document.Completes now) s.ledger.document t.ledger.document ∧
      t.ledger.document.Blocked now f := by
  induction ids generalizing s with
  | nil => exact .inl ⟨[], s, rfl, .none h, fun id hid => absurd hid List.not_mem_nil⟩
  | cons id rest ih =>
    have hrest : ∀ x ∈ rest, s.ledger.document.Meets x := fun x hx =>
      hids x (List.mem_cons_of_mem id hx)
    rcases h.complete_cases id now with ⟨c, e, t, found, isOpen, current, hout, ht, hdoc⟩ |
      ⟨c, f, found, isOpen, hf, hout⟩ | ⟨hall, hout⟩
    · -- It is completed, and what was met before is met after it.
      have hstep : s.ledger.document.Completes now t.ledger.document := by
        rw [hdoc]
        exact .complete found isOpen current (hids id List.mem_cons_self)
      rcases ih ht fun x hx => hstep.grown.meets (hrest x hx) with
        ⟨events, u, hout', hu, hleft⟩ | ⟨f, u, hout', hu, hblocked⟩
      · refine .inl ⟨e :: events, u, ?_, ⟨hu.1, .inr ⟨List.cons_ne_nil e events, ?_⟩⟩, ?_⟩
        · rw [completeAll, Act.outcome_bind_of_ok hout, Act.outcome_bind_of_ok hout']
          rfl
        · exact .head' hstep hu.awards
        · intro x hx c' hc' ho
          rcases List.mem_cons.1 hx with rfl | hx
          · have hopen := Document.challenge?_of_completes hu.awards hc' ho
            rw [hdoc, Document.challenge?_complete_self found] at hopen
            cases hopen
            cases ho
          · exact hleft x hx c' hc' ho
      · refine .inr ⟨f, u, ?_, hu.head hstep, hblocked⟩
        rw [completeAll, Act.outcome_bind_of_ok hout, Act.outcome_bind_of_error hout']
    · -- Its end is out of range, so that the rest is not looked at.
      refine .inr ⟨f, s, ?_, .refl, id, c, found, isOpen, hids id List.mem_cons_self, hf⟩
      rw [completeAll, Act.outcome_bind_of_error hout]
    · -- It is past its end if it is open, and what is completed after it does not change that.
      rcases ih h hrest with ⟨events, u, hout', hu, hleft⟩ | ⟨f, u, hout', hu, hblocked⟩
      · refine .inl ⟨events, u, ?_, hu, fun x hx c hc ho => ?_⟩
        · rw [completeAll, Act.outcome_bind_of_ok hout, Act.outcome_bind_of_ok hout']
          rfl
        · rcases List.mem_cons.1 hx with rfl | hx
          · exact hall c (Document.challenge?_of_completes hu.awards hc ho) ho
          · exact hleft x hx c hc ho
      · refine .inr ⟨f, u, ?_, hu, hblocked⟩
        rw [completeAll, Act.outcome_bind_of_ok hout, Act.outcome_bind_of_error hout']

/-- All challenges that are met are completed, up to one whose end is out of range. Without such a
one, those of them that are left open are past their end. -/
theorem completeMet_result (h : Orderly k s) (now : Instant) :
    (∃ events t, (completeMet now).outcome s = (.ok events, t) ∧
      Advances k (Document.Completes now) s events t ∧
      ∀ id c, t.ledger.document.challenge? id = some c → c.completed = false →
        s.ledger.document.Meets id → c.isExpired now = .ok true) ∨
    ∃ f t, (completeMet now).outcome s = (.error f, t) ∧
      ReflTransGen (Document.Completes now) s.ledger.document t.ledger.document ∧
      t.ledger.document.Blocked now f := by
  have hmet : ∀ id ∈ (s.ledger.document.challenges.map Challenge.id).filter
      (· ∈ s.ledger.document.snapshot.metChallenges), s.ledger.document.Meets id := by
    intro id hid
    exact (Snapshot.mem_metChallenges.1 (of_decide_eq_true (List.mem_filter.1 hid).2)).2
  rcases h.completeAll_result hmet with ⟨events, t, hout, ht, hleft⟩ | hblocked
  · refine .inl ⟨events, t, hout, ht, fun id c found isOpen met => ?_⟩
    have hbefore := Document.challenge?_of_completes ht.awards found isOpen
    have hc : c ∈ s.ledger.document.challenges ∧ c.id = id :=
      ⟨List.mem_of_find?_eq_some hbefore, by simpa using List.find?_some hbefore⟩
    have hin : id ∈ s.ledger.document.snapshot.metChallenges :=
      Snapshot.mem_metChallenges.2 ⟨⟨c, hc.1, isOpen, hc.2⟩, met⟩
    exact hleft id (List.mem_filter.2 ⟨List.mem_map.2 ⟨c, hc.1, hc.2⟩, decide_eq_true hin⟩) c
      found isOpen
  · exact .inr hblocked

theorem ensureFresh_error {f : Fault}
    (hf : Challenge.refreshed s.ledger.document.challenges now = .error f) :
    (ensureFresh now).outcome s = (.error f, s) := by
  have hr : Challenge.replacement? s.ledger.document.challenges now = .error f := by
    rcases bind_eq_error.1 hf with hr | ⟨_, -, hr⟩
    · exact hr
    · cases hr
  unfold ensureFresh
  rw [Act.outcome_bind, Act.outcome_get]
  dsimp only
  rw [Act.outcome_bind, Act.outcome_lift, hr]

/-- The challenges are replaced if they are due, and else nothing happens. -/
theorem ensureFresh_ok (h : Orderly k s) {cs : List Challenge}
    (hcs : Challenge.refreshed s.ledger.document.challenges now = .ok cs) :
    ∃ b t, (ensureFresh now).outcome s = (.ok b, t) ∧ Orderly k t ∧
      t.ledger.document = { s.ledger.document with challenges := cs } ∧
      (Challenge.needsRefresh s.ledger.document.challenges now = .ok false → t = s) := by
  unfold ensureFresh
  rw [Act.outcome_bind, Act.outcome_get]
  dsimp only
  rw [Act.outcome_bind, Act.outcome_lift]
  rcases Challenge.refreshed_eq_ok.1 hcs with ⟨hdue, rfl⟩ | ⟨hdue, hg⟩
  · rw [Challenge.replacement?_eq_ok.2 (.inl ⟨hdue, rfl⟩)]
    exact ⟨false, s, rfl, h, rfl, fun _ => rfl⟩
  · rw [Challenge.replacement?_eq_ok.2 (.inr ⟨hdue, cs, hg, rfl⟩)]
    dsimp only
    rw [Act.outcome_bind, h.outcome_replaceChallenges]
    refine ⟨true, _, rfl, (h.keep _).emit _, ?_, fun hn => ?_⟩
    · rw [emit_eq]
      exact keep_document _ s
    · rw [hdue] at hn
      cases hn

/-- Checking the challenges brings them up to date and completes all that are met then. -/
theorem outcome_checkChallenges (h : Orderly k s) {cs : List Challenge}
    (hcs : Challenge.refreshed s.ledger.document.challenges now = .ok cs) :
    ∃ t, (checkChallenges now).outcome s = (completeMet now).outcome t ∧ Orderly k t ∧
      t.ledger.document = { s.ledger.document with challenges := cs } ∧
      (Challenge.needsRefresh s.ledger.document.challenges now = .ok false → t = s) := by
  obtain ⟨b, t, hfresh, ht⟩ := h.ensureFresh_ok hcs
  exact ⟨t, Act.outcome_bind_of_ok hfresh, ht⟩

end Orderly

/-! ## Rounds -/

/-- One round of settling. -/
def settleRound (now : Instant) : Act Shelf (List Event) := do
  let badges ← checkBadges now
  return badges ++ (← checkChallenges now)

theorem settleRounds_succ (now : Instant) (fuel : Nat) :
    settleRounds now (fuel + 1) = settleRound now >>= fun events =>
      if events = [] then pure []
      else settleRounds now fuel >>= fun more => pure (events ++ more) := by
  unfold settleRound
  rw [settleRounds]
  simp only [bind_assoc, pure_bind]

/-- How a round of settling ends that starts from a shelf, with the challenges of its document
brought up to date. -/
inductive RoundEnds (k : String) (now : Instant) (s : Shelf) (e : Document) :
    Except Fault (List Event) × Shelf → Prop
  /-- There was no award to make. -/
  | settled {t : Shelf} (orderly : Orderly k t) (document : t.ledger.document = e)
      (settled : e.Settled now)
      (same : Challenge.needsRefresh s.ledger.document.challenges now = .ok false → t = s) :
      RoundEnds k now s e (.ok [], t)
  /-- Awards were made. -/
  | awards {events : List Event} {t : Shelf} (orderly : Orderly k t) (nonempty : events ≠ [])
      (awards : TransGen (Document.Award now) e t.ledger.document) :
      RoundEnds k now s e (.ok events, t)
  /-- The end of a challenge is out of range. -/
  | blocked {f : Fault} {t : Shelf}
      (awards : ReflTransGen (Document.Award now) e t.ledger.document)
      (blocked : t.ledger.document.Blocked now f) : RoundEnds k now s e (.error f, t)

theorem Orderly.settleRound_ends (h : Orderly k s) {cs : List Challenge}
    (hcs : Challenge.refreshed s.ledger.document.challenges now = .ok cs) :
    RoundEnds k now s { s.ledger.document with challenges := cs } ((settleRound now).outcome s) := by
  obtain ⟨badges, t, hbadges, ht, hlast⟩ := h.checkBadges_result now
  -- Unlocking badges does not touch the challenges, so that it makes no difference that they are
  -- brought up to date only after it.
  have hsame := Document.challenges_of_unlocks ht.awards
  rw [← hsame] at hcs
  obtain ⟨u, hcheck, hu, hdoc, hdue⟩ := ht.1.outcome_checkChallenges hcs
  have hlift : ∀ d d', Document.Unlocks now d d' →
      Document.Award now { d with challenges := cs } { d' with challenges := cs } :=
    fun d d' hd => .inl (hd.withChallenges cs)
  have hcompletes : ∀ d d', Document.Completes now d d' → Document.Award now d d' :=
    fun _ _ => .inr
  have hunlocked : ReflTransGen (Document.Award now)
      { s.ledger.document with challenges := cs } u.ledger.document := by
    rw [hdoc]
    exact ht.awards.lift _ hlift
  unfold settleRound
  rw [Act.outcome_bind_of_ok hbadges]
  rcases hu.completeMet_result now with ⟨events, v, hout, hv, hleft⟩ | ⟨f, v, hout, hv, hblocked⟩
  · have hcompleted : Advances k (Document.Award now) u events v := hv.mono hcompletes
    rw [Act.outcome_bind_of_ok (hcheck.trans hout)]
    -- A round without an award was the last one: no badge and no challenge was left before it.
    by_cases he : badges ++ events = []
    · obtain ⟨rfl, rfl⟩ := List.append_eq_nil_iff.1 he
      obtain ⟨-, rfl⟩ := ht.2.resolve_right fun h' => h'.1 rfl
      obtain ⟨-, rfl⟩ := hv.2.resolve_right fun h' => h'.1 rfl
      refine .settled hv.1 hdoc ⟨fun d hd => ?_, hdoc ▸ hleft⟩ hdue
      obtain ⟨d', hd'⟩ := hd.of_withChallenges
      exact hlast d' hd'
    · refine .awards hv.1 he ?_
      rcases ht.2 with ⟨rfl, rfl⟩ | ⟨-, hsome⟩
      · obtain ⟨-, hmore⟩ := hcompleted.2.resolve_left fun h' => he h'.1
        exact .trans_right hunlocked hmore
      · have hfirst : TransGen (Document.Award now)
            { s.ledger.document with challenges := cs } u.ledger.document := by
          rw [hdoc]
          exact hsome.lift _ hlift
        exact hfirst.trans_left hcompleted.awards
  · rw [Act.outcome_bind_of_error (hcheck.trans hout)]
    exact .blocked (hunlocked.trans (ReflTransGen.mono hcompletes _ _ hv)) hblocked

/-- How settling ends that starts from a document whose challenges are up to date. -/
inductive SettlingEnds (k : String) (now : Instant) (e : Document) :
    Except Fault (List Event) × Shelf → Prop
  /-- Awards were made until there was none left to make. -/
  | settled {events : List Event} {t : Shelf} (orderly : Orderly k t)
      (awards : ReflTransGen (Document.Award now) e t.ledger.document)
      (settled : t.ledger.document.Settled now) : SettlingEnds k now e (.ok events, t)
  /-- Awards were made up to a challenge whose end is out of range. -/
  | blocked {f : Fault} {t : Shelf}
      (awards : ReflTransGen (Document.Award now) e t.ledger.document)
      (blocked : t.ledger.document.Blocked now f) : SettlingEnds k now e (.error f, t)

/-- Challenges that were brought up to date stay so while awards are made. -/
theorem refreshed_of_awards {e f : Document} {old : List Challenge}
    (he : Challenge.refreshed old now = .ok e.challenges)
    (h : ReflTransGen (Document.Award now) e f) :
    Challenge.refreshed f.challenges now = .ok f.challenges := by
  refine Challenge.refreshed_eq_ok.2 (.inl ⟨?_, rfl⟩)
  rw [Document.needsRefresh_of_awards h]
  exact Challenge.needsRefresh_refreshed he

/-- With fuel for more rounds than there are awards to make, settling ends because there is none
left to make. -/
theorem Orderly.settleRounds_ends (h : Orderly k s) {e : Document}
    (he : e = { s.ledger.document with challenges := e.challenges })
    (hcs : Challenge.refreshed s.ledger.document.challenges now = .ok e.challenges) {fuel : Nat}
    (hf : e.pending < fuel) : SettlingEnds k now e ((settleRounds now fuel).outcome s) := by
  induction fuel generalizing s e with
  | zero => exact absurd hf (Nat.not_lt_zero _)
  | succ fuel ih =>
    have hround := h.settleRound_ends hcs
    rw [← he] at hround
    rw [settleRounds_succ, Act.outcome_bind]
    generalize (settleRound now).outcome s = r at hround
    cases hround with
    | settled orderly document settled _ =>
      subst document
      exact .settled orderly .refl settled
    | blocked awards blocked => exact .blocked awards blocked
    | awards orderly nonempty awards =>
      rename_i events t
      dsimp only
      rw [if_neg nonempty, Act.outcome_bind]
      have hpending := Document.pending_lt_of_awards awards
      have hrest := ih orderly (e := t.ledger.document) rfl
        (refreshed_of_awards hcs awards.to_reflTransGen)
        (Nat.lt_of_lt_of_le hpending (Nat.le_of_lt_succ hf))
      generalize (settleRounds now fuel).outcome t = r at hrest
      cases hrest with
      | settled orderly' awards' settled =>
        exact .settled orderly' (awards.to_reflTransGen.trans awards') settled
      | blocked awards' blocked =>
        exact .blocked (awards.to_reflTransGen.trans awards') blocked

/-- More fuel than that makes no difference. -/
theorem Orderly.settleRounds_fuel (h : Orderly k s) {e : Document}
    (he : e = { s.ledger.document with challenges := e.challenges })
    (hcs : Challenge.refreshed s.ledger.document.challenges now = .ok e.challenges) {m n : Nat}
    (hm : e.pending < m) (hn : e.pending < n) :
    (settleRounds now m).outcome s = (settleRounds now n).outcome s := by
  induction m generalizing s e n with
  | zero => exact absurd hm (Nat.not_lt_zero _)
  | succ m ih =>
    cases n with
    | zero => exact absurd hn (Nat.not_lt_zero _)
    | succ n =>
      have hround := h.settleRound_ends hcs
      rw [← he] at hround
      rw [settleRounds_succ, settleRounds_succ, Act.outcome_bind, Act.outcome_bind]
      generalize (settleRound now).outcome s = r at hround
      cases hround with
      | settled orderly document settled _ => rfl
      | blocked awards blocked => rfl
      | awards orderly nonempty awards =>
        rename_i events t
        have hpending := Document.pending_lt_of_awards awards
        dsimp only
        rw [if_neg nonempty, if_neg nonempty, Act.outcome_bind, Act.outcome_bind,
          ih orderly (e := t.ledger.document) rfl
            (refreshed_of_awards hcs awards.to_reflTransGen)
            (Nat.lt_of_lt_of_le hpending (Nat.le_of_lt_succ hm))
            (Nat.lt_of_lt_of_le hpending (Nat.le_of_lt_succ hn))]

/-- If the challenges cannot be brought up to date, settling ends with that fault. -/
theorem Orderly.settleRounds_error (h : Orderly k s) {f : Fault}
    (hf : Challenge.refreshed s.ledger.document.challenges now = .error f) (m n : Nat) :
    (settleRounds now (m + 1)).outcome s = (settleRounds now (n + 1)).outcome s ∧
      ((settleRounds now (m + 1)).outcome s).1 = .error f := by
  obtain ⟨badges, t, hbadges, ht, -⟩ := h.checkBadges_result now
  have hsame := Document.challenges_of_unlocks ht.awards
  rw [← hsame] at hf
  have hcheck : (checkChallenges now).outcome t = (.error f, t) :=
    Act.outcome_bind_of_error (Orderly.ensureFresh_error hf)
  have hround : (settleRound now).outcome s = (.error f, t) := by
    unfold settleRound
    rw [Act.outcome_bind_of_ok hbadges, Act.outcome_bind_of_error hcheck]
  rw [settleRounds_succ, settleRounds_succ, Act.outcome_bind_of_error hround,
    Act.outcome_bind_of_error hround]
  exact ⟨rfl, rfl⟩

/-- Where there is no award left to make, settling changes nothing. -/
theorem Orderly.settle_again (h : Orderly k s)
    (hdue : Challenge.needsRefresh s.ledger.document.challenges now = .ok false)
    (hs : s.ledger.document.Settled now) : (settle now).outcome s = (.ok [], s) := by
  have hround := h.settleRound_ends (Challenge.refreshed_eq_ok.2 (.inl ⟨hdue, rfl⟩))
  unfold settle
  rw [Act.outcome_bind, Act.outcome_get]
  dsimp only
  rw [settleRounds_succ, Act.outcome_bind]
  generalize (settleRound now).outcome s = r at hround
  cases hround with
  | settled orderly document settled same =>
    rw [same hdue]
    rfl
  | awards orderly nonempty awards =>
    obtain ⟨d, hd, -⟩ := TransGen.head'_iff.1 awards
    exact absurd hd (hs.final d)
  | blocked awards blocked =>
    rcases ReflTransGen.cases_head awards with hsame | ⟨d, hd, -⟩
    · rw [← hsame] at blocked
      exact absurd blocked hs.noneLeft.not_blocked
    · exact absurd hd (hs.final d)

end Shelf

/-! ## The least awards -/

namespace Document

variable {d e : Document} {now : Instant} {a : Finset String × Finset String}

/-- A document with a challenge that is met with some awards, but whose end is out of range, so that
it is never among them. -/
def Stuck (e : Document) (now : Instant) (a : Finset String × Finset String) : Prop :=
  ∃ c ∈ e.challenges, c.id ∉ a.2 ∧ (e.awarded now a).Meets c.id ∧ ∃ f, c.isExpired now = .error f

/-- Identifiers stay different when the challenges are brought up to date. -/
theorem Distinct.refreshed (h : d.Distinct) {cs : List Challenge}
    (hcs : Challenge.refreshed d.challenges now = .ok cs) :
    Distinct { d with challenges := cs } := by
  refine ⟨h.badges, ?_⟩
  rcases Challenge.refreshed_eq_ok.1 hcs with ⟨-, rfl⟩ | ⟨-, hg⟩
  · exact h.challenges
  · obtain ⟨m, -, rfl⟩ := Challenge.generation_eq_ok.1 hg
    have hids : (Challenge.catalog.map Challenge.Design.id).Nodup := by decide
    show ((Challenge.catalog.map (Challenge.ofDesign · m.timestamp)).map Challenge.id).Nodup
    rw [List.map_map]
    exact hids

theorem open_of_not_mem (h : e.awards ≤ a) {c : Challenge} (hc : c ∈ e.challenges)
    (hid : c.id ∉ a.2) : c.completed = false :=
  Bool.eq_false_iff.2 fun hcompleted =>
    hid (h.2 (mem_awards_challenges.2 ⟨c, hc, hcompleted, rfl⟩))

/-- If all awards are made and nothing is blocked, no challenge is stuck. -/
theorem Settled.not_stuck (h : (e.awarded now a).Settled now) (he : e.Distinct)
    (ha : e.awards ≤ a) : ¬ e.Stuck now a := by
  rintro ⟨c, hc, hid, hmet, f, hf⟩
  have hexpired := h.challenges c.id c (challenge?_awarded_of_not_mem he hc hid)
    (open_of_not_mem ha hc hid) hmet
  rw [hf] at hexpired
  cases hexpired

/-- A challenge that blocks some awards is stuck with all further ones. -/
theorem Reached.stuck (h : e.Reached now a) {b : Finset String × Finset String} (hb : b ≤ a)
    {f : Fault} (hblocked : (e.awarded now b).Blocked now f) : e.Stuck now a := by
  obtain ⟨id, c, found, isOpen, met, hf⟩ := hblocked
  obtain ⟨hc, rfl, -⟩ := open_of_challenge?_awarded found isOpen
  refine ⟨c, hc, fun hid => ?_, (grown_awarded hb e now).meets met, f, hf⟩
  rcases h.current c hc hid with hcompleted | hcurrent
  · rw [isOpen] at hcompleted
    cases hcompleted
  · rw [hf] at hcurrent
    cases hcurrent

end Document

namespace Shelf

variable {k : String} {s : Shelf} {now : Instant}

/-- The fuel with which a document is settled. -/
def fuelFor (d : Document) : Nat :=
  d.badges.length + d.challenges.length + Challenge.catalog.length + 2

theorem outcome_settle (s : Shelf) (now : Instant) : (settle now).outcome s =
    (settleRounds now (fuelFor s.ledger.document)).outcome s := by
  unfold settle
  rw [Act.outcome_bind, Act.outcome_get]
  rfl

/-- The fuel of settling is more than there are awards to make. -/
theorem pending_lt_fuel (d : Document) {cs : List Challenge}
    (hcs : Challenge.refreshed d.challenges now = .ok cs) :
    Document.pending { d with challenges := cs } < fuelFor d := by
  have hbadges : d.badges.countP (fun b => !b.unlocked) ≤ d.badges.length := List.countP_le_length
  have hchallenges : cs.countP (fun c => !c.completed) ≤ cs.length := List.countP_le_length
  have hlength : cs.length ≤ d.challenges.length + Challenge.catalog.length := by
    rcases Challenge.refreshed_eq_ok.1 hcs with ⟨-, rfl⟩ | ⟨-, hg⟩
    · exact Nat.le_add_right _ _
    · obtain ⟨m, -, rfl⟩ := Challenge.generation_eq_ok.1 hg
      rw [List.length_map]
      exact Nat.le_add_left _ _
  show d.badges.countP (fun b => !b.unlocked) + cs.countP (fun c => !c.completed) < _
  unfold fuelFor
  omega

/-- In a hub the ledger is settled in the same way. -/
theorem outcome_hubSettle (s : Shelf) (now : Instant) (hub : Hub)
    (hl : hub.room.rest.ledger = some s.ledger) (hs : hub.room.storage = s.storage) :
    ((Hub.settle now).outcome hub).1 = ((settle now).outcome s).1 ∧
      ((Hub.settle now).outcome hub).2.room.rest.ledger =
        some ((settle now).outcome s).2.ledger := by
  unfold Hub.settle Hub.onShelf Scene.inRoom
  rw [Act.outcome_within, Act.outcome_ofOutcome, hl, hs]
  exact ⟨rfl, rfl⟩

/-- Settling a ledger with different identifiers makes the least awards that the rules are closed
under, whatever the order. It ends with a fault only if the challenges cannot be brought up to date
or one of them is stuck. -/
theorem settle_least (h : Orderly k s) (hd : s.ledger.document.Distinct) (now : Instant) :
    (∀ f, Challenge.refreshed s.ledger.document.challenges now = .error f →
      ((settle now).outcome s).1 = .error f) ∧
    (∀ cs, Challenge.refreshed s.ledger.document.challenges now = .ok cs →
      let e := { s.ledger.document with challenges := cs }
      ∃ a, IsLeast {a | e.awards ≤ a ∧ e.Closed now a} a ∧
        (e.Stuck now a → ((settle now).outcome s).1 = .error .outOfRange) ∧
        (¬ e.Stuck now a → ∃ events t, (settle now).outcome s = (.ok events, t) ∧
          t.ledger.document = e.awarded now a ∧ t.ledger.document.awards = a ∧
          (settle now).outcome t = (.ok [], t)) ∧
        ∀ f, ReflTransGen (Document.Award now) e f →
          ReflTransGen (Document.Award now) f (e.awarded now a) ∧
            (f.Final now → f = e.awarded now a)) ∧
    (∀ fuel, fuelFor s.ledger.document ≤ fuel →
      (settleRounds now fuel).outcome s = (settle now).outcome s) ∧
    (∀ t, Orderly k t → ∀ fuel, t.ledger.document.badges.length < fuel →
      (unlockRounds now fuel).outcome t = (checkBadges now).outcome t) ∧
    ∀ hub : Hub, hub.room.rest.ledger = some s.ledger → hub.room.storage = s.storage →
      ((Hub.settle now).outcome hub).1 = ((settle now).outcome s).1 ∧
        ((Hub.settle now).outcome hub).2.room.rest.ledger =
          some ((settle now).outcome s).2.ledger := by
  have hhub := outcome_hubSettle s now
  rw [outcome_settle] at hhub ⊢
  generalize hn : fuelFor s.ledger.document = n at hhub ⊢
  refine ⟨fun f hf => ?_, fun cs hcs => ?_, fun fuel hfuel => ?_, fun t ht fuel hfuel => ?_, hhub⟩
  · obtain ⟨m, rfl⟩ : ∃ m, n = m + 1 := ⟨_, hn.symm⟩
    exact (h.settleRounds_error hf m 0).2
  · intro e
    have he : e.Distinct := hd.refreshed hcs
    obtain ⟨f, hf, hfinal⟩ := Document.exists_final now e
    obtain ⟨a, ha, rfl⟩ := Document.exists_reached he hf
    have hleast := ha.isLeast he hfinal
    have hends : SettlingEnds k now e ((settleRounds now n).outcome s) :=
      h.settleRounds_ends (e := e) rfl hcs (hn ▸ pending_lt_fuel _ hcs)
    generalize (settleRounds now n).outcome s = r at hends
    -- Awards in any order end at the least set that is closed, those of the rounds among them.
    refine ⟨a, hleast, fun hstuck => ?_, fun hstuck => ?_, fun g hg => ⟨?_, fun hgfinal => ?_⟩⟩
    · cases hends with
      | settled orderly awards settled =>
        rw [Document.eq_awarded_of_final he hleast awards settled.final] at settled
        exact absurd hstuck (settled.not_stuck he ha.start)
      | blocked awards blocked =>
        obtain ⟨id, c, -, -, -, hc⟩ := blocked
        rw [Challenge.isExpired_error hc]
    · cases hends with
      | settled orderly awards settled =>
        have hdoc := Document.eq_awarded_of_final he hleast awards settled.final
        refine ⟨_, _, rfl, hdoc, ?_, orderly.settle_again ?_ settled⟩
        · rw [hdoc]
          exact ha.awards_awarded
        · rw [Document.needsRefresh_of_awards awards]
          exact Challenge.needsRefresh_refreshed hcs
      | blocked awards blocked =>
        obtain ⟨b, hb, hdoc⟩ := Document.exists_reached he awards
        rw [hdoc] at blocked
        exact absurd (ha.stuck (hb.below a hleast.1.1 hleast.1.2) blocked) hstuck
    · obtain ⟨final, hrest, hlast⟩ := Document.exists_final now g
      rwa [Document.eq_awarded_of_final he hleast (hg.trans hrest) hlast] at hrest
    · exact Document.eq_awarded_of_final he hleast hg hgfinal
  · cases hcs : Challenge.refreshed s.ledger.document.challenges now with
    | error f =>
      obtain ⟨m, rfl⟩ : ∃ m, n = m + 1 := ⟨_, hn.symm⟩
      obtain ⟨m', rfl⟩ := Nat.exists_eq_add_of_le' (Nat.le_trans (Nat.le_add_left 1 m) hfuel)
      exact (h.settleRounds_error hcs m' m).1
    | ok cs =>
      have hpending := hn ▸ pending_lt_fuel _ hcs
      exact h.settleRounds_fuel (e := { s.ledger.document with challenges := cs }) rfl hcs
        (Nat.lt_of_lt_of_le hpending hfuel) hpending
  · have hlocked : t.ledger.document.badges.countP (fun b => !b.unlocked) ≤
        t.ledger.document.badges.length := List.countP_le_length
    exact ht.unlockRounds_fuel now (Nat.lt_of_le_of_lt hlocked hfuel) (Nat.lt_succ_of_le hlocked)

/-- A ledger with a document on an empty storage. -/
def holding (d : Document) : Shelf where
  ledger := {
    dataKey := .str "gameverse-data"
    streakKey := .str "rps-streak"
    document := d
  }
  storage := {}

/-- A challenge without a rule. -/
def unruled : Challenge :=
  ⟨"x", .str "", .str "", .str "", .str "", 0, "2026-10-19T00:00:00", false, .null⟩

/-- A challenge to win three times that ends before the first day of the calendar at the offset
zero. -/
def longGone : Challenge :=
  ⟨"rps_daily_win_3", .str "", .str "", .str "", .str "", 50, "0001-01-01T00:00:00+14:00", false,
    .null⟩

/-- A document with three wins, no badges and two challenges. -/
def threeWins : Document where
  progress := Dict.ofList [("rock-paper-scissors", Dict.ofList [("wins", 3)])]
  badges := []
  challenges := [unruled, longGone]
  tally := {}

theorem settle_threeWins :
    ((settle ⟨⟨2026, 10, 18, by decide⟩, .midnight⟩).outcome (holding threeWins)).1 =
      .error .outOfRange := by
  have hdue : Challenge.needsRefresh threeWins.challenges ⟨⟨2026, 10, 18, by decide⟩, .midnight⟩ =
      .ok false := by
    have hm : (⟨⟨2026, 10, 18, by decide⟩, .midnight⟩ : Instant).nextMidnight =
        .ok ⟨⟨2026, 10, 19, by decide⟩, .midnight⟩ := rfl
    exact Challenge.needsRefresh_of_nextMidnight hm (by decide) _
  -- From here on the instant matters only through what is due and what is past its end.
  generalize (⟨⟨2026, 10, 18, by decide⟩, .midnight⟩ : Instant) = now at hdue ⊢
  have hends : longGone.isExpired now = .error .outOfRange := by
    have hread : Timestamp.read "0001-01-01T00:00:00+14:00" = .error .outOfRange := rfl
    rw [Challenge.isExpired, longGone, hread]
    rfl
  have hdistinct : threeWins.Distinct := ⟨by decide, by decide⟩
  have horderly : Orderly "gameverse-data" (holding threeWins) := by
    refine ⟨rfl, fun e he => ?_⟩
    cases he
  obtain ⟨a, hleast, hstuck, -⟩ := (settle_least horderly hdistinct now).2.1 threeWins.challenges
    (Challenge.refreshed_eq_ok.2 (.inl ⟨hdue, rfl⟩))
  have hstart : threeWins.awards ≤ a := hleast.1.1
  have hgrown : threeWins.Grown (threeWins.awarded now a) := by
    have h := Document.grown_awarded hstart threeWins now
    rwa [Document.awarded_awards hdistinct] at h
  -- What is awarded already is closed: one challenge has no rule, and the end of the other is out
  -- of range.
  have hclosed : threeWins.Closed now threeWins.awards := by
    refine ⟨fun b hb => absurd hb List.not_mem_nil, fun c hc hcurrent hmet => ?_⟩
    rcases List.mem_pair.1 hc with rfl | rfl
    · have hrule : Challenge.rule? unruled.id = none := by decide
      rw [Document.Meets, Snapshot.satisfies, hrule] at hmet
      cases hmet
    · rw [hends] at hcurrent
      cases hcurrent
  have hmeets : threeWins.Meets longGone.id := by
    show threeWins.snapshot.satisfies Challenge.rule? longGone.id = true
    decide
  -- The least awards are then those of the document, so that this challenge is left open.
  have hleft : longGone.id ∉ a.2 := by
    intro hin
    have hawarded : longGone.id ∈ threeWins.awards.2 := (hleast.2 ⟨le_rfl, hclosed⟩).2 hin
    revert hawarded
    decide
  exact hstuck ⟨longGone, List.mem_cons_of_mem _ List.mem_cons_self, hleft, hgrown.meets hmeets, _,
    hends⟩

end Shelf

end Arcade
