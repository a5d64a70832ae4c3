import Arcade.Proofs.Ledger.Restart
import Arcade.Proofs.Ledger.Settling

/-!
# Checking challenges again

A check of the challenges looks once which of them are met, and then completes those. One challenge
is to complete five others. If it is the check itself that completes the fifth, this challenge is
met only afterwards, so that a second check completes it. That is the only thing that a second check
ever does: all other rules for challenges look at what completing does not change.
-/

namespace Arcade

open Relation

namespace Rule

/-- Whether a rule looks at challenges that were completed. -/
def readsCompletions : Rule → Bool
  | .counts .generationCompleted _ _ | .counts .challengesCompleted _ _ => true
  | _ => false

/-- All other rules look at the records and at the badges. -/
theorem eval_congr {s s' : Snapshot} {r : Rule} (hr : r.readsCompletions = false)
    (hrecords : s'.records = s.records) (hbadges : s'.badges = s.badges)
    (hunlocks : s'.badgesUnlocked = s.badgesUnlocked) : r.eval s' = r.eval s := by
  cases r with
  | record game conditions => rw [eval, eval, recordOf, recordOf, hrecords]
  | counts m c bound =>
    have hm : m.value s' = m.value s := by
      cases m with
      | generationCompleted | challengesCompleted => cases hr
      | _ => simp only [Measure.value, hrecords, hbadges, hunlocks]
    rw [eval, eval, hm]

end Rule

namespace Challenge

/-- The challenge to complete five others. -/
def overachiever : String := "daily_complete_5_challenges"

theorem rule?_overachiever :
    rule? overachiever = some (.counts .generationCompleted .atLeast 5) := by decide

theorem readsCompletions_of_rule? {id : String} {r : Rule} (h : rule? id = some r)
    (hid : id ≠ overachiever) : r.readsCompletions = false := by
  have hall : ∀ d ∈ catalog, d.id ≠ overachiever → d.rule.readsCompletions = false := by
    decide
  obtain ⟨d, hd, rfl⟩ := Option.map_eq_some_iff.1 h
  have hsame : d.id = id := by simpa using List.find?_some hd
  exact hall d (List.mem_of_find?_eq_some hd) (hsame ▸ hid)

end Challenge

namespace Document

open Challenge (overachiever)

variable {d d' e : Document} {now : Instant} {c : Challenge} {id : String}

/-! ## What completing changes -/

theorem meets_overachiever_iff :
    d.Meets overachiever ↔ 5 ≤ d.challenges.countP Challenge.completed := by
  have heval : (Rule.counts .generationCompleted .atLeast 5).eval d.snapshot =
      .ok (Number.le (.int 5) (.int (d.challenges.countP Challenge.completed))) := rfl
  rw [Meets, Snapshot.satisfies, Challenge.rule?_overachiever]
  dsimp only
  rw [Rule.holds_iff, heval, Except.ok.injEq, Number.le_int, decide_eq_true_iff]
  omega

/-- Whether any other challenge is met does not change when challenges are completed. -/
theorem Completes.meets_iff (h : d.Completes now d') (hid : id ≠ overachiever) :
    d'.Meets id ↔ d.Meets id := by
  have hrecords := h.grown.records
  have hbadges : d'.snapshot.badges = d.snapshot.badges := h.badges
  have hunlocks : d'.snapshot.badgesUnlocked = d.snapshot.badgesUnlocked := by
    cases h
    rfl
  rw [Meets, Meets, Snapshot.satisfies_iff, Snapshot.satisfies_iff]
  refine exists_congr fun r => and_congr_right fun hr => ?_
  rw [Rule.eval_congr (Challenge.readsCompletions_of_rule? hr hid) hrecords hbadges hunlocks]

theorem meets_of_completes (h : ReflTransGen (Completes now) d d') (hid : id ≠ overachiever) :
    d'.Meets id ↔ d.Meets id := by
  induction h with
  | refl => exact Iff.rfl
  | tail _ hstep ih => rw [hstep.meets_iff hid, ih]

theorem needsRefresh_of_completes (h : ReflTransGen (Completes now) d d') :
    Challenge.needsRefresh d'.challenges now = Challenge.needsRefresh d.challenges now :=
  needsRefresh_of_awards (ReflTransGen.mono (fun _ _ => .inr) _ _ h)

/-! ## What is left to complete -/

/-- A document in which all challenges that are met and still open are past their end, but for the
one to complete five others. -/
def OneLeft (now : Instant) (d : Document) : Prop :=
  ∀ id c, id ≠ overachiever → d.challenge? id = some c → c.completed = false → d.Meets id →
    c.isExpired now = .ok true

/-- The challenge to complete five others waits if it is open and only what was completed since an
earlier document makes it five. -/
structure Waits (e d : Document) (c : Challenge) : Prop where
  found : d.challenge? overachiever = some c
  isOpen : c.completed = false
  before : e.challenges.countP Challenge.completed < 5
  after : 5 ≤ d.challenges.countP Challenge.completed

theorem Waits.meets (h : e.Waits d c) : d.Meets overachiever := meets_overachiever_iff.2 h.after

/-- From a document where none is left nothing is completed any more. -/
theorem NoneLeft.eq_of_completes (h : d.NoneLeft now) (hd : ReflTransGen (Completes now) d d') :
    d' = d := by
  rcases ReflTransGen.cases_head hd with rfl | ⟨x, hx, -⟩
  · rfl
  · exact absurd hx h.not_completes

/-- Where one is left, it is the only one that can be completed. -/
theorem OneLeft.eq_complete (h : d.OneLeft now) (hd : d.Completes now d') :
    ∃ c, d.challenge? overachiever = some c ∧ c.completed = false ∧ c.isExpired now = .ok false ∧
      d' = d.complete overachiever c.rewardCoins now := by
  cases hd with
  | @complete id c found isOpen current met =>
    by_cases hid : id = overachiever
    · subst hid
      exact ⟨c, found, isOpen, current, rfl⟩
    · rw [h id c hid found isOpen met] at current
      cases current

/-- Once it is completed, none is left. -/
theorem OneLeft.noneLeft_complete (h : d.OneLeft now) (hd : d.Completes now d') :
    d'.NoneLeft now := by
  intro id x hx hopen hmeets
  have hbefore := hd.challenge?_of_open hx hopen
  by_cases hid : id = overachiever
  · obtain ⟨c, hc, -, -, rfl⟩ := h.eq_complete hd
    subst hid
    rw [challenge?_complete_self hc] at hx
    cases hx
    cases hopen
  · exact h id x hid hbefore hopen ((hd.meets_iff hid).1 hmeets)

/-- Where one is left, only its own end can be out of range. -/
theorem OneLeft.isExpired_of_blocked {f : Fault} (h : d.OneLeft now) (hb : d.Blocked now f) :
    ∃ c, d.challenge? overachiever = some c ∧ c.isExpired now = .error f := by
  obtain ⟨id, c, hc, hopen, hmeets, hf⟩ := hb
  by_cases hid : id = overachiever
  · exact ⟨c, hid ▸ hc, hf⟩
  · rw [h id c hid hc hopen hmeets] at hf
    cases hf

end Document

namespace Shelf

variable {k : String} {s : Shelf} {now : Instant}

open Challenge (overachiever)

/-! ## Second checks -/

/-- A check where none is left changes nothing. -/
theorem Orderly.checkChallenges_of_noneLeft (h : Orderly k s)
    (hdue : Challenge.needsRefresh s.ledger.document.challenges now = .ok false)
    (hn : s.ledger.document.NoneLeft now) : (checkChallenges now).outcome s = (.ok [], s) := by
  obtain ⟨t, hcheck, -, -, hsame⟩ :=
    h.outcome_checkChallenges (Challenge.refreshed_eq_ok.2 (.inl ⟨hdue, rfl⟩))
  obtain rfl := hsame hdue
  rw [hcheck]
  rcases h.completeMet_result now with ⟨events, u, hout, ⟨-, hu⟩, -⟩ | ⟨f, u, hout, hu, hblocked⟩
  · rcases hu with ⟨rfl, rfl⟩ | ⟨-, hu⟩
    · exact hout
    · obtain ⟨d, hd, -⟩ := TransGen.head'_iff.1 hu
      exact absurd hd hn.not_completes
  · rw [hn.eq_of_completes hu] at hblocked
    exact absurd hblocked hn.not_blocked

/-- A check where one is left completes it if it is not past its end, and nothing else. -/
theorem Orderly.checkChallenges_of_oneLeft (h : Orderly k s)
    (hdue : Challenge.needsRefresh s.ledger.document.challenges now = .ok false)
    (hone : s.ledger.document.OneLeft now) {c : Challenge}
    (hc : s.ledger.document.challenge? overachiever = some c) (hopen : c.completed = false)
    (hmeets : s.ledger.document.Meets overachiever) :
    (c.isExpired now = .ok false → ∃ events u, (checkChallenges now).outcome s = (.ok events, u) ∧
      events ≠ [] ∧
      u.ledger.document = s.ledger.document.complete overachiever c.rewardCoins now ∧
      (checkChallenges now).outcome u = (.ok [], u)) ∧
    ∀ f, c.isExpired now = .error f → ∃ u, (checkChallenges now).outcome s = (.error f, u) ∧
      u.ledger.document = s.ledger.document := by
  obtain ⟨t, hcheck, -, -, hsame⟩ :=
    h.outcome_checkChallenges (Challenge.refreshed_eq_ok.2 (.inl ⟨hdue, rfl⟩))
  obtain rfl := hsame hdue
  rw [hcheck]
  have hstep (d : Document) (hd : t.ledger.document.Completes now d) :
      d = t.ledger.document.complete overachiever c.rewardCoins now ∧ d.NoneLeft now ∧
        c.isExpired now = .ok false := by
    obtain ⟨x, hx, -, hcurrent, rfl⟩ := hone.eq_complete hd
    obtain rfl := Option.some.inj (hc.symm.trans hx)
    exact ⟨rfl, hone.noneLeft_complete hd, hcurrent⟩
  rcases h.completeMet_result now with
    ⟨events, u, hout, ⟨hu, hsteps⟩, hleft⟩ | ⟨g, u, hout, hsteps, hblocked⟩
  · rcases hsteps with ⟨rfl, rfl⟩ | ⟨hne, hsteps⟩
    · -- Without an award, the one that is left was past its end.
      have hexpired := hleft _ _ hc hopen hmeets
      rw [hexpired]
      exact ⟨nofun, nofun⟩
    · -- The first award is of the one that is left, and there is nothing to award after it.
      obtain ⟨d, hd, hrest⟩ := TransGen.head'_iff.1 hsteps
      obtain ⟨hdocument, hnone, hcurrent⟩ := hstep d hd
      have hlast := hnone.eq_of_completes hrest
      rw [hcurrent]
      refine ⟨fun _ => ⟨events, u, hout, hne, hlast.trans hdocument, ?_⟩, nofun⟩
      refine hu.checkChallenges_of_noneLeft ?_ (hlast ▸ hnone)
      rw [Document.needsRefresh_of_completes hsteps.to_reflTransGen, hdue]
  · rcases ReflTransGen.cases_head hsteps with hsame | ⟨d, hd, hrest⟩
    · -- Nothing was awarded, so that the end which is out of range is that of the one left.
      obtain ⟨x, hx, hf⟩ := hone.isExpired_of_blocked (hsame ▸ hblocked)
      obtain rfl := Option.some.inj (hc.symm.trans hx)
      rw [hf]
      refine ⟨nofun, fun f hfault => ?_⟩
      cases hfault
      exact ⟨u, hout, hsame.symm⟩
    · obtain ⟨-, hnone, -⟩ := hstep d hd
      rw [hnone.eq_of_completes hrest] at hblocked
      exact absurd hblocked hnone.not_blocked

/-- What a check of the challenges leaves, and what a second check at the same instant does. The
first one ends with a fault if the challenges cannot be brought up to date or one that is met has an
end out of range. If it does not, the second check changes nothing, unless the first one completed
the fifth challenge while the one to complete five others is open and not past its end. Then the
second check completes that one, and a third one changes nothing. -/
theorem checking_again (h : Orderly k s) (now : Instant) :
    (∀ f, Challenge.refreshed s.ledger.document.challenges now = .error f →
      (checkChallenges now).outcome s = (.error f, s)) ∧
    ∀ cs, Challenge.refreshed s.ledger.document.challenges now = .ok cs →
      let e := { s.ledger.document with challenges := cs }
      (∃ f t, (checkChallenges now).outcome s = (.error f, t) ∧ t.ledger.document.Blocked now f) ∨
      ∃ events t, (checkChallenges now).outcome s = (.ok events, t) ∧
        ((checkChallenges now).outcome t = (.ok [], t) ↔
          ∀ c, e.Waits t.ledger.document c → c.isExpired now = .ok true) ∧
        ∀ c, e.Waits t.ledger.document c →
          (c.isExpired now = .ok false → ∃ more u,
            (checkChallenges now).outcome t = (.ok more, u) ∧ more ≠ [] ∧
            u.ledger.document = t.ledger.document.complete overachiever c.rewardCoins now ∧
            (checkChallenges now).outcome u = (.ok [], u)) ∧
          ∀ f, c.isExpired now = .error f → ∃ u,
            (checkChallenges now).outcome t = (.error f, u) ∧
            u.ledger.document = t.ledger.document := by
  refine ⟨fun f hf => Act.outcome_bind_of_error (Orderly.ensureFresh_error hf), fun cs hcs => ?_⟩
  obtain ⟨t₀, hcheck, ht₀, hdocument, -⟩ := h.outcome_checkChallenges hcs
  intro e
  rw [hcheck]
  rcases ht₀.completeMet_result now with ⟨events, t, hout, ht, hleft⟩ | ⟨f, t, hout, -, hblocked⟩
  · right
    have hsteps : ReflTransGen (Document.Completes now) e t.ledger.document := by
      have hawards := ht.awards
      rwa [hdocument] at hawards
    have hdue : Challenge.needsRefresh t.ledger.document.challenges now = .ok false := by
      rw [Document.needsRefresh_of_completes hsteps]
      exact Challenge.needsRefresh_refreshed hcs
    rw [hdocument] at hleft
    -- Awards change what the rule of the overachiever counts, and nothing that another rule reads.
    have hone : t.ledger.document.OneLeft now := fun id c hid hc hopen hmeets =>
      hleft id c hc hopen ((Document.meets_of_completes hsteps hid).1 hmeets)
    have hagain (c : Challenge) (hw : e.Waits t.ledger.document c) :=
      ht.1.checkChallenges_of_oneLeft hdue hone hw.found hw.isOpen hw.meets
    refine ⟨events, t, hout, ⟨fun hsame c hw => ?_, fun hexpired => ?_⟩, hagain⟩
    · cases hc : c.isExpired now with
      | error f =>
        obtain ⟨u, hfault, -⟩ := (hagain c hw).2 f hc
        rw [hsame] at hfault
        cases hfault
      | ok expired =>
        cases expired with
        | true => rfl
        | false =>
          obtain ⟨more, u, hmore, hne, -⟩ := (hagain c hw).1 hc
          rw [hsame] at hmore
          cases hmore
          exact absurd rfl hne
    · refine ht.1.checkChallenges_of_noneLeft hdue fun id c hc hopen hmeets => ?_
      by_cases hid : id = overachiever
      · subst hid
        -- If the overachiever was met from the start, the first check has looked at it, and else it
        -- waits now.
        by_cases hbefore : e.Meets overachiever
        · exact hleft _ c hc hopen hbefore
        · rw [Document.meets_overachiever_iff] at hmeets hbefore
          exact hexpired c ⟨hc, hopen, by omega, hmeets⟩
      · exact hone id c hid hc hopen hmeets
  · exact .inl ⟨f, t, hout, hblocked⟩

/-- Three wins in each of two games and a play of a third, which meet five challenges at once. -/
def fiveAtOnce : Shelf := (holding newcomer).run [
  (.update "rock-paper-scissors" (.obj [("wins", .int 3), ("plays", .int 5)]), noon),
  (.update "card-battle" (.obj [("wins", .int 3)]), noon),
  (.update "memory-match" (.obj [("plays", .int 1)]), noon)]

/-- The challenge to complete five others on that day. -/
def fiveOthers : Challenge :=
  .ofDesign ⟨overachiever, "Overachiever", "Complete 5 daily challenges", "all",
    "Complete 5 challenges", 150, .counts .generationCompleted .atLeast 5⟩ "2026-10-19T00:00:00"

/-- The first check completes five challenges, and the second one is not without effect. -/
theorem checking_again_five : ∃ events t,
    (checkChallenges noon).outcome fiveAtOnce = (.ok events, t) ∧ events.length = 5 ∧
    ¬ (checkChallenges noon).outcome t = (.ok [], t) := by
  have hempty : Orderly "gameverse-data" (holding newcomer) := ⟨rfl, nofun⟩
  have horderly : Orderly "gameverse-data" fiveAtOnce := hempty.run _
  have hgeneration : Challenge.generation noon = .ok newcomer.challenges := by
    obtain ⟨cs, hcs, h⟩ := bind_eq_ok.1 freshOn_noon
    rw [hcs, ← Except.ok.inj h]
    rfl
  have hchallenges : fiveAtOnce.ledger.document.challenges = newcomer.challenges := by
    decide
  have hcs : Challenge.refreshed fiveAtOnce.ledger.document.challenges noon =
      .ok newcomer.challenges := by
    rw [hchallenges]
    exact Challenge.refreshed_eq_ok.2 (.inl ⟨Challenge.needsRefresh_generation hgeneration, rfl⟩)
  have hfive : ((checkChallenges noon).outcome fiveAtOnce).1.toOption.map List.length = some 5 := by
    decide +kernel
  rcases (checking_again horderly noon).2 _ hcs with ⟨f, t, hout, -⟩ | ⟨events, t, hout, hsame, -⟩
  · rw [hout] at hfive
    cases hfive
  · have ht : t = ((checkChallenges noon).outcome fiveAtOnce).2 := by rw [hout]
    rw [hout] at hfive
    refine ⟨events, t, hout, Option.some.inj hfive, fun hnothing => ?_⟩
    have hwaits : Document.Waits
        { fiveAtOnce.ledger.document with challenges := newcomer.challenges } t.ledger.document
        fiveOthers := by
      rw [ht]
      refine ⟨?_, ?_, ?_, ?_⟩ <;> decide +kernel
    have hcurrent : fiveOthers.isExpired noon = .ok false :=
      Challenge.isExpired_generation hgeneration (by decide)
    rw [hsame.1 hnothing fiveOthers hwaits] at hcurrent
    cases hcurrent

end Shelf

end Arcade
