import Arcade.Proofs.Act.Yielding
import Arcade.Proofs.Challenge.Lasting
import Arcade.Proofs.Ledger.Loading
import Arcade.Proofs.Ledger.Operation
import Arcade.Proofs.Ledger.Settling

/-!
# When challenges can be completed

Loading, importing and renewing leave challenges that are not due for replacement: those that they
found, or a new generation. If these last, then no open challenge is refused as expired before the
next generation is due, whatever the ledger is asked for in between. If they do not, then there is an
instant at which the challenges are not due and one of them is expired all the same.
-/

namespace Arcade

namespace Operation

/-- Whether an operation leaves challenges that are not due. -/
def renews : Operation → Bool
  | load | importText _ | ensureFresh => true
  | _ => false

/-- Whether an operation takes a document from outside. -/
def takes : Operation → Bool
  | load | importText _ => true
  | _ => false

/-- The challenges that an operation finds, none if it finds no document. -/
def challengesFound (s : Shelf) : Operation → Except Fault (List Challenge)
  | load => s.stored?.map (·.elim [] Document.challenges)
  | importText text => (Document.read text).map Document.challenges
  | _ => .ok s.ledger.document.challenges

end Operation

namespace Document

variable {d d' : Document} {now : Instant}

/-! ## The challenges of a document -/

theorem challenges_freshOn (h : freshOn now = .ok d) :
    Challenge.generation now = .ok d.challenges := by
  obtain ⟨challenges, hg, h⟩ := bind_eq_ok.1 h
  obtain rfl := Except.ok.inj h
  exact hg

theorem challenges_broughtUp (h : d.broughtUp now = .ok d') :
    Challenge.refreshed d.challenges now = .ok d'.challenges := by
  have hsame : d.withCatalog.challenges = d.challenges := by
    unfold withCatalog
    rfl
  obtain ⟨challenges, hr, h⟩ := bind_eq_ok.1 h
  obtain rfl := Except.ok.inj h
  rwa [hsame] at hr

/-- A change leaves the ends of the challenges alone or takes a generation. -/
theorem Change.lasting (h : Change now d d') (hl : Challenge.Lasting d.challenges) :
    Challenge.Lasting d'.challenges := by
  cases h with
  | update game values => exact hl
  | countPlay game => exact hl
  | addTime h =>
    obtain ⟨n, -, h⟩ := bind_eq_ok.1 h
    obtain rfl := Except.ok.inj h
    exact hl
  | addRound game won => exact hl
  | unlock found locked => exact hl
  | complete found isOpen current =>
    exact hl.congr (map_changeFirst (fun c => c.completedOn_expiresAt now) d.challenges)
  | renew h => exact (Challenge.uniform_generation h).lasting
  | reset h => exact (Challenge.uniform_generation (challenges_freshOn h)).lasting

end Document

namespace Shelf

variable {s t : Shelf} {now : Instant}

/-! ## Challenges that were just found -/

theorem refreshed_nil (now : Instant) : Challenge.refreshed [] now = Challenge.generation now := by
  rw [Challenge.refreshed, Challenge.replacement?]
  change (Challenge.generation now).bind _ >>= _ = _
  cases Challenge.generation now <;> rfl

/-- The document that loading starts from has the challenges that it found, brought up to date. -/
theorem challenges_taken {d : Document} (h : s.taken now = .ok d) :
    ∃ found, Operation.load.challengesFound s = .ok found ∧
      Challenge.refreshed found now = .ok d.challenges := by
  unfold Operation.challengesFound
  obtain ⟨found, hs, h⟩ := bind_eq_ok.1 h
  rw [hs]
  cases found with
  | none => exact ⟨[], rfl, (refreshed_nil now).trans (Document.challenges_freshOn h)⟩
  | some e => exact ⟨e.challenges, rfl, Document.challenges_broughtUp h⟩

theorem foldStreak_challenges (s : Shelf) :
    (foldStreak.outcome s).2.ledger.document.challenges = s.ledger.document.challenges := by
  rw [outcome_foldStreak]
  cases s.oldStreak? with
  | error e => rfl
  | ok n => cases n <;> rfl

theorem take_challenges (d : Document) (s : Shelf) (now : Instant) :
    ((take d now).outcome s).2.ledger.document.challenges = d.challenges := by
  have hfold := foldStreak_challenges (s.withDocument d)
  rw [outcome_take]
  generalize foldStreak.outcome (s.withDocument d) = r at hfold ⊢
  obtain ⟨_ | _, t⟩ := r <;> exact hfold

theorem document_of_keep {d : Document} (h : (keep d).outcome s = (.ok (), t)) :
    t.ledger.document = d := by
  rw [← keep_document d s, h]

theorem challenges_of_replace {challenges : List Challenge}
    (h : (replaceChallenges challenges).outcome s = (.ok (), t)) :
    t.ledger.document.challenges = challenges := by
  obtain ⟨_, _, h, htell⟩ := Act.outcome_bind_eq_ok.1 h
  cases h
  obtain ⟨_, u, hkeep, htell⟩ := Act.outcome_bind_eq_ok.1 htell
  cases htell
  rw [emit_document, document_of_keep hkeep]

theorem challenges_of_ensureFresh {due : Bool}
    (h : (ensureFresh now).outcome s = (.ok due, t)) :
    Challenge.refreshed s.ledger.document.challenges now = .ok t.ledger.document.challenges := by
  obtain ⟨_, _, hget, h⟩ := Act.outcome_bind_eq_ok.1 h
  cases hget
  obtain ⟨replaced, _, hlift, h⟩ := Act.outcome_bind_eq_ok.1 h
  obtain ⟨hr, rfl⟩ := Act.outcome_lift_eq_ok.1 hlift
  refine bind_eq_ok.2 ⟨replaced, hr, ?_⟩
  cases replaced with
  | none =>
    cases h
    rfl
  | some challenges =>
    obtain ⟨_, u, hreplace, h⟩ := Act.outcome_bind_eq_ok.1 h
    cases h
    exact congrArg Except.ok (challenges_of_replace hreplace).symm

theorem challenges_of_importText {d : Document} {text : Json}
    (h : (importText text now).outcome s = (.ok d, t)) :
    ∃ e, Document.read text = .ok e ∧
      Challenge.refreshed e.challenges now = .ok t.ledger.document.challenges := by
  unfold importText at h
  cases hread : Document.read text with
  | error f =>
    rw [hread] at h
    cases h
  | ok e =>
    rw [hread] at h
    obtain ⟨f, _, hlift, h⟩ := Act.outcome_bind_eq_ok.1 h
    obtain ⟨hup, rfl⟩ := Act.outcome_lift_eq_ok.1 hlift
    obtain ⟨_, u, hkeep, h⟩ := Act.outcome_bind_eq_ok.1 h
    obtain ⟨_, _, htell, h⟩ := Act.outcome_bind_eq_ok.1 h
    cases htell
    cases h
    have hday : (f.withDay now).challenges = f.challenges := rfl
    refine ⟨e, rfl, ?_⟩
    rw [emit_document, document_of_keep hkeep, hday]
    exact Document.challenges_broughtUp hup

theorem challenges_of_load {d : Document} (h : (load now).outcome s = (.ok d, t)) :
    ∃ found, Operation.load.challengesFound s = .ok found ∧
      Challenge.refreshed found now = .ok t.ledger.document.challenges := by
  rw [outcome_load] at h
  cases hs : s.taken now with
  | error e =>
    rw [hs] at h
    cases h
  | ok e =>
    rw [hs] at h
    have hsame := take_challenges e (s.lookedUp s.ledger.dataKey) now
    dsimp only at h
    rw [h] at hsame
    rw [hsame]
    exact challenges_taken hs

/-- Loading, importing and renewing bring the challenges that they find up to date. -/
theorem exists_challengesFound {o : Operation} (ho : o.renews = true)
    (h : (o.act now).outcome s = (.ok (), t)) :
    ∃ found, o.challengesFound s = .ok found ∧
      Challenge.refreshed found now = .ok t.ledger.document.challenges := by
  cases o with
  | load =>
    obtain ⟨d, h⟩ := Act.outcome_discard_eq_ok.1 h
    exact challenges_of_load h
  | importText text =>
    obtain ⟨d, h⟩ := Act.outcome_discard_eq_ok.1 h
    obtain ⟨e, hread, hup⟩ := challenges_of_importText h
    exact ⟨e.challenges, by rw [Operation.challengesFound, hread]; rfl, hup⟩
  | ensureFresh =>
    obtain ⟨due, h⟩ := Act.outcome_discard_eq_ok.1 h
    exact ⟨_, rfl, challenges_of_ensureFresh h⟩
  | _ => cases ho

/-! ## Completing -/

/-- Whether the challenges of a ledger last. -/
def Lasting (s : Shelf) : Prop := Challenge.Lasting s.ledger.document.challenges

theorem Lasting.act {o : Operation} (ho : o.takes = false) (h : s.Lasting) :
    ((o.act now).outcome s).2.Lasting := by
  have hload : o ≠ .load := by
    rintro rfl
    cases ho
  have hchange : o.Change now = Document.Change now := by
    cases o with
    | importText text => cases ho
    | _ => rfl
  refine Moves.preserve (fun t d ht hd => ?_) (fun t e ht => ?_) (o.steady_act hload now s) h
  · rw [hchange] at hd
    rw [Lasting, keep_document]
    exact hd.lasting ht
  · rwa [Lasting, emit_document]

/-- A run without loading and importing keeps challenges that last. -/
theorem Lasting.run {steps : List (Operation × Instant)} (h : ∀ x ∈ steps, x.1.takes = false)
    (hs : s.Lasting) : (s.run steps).Lasting := by
  induction steps generalizing s with
  | nil => exact hs
  | cons x rest ih =>
    exact ih (fun y hy => h y (List.mem_cons_of_mem x hy)) (hs.act (h x List.mem_cons_self))

/-- An open challenge that is found and not expired is completed, unless the document cannot be
counted when it is written. -/
theorem outcome_complete {id : String} {c : Challenge}
    (found : s.ledger.document.challenge? id = some c) (isOpen : c.completed = false)
    (current : c.isExpired now = .ok false) :
    (complete id now).outcome s =
      (keep (s.ledger.document.complete id c.rewardCoins now) >>= fun _ => do
        modify fun s => s.emit (Event.ofChallenge c)
        return some (Event.ofChallenge c)).outcome s := by
  unfold complete
  rw [Act.outcome_bind, Act.outcome_get]
  dsimp only
  rw [found]
  dsimp only
  rw [isOpen, current]
  rfl

/-- An open challenge that is found and expired is refused, and nothing changes. -/
theorem outcome_complete_of_expired {id : String} {c : Challenge}
    (found : s.ledger.document.challenge? id = some c) (isOpen : c.completed = false)
    (expired : c.isExpired now = .ok true) : (complete id now).outcome s = (.ok none, s) := by
  unfold complete
  rw [Act.outcome_bind, Act.outcome_get]
  dsimp only
  rw [found]
  dsimp only
  rw [isOpen, expired]
  rfl

/-- After loading, importing or renewing, the challenges are those that were found, brought up to
date. Whether they are due and whether they are expired is the same at every instant exactly if they
all end at one midnight, as a new generation does. They are never expired before they are due exactly
if they last, and then no open one is refused before the next generation is due, however the ledger
goes on. -/
theorem completable_iff_lasting {o : Operation} (ho : o.renews = true)
    (h : (o.act now).outcome s = (.ok (), t)) :
    let cs := t.ledger.document.challenges
    (∃ found, o.challengesFound s = .ok found ∧ Challenge.refreshed found now = .ok cs ∧
      (Challenge.needsRefresh found now = .ok true → Challenge.Uniform cs)) ∧
    Challenge.needsRefresh cs now = .ok false ∧
    ((∀ later, ∀ c ∈ cs, c.isExpired later = Challenge.needsRefresh cs later) ↔
      Challenge.Uniform cs) ∧
    ((∀ later, Challenge.needsRefresh cs later = .ok false →
      ∀ c ∈ cs, c.isExpired later = .ok false) ↔ Challenge.Lasting cs) ∧
    (Challenge.Lasting cs → ∀ steps : List (Operation × Instant),
      (∀ x ∈ steps, x.1.takes = false) → ∀ later,
      let u := t.run steps
      let d := u.ledger.document
      Challenge.needsRefresh d.challenges later = .ok false →
      (∀ c ∈ d.challenges, c.isExpired later = .ok false) ∧
      ∀ id c, d.challenge? id = some c → c.completed = false →
        (complete id later).outcome u =
          (keep (d.complete id c.rewardCoins later) >>= fun _ => do
            modify fun s => s.emit (Event.ofChallenge c)
            return some (Event.ofChallenge c)).outcome u) := by
  intro cs
  obtain ⟨found, hfound, hup⟩ := exists_challengesFound ho h
  have hdue := Challenge.needsRefresh_refreshed hup
  refine ⟨⟨found, hfound, hup, fun hold => ?_⟩, hdue, (Challenge.uniform_iff hdue).symm,
    (Challenge.lasting_iff hdue).symm, ?_⟩
  · rcases Challenge.refreshed_eq_ok.1 hup with ⟨hnot, -⟩ | ⟨-, hg⟩
    · rw [hold] at hnot
      cases hnot
    · exact Challenge.uniform_generation hg
  · intro hlasting steps hsteps later u d hd
    have hall : ∀ c ∈ d.challenges, c.isExpired later = .ok false := fun c hc =>
      Challenge.Lasting.isExpired (Lasting.run hsteps hlasting) hd hc
    exact ⟨hall, fun id c hc isOpen =>
      outcome_complete hc isOpen (hall c (List.mem_of_find?_eq_some hc))⟩

/-- A challenge whose end is a midnight two hours east of the offset zero. -/
def eastern : Challenge :=
  ⟨"rps_daily_win_3", .str "", .str "", .str "", .str "", 50, "2026-10-19T00:00:00+02:00", false,
    .null⟩

/-- A document with a challenge that ends two hours before midnight. -/
def easternDocument : Document where
  progress := Dict.ofList []
  badges := []
  challenges := [eastern]
  tally := {}

theorem completable_eastern :
    ∃ later, Challenge.needsRefresh easternDocument.challenges later = .ok false ∧
      (complete "rps_daily_win_3" later).outcome (holding easternDocument) =
        (.ok none, holding easternDocument) := by
  have hread : Timestamp.read eastern.expiresAt =
      .ok (some ⟨⟨2026, 10, 18, by decide⟩, ⟨22, 0, 0, 0⟩⟩) := by decide +kernel
  have hdue : Challenge.needsRefresh easternDocument.challenges
      ⟨⟨2026, 10, 18, by decide⟩, .midnight⟩ = .ok false := by
    rw [easternDocument, Challenge.needsRefresh_of_read hread]
    decide
  generalize (⟨⟨2026, 10, 18, by decide⟩, .midnight⟩ : Instant) = now at hdue
  have horderly : Orderly "gameverse-data" (holding easternDocument) := by
    refine ⟨rfl, fun e he => ?_⟩
    cases he
  obtain ⟨_, t, hfresh, -, -, hsame⟩ :=
    horderly.ensureFresh_ok (Challenge.refreshed_eq_ok.2 (.inl ⟨hdue, rfl⟩))
  obtain rfl := hsame hdue
  obtain ⟨-, -, -, hlasting, -⟩ := completable_iff_lasting (o := .ensureFresh) rfl
    (Act.outcome_discard_eq_ok.2 ⟨_, hfresh⟩)
  have hno : ¬ Challenge.Lasting (holding easternDocument).ledger.document.challenges := by
    rintro ⟨e, he, hfirst, -⟩
    obtain rfl := Option.some.inj (Except.ok.inj (hread.symm.trans (Option.some.inj hfirst)))
    revert he
    unfold Instant.IsMidnight
    decide
  refine Classical.byContradiction fun hnone => hno (hlasting.1 fun later hlater c hc => ?_)
  obtain rfl : c = eastern := List.mem_singleton.1 hc
  rw [Challenge.isExpired_of_read hread]
  cases hexpired : decide (_ ≤ later) with
  | false => rfl
  | true =>
    refine absurd ⟨later, hlater, ?_⟩ hnone
    refine outcome_complete_of_expired rfl rfl ?_
    rw [Challenge.isExpired_of_read hread, hexpired]

end Shelf

end Arcade
