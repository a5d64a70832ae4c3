import Arcade.Proofs.Ledger.RepeatedBadges

/-!
# The days of a ledger are those of its clock

A ledger opens a log only for the day on which something is asked of it, whatever that is and in
whichever order its clock shows the days. All other days come with a document that is taken from
the storage or from a text. So the days are those of the clock as long as these documents have no
others.
-/

namespace Arcade

variable {readings : Instant → Prop} {now : Instant}

namespace Document

variable {d d' : Document}

/-- Whether every day of a document is the day of one of some readings of the clock. -/
def DatedBy (readings : Instant → Prop) (d : Document) : Prop :=
  ∀ day ∈ d.tally.days.names, ∃ i, readings i ∧ day = i.dayKey

theorem datedBy_freshOn (h : freshOn now = .ok d) : d.DatedBy readings := by
  rw [DatedBy, days_freshOn h]
  exact List.forall_mem_nil _

theorem DatedBy.withDay (h : d.DatedBy readings) (hnow : readings now) :
    (d.withDay now).DatedBy readings := by
  intro day hday
  rcases mem_days_withDay.1 hday with rfl | hday
  · exact ⟨now, hnow, rfl⟩
  · exact h day hday

theorem DatedBy.congr (h : d.DatedBy readings) (ht : d'.tally = d.tally) :
    d'.DatedBy readings := by
  rwa [DatedBy, ht]

/-- Bringing a document up to date leaves its tally alone. -/
theorem tally_broughtUp (h : d.broughtUp now = .ok d') : d'.tally = d.tally := by
  have hcatalog : d.withCatalog.tally = d.tally := by rw [withCatalog_eq]
  obtain ⟨challenges, -, h⟩ := bind_eq_ok.1 h
  generalize d.withCatalog = e at hcatalog h
  obtain rfl := Except.ok.inj h
  exact hcatalog

theorem Change.datedBy (hc : Change now d d') (h : d.DatedBy readings) (hnow : readings now) :
    d'.DatedBy readings := by
  intro day hday
  rcases hc.mem_days hday with rfl | hday
  · exact ⟨now, hnow, rfl⟩
  · exact h day hday

end Document

namespace Shelf

open Document

variable {s : Shelf}

theorem datedBy_found {d : Document} (hnow : readings now)
    (htaken : ∀ e, Operation.load.Takes s now e → e.DatedBy readings)
    (h : s.found now = .ok d) : d.DatedBy readings := by
  obtain ⟨e, he, h⟩ := bind_eq_ok.1 h
  obtain rfl := Except.ok.inj h
  have hdated : e.DatedBy readings := by
    obtain ⟨stored, hstored, he⟩ := bind_eq_ok.1 he
    cases stored with
    | none => exact datedBy_freshOn he
    | some f => exact (htaken f ⟨hstored, e, he⟩).congr (tally_broughtUp he)
  split
  · exact hdated.withDay hnow
  · exact DatedBy.withDay (d := e.withStreak _) hdated hnow
  · exact hdated

/-- An operation leaves the days of the clock, if what it takes has no others. -/
theorem datedBy_act (h : s.ledger.document.DatedBy readings) (o : Operation) (hnow : readings now)
    (htaken : ∀ d, o.Takes s now d → d.DatedBy readings) :
    ((o.act now).outcome s).2.ledger.document.DatedBy readings := by
  by_cases hload : o = .load
  · subst hload
    rw [Operation.act, Act.outcome_discard, load_document]
    cases hf : s.found now with
    | error e => exact h
    | ok d => exact datedBy_found hnow htaken hf
  · refine Moves.preserve (P := fun t => t.ledger.document.DatedBy readings)
      (fun t d ht hc => ?_) (fun t e ht => by rwa [emit_document]) (o.steady_act hload now s) h
    rw [keep_document]
    cases o with
    | importText text =>
      obtain ⟨e, f, he, hf, rfl⟩ := hc
      exact ((htaken e ⟨he, f, hf⟩).congr (tally_broughtUp hf)).withDay hnow
    | _ => exact Document.Change.datedBy hc ht hnow

/-- The days that a run leaves are days on which the clock stood, if what it starts from and what
it takes on its way has no others. -/
theorem datedBy_run (h : s.ledger.document.DatedBy readings) (steps : List (Operation × Instant))
    (hsteps : ∀ x ∈ steps, readings x.2)
    (htaken : ∀ before x d, before ++ [x] <+: steps → x.1.Takes (s.run before) x.2 d →
      d.DatedBy readings) :
    (s.run steps).ledger.document.DatedBy readings := by
  induction steps using List.reverseRecOn with
  | nil => exact h
  | append_singleton before x ih =>
    have hbefore := ih (fun y hy => hsteps y (List.mem_append_left _ hy)) fun front y d hy =>
      htaken front y d (hy.trans (List.prefix_append before [x]))
    rw [run_concat]
    exact datedBy_act hbefore x.1 (hsteps x List.mem_concat_self) fun d =>
      htaken before x d List.prefix_rfl

end Shelf

end Arcade
