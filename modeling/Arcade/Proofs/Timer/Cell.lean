import Arcade.Timer.Script
import Mathlib.Data.List.Infix

/-!
# The cell of a slot

What a slot should be is one cell, which is empty or holds one script until that is due. Scheduling
puts a script into the cell and cancelling empties it, and so does the timer that goes off for what
the cell holds. So a history of events tells what the cell holds.

In a lawful history a script runs exactly if the cell holds it when its timer goes off. Then every
script that is scheduled runs at most once, and only if nothing was scheduled or cancelled since.
-/

namespace Arcade

/-- A script in a cell: the generation it was scheduled for, when, and with what delay. -/
structure Held where
  generation : Nat
  time : Float
  delay : Json
  script : Script

namespace Held

/-- Whether a script is due at a time, which is when it was scheduled and its delay on top. -/
def Due (held : Held) (deadline : Float) : Prop :=
  ∃ n x, held.delay.number = .ok n ∧ n.toDouble = .ok x ∧ deadline = held.time + x

/-- What the timer of a script carries. -/
def task (held : Held) : Option Nat × Script := (some held.generation, held.script)

end Held

def Script.label : Script → Json
  | .mk label _ _ => label

namespace SlotEvent

/-- The cell after an event. -/
def cellAfter (held : Option Held) : SlotEvent → Option Held
  | cancelled _ => none
  | scheduled generation time delay script => some ⟨generation, time, delay, script⟩
  | wentOff task _ => held.filter fun h => decide (task.1 ≠ some h.generation)

/-- The timer that is cancelled. -/
def cancelled? : SlotEvent → Option Nat
  | cancelled timer => timer
  | _ => none

/-- The generation for which a script is scheduled. -/
def scheduled? : SlotEvent → Option Nat
  | scheduled generation _ _ _ => some generation
  | _ => none

/-- The script that runs. -/
def ran? : SlotEvent → Option Script
  | wentOff task true => some task.2
  | _ => none

end SlotEvent

namespace SlotHistory

open SlotEvent

variable {es before : List SlotEvent} {e : SlotEvent} {held : Held} {g : Nat} {script : Script}

/-- What the cell holds after events. -/
def cell (es : List SlotEvent) : Option Held := es.foldl cellAfter none

/-- The timers that were cancelled. -/
def revoked (es : List SlotEvent) : List Nat := es.filterMap cancelled?

/-- The generations for which scripts were scheduled. -/
def generations (es : List SlotEvent) : List Nat := es.filterMap scheduled?

/-- The scripts that ran. -/
def ran (es : List SlotEvent) : List Script := es.filterMap ran?

theorem cell_concat (es : List SlotEvent) (e : SlotEvent) :
    cell (es ++ [e]) = e.cellAfter (cell es) := by
  rw [cell, List.foldl_append]
  rfl

theorem revoked_concat (es : List SlotEvent) (e : SlotEvent) :
    revoked (es ++ [e]) = revoked es ++ e.cancelled?.toList := by
  rw [revoked, List.filterMap_append]
  cases h : e.cancelled? <;> simp [h, revoked]

theorem generations_concat (es : List SlotEvent) (e : SlotEvent) :
    generations (es ++ [e]) = generations es ++ e.scheduled?.toList := by
  rw [generations, List.filterMap_append]
  cases h : e.scheduled? <;> simp [h, generations]

theorem ran_concat (es : List SlotEvent) (e : SlotEvent) :
    ran (es ++ [e]) = ran es ++ e.ran?.toList := by
  rw [ran, List.filterMap_append]
  cases h : e.ran? <;> simp [h, ran]

theorem revoked_concat_of_none (h : e.cancelled? = none) : revoked (es ++ [e]) = revoked es := by
  rw [revoked_concat, h]
  exact List.append_nil _

theorem generations_concat_of_none (h : e.scheduled? = none) :
    generations (es ++ [e]) = generations es := by
  rw [generations_concat, h]
  exact List.append_nil _

/-! ## What the cell holds -/

/-- What the cell holds was scheduled, and nothing was scheduled or cancelled since. -/
theorem exists_scheduled (h : cell es = some held) :
    ∃ xs ys, es = xs ++ scheduled held.generation held.time held.delay held.script :: ys ∧
      ∀ e ∈ ys, ∃ task runs, e = wentOff task runs := by
  induction es using List.reverseRecOn with
  | nil => cases h
  | append_singleton es e ih =>
    rw [cell_concat] at h
    cases e with
    | cancelled timer => cases h
    | scheduled generation time delay script =>
      obtain rfl := Option.some.inj h
      exact ⟨es, [], rfl, nofun⟩
    | wentOff task runs =>
      obtain ⟨xs, ys, rfl, hys⟩ := ih (Option.filter_eq_some_iff.1 h).1
      refine ⟨xs, ys ++ [wentOff task runs], by simp, fun e he => ?_⟩
      rcases List.mem_append.1 he with he | he
      · exact hys e he
      · exact ⟨task, runs, List.mem_singleton.1 he⟩

theorem mem_generations (h : cell es = some held) : held.generation ∈ generations es := by
  obtain ⟨xs, ys, rfl, -⟩ := exists_scheduled h
  exact List.mem_filterMap.2 ⟨_, List.mem_append_right _ List.mem_cons_self, rfl⟩

/-! ## Lawful histories -/

/-- Whether an event may follow on others. A script is scheduled for a generation of its own. If it
was scheduled in the slot, it runs exactly if the cell holds it; otherwise, it always runs. -/
def Follows (es : List SlotEvent) : SlotEvent → Prop
  | .cancelled _ => True
  | .scheduled g _ _ _ => g ∉ generations es
  | .wentOff (none, _) runs => runs = true
  | .wentOff (some g, script) runs =>
    runs = true ↔ ∃ held, cell es = some held ∧ held.task = (some g, script)

/-- Whether all events of a history follow on those before them. -/
def Lawful (es : List SlotEvent) : Prop := ∀ before e, before ++ [e] <+: es → Follows before e

theorem lawful_nil : Lawful [] := by
  intro before e h
  simp at h

theorem lawful_concat_iff : Lawful (es ++ [e]) ↔ Lawful es ∧ Follows es e := by
  constructor
  · intro h
    exact ⟨fun before x hx => h before x (hx.trans (List.prefix_append es [e])),
      h es e List.prefix_rfl⟩
  · rintro ⟨h, he⟩ before x hx
    rcases List.prefix_concat_iff.1 hx with hx | hx
    · obtain ⟨rfl, rfl⟩ := List.append_inj' hx rfl |>.imp_right List.singleton_inj.1
      exact he
    · exact h before x hx

theorem Lawful.of_prefix (h : Lawful es) (hb : before <+: es) : Lawful before :=
  fun xs e hx => h xs e (hx.trans hb)

/-- Every script is scheduled for a generation of its own. -/
theorem Lawful.nodup (h : Lawful es) : (generations es).Nodup := by
  induction es using List.reverseRecOn with
  | nil => exact List.nodup_nil
  | append_singleton es e ih =>
    obtain ⟨hes, he⟩ := lawful_concat_iff.1 h
    rw [generations_concat]
    cases e with
    | scheduled g time delay script =>
      exact List.nodup_append.2 ⟨ih hes, List.nodup_cons.2 ⟨nofun, List.nodup_nil⟩,
        fun a ha b hb hab => he (List.mem_singleton.1 hb ▸ hab ▸ ha)⟩
    | _ => exact (List.append_nil _).symm ▸ ih hes

/-- A script that ran was scheduled. -/
theorem Lawful.mem_generations_of_ran (h : Lawful es) (hr : wentOff (some g, script) true ∈ es) :
    g ∈ generations es := by
  obtain ⟨before, after, rfl⟩ := List.append_of_mem hr
  have hfollows : Follows before (wentOff (some g, script) true) := h before _ ⟨after, by simp⟩
  obtain ⟨held, hcell, htask⟩ := hfollows.1 rfl
  have hg : held.generation = g := Option.some.inj (congrArg Prod.fst htask)
  rw [← hg, generations, List.filterMap_append]
  exact List.mem_append_left _ (mem_generations hcell)

/-- What the cell holds did not run yet. -/
theorem Lawful.generation_ne_of_ran (h : Lawful es) (hr : wentOff (some g, script) true ∈ es)
    (hc : cell es = some held) : held.generation ≠ g := by
  induction es using List.reverseRecOn generalizing held with
  | nil => cases hc
  | append_singleton es e ih =>
    obtain ⟨hes, he⟩ := lawful_concat_iff.1 h
    rw [cell_concat] at hc
    rcases List.mem_append.1 hr with hold | hlast
    · cases e with
      | cancelled timer => cases hc
      | scheduled g' time delay script =>
        obtain rfl := Option.some.inj hc
        rintro rfl
        exact he (hes.mem_generations_of_ran hold)
      | wentOff task runs => exact ih hes hold (Option.filter_eq_some_iff.1 hc).1
    · obtain rfl := List.mem_singleton.1 hlast
      obtain ⟨-, hne⟩ := Option.filter_eq_some_iff.1 hc
      exact fun hg => of_decide_eq_true hne (congrArg some hg.symm)

/-- A script that runs did not run before, and nothing was scheduled or cancelled since it was
scheduled. -/
theorem Lawful.undisturbed (h : Lawful es)
    (hr : before ++ [wentOff (some g, script) true] <+: es) :
    (∃ xs time delay ys, before = xs ++ scheduled g time delay script :: ys ∧
      ∀ e ∈ ys, ∃ task runs, e = wentOff task runs) ∧
    ∀ other, wentOff (some g, other) true ∉ before := by
  obtain ⟨held, hcell, htask⟩ := (h _ _ hr).1 rfl
  obtain ⟨hg, rfl⟩ := Prod.mk.inj htask
  obtain rfl := Option.some.inj hg
  refine ⟨?_, fun other hother => ?_⟩
  · obtain ⟨xs, ys, hbefore, hys⟩ := exists_scheduled hcell
    exact ⟨xs, held.time, held.delay, ys, hbefore, hys⟩
  · have hbefore := h.of_prefix ((List.prefix_append _ _).trans hr)
    exact hbefore.generation_ne_of_ran hother hcell rfl

end SlotHistory

end Arcade
