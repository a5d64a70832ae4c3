import Arcade.Proofs.Act.Keeping
import Arcade.Proofs.Timer.Standing

/-!
# Slots refine cells

A slot does what a single cell does, whatever is scheduled and cancelled and whichever timers go
off. That holds also if scripts schedule and cancel while they run, if they fail, if they run under
the lock of an owner, and if timers that were cancelled go off all the same.

A bench is faithful if its slot stood for the cell of its history all along and scripts ran exactly
if the cell held them. Whatever happens to the slot of a faithful bench leaves it faithful. A script
that is to run is noted only once it begins, so it is told which scripts are due.
-/

namespace Arcade

open SlotHistory SlotEvent

theorem TimerQueue.keeps_advanceTo {σ τ : Type} {P : σ → Prop} {queue : σ → TimerQueue τ}
    {replace : σ → TimerQueue τ → σ} {run : τ → Act σ Unit} {target : Float}
    (hmove : ∀ s, P s → P (replace s { queue s with time := target }))
    (hrun : ∀ s, P s → ∀ t ∈ (queue s).waiting,
      P ((run t.task).outcome (replace s ((queue s).expired t.id t.deadline))).2) (fuel : Nat) :
    Act.Keeps P (advanceTo queue replace run target fuel) := by
  induction fuel with
  | zero => exact Act.keeps_modify hmove
  | succ fuel ih =>
    intro s hs
    unfold advanceTo
    rw [Act.outcome_bind, Act.outcome_get]
    dsimp only
    cases hnext : (queue s).next? target with
    | none => exact hmove s hs
    | some next =>
      obtain ⟨hmem, hqueue⟩ := mem_of_next? hnext
      have hleft := hrun s hs next.1 hmem
      rw [← hqueue] at hleft
      dsimp only
      rw [Act.outcome_bind, Act.outcome_modify]
      refine Act.keeps_bind_of hleft fun _ u hu => ih u ?_
      rwa [hu] at hleft

/-- Whether the time that a script was scheduled at was the one on the clock. -/
def Moment.Timed (m : Moment) : Prop :=
  match m.event with
  | scheduled _ time _ _ => m.queue.time = time
  | _ => True

namespace Bench

variable {b : Bench} {due : List Script} {locks : Nat} {script : Script} {e : SlotEvent} {s : Slot}
  {q : TimerQueue (Option Nat × Script)} {task : Option Nat × Script}

/-- What happened to the slot. -/
def events (b : Bench) : List SlotEvent := b.history.map Moment.event

theorem events_after (b : Bench) (e : SlotEvent) (s : Slot)
    (q : TimerQueue (Option Nat × Script)) : (b.after e s q).events = b.events ++ [e] :=
  List.map_append

/-- Whether the slot of a bench stood for the cell of its history all along, and scripts ran as the
cell has it, but for those that are due. The lock of the slot is held so many times. -/
structure Faithful (locks : Nat) (due : List Script) (b : Bench) : Prop where
  stands : Slot.Stands b.events b.slot b.queue
  shown : ∀ before m, before ++ [m] <+: b.history →
    Slot.Shows ((before ++ [m]).map Moment.event) m.slot m.queue
  timed : ∀ m ∈ b.history, m.Timed
  lawful : Lawful b.events
  noted : (ran b.events).map Script.label = b.notes.map ScriptNote.label ++ due.map Script.label
  locks : b.locks = locks

namespace Faithful

/-- Something that happens to the slot leaves a bench faithful if the slot stands for the cell then
and if it follows on what happened before. -/
theorem after (h : Faithful locks [] b) (hs : Slot.Stands (b.events ++ [e]) s q)
    (he : Follows b.events e) (ht : Moment.Timed ⟨e, s, q⟩) :
    Faithful locks e.ran?.toList (b.after e s q) where
  stands := by
    rw [events_after]
    exact hs
  shown before m hm := by
    rcases List.prefix_concat_iff.1 hm with hm | hm
    · obtain ⟨rfl, hlast⟩ := List.append_inj' hm rfl
      obtain rfl := List.singleton_inj.1 hlast
      rw [List.map_append]
      exact hs.shows
    · exact h.shown before m hm
  timed m hm := by
    rcases List.mem_append.1 hm with hm | hm
    · exact h.timed m hm
    · exact List.mem_singleton.1 hm ▸ ht
  lawful := by
    rw [events_after, lawful_concat_iff]
    exact ⟨h.lawful, he⟩
  noted := by
    rw [events_after, ran_concat, List.map_append, h.noted, List.map_nil, List.append_nil]
    rfl
  locks := h.locks

theorem withQueue (h : Faithful locks due b) (hs : Slot.Stands b.events b.slot q) :
    Faithful locks due { b with queue := q } :=
  ⟨hs, h.shown, h.timed, h.lawful, h.noted, h.locks⟩

theorem withLocks (h : Faithful locks due b) (n : Nat) : Faithful n due { b with locks := n } :=
  ⟨h.stands, h.shown, h.timed, h.lawful, h.noted, rfl⟩

theorem cleared (h : Faithful locks [] b) : Faithful locks [] b.cleared :=
  h.after h.stands.cancel trivial trivial

/-- The lock is released again, however an act under it ends. -/
theorem locked {α : Type} {a : Act Bench α} (hb : b.locks = locks)
    (ha : Faithful (locks + 1) due (a.outcome { b with locks := locks + 1 }).2) :
    Faithful locks due ((Bench.locked a).outcome b).2 := by
  subst hb
  have hlocks : (a.outcome { b with locks := b.locks + 1 }).2.locks - 1 = b.locks := by
    rw [ha.locks]
    rfl
  rw [Bench.locked, Act.outcome_ofOutcome]
  dsimp only
  rw [hlocks]
  exact ha.withLocks b.locks

end Faithful

/-! ## What steps do -/

/-- The bench after a script was put in its slot with deadlines. -/
def occupied (b : Bench) (deadline timerDeadline : Float) (delay : Json) (script : Script) :
    Bench :=
  let (slot, queue) := b.slot.occupy b.queue deadline timerDeadline fun g => (some g, script)
  b.after (.scheduled slot.generation b.queue.time delay script) slot queue

theorem outcome_replace (delay : Json) (script : Script) (b : Bench) :
    (replace delay script).outcome b =
      match b.cleared.deadlineAfter delay, b.cleared.queueDeadlineAfter delay with
      | .ok deadline, .ok timerDeadline =>
        (.ok (), b.cleared.occupied deadline timerDeadline delay script)
      | .ok _, .error e => (.error e, b.cleared)
      | .error e, _ => (.error e, b.cleared) := by
  unfold replace
  rw [Act.outcome_bind_of_ok (Act.outcome_modify _ _), Act.outcome_bind_of_ok (Act.outcome_get _)]
  cases b.cleared.deadlineAfter delay with
  | error e => rw [Act.outcome_bind_of_error (Act.outcome_lift _ _)]
  | ok deadline =>
    rw [Act.outcome_bind_of_ok (Act.outcome_lift _ _)]
    cases b.cleared.queueDeadlineAfter delay with
    | error e => rw [Act.outcome_bind_of_error (Act.outcome_lift _ _)]
    | ok timerDeadline =>
      rw [Act.outcome_bind_of_ok (Act.outcome_lift _ _)]
      rfl

/-- The queue can use whatever delay the slot can use. -/
theorem exists_queueDeadlineAfter {delay : Json} {n : Number} {x : Float}
    (hn : delay.number = .ok n) (hx : n.toDouble = .ok x) (b : Bench) :
    ∃ deadline, b.queueDeadlineAfter delay = .ok deadline := by
  have hused : ∃ y, (if b.clamps then Number.max (.float 0) n else n).toDouble = .ok y := by
    unfold Number.max
    split
    · split
      · exact ⟨x, hx⟩
      · exact ⟨0, rfl⟩
    · exact ⟨x, hx⟩
  obtain ⟨y, hy⟩ := hused
  exact ⟨b.queue.time + y, bind_eq_ok.2 ⟨n, hn, bind_eq_ok.2 ⟨_, rfl, bind_eq_ok.2 ⟨y, hy, rfl⟩⟩⟩⟩

theorem outcome_locked {α : Type} {a : Act Bench α} {r : Except Fault α} {c : Bench}
    (h : a.outcome { b with locks := b.locks + 1 } = (r, c)) :
    (locked a).outcome b = (r, { c with locks := c.locks - 1 }) := by
  rw [locked, Act.outcome_ofOutcome, h]

/-- With a delay that can be used, scheduling clears the slot and puts the script in it. -/
theorem outcome_schedule {delay : Json} {n : Number} {x : Float} (hn : delay.number = .ok n)
    (hx : n.toDouble = .ok x) (script : Script) (b : Bench) :
    ∃ g c, (schedule delay script).outcome b = (.ok (), c) ∧ c.events =
      b.events ++ [cancelled b.slot.timer, scheduled g b.queue.time delay script] := by
  let c : Bench := { b with locks := b.locks + 1 }
  have hd : c.cleared.deadlineAfter delay = .ok (c.cleared.queue.time + x) :=
    bind_eq_ok.2 ⟨n, hn, bind_eq_ok.2 ⟨x, hx, rfl⟩⟩
  obtain ⟨timerDeadline, hq⟩ := exists_queueDeadlineAfter hn hx c.cleared
  have hreplace := outcome_replace delay script c
  rw [hd, hq] at hreplace
  refine ⟨c.cleared.slot.generation + 1, _, outcome_locked hreplace, ?_⟩
  have htime : c.cleared.queue.time = b.queue.time := Slot.cancel_time b.slot b.queue
  change (c.cleared.after _ _ _).events = _
  rw [events_after, ← htime, cleared, events_after, List.append_assoc]
  rfl

/-- With a delay that cannot be used, scheduling clears the slot and fails. -/
theorem outcome_schedule_of_error {delay : Json} {e : Fault} (h : b.deadlineAfter delay = .error e)
    (script : Script) : ∃ c, (schedule delay script).outcome b = (.error e, c) ∧
      c.events = b.events ++ [cancelled b.slot.timer] := by
  let c : Bench := { b with locks := b.locks + 1 }
  have htime : c.cleared.queue.time = b.queue.time := Slot.cancel_time b.slot b.queue
  have hd : c.cleared.deadlineAfter delay = .error e := by
    rw [deadlineAfter, htime]
    exact h
  have hreplace := outcome_replace delay script c
  rw [hd] at hreplace
  exact ⟨_, outcome_locked hreplace, events_after c _ _ _⟩

theorem outcome_cancel (b : Bench) : ∃ c, cancel.outcome b = (.ok (), c) ∧
    c.events = b.events ++ [cancelled b.slot.timer] :=
  ⟨_, rfl, events_after b _ _ _⟩

/-! ## Steps of scripts -/

theorem keeps_locked {α : Type} {a : Act Bench α} (ha : ∀ n, Act.Keeps (Faithful n []) a) :
    Act.Keeps (Faithful locks []) (locked a) :=
  fun _ h => .locked h.locks (ha _ _ (h.withLocks _))

theorem due_of_deadlineAfter {delay : Json} {deadline : Float}
    (h : b.deadlineAfter delay = .ok deadline) (generation : Nat) (script : Script) :
    Held.Due ⟨generation, b.queue.time, delay, script⟩ deadline := by
  obtain ⟨n, hn, h⟩ := bind_eq_ok.1 h
  obtain ⟨x, hx, h⟩ := bind_eq_ok.1 h
  exact ⟨n, x, hn, hx, (Except.ok.inj h).symm⟩

theorem keeps_schedule (delay : Json) (script : Script) :
    Act.Keeps (Faithful locks []) (schedule delay script) := by
  refine keeps_locked fun n b h => ?_
  have hcell : cell b.cleared.events = none := by
    rw [cleared, events_after, cell_concat]
    rfl
  rw [outcome_replace]
  cases hd : b.cleared.deadlineAfter delay with
  | error e => exact h.cleared
  | ok deadline =>
    cases b.cleared.queueDeadlineAfter delay with
    | error e => exact h.cleared
    | ok timerDeadline =>
      have hdue := due_of_deadlineAfter hd (b.cleared.slot.generation + 1) script
      refine h.cleared.after (h.cleared.stands.occupy hcell hdue timerDeadline) (fun hg => ?_) rfl
      exact Nat.not_succ_le_self _ (h.cleared.stands.past _ hg)

theorem keeps_direct (delay : Json) (script : Script) :
    Act.Keeps (Faithful locks []) (direct delay script) := by
  intro b h
  unfold direct
  rw [Act.outcome_bind, Act.outcome_get]
  dsimp only
  rw [Act.outcome_bind, Act.outcome_lift]
  cases b.queueDeadlineAfter delay with
  | error e => exact h
  | ok deadline => exact h.withQueue (h.stands.add deadline script)

theorem keeps_cancel : Act.Keeps (Faithful locks []) cancel :=
  keeps_locked fun _ => Act.keeps_modify fun _ h => h.cleared

variable {move : Json → Act Bench Unit}

theorem keeps_take (hm : ∀ seconds, Act.Keeps (Faithful locks []) (move seconds))
    (steps : List ScriptStep) : Act.Keeps (Faithful locks []) (take move steps) := by
  induction steps with
  | nil => exact Act.keeps_pure ()
  | cons x rest ih =>
    cases x with
    | schedule delay script => exact (keeps_schedule delay script).bind fun _ => ih
    | direct delay script => exact (keeps_direct delay script).bind fun _ => ih
    | cancel => exact keeps_cancel.bind fun _ => ih
    | advance seconds => exact (hm seconds).bind fun _ => ih

/-- A script that is due is noted and takes its steps. -/
theorem Faithful.perform (h : Faithful locks [script] b)
    (hm : ∀ seconds, Act.Keeps (Faithful locks []) (move seconds)) :
    Faithful locks [] ((perform move script).outcome b).2 := by
  obtain ⟨label, steps, fails⟩ := script
  have hnoted : Faithful locks [] { b with
      notes := b.notes ++ [⟨label, b.queue.time, b.slot.isPending, b.slot.deadline⟩] } := by
    refine ⟨h.stands, h.shown, h.timed, h.lawful, h.noted.trans ?_, h.locks⟩
    rw [List.map_append]
    exact (List.append_nil _).symm
  rw [Bench.perform, Act.outcome_bind, Act.outcome_modify]
  exact (keeps_take hm steps).bind
    (fun _ => Act.Keeps.ite (Act.keeps_throw _) (Act.keeps_pure _)) _ hnoted

/-! ## Timers that go off -/

theorem outcome_heed (task : Option Nat × Script) (b : Bench) :
    (heed task).outcome b =
      match b.heeded? task.1 with
      | some slot => (.ok true, b.after (.wentOff task true) slot b.queue)
      | none => (.ok false, b.after (.wentOff task false) b.slot b.queue) := by
  unfold heed
  rw [Act.outcome_bind, Act.outcome_get]
  dsimp only
  cases b.heeded? task.1 <;> rfl

/-- Whether a bench stays faithful once a timer goes off, be its script run or passed over. -/
structure Awaits (locks : Nat) (task : Option Nat × Script) (b : Bench) : Prop where
  runs : ∀ slot, b.heeded? task.1 = some slot →
    Faithful locks [task.2] (b.after (.wentOff task true) slot b.queue)
  passes : b.heeded? task.1 = none →
    Faithful locks [] (b.after (.wentOff task false) b.slot b.queue)
  locks : b.locks = locks

namespace Awaits

theorem withLocks (h : Awaits locks task b) (n : Nat) : Awaits n task { b with locks := n } :=
  ⟨fun slot hs => (h.runs slot hs).withLocks n, fun hs => (h.passes hs).withLocks n, rfl⟩

/-- The check of a timer tells whether its script is due. -/
theorem heed (h : Awaits locks task b) : ∃ runs t, (heed task).outcome b = (.ok runs, t) ∧
    Faithful locks (if runs then [task.2] else []) t := by
  rw [outcome_heed]
  cases hs : b.heeded? task.1 with
  | some slot => exact ⟨true, _, rfl, h.runs slot hs⟩
  | none => exact ⟨false, _, rfl, h.passes hs⟩

theorem locked_heed (h : Awaits locks task b) :
    ∃ runs t, (locked (Bench.heed task)).outcome b = (.ok runs, t) ∧
      Faithful locks (if runs then [task.2] else []) t := by
  obtain ⟨runs, t, hheed, ht⟩ := (h.withLocks (locks + 1)).heed
  refine ⟨runs, _, Prod.ext ?_ rfl, .locked h.locks ?_⟩
  · rw [locked, Act.outcome_ofOutcome, h.locks, hheed]
  · rw [hheed]
    exact ht

end Awaits

theorem faithful_performIf (hm : ∀ seconds, Act.Keeps (Faithful locks []) (move seconds))
    {check : Act Bench Bool} (h : ∃ runs t, check.outcome b = (.ok runs, t) ∧
      Faithful locks (if runs then [script] else []) t) :
    Faithful locks [] ((performIf move check script).outcome b).2 := by
  obtain ⟨runs, t, hcheck, ht⟩ := h
  rw [performIf, Act.outcome_bind, hcheck]
  cases runs with
  | true => exact ht.perform hm
  | false => exact ht

theorem Awaits.goOff (h : Awaits locks task b)
    (hm : ∀ n seconds, Act.Keeps (Faithful n []) (move seconds)) :
    Faithful locks [] ((goOff move task).outcome b).2 := by
  obtain ⟨_ | generation, script⟩ := task
  · exact faithful_performIf (hm _) h.heed
  · rw [Bench.goOff, Act.outcome_bind, Act.outcome_get]
    dsimp only
    split
    · exact .locked h.locks (faithful_performIf (hm _) (h.withLocks _).heed)
    · exact faithful_performIf (hm _) h.locked_heed

/-- Every timer that waits may go off. -/
theorem Faithful.awaits_expired (h : Faithful locks [] b) {t : Timer (Option Nat × Script)}
    (ht : t ∈ b.queue.waiting) (time : Float) :
    Awaits locks t.task { b with queue := b.queue.expired t.id time } := by
  obtain ⟨id, deadline, _ | g, script⟩ := t
  · have hne : none ≠ some b.slot.generation := nofun
    refine ⟨fun slot hs => ?_, fun hs => absurd hs (Option.some_ne_none _), h.locks⟩
    obtain rfl := Option.some.inj hs
    exact h.after ((h.stands.expired_other ht hne time).passed hne true) rfl trivial
  · by_cases hg : b.slot.generation = g
    · subst hg
      refine ⟨fun slot hs => ?_, fun hs => ?_, h.locks⟩
      · obtain rfl := Option.some.inj ((if_pos rfl).symm.trans hs)
        refine h.after (h.stands.expired_own ht rfl time) (iff_of_true rfl ?_) trivial
        exact h.stands.exists_held ht rfl
      · cases (if_pos rfl).symm.trans hs
    · have hne : some g ≠ some b.slot.generation := fun hs => hg (Option.some.inj hs).symm
      refine ⟨fun slot hs => ?_, fun _ => ?_, h.locks⟩
      · cases (if_neg hg).symm.trans hs
      · exact h.after ((h.stands.expired_other ht hne time).passed hne false)
          (h.stands.follows_passed (Ne.symm hg)) trivial

/-- A timer may also go off late, after it was cancelled. -/
theorem Faithful.awaits_late (h : Faithful locks [] b) {g : Nat} (hg : g ∈ generations b.events)
    (hran : ∀ other, wentOff (some g, other) true ∉ b.events)
    (hc : ∀ held, cell b.events = some held → held.generation ≠ g) :
    Awaits locks (some g, script) b := by
  have hne := h.stands.generation_ne hg hran hc
  refine ⟨fun slot hs => ?_, fun _ => ?_, h.locks⟩
  · cases (if_neg (Ne.symm hne)).symm.trans hs
  · exact h.after (h.stands.passed (fun hs => hne (Option.some.inj hs)) false)
      (h.stands.follows_passed hne) trivial

theorem keeps_advanceWithin (fuel : Nat) : ∀ locks seconds,
    Act.Keeps (Faithful locks []) (advanceWithin fuel seconds) := by
  induction fuel with
  | zero => exact fun _ _ => Act.keeps_pure ()
  | succ fuel ih =>
    intro locks seconds b h
    unfold advanceWithin
    rw [Act.outcome_bind, Act.outcome_get]
    dsimp only
    rw [Act.outcome_bind, Act.outcome_lift]
    cases b.deadlineAfter seconds with
    | error e => exact h
    | ok target =>
      refine TimerQueue.keeps_advanceTo (fun c hc => hc.withQueue (hc.stands.withTime target))
        (fun c hc t ht => ?_) _ b h
      exact (hc.awaits_expired ht t.deadline).goOff ih

theorem keeps_advance (seconds : Json) : Act.Keeps (Faithful locks []) (advance seconds) := by
  intro b h
  unfold advance
  rw [Act.outcome_bind, Act.outcome_get]
  exact keeps_advanceWithin _ locks seconds b h

/-! ## Runs -/

/-- The benches that a fresh one comes to. Any steps can be taken one after the other, also if some
of them fail, and a timer that was cancelled can go off at any time. -/
inductive Reached : Bench → Prop
  | fresh (time : Float) (stubborn clamps owned : Bool) : Reached
      { queue := { time := time, stubborn := stubborn }, clamps := clamps, owned := owned }
  | step {b : Bench} (h : Reached b) (x : ScriptStep) : Reached ((take advance [x]).outcome b).2
  | late {b : Bench} (h : Reached b) {g : Nat} {script : Script}
      (hmade : ∃ time delay, scheduled g time delay script ∈ b.events)
      (hran : ∀ other, wentOff (some g, other) true ∉ b.events)
      (hgone : ∀ held, cell b.events = some held → held.generation ≠ g) :
      Reached ((goOff advance (some g, script)).outcome b).2

theorem faithful_fresh (time : Float) (stubborn clamps owned : Bool) : Faithful 0 []
    { queue := { time := time, stubborn := stubborn }, clamps := clamps, owned := owned } where
  stands := {
    fits := Slot.fits_of_waiting_eq_nil rfl rfl
    ordered := List.Pairwise.nil
    holds := nofun
    idle := fun _ => ⟨rfl, rfl⟩
    past := nofun
    spent := nofun
    alone := nofun
    young := nofun
    spared := nofun
  }
  shown before m hm := absurd (List.prefix_nil.1 hm) (by simp)
  timed := nofun
  lawful := lawful_nil
  noted := rfl
  locks := rfl

theorem Reached.faithful (h : Reached b) : Faithful 0 [] b := by
  induction h with
  | fresh time stubborn clamps owned => exact faithful_fresh time stubborn clamps owned
  | step _ x ih => exact keeps_take (fun seconds => keeps_advance seconds) [x] _ ih
  | @late b _ g script hmade hran hgone ih =>
    obtain ⟨time, delay, hmade⟩ := hmade
    have hg : g ∈ generations b.events := List.mem_filterMap.2 ⟨_, hmade, rfl⟩
    exact (ih.awaits_late hg hran hgone).goOff fun _ seconds => keeps_advance seconds

/-- Whether the slot of a bench does what a single cell does. -/
structure RefinesCell (b : Bench) : Prop where
  /-- The slot shows what the cell holds. -/
  shows : Slot.Shows b.events b.slot b.queue
  /-- It did so after everything that happened, also while scripts ran. -/
  shown : ∀ before m, before ++ [m] <+: b.history →
    Slot.Shows ((before ++ [m]).map Moment.event) m.slot m.queue
  /-- What is told of the time at which a script was scheduled is what the clock showed. -/
  timed : ∀ m ∈ b.history, m.Timed
  /-- When a timer of the slot goes off, its script runs exactly if the cell holds it. -/
  runs : ∀ before g script runs, before ++ [wentOff (some g, script) runs] <+: b.events →
    (runs = true ↔ ∃ held, cell before = some held ∧ held.task = (some g, script))
  /-- So it did not run before, and nothing was scheduled or cancelled since it was scheduled. -/
  undisturbed : ∀ before g script, before ++ [wentOff (some g, script) true] <+: b.events →
    (∃ xs time delay ys, before = xs ++ scheduled g time delay script :: ys ∧
      ∀ e ∈ ys, ∃ task runs, e = wentOff task runs) ∧
    ∀ other, wentOff (some g, other) true ∉ before
  /-- No two scripts are scheduled for the same generation. -/
  distinct : (generations b.events).Nodup
  /-- The scripts that ran are those that are noted. -/
  noted : (ran b.events).map Script.label = b.notes.map ScriptNote.label
  /-- The lock of the slot is free. -/
  unlocked : b.locks = 0
  /-- Scheduling empties the cell and puts the script in it, if the delay can be used. -/
  schedules : ∀ delay script n x, delay.number = .ok n → n.toDouble = .ok x →
    ∃ g c, (schedule delay script).outcome b = (.ok (), c) ∧ c.events =
      b.events ++ [cancelled b.slot.timer, scheduled g b.queue.time delay script]
  /-- If not, the cell is empty. -/
  fails : ∀ delay script e, b.deadlineAfter delay = .error e →
    ∃ c, (schedule delay script).outcome b = (.error e, c) ∧
      c.events = b.events ++ [cancelled b.slot.timer]
  /-- Cancelling empties the cell. -/
  cancels : ∃ c, cancel.outcome b = (.ok (), c) ∧ c.events = b.events ++ [cancelled b.slot.timer]

/-- Whatever happens to a slot, it does what a single cell does. -/
theorem refinesCell_of_reached (h : Reached b) : b.RefinesCell where
  shows := h.faithful.stands.shows
  shown := h.faithful.shown
  timed := h.faithful.timed
  runs before g script runs hr := h.faithful.lawful before (wentOff (some g, script) runs) hr
  undisturbed _ _ _ := h.faithful.lawful.undisturbed
  distinct := h.faithful.lawful.nodup
  noted := h.faithful.noted.trans (List.append_nil _)
  unlocked := h.faithful.locks
  schedules _ script _ _ hn hx := outcome_schedule hn hx script b
  fails _ script _ he := outcome_schedule_of_error he script
  cancels := outcome_cancel b

theorem refinesCell_replaced : ∃ b, Reached b ∧ b.slot.isPending = true ∧ b.notes = [] ∧
    wentOff (some 2, .mk (.str "old") [] false) false ∈ b.events ∧ b.RefinesCell := by
  have hreached := ((Reached.fresh 0 false false true).step
    (.schedule (.num (.float 1)) (.mk (.str "old") [] false))).step
    (.schedule (.num (.float 1)) (.mk (.str "new") [] false))
  generalize hb : ((take advance [.schedule (.num (.float 1)) (.mk (.str "new") [] false)]).outcome
    _).2 = b at hreached
  have hevents : b.events = [cancelled none,
      scheduled 2 0 (.num (.float 1)) (.mk (.str "old") [] false), cancelled (some 0),
      scheduled 4 0 (.num (.float 1)) (.mk (.str "new") [] false)] := hb ▸ rfl
  have hcell : cell b.events = some ⟨4, 0, .num (.float 1), .mk (.str "new") [] false⟩ :=
    hevents ▸ rfl
  have hmade : scheduled 2 0 (.num (.float 1)) (.mk (.str "old") [] false) ∈ b.events := by
    simp [hevents]
  have hlate := hreached.late ⟨_, _, hmade⟩ (by simp [hevents]) (by simp [hcell])
  refine ⟨_, hlate, ?_, ?_, ?_, refinesCell_of_reached hlate⟩
  · subst hb
    rfl
  · subst hb
    rfl
  · subst hb
    exact .tail _ (.tail _ (.tail _ (.tail _ (.head _))))

end Bench

end Arcade
