import Arcade.Proofs.Reply.Delaying

/-!
# What is delayed is done on time

What a request delays takes the place of what was delayed before, and it can be dropped. Other
requests do not touch it. So what is delayed is done at its time exactly if that comes before the
next request that delays something and before it is dropped.

When something was done is told by a diary, which is kept beside the room: it holds every call of
the host with the time on the clock. It has no influence on the room.
-/

namespace Arcade

open Act

namespace Desk

/-! ## What happens at a desk -/

/-- What may happen at a desk. -/
inductive Step where
  | request (now : Instant) (q : Request)
  /-- What is delayed is dropped. -/
  | drop
  | clock (seconds : Float)

/-- What is done at a desk in a step. -/
def Step.act : Step → Act (Room Desk) Unit
  | .request now q => discard (reply Outlet.toHost now q)
  | .drop => cancelPending
  | .clock seconds => advance seconds

/-- The room after a step, even if a fault ended it. -/
def after (r : Room Desk) (e : Step) : Room Desk := (e.act.outcome r).2

def run (r : Room Desk) (es : List Step) : Room Desk := es.foldl after r

/-- Whether the clock comes to a deadline before something else is delayed and before what is
delayed is dropped. -/
def comesTo (e : Equipment) (deadline : Float) : Float → List Step → Bool
  | _, [] => false
  | time, .request _ q :: es => !q.delays e && comesTo e deadline time es
  | _, .drop :: _ => false
  | time, .clock seconds :: es =>
    decide (deadline ≤ time + seconds) || comesTo e deadline (time + seconds) es

/-- What a step brings about later and when, if the steps after it let it. What that is, its reply
announces. -/
def brings (r : Room Desk) (es : List Step) : Step → List (Float × List HostCall)
  | .request now q =>
    let deadline := r.queue.time + r.rest.delayOf q
    let e := r.host.equipment
    match ((reply Outlet.toHost now q).outcome r).1 with
    | .ok p =>
      if q.delays e && comesTo e deadline r.queue.time es then [(deadline, p.announced e)] else []
    | .error _ => []
  | _ => []

/-- What some steps bring about later and when. -/
def due (r : Room Desk) : List Step → List (Float × List HostCall)
  | [] => []
  | e :: es => brings r es e ++ due (after r e) es

theorem advance_eq (seconds : Float) : advance seconds = (do
    let r ← get
    TimerQueue.advanceTo Room.queue (fun r q => { r with queue := q }) expire
      (r.queue.time + seconds) (r.queue.waiting.length + 1)) := rfl

end Desk

/-! ## Diaries -/

/-- A room with the calls of its host since the diary was begun, each with its time. -/
structure Diary where
  room : Room Desk
  calls : List (Float × HostCall) := []

namespace Diary

variable {α : Type}

/-- Enters the calls that an act makes in the room, with the time on the clock before the act. -/
def record (a : Act (Room Desk) α) : Act Diary α :=
  ofOutcome fun d =>
    let (x, r) := a.outcome d.room
    let made := r.host.calls.drop d.room.host.calls.length
    (x, ⟨r, d.calls ++ made.map fun c => (d.room.queue.time, c.1)⟩)

/-- Moves the clock and enters what every timer does that goes off. -/
def advance (seconds : Float) : Act Diary Unit := do
  let d ← get
  TimerQueue.advanceTo (fun d => d.room.queue)
    (fun d q => { d with room := { d.room with queue := q } })
    (fun task => record (Desk.expire task)) (d.room.queue.time + seconds)
    (d.room.queue.waiting.length + 1)

/-- The diary after a step. -/
def after (d : Diary) (e : Desk.Step) : Diary :=
  match e with
  | .clock seconds => ((advance seconds).outcome d).2
  | e => ((record e.act).outcome d).2

def run (d : Diary) (es : List Desk.Step) : Diary := es.foldl after d

/-! ### A diary has no influence -/

theorem outcome_record (a : Act (Room Desk) α) (d : Diary) :
    ((record a).outcome d).1 = (a.outcome d.room).1 ∧
      ((record a).outcome d).2.room = (a.outcome d.room).2 := ⟨rfl, rfl⟩

theorem room_advanceTo (target : Float) (fuel : Nat) (d : Diary) :
    let kept := (TimerQueue.advanceTo (fun d : Diary => d.room.queue)
      (fun d q => { d with room := { d.room with queue := q } })
      (fun task => record (Desk.expire task)) target fuel).outcome d
    let bare := (TimerQueue.advanceTo Room.queue (fun r q => { r with queue := q }) Desk.expire
      target fuel).outcome d.room
    kept.1 = bare.1 ∧ kept.2.room = bare.2 := by
  induction fuel generalizing d with
  | zero => exact ⟨rfl, rfl⟩
  | succ fuel ih =>
    unfold TimerQueue.advanceTo
    rw [outcome_bind, outcome_get, outcome_bind, outcome_get]
    dsimp only
    cases d.room.queue.next? target with
    | none => exact ⟨rfl, rfl⟩
    | some next =>
      dsimp only
      rw [outcome_bind, outcome_modify, outcome_bind, outcome_modify]
      dsimp only
      obtain ⟨hresult, hroom⟩ := outcome_record (Desk.expire next.1.task)
        { d with room := { d.room with queue := next.2 } }
      rw [outcome_bind, outcome_bind]
      rcases hkept : (record (Desk.expire next.1.task)).outcome
        { d with room := { d.room with queue := next.2 } } with ⟨x, d'⟩
      rcases hbare : (Desk.expire next.1.task).outcome { d.room with queue := next.2 } with ⟨y, r'⟩
      rw [hkept, hbare] at hresult hroom
      dsimp only at hresult hroom
      subst hresult hroom
      cases x with
      | error e => exact ⟨rfl, rfl⟩
      | ok => exact ih d'

theorem room_after (d : Diary) (e : Desk.Step) : (d.after e).room = Desk.after d.room e := by
  cases e with
  | request now q => rfl
  | drop => rfl
  | clock seconds =>
    show ((advance seconds).outcome d).2.room = ((Desk.advance seconds).outcome d.room).2
    unfold advance
    rw [Desk.advance_eq, outcome_bind, outcome_get, outcome_bind, outcome_get]
    exact (room_advanceTo _ _ d).2

theorem room_run (d : Diary) (es : List Desk.Step) : (d.run es).room = Desk.run d.room es := by
  induction es generalizing d with
  | nil => rfl
  | cons e es ih =>
    show ((d.after e).run es).room = Desk.run (Desk.after d.room e) es
    rw [ih, room_after]

end Diary

namespace Desk

variable {r t : Room Desk}

/-! ## The timer of what is delayed -/

/-- Whether a timer waits that is the one of the desk's slot, or none does, at a desk with timers
whose host is dependable. -/
structure Waits (t? : Option (Timer Task)) (r : Room Desk) : Prop where
  delays : r.rest.delays = true
  dependable : r.host.conduct.Dependable
  fits : r.rest.slot.Fits Task.replyGeneration? r.queue
  kept : r.rest.slot.kept? r.queue = t?

namespace Waits

variable {t? : Option (Timer Task)}

theorem told (h : Waits t? r) (cs : List HostCall) : Waits t? (r.told cs) := by
  obtain ⟨made, htold, -⟩ := r.exists_told cs
  rw [htold]
  exact ⟨h.delays, h.dependable, h.fits, h.kept⟩

theorem beside (h : Waits t? r) (ht : Beside r t) : Waits t? t := by
  obtain ⟨chat, hdesk⟩ := ht.desk
  obtain ⟨hdelays, hdependable, hfits, hkept⟩ := h
  rw [← ht.queue] at hfits hkept
  refine ⟨?_, ht.conduct ▸ hdependable, ?_, ?_⟩ <;> rwa [hdesk]

theorem withTime (h : Waits t? r) (time : Float) :
    Waits t? { r with queue := { r.queue with time := time } } :=
  ⟨h.delays, h.dependable, h.fits.withTime time, h.kept⟩

/-- What is delayed last has the timer. -/
theorem delayed (h : Waits t? r) (delay : Float) (task : ReplyTask) : ∃ id g,
    Waits (some ⟨id, r.queue.time + delay, .reply g task⟩) (Desk.delayed r delay task) := by
  have hown : ∀ g, (Task.reply g task).replyGeneration? = some g := fun _ => rfl
  refine ⟨(r.rest.slot.cancel r.queue).2.made, r.rest.slot.generation + 2, h.delays, h.dependable,
    h.fits.schedule hown delay, ?_⟩
  have hkept := r.rest.slot.kept?_schedule r.queue delay fun g => Task.reply g task
  rwa [Slot.cancel_time] at hkept

theorem dropped (h : Waits t? r) : Waits none (Desk.dropped r) :=
  ⟨h.delays, h.dependable, h.fits.cancel, Slot.kept?_cancel _ _⟩

/-- A timer of the present generation is the one that waits, and then none does. -/
theorem expired_own (h : Waits t? r) {t : Timer Task} (ht : t ∈ r.queue.waiting)
    (hg : t.task.replyGeneration? = some r.rest.slot.generation) (time : Float) :
    t? = some t ∧ Waits none { r with
      queue := r.queue.expired t.id time
      rest := { r.rest with slot := ⟨none, none, r.rest.slot.generation⟩ } } := by
  refine ⟨?_, h.delays, h.dependable, h.fits.expired_own ht hg time, rfl⟩
  rw [← h.kept, h.fits.kept?_eq_some ht hg]

theorem expired_other (h : Waits t? r) {t : Timer Task} (ht : t ∈ r.queue.waiting)
    (hg : t.task.replyGeneration? ≠ some r.rest.slot.generation) (time : Float) :
    Waits t? { r with queue := r.queue.expired t.id time } := by
  refine ⟨h.delays, h.dependable, h.fits.expired_other ht hg time, ?_⟩
  rw [← h.kept]
  exact h.fits.kept?_expired_other ht hg time

end Waits

end Desk

namespace Diary

variable {d d₁ d₂ : Diary} {t? : Option (Timer Task)}

/-! ## What is entered -/

/-- What is entered for calls that are made at a time. -/
def entered (p : Float × List HostCall) : List (Float × HostCall) := p.2.map fun c => (p.1, c)

/-- What is entered once a timer went off. -/
def entries (e : Equipment) (t : Timer Task) : List (Float × HostCall) :=
  entered (t.deadline, t.task.calls e)

/-- The timer that waits, if it is due at a time. -/
def due? (target : Float) (t? : Option (Timer Task)) : Option (Timer Task) :=
  t?.filter fun t => decide (t.deadline ≤ target)

/-- The timer that waits, if it is not due at a time. -/
def late? (target : Float) (t? : Option (Timer Task)) : Option (Timer Task) :=
  t?.filter fun t => !decide (t.deadline ≤ target)

theorem filter_of_le {t : Timer Task} {target : Float} (h : t.deadline ≤ target) :
    due? target (some t) = some t ∧ late? target (some t) = none :=
  ⟨Option.filter_some_pos (decide_eq_true h),
    Option.filter_some_neg (by rw [decide_eq_true h]; rfl)⟩

theorem filter_of_not_le {t : Timer Task} {target : Float} (h : ¬t.deadline ≤ target) :
    due? target (some t) = none ∧ late? target (some t) = some t :=
  ⟨Option.filter_some_neg (decide_eq_false h),
    Option.filter_some_pos (by rw [decide_eq_false h]; rfl)⟩

/-- What is entered for a timer that waits, or for none, if it goes off in some steps. -/
def pending (e : Equipment) (time : Float) (es : List Desk.Step) :
    Option (Timer Task) → List (Float × HostCall)
  | some t => if Desk.comesTo e t.deadline time es then entries e t else []
  | none => []

theorem pending_request (e : Equipment) (time : Float) (now : Instant) (q : Request)
    (es : List Desk.Step) (t? : Option (Timer Task)) :
    pending e time (.request now q :: es) t? =
      if q.delays e then [] else pending e time es t? := by
  cases t? with
  | none => exact (ite_self _).symm
  | some t =>
    unfold pending
    dsimp only
    rw [Desk.comesTo]
    cases q.delays e <;> rfl

theorem pending_drop (e : Equipment) (time : Float) (es : List Desk.Step)
    (t? : Option (Timer Task)) : pending e time (.drop :: es) t? = [] := by
  cases t? <;> rfl

/-- What waits is done if the clock comes to its deadline, and else it waits on. -/
theorem pending_clock (e : Equipment) (time seconds : Float) (es : List Desk.Step)
    (t? : Option (Timer Task)) :
    pending e time (.clock seconds :: es) t? =
      (due? (time + seconds) t?).elim [] (entries e) ++
        pending e (time + seconds) es (late? (time + seconds) t?) := by
  cases t? with
  | none => rfl
  | some t =>
    unfold pending
    dsimp only
    rw [Desk.comesTo]
    by_cases hdue : t.deadline ≤ time + seconds
    · obtain ⟨hnow, hlater⟩ := filter_of_le hdue
      rw [hnow, hlater, decide_eq_true hdue]
      exact (List.append_nil _).symm
    · obtain ⟨hnow, hlater⟩ := filter_of_not_le hdue
      rw [hnow, hlater, decide_eq_false hdue]
      rfl

/-- Whether the calls of the host between two diaries are those that were entered, among them of
those that are made later just the given ones. -/
structure Adds (done : List (Float × HostCall)) (d₁ d₂ : Diary) : Prop where
  equipment : d₂.room.host.equipment = d₁.room.host.equipment
  calls : ∃ made, d₂.calls = d₁.calls ++ made ∧
    d₂.room.host.calls.map Prod.fst = d₁.room.host.calls.map Prod.fst ++ made.map Prod.snd ∧
    made.filter (·.2.isDelayed) = done

/-- Without calls, nothing is entered. -/
theorem adds_nil (hhost : d₂.room.host = d₁.room.host) (hcalls : d₂.calls = d₁.calls) :
    Adds [] d₁ d₂ := by
  refine ⟨by rw [hhost], [], ?_, ?_, rfl⟩
  · rw [hcalls, List.append_nil]
  · rw [hhost, List.map_nil, List.append_nil]

theorem Adds.trans {done more : List (Float × HostCall)} (h : Adds done d d₁)
    (h' : Adds more d₁ d₂) : Adds (done ++ more) d d₂ := by
  obtain ⟨made, hcalls, hhost, rfl⟩ := h.calls
  obtain ⟨made', hcalls', hhost', rfl⟩ := h'.calls
  refine ⟨h'.equipment.trans h.equipment, made ++ made', ?_, ?_, List.filter_append ..⟩
  · rw [hcalls', hcalls, List.append_assoc]
  · rw [hhost', hhost, List.map_append, List.append_assoc]

/-- What is recorded are the calls of the host, with the time before. -/
theorem adds_record {α : Type} (d : Diary) (a : Act (Room Desk) α) (cs : List HostCall)
    (hequipment : (a.outcome d.room).2.host.equipment = d.room.host.equipment)
    (hcalls : (a.outcome d.room).2.host.calls.map Prod.fst =
      d.room.host.calls.map Prod.fst ++ cs) :
    Adds ((cs.filter HostCall.isDelayed).map fun c => (d.room.queue.time, c)) d
      ((record a).outcome d).2 := by
  have hmade : ((a.outcome d.room).2.host.calls.drop d.room.host.calls.length).map Prod.fst =
      cs := by
    rw [List.map_drop, hcalls, ← List.length_map Prod.fst, List.drop_left]
  refine ⟨hequipment, cs.map fun c => (d.room.queue.time, c), ?_, ?_, ?_⟩
  · rw [← hmade, List.map_map]
    rfl
  · rw [List.map_map]
    exact hcalls.trans (by rw [Function.comp_def, List.map_id'])
  · rw [List.filter_map]
    rfl

/-! ### The clock -/

/-- A timer that goes off is the one that waits, and what it was made for is entered at its
deadline, or it is an old one. -/
theorem expire_adds (h : Desk.Waits t? d.room) {t : Timer Task} (ht : t ∈ d.room.queue.waiting) :
    ∃ d', (record (Desk.expire t.task)).outcome { d with room := { d.room with
        queue := d.room.queue.expired t.id t.deadline } } = (.ok (), d') ∧
      d'.room.queue = d.room.queue.expired t.id t.deadline ∧
      (t? = some t ∧ Desk.Waits none d'.room ∧ Adds (entries d.room.host.equipment t) d d' ∨
        Desk.Waits t? d'.room ∧ Adds [] d d') := by
  let r : Room Desk := { d.room with queue := d.room.queue.expired t.id t.deadline }
  have hqueue : Adds [] d ⟨r, d.calls⟩ := adds_nil rfl rfl
  have hout := Desk.outcome_expire (r := r) h.dependable t.task
  refine ⟨_, Prod.ext ((outcome_record _ _).1.trans (congrArg Prod.fst hout)) rfl, ?_, ?_⟩
  · rw [(outcome_record _ _).2, hout]
    dsimp only
    split
    · exact Room.told_queue _ _
    · rfl
  · -- Only a timer of the generation of the slot does what it was made for.
    by_cases hg : t.task.replyGeneration? = some d.room.rest.slot.generation
    · have hcalls : (t.task.calls r.host.equipment).filter HostCall.isDelayed =
          t.task.calls r.host.equipment :=
        List.filter_eq_self.mpr fun _ => Task.isDelayed_of_mem
      rw [if_pos hg] at hout
      obtain ⟨htimer, hwaits⟩ := h.expired_own ht hg t.deadline
      refine .inl ⟨htimer, ?_, ?_⟩
      · rw [(outcome_record _ _).2, hout]
        exact hwaits.told _
      · have hadds := adds_record ⟨r, d.calls⟩ (Desk.expire t.task)
          (t.task.calls r.host.equipment) (by rw [hout]; exact (Room.told_host _ _).1)
          (by rw [hout]; exact Room.calls_told _ _)
        rw [hcalls] at hadds
        exact hqueue.trans hadds
    · rw [if_neg hg] at hout
      refine .inr ⟨?_, ?_⟩
      · rw [(outcome_record _ _).2, hout]
        exact h.expired_other ht hg t.deadline
      · have hadds := adds_record ⟨r, d.calls⟩ (Desk.expire t.task) []
          (by rw [hout]) (by rw [hout, List.append_nil])
        exact hqueue.trans hadds

/-- Once no timer is due any more, the clock is set, and what waits is what is late. -/
theorem setTime_adds {target : Float} (h : Desk.Waits t? d.room)
    (hnext : d.room.queue.next? target = none) :
    let d' : Diary := { d with
      room := { d.room with queue := { d.room.queue with time := target } } }
    Desk.Waits (late? target t?) d'.room ∧
      Adds ((due? target t?).elim [] (entries d.room.host.equipment)) d d' := by
  intro d'
  have hadds : Adds [] d d' := adds_nil rfl rfl
  cases t? with
  | none => exact ⟨h.withTime target, hadds⟩
  | some t =>
    obtain ⟨hnow, hlater⟩ := filter_of_not_le
      (TimerQueue.not_due_of_next?_eq_none hnext (h.fits.mem_of_kept? h.kept).1)
    rw [hnow, hlater]
    exact ⟨h.withTime target, hadds⟩

/-- While the clock moves, the timer that waits goes off if it is due, and nothing else is made
later. -/
theorem advanceTo_adds (target : Float) (fuel : Nat) (h : Desk.Waits t? d.room)
    (hfuel : d.room.queue.waiting.length < fuel) :
    ∃ d', (TimerQueue.advanceTo (fun d : Diary => d.room.queue)
        (fun d q => { d with room := { d.room with queue := q } })
        (fun task => record (Desk.expire task)) target fuel).outcome d = (.ok (), d') ∧
      d'.room.queue.time = target ∧
      Desk.Waits (late? target t?) d'.room ∧
      Adds ((due? target t?).elim [] (entries d.room.host.equipment)) d d' := by
  -- Fewer timers wait after each that goes off, hence the induction on how many may.
  induction fuel generalizing d t? with
  | zero => exact absurd hfuel (Nat.not_lt_zero _)
  | succ fuel ih =>
    unfold TimerQueue.advanceTo
    rw [outcome_bind, outcome_get]
    dsimp only
    cases hnext : d.room.queue.next? target with
    | none => exact ⟨_, rfl, rfl, setTime_adds h hnext⟩
    | some next =>
      obtain ⟨hdue, hq⟩ := TimerQueue.mem_due_of_next? hnext
      obtain ⟨t, q⟩ := next
      obtain ⟨ht, hle⟩ := List.mem_filter.mp hdue
      dsimp only at ht hle hq
      subst hq
      dsimp only
      rw [outcome_bind, outcome_modify]
      dsimp only
      obtain ⟨d₁, hout, hqueue, hcases⟩ := expire_adds h ht
      have hshort : d₁.room.queue.waiting.length < fuel := by
        rw [hqueue]
        exact Nat.lt_of_lt_of_le (TimerQueue.length_waiting_expired ht t.deadline)
          (Nat.le_of_lt_succ hfuel)
      rw [outcome_bind_of_ok hout]
      rcases hcases with ⟨rfl, hwaits, hadds⟩ | ⟨hwaits, hadds⟩
      · -- The timer that waits was the next one, and nothing waits after it.
        obtain ⟨d₂, hout₂, htime, hwaits₂, hadds₂⟩ := ih hwaits hshort
        obtain ⟨hnow, hlater⟩ := filter_of_le (of_decide_eq_true hle)
        have hsum := hadds.trans hadds₂
        rw [hnow, hlater]
        rw [due?, Option.filter_none, Option.elim_none, List.append_nil] at hsum
        exact ⟨d₂, hout₂, htime, hwaits₂, hsum⟩
      · obtain ⟨d₂, hout₂, htime, hwaits₂, hadds₂⟩ := ih hwaits hshort
        refine ⟨d₂, hout₂, htime, hwaits₂, ?_⟩
        rw [hadds.equipment] at hadds₂
        exact hadds.trans hadds₂

/-- The clock is moved to its target. -/
theorem advance_adds (h : Desk.Waits t? d.room) (seconds : Float) :
    let d' := d.after (.clock seconds)
    let target := d.room.queue.time + seconds
    d'.room.queue.time = target ∧
      Desk.Waits (late? target t?) d'.room ∧
      Adds ((due? target t?).elim [] (entries d.room.host.equipment)) d d' := by
  obtain ⟨d', hout, hadvanced⟩ := advanceTo_adds (d.room.queue.time + seconds)
    (d.room.queue.waiting.length + 1) h (Nat.lt_succ_self _)
  have hafter : d.after (.clock seconds) = d' := by
    show ((advance seconds).outcome d).2 = d'
    unfold advance
    rw [outcome_bind, outcome_get]
    dsimp only
    rw [hout]
  rw [hafter]
  exact hadvanced

/-! ### Steps -/

/-- What is entered in some steps: what is made later and waits, and what will be. -/
def expected (t? : Option (Timer Task)) (r : Room Desk) (es : List Desk.Step) :
    List (Float × HostCall) :=
  pending r.host.equipment r.queue.time es t? ++ (Desk.due r es).flatMap entered

theorem expected_nil (t? : Option (Timer Task)) (r : Room Desk) : expected t? r [] = [] := by
  cases t? <;> rfl

/-- What is expected is what waits, what the first step brings about and what is expected then. -/
theorem expected_cons (t? : Option (Timer Task)) (d : Diary) (e : Desk.Step)
    (es : List Desk.Step) : expected t? d.room (e :: es) =
      pending d.room.host.equipment d.room.queue.time (e :: es) t? ++
        ((Desk.brings d.room es e).flatMap entered ++
          (Desk.due (d.after e).room es).flatMap entered) := by
  unfold expected
  rw [room_after, ← List.flatMap_append]
  rfl

theorem room_after_request (d : Diary) (now : Instant) (q : Request) :
    (d.after (.request now q)).room = ((Desk.reply Outlet.toHost now q).outcome d.room).2 := by
  rw [room_after]
  show ((discard (Desk.reply Outlet.toHost now q)).outcome d.room).2 = _
  rw [outcome_discard]

/-- Other requests enter nothing that is made later, and what waits waits on. -/
theorem request_adds (h : Desk.Waits t? d.room) {q : Request}
    (hq : q.delays d.room.host.equipment = false) (now : Instant) (es : List Desk.Step) :
    let d' := d.after (.request now q)
    Desk.Waits t? d'.room ∧ Adds [] d d' ∧
      expected t? d.room (.request now q :: es) = expected t? d'.room es := by
  have hbeside := Desk.beside_reply hq now
  rw [← room_after_request] at hbeside
  refine ⟨h.beside hbeside, ?_, ?_⟩
  · obtain ⟨made, hmade, hother⟩ := hbeside.calls
    have hnone : (made.map Prod.fst).filter HostCall.isDelayed = [] :=
      List.filter_eq_nil_iff.mpr fun c hc => by
        obtain ⟨p, hp, rfl⟩ := List.mem_map.mp hc
        rw [hother p hp]
        exact Bool.false_ne_true
    have hadds := adds_record d (Desk.Step.request now q).act (made.map Prod.fst)
      hbeside.equipment
      ((congrArg (List.map Prod.fst) hmade).trans List.map_append)
    rwa [hnone] at hadds
  · have hbrings : Desk.brings d.room es (.request now q) = [] := by
      unfold Desk.brings
      dsimp only
      rw [hq]
      split <;> rfl
    rw [expected_cons, hbrings, pending_request, hq]
    unfold expected
    rw [hbeside.queue, hbeside.equipment]
    rfl

/-- What a request delays waits in place of what waited before, until the time at which the request
brings it about. -/
theorem request_delays_adds (h : Desk.Waits t? d.room) {q : Request}
    (hq : q.delays d.room.host.equipment = true) (now : Instant) (es : List Desk.Step) :
    let d' := d.after (.request now q)
    ∃ t : Timer Task, Desk.Waits (some t) d'.room ∧ Adds [] d d' ∧
      expected t? d.room (.request now q :: es) = expected (some t) d'.room es := by
  obtain ⟨p, text, task, hout, hp⟩ := Desk.outcome_reply_of_delays h.dependable h.delays hq now
  have hroom : (d.after (.request now q)).room =
      Desk.delayed (d.room.told [.respond text]) (d.room.rest.delayOf q) task :=
    (room_after_request d now q).trans (congrArg Prod.snd hout)
  obtain ⟨id, g, hwaits⟩ := (h.told [.respond text]).delayed (d.room.rest.delayOf q) task
  rw [← hroom, Room.told_queue] at hwaits
  have htime : (d.after (.request now q)).room.queue.time = d.room.queue.time := by
    rw [hroom, Desk.time_delayed, Room.told_queue]
  have hequipment : (d.after (.request now q)).room.host.equipment = d.room.host.equipment := by
    rw [hroom]
    exact (Room.told_host _ _).1
  refine ⟨_, hwaits, ?_, ?_⟩
  · exact adds_record d (Desk.Step.request now q).act [.respond text]
      hequipment ((congrArg (fun r => r.host.calls.map Prod.fst) hroom).trans (Room.calls_told _ _))
  · -- What the request brings about is what will become of the timer that waits now.
    have hbrings : (Desk.brings d.room es (.request now q)).flatMap entered =
        pending d.room.host.equipment d.room.queue.time es
          (some ⟨id, d.room.queue.time + d.room.rest.delayOf q, .reply g task⟩) := by
      unfold Desk.brings pending entries
      dsimp only
      rw [hout, hq]
      dsimp only
      rw [hp]
      split
      · rw [if_pos ‹_›]
        exact List.flatMap_singleton _ _
      · rw [if_neg ‹_›]
        rfl
    rw [expected_cons, pending_request, hq, hbrings]
    unfold expected
    rw [htime, hequipment]
    rfl

/-- What waited is dropped. -/
theorem drop_adds (h : Desk.Waits t? d.room) (es : List Desk.Step) :
    Desk.Waits none (d.after .drop).room ∧ Adds [] d (d.after .drop) ∧
      expected t? d.room (.drop :: es) = expected none (d.after .drop).room es := by
  have hroom : (d.after .drop).room = Desk.dropped d.room :=
    (room_after d .drop).trans (congrArg Prod.snd (Desk.outcome_cancelPending h.delays))
  refine ⟨?_, ?_, ?_⟩
  · rw [hroom]
    exact h.dropped
  · exact adds_record d Desk.Step.drop.act []
      (congrArg (·.host.equipment) hroom)
      ((congrArg (fun r => r.host.calls.map Prod.fst) hroom).trans (List.append_nil _).symm)
  · rw [expected_cons, pending_drop]
    rfl

theorem clock_adds (h : Desk.Waits t? d.room) (seconds : Float) (es : List Desk.Step) :
    let d' := d.after (.clock seconds)
    ∃ done t'?, Desk.Waits t'? d'.room ∧ Adds done d d' ∧
      expected t? d.room (.clock seconds :: es) = done ++ expected t'? d'.room es := by
  obtain ⟨htime, hwaits, hadds⟩ := advance_adds h seconds
  refine ⟨_, _, hwaits, hadds, ?_⟩
  rw [expected_cons]
  unfold expected
  rw [htime, hadds.equipment, pending_clock, List.append_assoc]
  rfl

/-- A step enters the first of what is expected. -/
theorem after_adds (h : Desk.Waits t? d.room) (e : Desk.Step) (es : List Desk.Step) :
    ∃ done t'?, Desk.Waits t'? (d.after e).room ∧ Adds done d (d.after e) ∧
      expected t? d.room (e :: es) = done ++ expected t'? (d.after e).room es := by
  cases e with
  | request now q =>
    cases hq : q.delays d.room.host.equipment with
    | false => exact ⟨[], t?, request_adds h hq now es⟩
    | true =>
      obtain ⟨t, hadds⟩ := request_delays_adds h hq now es
      exact ⟨[], some t, hadds⟩
  | drop => exact ⟨[], none, drop_adds h es⟩
  | clock seconds => exact clock_adds h seconds es

/-- What was expected is what was entered. -/
theorem run_adds (h : Desk.Waits t? d.room) (es : List Desk.Step) :
    Adds (expected t? d.room es) d (d.run es) := by
  induction es generalizing d t? with
  | nil =>
    rw [expected_nil]
    exact adds_nil rfl rfl
  | cons e es ih =>
    obtain ⟨done, t'?, hwaits, hadds, hexpected⟩ := after_adds h e es
    rw [hexpected]
    exact hadds.trans (ih hwaits)

end Diary

namespace Desk

/-- At a desk where nothing is delayed yet, the later calls in any steps are those of the requests
whose time comes before the next request that delays something and before what is delayed is
dropped: in their order, each once and at its time, as their replies announced them. Requests that
delay nothing leave it as it is. The diary that tells this knows all calls and has no influence. -/
theorem delayed_on_time {r : Room Desk} (hdelays : r.rest.delays = true)
    (hslot : r.rest.slot.timer = none) (hqueue : r.queue.waiting = [])
    (hd : r.host.conduct.Dependable) (es : List Step) :
    let d := (⟨r, []⟩ : Diary).run es
    d.room = run r es ∧
    d.room.host.calls.map Prod.fst = r.host.calls.map Prod.fst ++ d.calls.map Prod.snd ∧
    d.calls.filter (·.2.isDelayed) = (due r es).flatMap Diary.entered ∧
    ∀ now q, q.delays r.host.equipment = false →
      (after d.room (.request now q)).queue = d.room.queue ∧
      (after d.room (.request now q)).rest.slot = d.room.rest.slot := by
  have hwaits : Waits none r := by
    refine ⟨hdelays, hd, Slot.fits_of_waiting_eq_nil hqueue hslot, ?_⟩
    unfold Slot.kept?
    rw [hslot]
    rfl
  have hadds := Diary.run_adds (d := ⟨r, []⟩) hwaits es
  obtain ⟨made, hcalls, hhost, hmade⟩ := hadds.calls
  rw [List.nil_append] at hcalls
  refine ⟨Diary.room_run _ es, ?_, ?_, fun now q hq => ?_⟩
  · rw [hcalls]
    exact hhost
  · rw [hcalls]
    exact hmade
  · rw [← hadds.equipment] at hq
    have hbeside := beside_reply hq now
    obtain ⟨chat, hdesk⟩ := hbeside.desk
    rw [← Diary.room_after_request, Diary.room_after] at hbeside hdesk
    exact ⟨hbeside.queue, by rw [hdesk]⟩

/-- A room with a desk where nothing is delayed, whose panel can be closed. -/
def tidy : Room Desk where
  host := { equipment := { onClose := true, reload := true } }
  storage := {}
  voice := { rate := 1, pitch := 1, volume := 1 }
  rest := { navigationDelay := 1, closeDelay := 1.5, volume := 1 }

/-- A reload is dropped, and later the panel is closed and the games are shown, if five seconds are
enough for that. -/
theorem delayed_on_time_games :
    let now : Instant := ⟨⟨2026, 10, 18, by decide⟩, .midnight⟩
    let deadline := tidy.queue.time + tidy.rest.navigationDelay
    ((⟨tidy, []⟩ : Diary).run [.request now ⟨.refresh, .null, .null⟩, .drop,
        .request now ⟨.navigate, .str "games", .null⟩, .request now ⟨.help, .null, .null⟩,
        .clock 5]).calls.filter (·.2.isDelayed) =
      if deadline ≤ tidy.queue.time + 5 then [(deadline, .close), (deadline, .navigate "/games")]
      else [] := by
  intro now deadline
  have hcalls := (delayed_on_time (r := tidy) rfl rfl rfl (fun _ _ _ => rfl)
    [.request now ⟨.refresh, .null, .null⟩, .drop,
      .request now ⟨.navigate, .str "games", .null⟩, .request now ⟨.help, .null, .null⟩,
      .clock 5]).2.2.1
  rw [hcalls]
  have hdue : due tidy [.request now ⟨.refresh, .null, .null⟩, .drop,
      .request now ⟨.navigate, .str "games", .null⟩, .request now ⟨.help, .null, .null⟩,
      .clock 5] = (if decide (deadline ≤ tidy.queue.time + 5) || false then
        [(deadline, [.close, .navigate "/games"])] else []) ++ [] := rfl
  rw [hdue, List.append_nil]
  by_cases h : deadline ≤ tidy.queue.time + 5
  · rw [if_pos h, decide_eq_true h]
    rfl
  · rw [if_neg h, decide_eq_false h]
    rfl

end Desk

end Arcade
