import Arcade.Proofs.Hub.Occurrence
import Arcade.Proofs.Reply.Answered

/-!
# What requests delay

At a desk with timers, a request that leads to another screen, closes the panel or loads everything
anew does so after a delay, as its reply announces it. Any other request leaves what is delayed as
it is, and calls nothing that is called later.
-/

namespace Arcade

open Act

/-! ## What is done later -/

/-- Whether a call is one that a desk makes later. -/
def HostCall.isDelayed : HostCall → Bool
  | .navigate _ | .close | .reload => true
  | _ => false

/-- Whether a request delays something. -/
def Request.delays (q : Request) (e : Equipment) : Bool :=
  match q.action with
  | .navigate | .play | .coins => true
  | .refresh => e.reload
  | .close => e.onClose
  | _ => false

/-- The calls that a reply announces for later. -/
def Reply.announced (p : Reply) (e : Equipment) : List HostCall :=
  match p.path, p.action with
  | some path, _ => (if e.onClose then [.close] else []) ++ [.navigate path]
  | none, .close => [.close]
  | none, .refresh => [.reload]
  | none, _ => []

/-- The calls that a task makes when its time has come. -/
def ReplyTask.calls (e : Equipment) : ReplyTask → List HostCall
  | .go path => (if e.onClose then [.close] else []) ++ [.navigate path]
  | .close => [.close]
  | .reload => [.reload]

def Task.calls (e : Equipment) : Task → List HostCall
  | .reply _ task => task.calls e
  | .listening .. => []

theorem ReplyTask.isDelayed_of_mem {e : Equipment} {task : ReplyTask} {c : HostCall}
    (h : c ∈ task.calls e) : c.isDelayed = true := by
  cases task with
  | go path =>
    rcases List.mem_append.mp h with h | h
    · split at h
      · rw [List.mem_singleton.mp h]
        rfl
      · exact (List.not_mem_nil h).elim
    · rw [List.mem_singleton.mp h]
      rfl
  | close | reload =>
    rw [List.mem_singleton.mp h]
    rfl

theorem Task.isDelayed_of_mem {e : Equipment} {task : Task} {c : HostCall}
    (h : c ∈ task.calls e) : c.isDelayed = true := by
  cases task with
  | reply _ task => exact task.isDelayed_of_mem h
  | listening => exact (List.not_mem_nil h).elim

/-! ## Calls of the host -/

namespace Room

variable {δ : Type} {r t : Room δ}

/-- The room after more calls of the host. -/
def told (r : Room δ) (cs : List HostCall) : Room δ :=
  cs.foldl (fun r c => { r with host := r.host.called c }) r

theorem told_append (r : Room δ) (cs ds : List HostCall) :
    r.told (cs ++ ds) = (r.told cs).told ds := List.foldl_append

/-- Calls of the host are entered, and that is all. -/
theorem exists_told (r : Room δ) (cs : List HostCall) : ∃ made : List (HostCall × Bool),
    r.told cs = { r with host := { r.host with calls := r.host.calls ++ made } } ∧
      made.map Prod.fst = cs := by
  induction cs generalizing r with
  | nil => exact ⟨[], by rw [List.append_nil]; rfl, rfl⟩
  | cons c cs ih =>
    obtain ⟨made, htold, hmade⟩ := ih { r with host := r.host.called c }
    refine ⟨(c, r.host.conduct.fails r.host.calls.length c) :: made, ?_, ?_⟩
    · show Room.told _ cs = _
      rw [htold]
      unfold Host.called
      rw [List.append_assoc]
      rfl
    · rw [List.map_cons, hmade]

theorem calls_told (r : Room δ) (cs : List HostCall) :
    (r.told cs).host.calls.map Prod.fst = r.host.calls.map Prod.fst ++ cs := by
  obtain ⟨made, htold, rfl⟩ := r.exists_told cs
  rw [htold]
  exact List.map_append

theorem outcome_call (c : HostCall) (r : Room δ) :
    (call c).outcome r =
      (if r.host.conduct.fails r.host.calls.length c then .error c.fault else .ok (),
        r.told [c]) := by
  unfold call onHost
  rw [outcome_within, Host.outcome_call]
  rfl

/-- A dependable host takes every call of its own code. -/
theorem outcome_call_of_dependable (h : r.host.conduct.Dependable) {c : HostCall}
    (hc : c.fault = .host) : (call c).outcome r = (.ok (), r.told [c]) := by
  rw [outcome_call, h _ c hc]
  rfl

@[simp] theorem told_host (r : Room δ) (cs : List HostCall) :
    (r.told cs).host.equipment = r.host.equipment ∧ (r.told cs).host.conduct = r.host.conduct := by
  obtain ⟨made, htold, -⟩ := r.exists_told cs
  rw [htold]
  exact ⟨rfl, rfl⟩

@[simp] theorem told_queue (r : Room δ) (cs : List HostCall) : (r.told cs).queue = r.queue := by
  obtain ⟨made, htold, -⟩ := r.exists_told cs
  rw [htold]

@[simp] theorem told_rest (r : Room δ) (cs : List HostCall) : (r.told cs).rest = r.rest := by
  obtain ⟨made, htold, -⟩ := r.exists_told cs
  rw [htold]

end Room

namespace Desk

variable {α : Type} {r t : Room Desk}

/-! ## What is delayed is done -/

/-- The delay of what a request delays. -/
def delayOf (d : Desk) (q : Request) : Float :=
  match q.action with
  | .close => d.closeDelay
  | _ => d.navigationDelay

/-- What is done for a timer that went off. -/
def expire : Task → Act (Room Desk) Unit
  | .reply generation task => goOff generation task
  | .listening .. => pure ()

/-- What is delayed is done without a fault on a dependable host. -/
theorem outcome_perform (h : r.host.conduct.Dependable) (task : ReplyTask) :
    (perform task).outcome r = (.ok (), r.told (task.calls r.host.equipment)) := by
  cases task with
  | go path =>
    have hnavigate {r : Room Desk} (h : r.host.conduct.Dependable) :
        (Room.call (.navigate path)).outcome r = (.ok (), r.told [.navigate path]) :=
      Room.outcome_call_of_dependable h rfl
    unfold perform Room.callIf ReplyTask.calls
    cases hclose : r.host.equipment.onClose with
    | false =>
      have hskip : (do if (← get).host.equipment.onClose then Room.call .close :
          Act (Room Desk) Unit).outcome r = (.ok (), r) := by
        rw [outcome_bind, outcome_get]
        dsimp only
        rw [hclose]
        rfl
      rw [outcome_bind_of_ok hskip]
      exact hnavigate h
    | true =>
      have hcall : (do if (← get).host.equipment.onClose then Room.call .close :
          Act (Room Desk) Unit).outcome r = (.ok (), r.told [.close]) := by
        rw [outcome_bind, outcome_get]
        dsimp only
        rw [hclose]
        exact Room.outcome_call_of_dependable h rfl
      rw [outcome_bind_of_ok hcall, hnavigate]
      · rw [if_pos rfl, Room.told_append]
      · rw [(r.told_host _).2]
        exact h
  | close | reload => exact Room.outcome_call_of_dependable h rfl

/-- A timer that goes off does what it was made for if its generation is the present one. -/
theorem outcome_expire (h : r.host.conduct.Dependable) (task : Task) :
    (expire task).outcome r =
      (.ok (), if task.replyGeneration? = some r.rest.slot.generation then
        Room.told { r with rest := { r.rest with slot := ⟨none, none, r.rest.slot.generation⟩ } }
          (task.calls r.host.equipment) else r) := by
  cases task with
  | listening generation task => rfl
  | reply generation task =>
    have hown : (Task.reply generation task).replyGeneration? = some r.rest.slot.generation ↔
        r.rest.slot.generation = generation := by
      simp [Task.replyGeneration?, eq_comm]
    unfold expire goOff Slot.fired?
    rw [outcome_bind, outcome_get]
    dsimp only
    by_cases hg : r.rest.slot.generation = generation
    · rw [if_pos hg, if_pos (hown.mpr hg)]
      exact outcome_perform
        (r := { r with rest := { r.rest with slot := ⟨none, none, r.rest.slot.generation⟩ } })
        h task
    · rw [if_neg hg, if_neg (mt hown.mp hg)]
      rfl

/-! ## Requests that delay nothing -/

/-- Whether at a desk only what has nothing to do with what is delayed has changed. -/
structure Beside (r t : Room Desk) : Prop where
  equipment : t.host.equipment = r.host.equipment
  conduct : t.host.conduct = r.host.conduct
  queue : t.queue = r.queue
  desk : ∃ chat, t.rest = { r.rest with chat := chat }
  calls : ∃ made : List (HostCall × Bool), t.host.calls = r.host.calls ++ made ∧
    ∀ c ∈ made, c.1.isDelayed = false

theorem Beside.refl (r : Room Desk) : Beside r r :=
  ⟨rfl, rfl, rfl, ⟨r.rest.chat, rfl⟩, [], (List.append_nil _).symm, by simp⟩

theorem beside_call {c : HostCall} (hc : c.isDelayed = false) (r : Room Desk) :
    Keeps (Beside r) (Room.call c) := by
  intro t ht
  obtain ⟨made, hcalls, hmade⟩ := ht.calls
  rw [Room.outcome_call]
  refine ⟨ht.equipment, ht.conduct, ht.queue, ht.desk,
    made ++ [(c, t.host.conduct.fails t.host.calls.length c)], ?_, fun d hd => ?_⟩
  · show t.host.calls ++ _ = _
    rw [hcalls, List.append_assoc]
  · rcases List.mem_append.mp hd with hd | hd
    · exact hmade d hd
    · rw [List.mem_singleton.mp hd]
      exact hc

theorem beside_callIf {c : HostCall} (hc : c.isDelayed = false) (wanted : Equipment → Bool)
    (r : Room Desk) : Keeps (Beside r) (Room.callIf wanted c) :=
  keeps_get.bind fun _ => (beside_call hc r).ite (keeps_pure _)

theorem beside_prefer (name : String) (value : Json) (r : Room Desk) :
    Keeps (Beside r) (Room.prefer name value) :=
  keeps_modify fun _ h => ⟨h.equipment, h.conduct, h.queue, h.desk, h.calls⟩

theorem beside_changeVolume (step : Float) (r : Room Desk) :
    Keeps (Beside r) (Turn.changeVolume step) :=
  keeps_get.bind fun _ => (keeps_lift _).bind fun _ =>
    (beside_prefer _ _ r).bind fun _ => beside_prefer _ _ r

theorem beside_changeChat (f : Chat → Chat) (r : Room Desk) :
    Keeps (Beside r) (change fun d => { d with chat := d.chat.map f }) :=
  keeps_modify fun t h => by
    obtain ⟨chat, hdesk⟩ := h.desk
    refine ⟨h.equipment, h.conduct, h.queue, ⟨t.rest.chat.map f, ?_⟩, h.calls⟩
    dsimp only
    rw [hdesk]

theorem beside_inRoom {a : Act (Room Desk) α} (h : Keeps (Beside r) a) :
    Keeps (fun t => Beside r t.room) (Turn.inRoom a) := fun t ht => h t.room ht

theorem beside_note (f : Reply → Reply) :
    Keeps (fun t => Beside r t.room) (Turn.note f) := fun _ ht => ht

theorem beside_say (text : Json) :
    Keeps (fun t => Beside r t.room) (Turn.say Outlet.toHost text) :=
  (beside_note _).bind fun _ => beside_inRoom (beside_call rfl r)

/-- Something that the host does not want is not delayed. -/
theorem beside_laterIf {wanted : Equipment → Bool} (hunwanted : wanted r.host.equipment = false)
    (delay : Desk → Float) (task : ReplyTask) :
    Keeps (fun t => Beside r t.room) (do
      let room := (← get).room
      if wanted room.host.equipment then Turn.inRoom (later (delay room.rest) task)) := by
  intro t ht
  rw [outcome_bind, outcome_get]
  dsimp only
  rw [ht.equipment, hunwanted]
  exact ht

/-- A request that delays nothing does not touch what is delayed. -/
theorem beside_reply {q : Request} (h : q.delays r.host.equipment = false) (now : Instant) :
    Beside r ((reply Outlet.toHost now q).outcome r).2 := by
  suffices hkeeps : Keeps (fun t => Beside r t.room) (Turn.carryOut Outlet.toHost now q) from
    hkeeps ⟨r, { action := q.action }⟩ (.refl r)
  obtain ⟨action, target, response⟩ := q
  cases action with
  | navigate | play | coins => cases h
  | close =>
    refine (beside_say _).bind fun _ => (beside_note _).bind fun _ => ?_
    exact beside_laterIf h Desk.closeDelay .close
  | refresh =>
    refine (beside_say _).bind fun _ => ?_
    exact beside_laterIf h Desk.navigationDelay .reload
  | theme =>
    show Keeps _ (if target.truthy then _ else _)
    refine Keeps.ite ?_ (beside_say _)
    exact (beside_inRoom (beside_prefer _ _ r)).bind fun _ =>
      (beside_inRoom (beside_callIf rfl _ r)).bind fun _ => beside_say _
  | clearChat => exact (beside_note _).bind fun _ => beside_inRoom (beside_changeChat _ r)
  | volumeUp | volumeDown =>
    exact (beside_inRoom (beside_changeVolume _ r)).bind fun _ => beside_say _
  | mute =>
    refine (beside_inRoom (beside_callIf rfl _ r)).bind fun _ => ?_
    exact (beside_inRoom (beside_prefer _ _ r)).bind fun _ => beside_say _
  | time | help | gameInfo | popularGames | smallTalk | fallback | other => exact beside_say _

/-! ## Requests that delay something -/

theorem outcome_say (h : r.host.conduct.Dependable) (text : Json) (p : Reply) :
    (Turn.say Outlet.toHost text).outcome ⟨r, p⟩ =
      (.ok (), ⟨r.told [.respond text], { p with response := text }⟩) := by
  have hcall : (Outlet.toHost.respond text).outcome r = (.ok (), r.told [.respond text]) :=
    Room.outcome_call_of_dependable h rfl
  unfold Turn.say Turn.note Turn.inRoom
  rw [outcome_bind, outcome_modify]
  dsimp only
  rw [outcome_within, hcall]

theorem outcome_go (h : r.rest.delays = true) (path : String) (p : Reply) :
    (Turn.go path).outcome ⟨r, p⟩ =
      (.ok (), ⟨delayed r r.rest.navigationDelay (.go path), { p with path := some path }⟩) := by
  unfold Turn.go Turn.note Turn.inRoom
  rw [outcome_bind, outcome_modify]
  dsimp only
  rw [outcome_bind, outcome_get]
  dsimp only
  rw [outcome_within, outcome_later h]

theorem time_delayed (r : Room Desk) (delay : Float) (task : ReplyTask) :
    (delayed r delay task).queue.time = r.queue.time := by
  show (r.rest.slot.cancel r.queue).2.time = _
  exact Slot.cancel_time _ _

theorem outcome_laterIf {wanted : Equipment → Bool} (hr : r.rest.delays = true)
    (hwanted : wanted r.host.equipment = true) (delay : Desk → Float) (task : ReplyTask)
    (p : Reply) :
    (do
      let room := (← get).room
      if wanted room.host.equipment then Turn.inRoom (later (delay room.rest) task) :
        Act Turn Unit).outcome ⟨r, p⟩ = (.ok (), ⟨delayed r (delay r.rest) task, p⟩) := by
  rw [outcome_bind, outcome_get]
  dsimp only
  rw [hwanted, if_pos rfl]
  unfold Turn.inRoom
  rw [outcome_within, outcome_later hr]

/-- A request that delays something is answered, and what its reply announces is delayed. -/
theorem outcome_reply_of_delays (hd : r.host.conduct.Dependable) (hr : r.rest.delays = true)
    {q : Request} (h : q.delays r.host.equipment = true) (now : Instant) : ∃ p text task,
      (reply Outlet.toHost now q).outcome r =
        (.ok p, delayed (r.told [.respond text]) (r.rest.delayOf q) task) ∧
      p.announced r.host.equipment = task.calls r.host.equipment := by
  suffices hturn : ∃ (p : Reply) (text : Json) (task : ReplyTask),
      (Turn.carryOut Outlet.toHost now q).outcome ⟨r, { action := q.action }⟩ =
        (.ok (), ⟨delayed (r.told [.respond text]) (r.rest.delayOf q) task, p⟩) ∧
      p.announced r.host.equipment = task.calls r.host.equipment by
    obtain ⟨p, text, task, hout, hp⟩ := hturn
    refine ⟨{ p with handled := true }, text, task, ?_, hp⟩
    unfold reply
    rw [outcome_ofOutcome, hout]
    rfl
  -- Telling the host the answer leaves the desk as it was.
  have hrest (text : Json) : (r.told [.respond text]).rest = r.rest := Room.told_rest _ _
  have hr' (text : Json) : (r.told [.respond text]).rest.delays = true := by rw [hrest, hr]
  have hequipment (text : Json) : (r.told [.respond text]).host.equipment = r.host.equipment :=
    (Room.told_host _ _).1
  have hgo (action : IntentAction) (text : Json) (path : String) :
      (do Turn.say Outlet.toHost text; Turn.go path).outcome ⟨r, { action := action }⟩ =
        (.ok (), ⟨delayed (r.told [.respond text]) r.rest.navigationDelay (.go path),
          { action := action, response := text, path := some path }⟩) := by
    rw [outcome_bind_of_ok (outcome_say hd _ _), outcome_go (hr' _), hrest]
  obtain ⟨action, target, response⟩ := q
  cases action with
  | navigate => exact ⟨_, response, .go _, hgo .navigate response _, rfl⟩
  | play => exact ⟨_, response, .go _, hgo .play response _, rfl⟩
  | coins => exact ⟨_, _, .go _, hgo .coins (.str (Turn.coinsText r.rest.ledger)) _, rfl⟩
  | refresh =>
    have hwanted : (r.told [.respond response]).host.equipment.reload = true := by
      rw [hequipment]
      exact h
    have hlater := outcome_laterIf (hr' response) hwanted Desk.navigationDelay .reload
      { action := .refresh, response := response }
    rw [hrest] at hlater
    exact ⟨_, response, .reload, (outcome_bind_of_ok (outcome_say hd _ _)).trans hlater, rfl⟩
  | close =>
    have hwanted : (r.told [.respond response]).host.equipment.onClose = true := by
      rw [hequipment]
      exact h
    have hlater := outcome_laterIf (hr' response) hwanted Desk.closeDelay .close
      { action := .close, response := response, closing := true }
    rw [hrest] at hlater
    exact ⟨_, response, .close, (outcome_bind_of_ok (outcome_say hd _ _)).trans hlater, rfl⟩
  | _ => cases h

end Desk

end Arcade
