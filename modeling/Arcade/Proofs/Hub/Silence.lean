import Arcade.Proofs.Hub.Occurrence
import Arcade.Proofs.Ledger.Restart
import Arcade.Proofs.Listening.Transition

/-!
# Silence after closing

Closing a hub leaves it dormant: no recognizer is heeded, and whatever still waits in the queue was
made for an earlier generation of its slot, so that it is passed over when it goes off. Nothing that
happens to a dormant hub changes more of it than its clock, the timers that are gone from its queue
and whether the voice is taken to be speaking. In particular the host is not called.

This needs recognizers that do not tell their end in the call that stops them. One that does so
while the hub closes would leave a timer pending.
-/

namespace Arcade

open Act

/-- Whether recognizers tell their end only after the call that stops them. -/
def Conduct.EndsLater (c : Conduct) : Prop := ∀ n which, c.endsAtOnce n which = false

/-- Whether a session has dropped what it was about to do, and nobody listens any more. -/
structure Stance.CalledOff (st st' : Stance) : Prop where
  slot : st'.slot = st.cancelled.slot
  queue : st'.queue = st.cancelled.queue
  mode : st'.mode = .idle
  capturing : st'.capturing = false

namespace Scene

variable {δ : Type} {s : Scene δ}

theorem leads_abort (h : s.stance.conduct.EndsLater) (which : Recognizer) :
    Leads (abort which) s fun _ st => ∃ failed, st = s.stance.tried which .abort failed := by
  obtain ⟨failed, hst, -⟩ := callRecognizer_cases which .abort s
  refine ⟨(), _, outcome_forgive _ s, failed, ?_⟩
  unfold halt
  refine keeps_bind_of (P := fun t : Scene δ => t.stance = _) hst fun _ t ht => ?_
  rw [ht] at hst
  have hconduct : t.room.host.conduct = s.stance.conduct := congrArg Stance.conduct hst
  rw [outcome_bind, outcome_get]
  dsimp only
  rw [hconduct, h, if_neg Bool.false_ne_true]
  exact hst

/-- However closing ends, nobody listens and nothing of the session is pending. -/
theorem ends_close (h : s.stance.conduct.EndsLater) : Ends close s s.stance.CalledOff := by
  refine leads_cancelTimer.ends_bind fun _ t ht => ?_
  refine (leads_modify (P := fun _ st => st = { t.stance with capturing := false })
    rfl).ends_bind fun _ u hu => ?_
  rw [ht] at hu
  refine (leads_abort (by rw [hu]; exact h) .background).ends_bind fun _ v ⟨_, hv⟩ => ?_
  rw [hu] at hv
  refine (leads_abort (by rw [hv]; exact h) .foreground).ends_bind fun _ w ⟨_, hw⟩ => ?_
  rw [hv] at hw
  refine leads_stopSpeaking.ends_bind fun _ x hx => ?_
  rw [hw] at hx
  -- The host may fail when it is told the mode, but the mode is changed before.
  have hidle : s.stance.CalledOff ((setMode .idle).outcome x).2.stance := by
    rw [stance_setMode, hx]
    exact ⟨rfl, rfl, rfl, rfl⟩
  refine keeps_bind_of (P := fun y : Scene δ => s.stance.CalledOff y.stance) hidle fun _ y hy => ?_
  rw [hy] at hidle
  exact ⟨hidle.slot, hidle.queue, hidle.mode, hidle.capturing⟩

end Scene

namespace Hub

variable {h : Hub}

/-! ## Dormant hubs -/

/-- Whether no recognizer is heeded and no timer that waits is of the present generation of its
slot. -/
structure Dormant (h : Hub) : Prop where
  mode : h.session.mode = .idle
  capturing : h.session.capturing = false
  listening : ∀ t ∈ h.room.queue.waiting, t.task.generation? ≠ some h.session.slot.generation
  replies : ∀ t ∈ h.room.queue.waiting,
    t.task.replyGeneration? ≠ some h.room.rest.slot.generation

/-- Whether all of a hub is as it was but for its queue, from which timers may be gone, and for
whether the voice is taken to be speaking. -/
def Unstirred (h h' : Hub) : Prop :=
  ∃ (queue : TimerQueue Task) (speaking : Bool),
    queue.waiting.Sublist h.room.queue.waiting ∧
    h' = { h with room := { h.room with
      queue := queue
      voice := { h.room.voice with speaking := speaking } } }

theorem Unstirred.refl (h : Hub) : Unstirred h h :=
  ⟨h.room.queue, h.room.voice.speaking, List.Sublist.refl _, rfl⟩

theorem Unstirred.trans {h h' h'' : Hub} (hs : Unstirred h h') (hs' : Unstirred h' h'') :
    Unstirred h h'' := by
  obtain ⟨_, _, hq, rfl⟩ := hs
  obtain ⟨q, speaking, hq', rfl⟩ := hs'
  exact ⟨q, speaking, hq'.trans hq, rfl⟩

namespace Dormant

theorem unstirred (hd : h.Dormant) {h' : Hub} (hs : Unstirred h h') : h'.Dormant := by
  obtain ⟨q, _, hq, rfl⟩ := hs
  exact ⟨hd.mode, hd.capturing, fun t ht => hd.listening t (hq.subset ht),
    fun t ht => hd.replies t (hq.subset ht)⟩

/-- A timer that goes off in a dormant hub is passed over. -/
theorem outcome_goOff (hd : h.Dormant) {t : Timer Task} (ht : t ∈ h.room.queue.waiting)
    (time : Float) :
    (Scene.goOff Desk.goOff t.task).outcome
        { h with room := { h.room with queue := h.room.queue.expired t.id time } } =
      (.ok (), { h with room := { h.room with queue := h.room.queue.expired t.id time } }) := by
  have hlistening := hd.listening t ht
  have hreplies := hd.replies t ht
  rw [Hub.outcome_goOff]
  unfold Scene.expiring replying
  rw [if_neg hlistening, if_neg hreplies]
  cases htask : t.task with
  | listening generation task =>
    rw [htask] at hlistening
    exact if_neg fun hg => hlistening (congrArg some hg.symm)
  | reply generation task =>
    rw [htask] at hreplies
    exact if_neg fun hg => hreplies (congrArg some hg.symm)

theorem unstirred_expired (h : Hub) (id : Nat) (time : Float) :
    Unstirred h { h with room := { h.room with queue := h.room.queue.expired id time } } :=
  ⟨h.room.queue.expired id time, h.room.voice.speaking, List.filter_sublist, rfl⟩

theorem unstirred_setClock (h : Hub) (time : Float) :
    Unstirred h { h with room := { h.room with queue := { h.room.queue with time := time } } } :=
  ⟨{ h.room.queue with time := time }, h.room.voice.speaking, List.Sublist.refl _, rfl⟩

theorem expire (hd : h.Dormant) (id : Nat) (time : Float) :
    ∃ h', (Hub.expire id time).outcome h = (.ok (), h') ∧ Unstirred h h' := by
  unfold Hub.expire
  rw [outcome_bind, outcome_get]
  dsimp only
  cases ht : h.room.queue.waiting.find? (·.id = id) with
  | none => exact ⟨h, rfl, .refl h⟩
  | some t =>
    obtain ⟨hmem, rfl⟩ := TimerQueue.mem_of_find? ht
    exact ⟨_, hd.outcome_goOff hmem time, unstirred_expired h t.id time⟩

theorem advanceTo (hd : h.Dormant) (target : Float) (fuel : Nat) :
    ∃ h', (TimerQueue.advanceTo (fun h : Hub => h.room.queue)
      (fun h q => { h with room := { h.room with queue := q } }) (Scene.goOff Desk.goOff) target
      fuel).outcome h = (.ok (), h') ∧ Unstirred h h' := by
  induction fuel generalizing h with
  | zero => exact ⟨_, rfl, unstirred_setClock h target⟩
  | succ fuel ih =>
    unfold TimerQueue.advanceTo
    rw [outcome_bind, outcome_get]
    dsimp only
    cases hnext : h.room.queue.next? target with
    | none => exact ⟨_, rfl, unstirred_setClock h target⟩
    | some next =>
      obtain ⟨t, q⟩ := next
      obtain ⟨hmem, hq⟩ := TimerQueue.mem_of_next? hnext
      dsimp only at hmem hq
      subst hq
      have hgone := unstirred_expired h t.id t.deadline
      obtain ⟨h', hout, hs⟩ := ih (hd.unstirred hgone)
      refine ⟨h', ?_, hgone.trans hs⟩
      dsimp only
      rw [outcome_bind, outcome_modify]
      exact (outcome_bind_of_ok (hd.outcome_goOff hmem t.deadline)).trans hout

/-- Nothing that happens stirs a dormant hub. -/
theorem incident (hd : h.Dormant) (i : Incident) (now : Instant) :
    ∃ h', (i.act now).outcome h = (.ok (), h') ∧ Unstirred h h' := by
  have hmode : ¬h.session.mode = .background := by
    rw [hd.mode]
    decide
  have hcapturing : ¬h.session.capturing = true := by
    rw [hd.capturing]
    exact Bool.false_ne_true
  cases i with
  | report which report =>
    refine ⟨h, ?_, .refl h⟩
    cases which <;> cases report
    case background.heard | background.failed | background.ended =>
      exact Scene.outcome_get_ite hmode
    case foreground.heard | foreground.failed | foreground.ended =>
      exact Scene.outcome_get_ite hcapturing
  | speech speaking => exact ⟨_, rfl, h.room.queue, speaking, List.Sublist.refl _, rfl⟩
  | timer id time => exact hd.expire id time
  | elapse seconds =>
    change ∃ h', (Hub.advance seconds).outcome h = _ ∧ _
    unfold Hub.advance Scene.advance
    rw [outcome_bind, outcome_get]
    exact hd.advanceTo _ _

end Dormant

/-- The hub after some incidents, each at its instant. -/
def befall (h : Hub) (incidents : List (Incident × Instant)) : Hub :=
  incidents.foldl (fun h x => ((x.1.act x.2).outcome h).2) h

theorem Dormant.befall (hd : h.Dormant) (incidents : List (Incident × Instant)) :
    Unstirred h (h.befall incidents) := by
  induction incidents generalizing h with
  | nil => exact .refl h
  | cons x incidents ih =>
    obtain ⟨h', hout, hs⟩ := hd.incident x.1 x.2
    change Unstirred h (((x.1.act x.2).outcome h).2.befall incidents)
    rw [hout]
    exact hs.trans (ih (hd.unstirred hs))

/-! ## Closing -/

/-- Closing drops the replies that are delayed and closes the session. -/
theorem outcome_close (delays : h.room.rest.delays = true) :
    Hub.close.outcome h = Scene.close.outcome { h with room := Desk.dropped h.room } := by
  unfold Hub.close
  refine outcome_bind_of_ok (x := ()) ?_
  unfold Scene.inRoom
  rw [outcome_within, Desk.outcome_cancelPending delays]

theorem Watched.dropped (hh : h.Watched) :
    Hub.Watched { h with room := Desk.dropped h.room } := by
  have hkept : Desk.Watched h.session.slot (Desk.cancelPending.outcome h.room).2 :=
    Desk.watched_cancelPending h.room hh
  rwa [Desk.outcome_cancelPending hh.delays] at hkept

/-- What closing leaves of a hub that knows of its timers. -/
theorem Watched.close (hh : h.Watched) (later : h.room.host.conduct.EndsLater) :
    Dormant (Hub.close.outcome h).2 ∧
      (Hub.close.outcome h).2.session.slot.isPending = false ∧
      (Hub.close.outcome h).2.room.rest.slot.isPending = false ∧
      (h.room.queue.stubborn = false → (Hub.close.outcome h).2.room.queue.waiting = []) := by
  let dropped : Hub := { h with room := Desk.dropped h.room }
  have hwatched : dropped.Watched := hh.dropped
  have hended : (Scene.stance dropped).CalledOff (Scene.close.outcome dropped).2.stance :=
    Scene.ends_close later
  have hrest : (Scene.close.outcome dropped).2.room.rest = dropped.room.rest :=
    (Scene.tended_rest dropped.room.rest).keeps_close dropped rfl
  rw [outcome_close hh.delays]
  -- The desk's slot was cancelled first and the session's after it, on what was left of the queue.
  generalize (Scene.close.outcome dropped).2 = closed at hended hrest ⊢
  have hslot : closed.session.slot = (h.session.slot.cancel dropped.room.queue).1 := hended.slot
  have hqueue : closed.room.queue = (h.session.slot.cancel dropped.room.queue).2 := hended.queue
  have hstale : ∀ t ∈ closed.room.queue.waiting, t ∈ dropped.room.queue.waiting := by
    rw [hqueue]
    exact fun t ht => (Slot.waiting_cancel_sublist _ _).subset ht
  refine ⟨⟨hended.mode, hended.capturing, ?_, ?_⟩, ?_, ?_, ?_⟩
  · rw [hslot, hqueue]
    exact fun t ht => hwatched.listening.stale_of_cancel ht
  · rw [hrest]
    exact fun t ht => hh.replies.stale_of_cancel (hstale t ht)
  · rw [hslot]
    rfl
  · rw [hrest]
    rfl
  · intro hq
    refine List.eq_nil_iff_forall_not_mem.mpr fun t ht => ?_
    have hreplies := hh.replies.foreign_of_cancel hq (hstale t ht)
    have hstubborn : dropped.room.queue.stubborn = false :=
      (Slot.cancel_stubborn _ _).trans hq
    rw [hqueue] at ht
    have hlistening := hwatched.listening.foreign_of_cancel hstubborn ht
    cases htask : t.task with
    | listening generation task =>
      rw [htask] at hlistening
      cases hlistening
    | reply generation task =>
      rw [htask] at hreplies
      cases hreplies

/-- Let a hub that was used and befallen in any way be closed, with recognizers that tell their end
only after the call that stops them. Then it listens for nothing and neither of its slots has
anything pending; a queue that takes cancellations is empty. Whatever happens to it after that,
while nobody uses it, leaves everything as it is but the clock, timers that went off, and whether
the voice is taken to be speaking: the mode, the chat, the last reply and what is pending stay, and
the host is not called, for no screen, theme, recognizer or speech. -/
theorem silent_after_close (reachable : h.Reachable) (later : h.room.host.conduct.EndsLater)
    {closed : Hub} (hclose : (Hub.close.outcome h).2 = closed) :
    closed.session.mode = .idle ∧ closed.session.slot.isPending = false ∧
      closed.room.rest.slot.isPending = false ∧
      (h.room.queue.stubborn = false → closed.room.queue.waiting = []) ∧
      ∀ incidents : List (Incident × Instant), Unstirred closed (closed.befall incidents) := by
  subst hclose
  obtain ⟨hd, hlistening, hreplies, hwaiting⟩ := reachable.watched.close later
  exact ⟨hd.mode, hlistening, hreplies, hwaiting, hd.befall⟩

/-- A host with both recognizers and a synthesizer, which can close its panel. Its recognizers tell
their end at once. -/
def visitor : Host where
  equipment := { background := true, foreground := true, synthesizer := true, onClose := true }
  conduct := { endsAtOnce := fun _ _ => true }

/-- A hub on a stubborn queue, whose player lets it listen. -/
def visited (h : Hub) : Hub :=
  { h with room := { h.room with queue := { h.room.queue with stubborn := true } } }

/-- The hub once it listens in the background, is about to show another screen and has a host whose
recognizers do not tell their end at once any more. -/
def bustling (h : Hub) : Hub :=
  let h := ((Use.listen.act Shelf.noon).outcome h.visited).2
  let h := (((Use.request ⟨.navigate, .str "dashboard", .str "Here you are."⟩).act
    Shelf.noon).outcome h).2
  (((Use.elsewhere {} h.room.storage h.room.preferences h.session.permission h.room.rest.chat
    h.room.rest.ledger).act Shelf.noon).outcome h).2

/-- A new hub of the visitor. -/
def welcome : Except Fault Hub :=
  Hub.opened ⟨.obj []⟩ visitor
    { entries := Dict.ofList [(.str "micPermissionStatus", .str "granted")] }
    Preferences.standard Shelf.noon

/-- The visitor is welcome, and what is decided of the new hub holds of it. -/
theorem exists_welcome {p : Hub → Bool} (decided : welcome.toOption.any p = true) :
    ∃ h, welcome = .ok h ∧ p h = true := by
  cases hw : welcome with
  | error e =>
    rw [hw] at decided
    cases decided
  | ok h =>
    rw [hw] at decided
    exact ⟨h, rfl, decided⟩

theorem reachable_bustling (opens : welcome = .ok h) : h.bustling.Reachable :=
  (((Reachable.opened opens true).used .listen Shelf.noon).used _ Shelf.noon).used _ Shelf.noon

/-- A hub that listens and is about to show another screen, with a queue that cancels nothing. -/
theorem silent_bustling : ∃ h : Hub, h.Reachable ∧ h.room.host.conduct.EndsLater ∧
    h.session.mode = .background ∧ h.room.rest.slot.isPending = true ∧
    (Hub.close.outcome h).2.room.queue.waiting.length = 1 ∧
    (Hub.close.outcome h).2.session.mode = .idle ∧
    ∀ incidents : List (Incident × Instant),
      Unstirred (Hub.close.outcome h).2 ((Hub.close.outcome h).2.befall incidents) := by
  have hspec : (welcome.toOption.any fun h => h.bustling.session.mode = .background ∧
      h.bustling.room.rest.slot.isPending = true ∧
      (Hub.close.outcome h.bustling).2.room.queue.waiting.length = 1) = true := by
    decide
  cases hw : welcome with
  | error e =>
    rw [hw] at hspec
    cases hspec
  | ok h =>
    rw [hw] at hspec
    obtain ⟨hmode, hpending, hwaits⟩ := of_decide_eq_true hspec
    obtain ⟨hidle, -, -, -, hunstirred⟩ :=
      silent_after_close (reachable_bustling hw) (fun _ _ => rfl) rfl
    exact ⟨h.bustling, reachable_bustling hw, fun _ _ => rfl, hmode, hpending, hwaits, hidle,
      hunstirred⟩

end Hub

end Arcade
