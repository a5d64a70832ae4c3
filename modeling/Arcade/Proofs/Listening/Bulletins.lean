import Arcade.Proofs.Listening.Closing
import Mathlib.Data.List.Chain

/-!
# The status is never stale

What the player is shown next to the microphone follows from what recognizers there are, what the
player answered, what is listened for and how often the background recognizer failed. Acts change
these one after another and bring the status up to date when they are done, so that in between it
may lag behind. A scene is candid if the host was told of every change of the status, also of those
in between, and current if besides the status is what it should be.

Most steps of acts leave alone what the status depends on (`Attentive`). Of the others, a change of
the mode and bringing the status up to date make a candid scene current.
-/

namespace Arcade

/-- The status that a call tells the host. -/
def HostCall.bulletin? : HostCall → Option Status
  | .statusChanged status => some status
  | _ => none

/-- The statuses that a host was told. -/
def Host.bulletins (h : Host) : List Status := h.calls.filterMap fun c => c.1.bulletin?

theorem Host.bulletins_called (h : Host) (c : HostCall) :
    (h.called c).bulletins = h.bulletins ++ c.bulletin?.toList := by
  unfold bulletins called
  rw [List.filterMap_append]
  cases hc : c.bulletin? <;> simp [hc]

/-- The status that goes with a stance. -/
def Stance.status (st : Stance) : Status :=
  if !st.isSupported then .unsupported
  else if st.answer = some .denied then .permissionDenied
  else if st.answer = none then .permissionRequired
  else if st.mode ≠ .idle then .listening
  else if st.needsRestart then .manualRestartRequired
  else .ready

namespace Scene

open Act

variable {δ α : Type} {s t : Scene δ} {r₀ : Room δ} {past : List Status}

theorem stance_status (s : Scene δ) : s.stance.status = s.statusIn s.session.mode := by
  unfold Stance.status statusIn statusWith
  show (if !s.isSupported then _ else _) = _
  cases s.isSupported with
  | false => rfl
  | true =>
    cases s.stance.answer with
    | none => rfl
    | some a => cases a <;> rfl

/-! ## Candid and current scenes -/

/-- Whether the host was told of every change of the status since it was given a room, and the
statuses so far go on from those of the past. -/
structure Candid (r₀ : Room δ) (past : List Status) (s : Scene δ) : Prop where
  calm : s.stance.conduct.Calm
  texts : s.KeepsTexts
  equipment : s.equipment = r₀.host.equipment
  bulletins : s.room.host.bulletins = r₀.host.bulletins ++
    if r₀.host.equipment.onStatusChange then s.session.statuses else []
  changes : s.session.statuses.IsChain (· ≠ ·)
  onward : past <+: s.session.statuses

/-- Whether besides the status is what it should be. -/
structure Current (r₀ : Room δ) (past : List Status) (s : Scene δ) : Prop
    extends Candid r₀ past s where
  status : s.session.status = some s.stance.status

/-- Whether an act on the room has nothing to do with the status. -/
def Aside (r t : Room δ) : Prop :=
  t.host.equipment = r.host.equipment ∧ t.host.conduct = r.host.conduct ∧
    t.storage = r.storage ∧ t.host.bulletins = r.host.bulletins

theorem aside_call {c : HostCall} (hc : c.bulletin? = none) (r : Room δ) :
    Keeps (Aside r) (Room.call c) := by
  intro t ht
  unfold Room.call Room.onHost
  rw [outcome_within, Host.outcome_call]
  refine ⟨ht.1, ht.2.1, ht.2.2.1, ?_⟩
  show (t.host.called c).bulletins = _
  rw [Host.bulletins_called, hc, Option.toList_none, List.append_nil, ht.2.2.2]

theorem aside_callIf {c : HostCall} (hc : c.bulletin? = none) (wanted : Equipment → Bool)
    (r : Room δ) : Keeps (Aside r) (Room.callIf wanted c) :=
  keeps_get.bind fun _ => (aside_call hc r).ite (keeps_pure _)

theorem aside_setSpeaking (b : Bool) (r : Room δ) : Keeps (Aside r) (Room.setSpeaking b) :=
  keeps_modify fun _ h => h

theorem aside_speak (text : Json) (r : Room δ) : Keeps (Aside r) (Room.speak text) :=
  Room.keeps_speak (aside_call rfl r) (fun _ _ _ _ => aside_call rfl r)
    (fun _ => aside_setSpeaking _ r) text

theorem aside_stopSpeaking (r : Room δ) : Keeps (Aside r) Room.stopSpeaking :=
  Room.keeps_stopSpeaking (aside_call rfl r) fun _ => aside_setSpeaking _ r

theorem aside_respond (text : Json) (r : Room δ) :
    Keeps (Aside r) (Wiring.toHost.respond text) :=
  keeps_get.bind fun _ => (aside_call rfl r).ite (aside_speak text r).discard

/-! ## What most steps leave alone -/

/-- A property of scenes that depends only on the status and on what it follows from. -/
structure Attentive (P : Scene δ → Prop) : Prop where
  session : ∀ {s : Scene δ} {x : Session}, x.pace = s.session.pace →
    x.permission = s.session.permission → x.mode = s.session.mode →
    x.statuses = s.session.statuses → x.errors = s.session.errors → P s → P { s with session := x }
  room : ∀ {s : Scene δ} {r : Room δ}, Aside s.room r → P s → P { s with room := r }
  answer : ∀ {s : Scene δ}, P s → P s.lookedUp
  setMode : ∀ mode, Keeps P (setMode (δ := δ) mode)

namespace Attentive

variable {P : Scene δ → Prop} (hP : Attentive P)

include hP

theorem keeps_change {f : Session → Session} (hf : ∀ x, (f x).pace = x.pace ∧
    (f x).permission = x.permission ∧ (f x).mode = x.mode ∧ (f x).statuses = x.statuses ∧
    (f x).errors = x.errors) :
    Keeps P (change f) := fun s hs =>
  have h := hf s.session
  hP.session h.1 h.2.1 h.2.2.1 h.2.2.2.1 h.2.2.2.2 hs

theorem keeps_inRoom {a : Act (Room δ) α} (ha : ∀ r, Keeps (Aside r) a) : Keeps P (inRoom a) :=
  fun s hs => hP.room (ha s.room s.room ⟨rfl, rfl, rfl, rfl⟩) hs

/-- The slot and the timers are of no account. -/
theorem retimed {s : Scene δ} (slot : Slot) (queue : TimerQueue Task) (h : P s) :
    P { s with
      session := { s.session with slot := slot }
      room := { s.room with queue := queue } } :=
  hP.room (s := { s with session := { s.session with slot := slot } }) ⟨rfl, rfl, rfl, rfl⟩
    (hP.session rfl rfl rfl rfl rfl h)

theorem keeps_schedule (delay : Float) (task : ListeningTask) :
    Keeps P (Scene.schedule delay task) := fun _ hs => hP.retimed _ _ hs

theorem keeps_cancelTimer : Keeps P Scene.cancelTimer := fun _ hs => hP.retimed _ _ hs

theorem keeps_isGranted : Keeps P isGranted :=
  Keeps.bind (fun _ hs => hP.answer hs) fun _ => keeps_pure _

theorem keeps_scheduleResume (delay : Float) : Keeps P (scheduleResume delay) :=
  keeps_get.bind fun _ => (hP.keeps_schedule delay .resume).ite (keeps_pure _)

theorem keeps_finishCapture : Keeps P finishCapture :=
  (hP.keeps_change (by simp)).bind fun _ =>
    (hP.setMode _).bind fun _ => keeps_get.bind fun _ => hP.keeps_scheduleResume _

theorem keeps_ended (which : Recognizer) : Keeps P (ended which) := by
  cases which with
  | background =>
    refine keeps_get.bind fun _ => Keeps.ite ?_ (keeps_pure _)
    exact hP.keeps_isGranted.bind fun _ => keeps_get.bind fun _ => (hP.setMode _).bind fun _ =>
      (keeps_get.bind fun _ => hP.keeps_schedule _ _).ite (keeps_pure _)
  | foreground => exact keeps_get.bind fun _ => hP.keeps_finishCapture.ite (keeps_pure _)

theorem keeps_callRecognizer (which : Recognizer) (c : RecognizerCall) :
    Keeps P (callRecognizer which c) := by
  refine keeps_get.bind fun _ => Keeps.ite ?_ ((keeps_throw _).bind fun _ => ?_)
  all_goals exact hP.keeps_inRoom fun r => aside_call rfl r

theorem keeps_halt (which : Recognizer) (c : RecognizerCall) : Keeps P (halt which c).forgive :=
  ((hP.keeps_callRecognizer which c).bind fun _ => keeps_get.bind fun _ =>
    (hP.keeps_ended which).ite (keeps_pure _)).forgive

theorem keeps_dropCapture : Keeps P dropCapture :=
  (hP.keeps_change (by simp)).bind fun _ => hP.keeps_halt .foreground .abort

theorem keeps_startForeground (mode : Mode) : Keeps P (startForeground mode) := by
  have hbegin : Keeps P (do
      change fun s => { s with capturing := true }
      unless ← (callRecognizer .foreground .start).succeeds do finishCapture) :=
    (hP.keeps_change (by simp)).bind fun _ =>
      (hP.keeps_callRecognizer _ _).succeeds.bind fun _ =>
        (keeps_pure _).ite hP.keeps_finishCapture
  exact hP.keeps_cancelTimer.bind fun _ => keeps_get.bind fun _ => (hP.setMode _).bind
    fun _ => ((hP.keeps_halt _ _).bind fun _ => hbegin).ite hbegin

theorem keeps_askPlayer : Keeps P askPlayer := by
  refine keeps_get.bind fun _ => ?_
  split
  · exact keeps_pure _
  · exact (hP.keeps_inRoom fun r => aside_call rfl r).succeeds.bind fun _ => keeps_pure _

theorem keeps_awaitCommand : Keeps P (awaitCommand Wiring.toHost) := by
  have hschedule : Keeps P (do
      Scene.schedule (← get).session.pace.promptDelay .capture) :=
    keeps_get.bind fun _ => hP.keeps_schedule _ _
  refine keeps_get.bind fun _ => (hP.keeps_inRoom fun r => aside_respond _ r).bind fun _ =>
    keeps_get.bind fun _ => Keeps.ite (hP.keeps_isGranted.bind fun _ => Keeps.ite ?_
      (keeps_pure _)) (keeps_pure _)
  exact keeps_get.bind fun _ => (hP.setMode _).bind fun _ =>
    ((hP.keeps_halt _ _).bind fun _ => hschedule).ite
      (keeps_get.bind fun _ => (hP.keeps_dropCapture.bind fun _ => hschedule).ite hschedule)

theorem keeps_close : Keeps P close :=
  hP.keeps_cancelTimer.bind fun _ => (hP.keeps_change (by simp)).bind fun _ =>
    (hP.keeps_halt _ _).bind fun _ => (hP.keeps_halt _ _).bind fun _ =>
      (hP.keeps_inRoom aside_stopSpeaking).bind fun _ =>
        (hP.setMode _).bind fun _ => hP.keeps_change (by simp)

end Attentive

/-! ## Bringing the status up to date -/

theorem Candid.session (h : Candid r₀ past s) {x : Session}
    (hperm : x.permission = s.session.permission) (hstatuses : x.statuses = s.session.statuses) :
    Candid r₀ past { s with session := x } where
  calm := h.calm
  texts := by
    unfold KeepsTexts
    rw [hperm]
    exact h.texts
  equipment := h.equipment
  bulletins := by
    rw [hstatuses]
    exact h.bulletins
  changes := by
    rw [hstatuses]
    exact h.changes
  onward := by
    rw [hstatuses]
    exact h.onward

theorem Candid.room (h : Candid r₀ past s) {r : Room δ} (hr : Aside s.room r) :
    Candid r₀ past { s with room := r } where
  calm := by
    show r.host.conduct.Calm
    rw [hr.2.1]
    exact h.calm
  texts := by
    unfold KeepsTexts
    rw [hr.2.2.1]
    exact h.texts
  equipment := hr.1.trans h.equipment
  bulletins := hr.2.2.2.trans h.bulletins
  changes := h.changes
  onward := h.onward

theorem Candid.lookedUp (h : Candid r₀ past s) : Candid r₀ past s.lookedUp :=
  ⟨h.calm, tended_keepsTexts.answer h.texts, h.equipment, h.bulletins, h.changes, h.onward⟩

/-- Telling a calm host something else than the status, if it wants to be told. -/
theorem Candid.told (h : Candid r₀ past s) (wanted : Equipment → Bool) {c : HostCall}
    (hc : c.bulletin? = none) : Candid r₀ past ((inRoom (Room.callIf wanted c)).outcome s).2 :=
  h.room (aside_callIf hc wanted s.room s.room ⟨rfl, rfl, rfl, rfl⟩)

/-- A status that is news is told. -/
theorem Candid.announced (h : Candid r₀ past s) {status : Status}
    (hnews : s.session.status ≠ some status) :
    let t : Scene δ := { s with session := { s.session with
      statuses := s.session.statuses ++ [status] } }
    Candid r₀ past
      ((inRoom (Room.callIf Equipment.onStatusChange (.statusChanged status))).outcome t).2 ∧
    ((inRoom (Room.callIf Equipment.onStatusChange (.statusChanged status))).outcome t).2.session =
      t.session := by
  intro t
  have hchanges : t.session.statuses.IsChain (· ≠ ·) := by
    refine List.isChain_append.mpr ⟨h.changes, List.isChain_singleton _, ?_⟩
    rintro x hx y hy rfl
    obtain rfl : status = x := by simpa using hy
    exact hnews (Option.mem_def.mp hx)
  have honward : past <+: t.session.statuses := h.onward.trans (List.prefix_append _ _)
  have hbulletins := h.bulletins
  rw [outcome_tell]
  cases hwanted : t.equipment.onStatusChange with
  | false =>
    rw [← h.equipment, show s.equipment.onStatusChange = false from hwanted] at hbulletins
    refine ⟨⟨h.calm, h.texts, h.equipment, ?_, hchanges, honward⟩, rfl⟩
    rw [← h.equipment, show s.equipment.onStatusChange = false from hwanted]
    exact hbulletins
  | true =>
    rw [← h.equipment, show s.equipment.onStatusChange = true from hwanted, if_pos rfl]
      at hbulletins
    refine ⟨⟨h.calm, h.texts, h.equipment, ?_, hchanges, honward⟩, rfl⟩
    show (s.room.host.called (.statusChanged status)).bulletins = _
    rw [Host.bulletins_called, hbulletins, ← h.equipment,
      show s.equipment.onStatusChange = true from hwanted, List.append_assoc]
    rfl

/-- Bringing the status up to date makes a candid scene current. -/
theorem Candid.refreshed (h : Candid r₀ past s) : Current r₀ past (refreshStatus.outcome s).2 := by
  have hfound : ∃ v : Scene δ, dueStatus.outcome s = (.ok s.stance.status, v) ∧
      v.stance = s.stance ∧ Candid r₀ past v := by
    refine ⟨_, by rw [outcome_dueStatus, ← stance_status], ?_⟩
    split
    · exact ⟨stance_lookedUp s, h.lookedUp⟩
    · exact ⟨rfl, h⟩
  obtain ⟨v, hdue, hv, hcandid⟩ := hfound
  have hstance : (refreshStatus.outcome s).2.stance = s.stance := quiet_refreshStatus.stance_eq s
  revert hstance
  unfold refreshStatus
  rw [outcome_bind_of_ok hdue, outcome_bind, outcome_get]
  dsimp only
  split
  · rename_i hnews
    rw [outcome_bind_of_ok (outcome_change _ _)]
    intro hstance
    obtain ⟨htold, hsession⟩ := hcandid.announced hnews
    refine ⟨htold, ?_⟩
    rw [hstance, hsession]
    exact List.getLast?_concat
  · rename_i hold
    intro hstance
    refine ⟨hcandid, ?_⟩
    rw [hstance]
    exact Decidable.not_not.mp hold

/-- A change of the mode makes a candid scene current. -/
theorem Candid.changed (h : Candid r₀ past s) {mode : Mode} (hm : s.session.mode ≠ mode) :
    Current r₀ past ((setMode mode).outcome s).2 := by
  let v : Scene δ := { s with session := { s.session with mode := mode } }
  have hv : Candid r₀ past v := h.session rfl rfl
  have hok : ((inRoom (Room.callIf Equipment.onModeChange
      (.modeChanged s.session.mode mode))).outcome v).1 = .ok () :=
    (tell_ok_iff _ _ v).mpr fun _ => h.calm.1 _ _ _
  have htold : Candid r₀ past ((inRoom (Room.callIf Equipment.onModeChange
      (.modeChanged s.session.mode mode))).outcome v).2 := hv.told _ rfl
  unfold setMode
  rw [outcome_bind, outcome_get]
  dsimp only
  rw [if_pos hm, outcome_bind_of_ok (outcome_change _ _),
    outcome_bind_of_ok (Prod.ext hok rfl)]
  exact htold.refreshed

theorem keeps_current_refreshStatus : Keeps (Current r₀ past) (refreshStatus (δ := δ)) :=
  fun _ hs => hs.refreshed

theorem attentive_candid : Attentive (Candid (δ := δ) r₀ past) where
  session _ hperm _ hstatuses _ h := h.session hperm hstatuses
  room hr h := h.room hr
  answer h := h.lookedUp
  setMode mode s h := by
    by_cases hm : s.session.mode = mode
    · rw [outcome_setMode_of_eq hm]
      exact h
    · exact (h.changed hm).toCandid

theorem attentive_current : Attentive (Current (δ := δ) r₀ past) where
  session {s x} hpace hperm hmode hstatuses herrors h := by
    refine ⟨h.toCandid.session hperm hstatuses, ?_⟩
    have hstatus := h.status
    unfold Session.status Stance.status Stance.isSupported Stance.needsRestart stance at hstatus ⊢
    rw [hpace, hperm, hmode, hstatuses, herrors]
    exact hstatus
  room {s r} hr h := by
    refine ⟨h.toCandid.room hr, ?_⟩
    have hstatus := h.status
    unfold Stance.status Stance.isSupported Stance.needsRestart stance at hstatus ⊢
    rw [hr.1, hr.2.2.1]
    exact hstatus
  answer {s} h := by
    refine ⟨h.toCandid.lookedUp, ?_⟩
    rw [stance_lookedUp]
    exact h.status
  setMode mode s h := by
    by_cases hm : s.session.mode = mode
    · rw [outcome_setMode_of_eq hm]
      exact h
    · exact h.toCandid.changed hm

/-! ## Acts that lag behind -/

/-- The scene with other errors. -/
def withErrors (s : Scene δ) (n : Nat) : Scene δ :=
  { s with session := { s.session with errors := n } }

theorem Candid.withErrors (h : Candid r₀ past s) (n : Nat) : Candid r₀ past (s.withErrors n) :=
  h.session rfl rfl

/-- Errors do not show while something is listened for. -/
theorem Current.withErrors (h : Current r₀ past s) (hm : s.session.mode ≠ .idle) (n : Nat) :
    Current r₀ past (s.withErrors n) := by
  refine ⟨h.toCandid.withErrors n, ?_⟩
  have hstatus : (s.withErrors n).stance.status = s.stance.status := by
    have hm' : (s.withErrors n).stance.mode ≠ .idle := hm
    have hm'' : s.stance.mode ≠ .idle := hm
    unfold Stance.status
    rw [if_pos hm', if_pos hm'']
    rfl
  rw [hstatus]
  exact h.status

/-- Errors do not show as long as there are not too many. -/
theorem Current.withMoreErrors (h : Current r₀ past s) {n : Nat} (hn : s.session.errors ≤ n)
    (hfew : (s.withErrors n).stance.needsRestart = false) : Current r₀ past (s.withErrors n) := by
  refine ⟨h.toCandid.withErrors n, ?_⟩
  have hfewer : s.stance.needsRestart = false := by
    refine decide_eq_false fun hle => of_decide_eq_false hfew (Int.le_trans hle ?_)
    exact Int.ofNat_le.mpr hn
  have hstatus : (s.withErrors n).stance.status = s.stance.status := by
    unfold Stance.status
    rw [hfew, hfewer]
    rfl
  rw [hstatus]
  exact h.status

/-- Only the last of too many errors shows at once, and for that the status is brought up to
date. -/
theorem keeps_current_backgroundFailed : Keeps (Current r₀ past) (backgroundFailed (δ := δ)) := by
  intro s hs
  let t := s.withErrors (s.session.errors + 1)
  have ht : Candid r₀ past t := hs.toCandid.withErrors _
  have hidle : Candid r₀ past ((setMode .idle).outcome t).2 ∧
      (((setMode .idle).outcome t).2.stance.needsRestart = false →
        Current r₀ past ((setMode .idle).outcome t).2) := by
    by_cases hm : t.session.mode = .idle
    · rw [outcome_setMode_of_eq (s := t) hm]
      exact ⟨ht, hs.withMoreErrors (Nat.le_succ _)⟩
    · exact ⟨(ht.changed hm).toCandid, fun _ => ht.changed hm⟩
  unfold backgroundFailed
  rw [outcome_bind_of_ok (outcome_change _ _)]
  show Current r₀ past (Act.outcome _ t).2
  rw [outcome_bind]
  obtain ⟨x, u, hset, -⟩ := leads_setMode (s := t) hs.calm .idle
  rw [hset] at hidle ⊢
  obtain ⟨hcandid, hcurrent⟩ := hidle
  dsimp only
  rw [outcome_bind, outcome_get]
  show Current r₀ past ((if u.stance.needsRestart then _ else _ : Act (Scene δ) Unit).outcome u).2
  split
  · rw [outcome_bind_of_ok (rfl : cancelTimer.outcome u = (.ok ⟨⟩, (cancelTimer.outcome u).2))]
    exact (attentive_candid.keeps_cancelTimer u hcandid).refreshed
  · rename_i hfew
    exact attentive_current.keeps_schedule _ _ u (hcurrent ((Bool.not_eq_true _).mp hfew))

/-- The status is brought up to date once an answer was given. -/
theorem keeps_candid_giveAnswer (a : Answer) : Keeps (Candid r₀ past) (giveAnswer (δ := δ) a) :=
  fun _ hs =>
  ⟨hs.calm, tended_keepsTexts.giveAnswer a hs.texts, hs.equipment, hs.bulletins, hs.changes,
    hs.onward⟩

theorem current_refreshStatus_bind {f : Unit → Act (Scene δ) α}
    (hf : ∀ x, Keeps (Current r₀ past) (f x)) (h : Candid r₀ past s) :
    Current r₀ past ((refreshStatus >>= f).outcome s).2 := by
  refine keeps_bind_of h.refreshed fun x t ht => hf x t ?_
  have hrefreshed := h.refreshed
  rwa [ht] at hrefreshed

/-- Whatever is changed by acts that succeed, the status is current once it was brought up to
date. -/
theorem Candid.bind {β : Type} {a : Act (Scene δ) α} {f : α → Act (Scene δ) β}
    (h : Candid r₀ past s) (ha : Keeps (Candid r₀ past) a) (hok : ∃ x, (a.outcome s).1 = .ok x)
    (hf : ∀ x t, Candid r₀ past t → Current r₀ past ((f x).outcome t).2) :
    Current r₀ past ((a >>= f).outcome s).2 := by
  obtain ⟨x, hx⟩ := hok
  rw [outcome_bind_of_ok (Prod.ext hx rfl : a.outcome s = (.ok x, (a.outcome s).2))]
  exact hf x _ (ha s h)

theorem keeps_current_permissionRevoked : Keeps (Current r₀ past) (permissionRevoked (δ := δ)) := by
  intro s hs
  refine hs.toCandid.bind attentive_candid.keeps_cancelTimer ⟨_, rfl⟩ fun _ t ht => ?_
  refine ht.bind (keeps_candid_giveAnswer _) ⟨_, outcome_giveAnswer ht.texts _⟩ fun _ u hu => ?_
  refine hu.bind (attentive_candid.setMode _) ?_ fun _ v hv => hv.refreshed
  obtain ⟨x, v, hset, -⟩ := leads_setMode (s := u) hu.calm .idle
  exact ⟨x, congrArg Prod.fst hset⟩

theorem keeps_current_startBackground : Keeps (Current r₀ past) (startBackground (δ := δ)) := by
  have hP : Attentive (Current (δ := δ) r₀ past) := attentive_current
  refine keeps_get.bind fun _ => Keeps.ite (hP.keeps_isGranted.bind fun _ => ?_) (keeps_pure _)
  refine keeps_get.bind fun _ => Keeps.ite ?_ (keeps_pure _)
  exact hP.keeps_cancelTimer.bind fun _ => (hP.setMode _).bind fun _ =>
    (hP.keeps_callRecognizer _ _).succeeds.bind fun _ =>
      (keeps_pure _).ite keeps_current_backgroundFailed

/-! ## Occasions -/

theorem keeps_current_start : Keeps (Current r₀ past) (start (δ := δ)) := by
  have hP : Attentive (Current (δ := δ) r₀ past) := attentive_current
  refine (hP.keeps_change (by simp)).bind fun _ => keeps_get.bind fun _ => ?_
  have hrefused : Keeps (Current r₀ past) (do refreshStatus (δ := δ); return false) :=
    keeps_current_refreshStatus.bind fun _ => keeps_pure _
  refine hrefused.ite (hP.keeps_isGranted.bind fun _ => hrefused.ite ?_)
  exact keeps_get.bind fun _ =>
    (keeps_current_startBackground.bind fun _ => keeps_pure _).ite (keeps_pure _)

theorem keeps_current_requestPermission :
    Keeps (Current r₀ past) (requestPermission (δ := δ)) := by
  have hgive (a : Answer) {f : Unit → Act (Scene δ) Bool}
      (hf : ∀ x, Keeps (Current r₀ past) (f x)) :
      Keeps (Current r₀ past) (giveAnswer a >>= fun _ => refreshStatus >>= f) := fun s hs =>
    hs.toCandid.bind (keeps_candid_giveAnswer a) ⟨_, outcome_giveAnswer hs.texts a⟩
      fun _ t ht => current_refreshStatus_bind hf ht
  refine attentive_current.keeps_askPlayer.bind fun _ => Keeps.ite ?_ ?_
  · exact hgive _ fun _ => keeps_current_start.discard.bind fun _ => keeps_pure _
  · exact hgive _ fun _ => keeps_pure _

theorem keeps_current_toggle : Keeps (Current r₀ past) (toggle (δ := δ)) := by
  have hP : Attentive (Current (δ := δ) r₀ past) := attentive_current
  refine hP.keeps_isGranted.bind fun _ => keeps_current_requestPermission.discard.ite ?_
  refine keeps_get.bind fun _ => keeps_current_refreshStatus.ite (keeps_get.bind fun _ => ?_)
  exact (hP.keeps_dropCapture.bind fun _ => (hP.setMode _).bind fun _ =>
    keeps_get.bind fun _ => hP.keeps_scheduleResume _).ite (hP.keeps_startForeground _)

/-- A restart forgets the errors, which shows only once the session is idle. -/
theorem keeps_current_restart : Keeps (Current r₀ past) (restart (δ := δ)) := by
  have hP : Attentive (Candid (δ := δ) r₀ past) := attentive_candid
  have hrest : ∀ t : Scene δ, Candid r₀ past t → Current r₀ past ((do
      abort .background
      setMode .idle
      refreshStatus
      Scene.schedule (← get).session.pace.manualRestart .resume
      return true : Act (Scene δ) Bool).outcome t).2 := fun t ht => by
    refine ht.bind (hP.keeps_halt _ _) ⟨_, rfl⟩ fun _ u hu => ?_
    obtain ⟨x, v, hset, -⟩ := leads_setMode (s := u) hu.calm .idle
    refine hu.bind (hP.setMode _) ⟨x, congrArg Prod.fst hset⟩ fun _ w hw => ?_
    exact current_refreshStatus_bind (fun _ => keeps_get.bind fun _ =>
      (attentive_current.keeps_schedule _ _).bind fun _ => keeps_pure _) hw
  have hdrop (t : Scene δ) : ∃ x, (dropCapture.outcome t).1 = .ok x := by
    obtain ⟨x, u, h, -⟩ := leads_dropCapture (s := t)
    exact ⟨x, congrArg Prod.fst h⟩
  refine attentive_current.keeps_isGranted.bind fun _ => (keeps_pure _).ite ?_
  refine keeps_get.bind fun _ => (keeps_pure _).ite fun s hs => ?_
  rw [outcome_bind_of_ok (outcome_change _ _)]
  refine (hs.toCandid.withErrors 0).bind hP.keeps_cancelTimer ⟨_, rfl⟩ fun _ t ht => ?_
  rw [outcome_bind, outcome_get]
  dsimp only
  split
  · exact ht.bind hP.keeps_dropCapture (hdrop t) fun _ u hu => hrest u hu
  · exact hrest t ht

theorem keeps_current_hear (which : Recognizer) (heard : Heard) :
    Keeps (Current r₀ past) (hear (δ := δ) Wiring.toHost which heard) := by
  have hP : Attentive (Current (δ := δ) r₀ past) := attentive_current
  have hintent (i : Intent) : Keeps (Current r₀ past) (inRoom (Wiring.toHost.intent i)) :=
    hP.keeps_inRoom fun r => aside_callIf rfl _ r
  cases which with
  | foreground =>
    exact keeps_get.bind fun _ =>
      (hP.keeps_finishCapture.bind fun _ => hintent heard.intent).ite (keeps_pure _)
  | background =>
    intro s hs
    show Current r₀ past ((heardInBackground Wiring.toHost heard).outcome s).2
    unfold heardInBackground
    rw [outcome_bind, outcome_get]
    dsimp only
    split
    · rename_i hm
      rw [outcome_bind_of_ok (outcome_change _ _)]
      have hlistening : s.session.mode ≠ .idle := by
        rw [hm]
        decide
      refine Keeps.bind (keeps_lift _) (fun command => ?_) _ (hs.withErrors hlistening 0)
      cases command with
      | none => exact keeps_pure _
      | some command =>
        refine hP.keeps_awaitCommand.ite ((hP.setMode _).bind fun _ => ?_)
        exact (hP.keeps_halt _ _).bind fun _ => (hintent _).bind fun _ =>
          keeps_get.bind fun _ => hP.keeps_scheduleResume _
    · exact hs

theorem keeps_current_failed (which : Recognizer) (code : String) :
    Keeps (Current r₀ past) (failed (δ := δ) which code) := by
  refine keeps_get.bind fun _ => ?_
  cases which with
  | background =>
    exact (keeps_current_permissionRevoked.ite keeps_current_backgroundFailed).ite (keeps_pure _)
  | foreground =>
    exact (keeps_current_permissionRevoked.ite attentive_current.keeps_finishCapture).ite
      (keeps_pure _)

theorem keeps_current_take (which : Recognizer) (report : Report) :
    Keeps (Current r₀ past) (take (δ := δ) which report) := by
  cases report with
  | ended => exact attentive_current.keeps_ended which
  | failed code => exact keeps_current_failed which code
  | heard heard => exact keeps_current_hear which heard

theorem keeps_current_perform (task : ListeningTask) :
    Keeps (Current r₀ past) (perform (δ := δ) task) := by
  cases task with
  | resume => exact keeps_get.bind fun _ => keeps_current_startBackground.ite (keeps_pure _)
  | capture =>
    exact keeps_get.bind fun _ => (attentive_current.keeps_startForeground _).ite (keeps_pure _)

theorem keeps_current_expire (id : Nat) (time : Float) :
    Keeps (Current r₀ past) (expire (δ := δ) id time) := by
  intro s hs
  cases ht : s.room.queue.waiting.find? (·.id = id) with
  | none =>
    unfold expire
    rw [outcome_bind, outcome_get]
    dsimp only
    rw [ht]
    exact hs
  | some t =>
    have hexpiring : Current r₀ past (s.expiring t time) := attentive_current.retimed _ _ hs
    rw [outcome_expire ht]
    split
    · split
      · exact keeps_current_perform _ _ hexpiring
      · exact hexpiring
    · exact hexpiring

/-- A current scene stays current, whatever happens. -/
theorem Current.after (h : Current r₀ past s) (o : Occasion) : Current r₀ past (s.after o) := by
  unfold Scene.after
  cases o with
  | start => exact keeps_current_start.discard s h
  | toggle => exact keeps_current_toggle s h
  | restart => exact keeps_current_restart.discard s h
  | awaitCommand => exact attentive_current.keeps_awaitCommand s h
  | requestPermission => exact keeps_current_requestPermission.discard s h
  | close => exact attentive_current.keeps_close s h
  | report which _ what => exact keeps_current_take which what s h
  | timer id time => exact keeps_current_expire id time s h
  | clock time => exact attentive_current.retimed s.session.slot _ h

end Scene

/-! ## Sessions that also speak -/

/-- What may happen to a session and its voice. -/
inductive Episode where
  | occasion (o : Occasion)
  /-- Something is to be said. -/
  | speak (text : Json)
  /-- Nothing more is to be said. -/
  | stopSpeaking
  /-- The synthesizer tells that it speaks, or that it does not any more. -/
  | speaking (b : Bool)

/-- What a session does about it. -/
def Episode.act {δ : Type} : Episode → Act (Scene δ) Unit
  | .occasion o => o.act
  | .speak text => discard (Scene.inRoom (Room.speak text))
  | .stopSpeaking => Scene.inRoom Room.stopSpeaking
  | .speaking b => Scene.inRoom (Room.setSpeaking b)

namespace Scene

open Act

variable {δ : Type} {s : Scene δ} {r₀ : Room δ} {past : List Status}

/-- The scene after all this, even if faults ended some of the acts. -/
def live (s : Scene δ) (ms : List Episode) : Scene δ :=
  ms.foldl (fun s m => (m.act.outcome s).2) s

theorem keeps_current_episode (m : Episode) : Keeps (Current (δ := δ) r₀ past) m.act := by
  have hP : Attentive (Current (δ := δ) r₀ past) := attentive_current
  cases m with
  | occasion o => exact fun s hs => hs.after o
  | speak text => exact (hP.keeps_inRoom (aside_speak text)).discard
  | stopSpeaking => exact hP.keeps_inRoom aside_stopSpeaking
  | speaking b => exact hP.keeps_inRoom (aside_setSpeaking b)

theorem Current.live (h : Current r₀ past s) (ms : List Episode) : Current r₀ past (s.live ms) := by
  induction ms generalizing s with
  | nil => exact h
  | cons m ms ih => exact ih (keeps_current_episode m s h)

/-- On a calm host and with answers that can be kept, a session can be opened, and from then on,
whatever happens to it and its voice, its status is the one that goes with its stance. The host was
told exactly of the statuses so far, of which no two in a row are equal and to which later ones are
only added. -/
theorem status_never_stale {pace : Pace} {permission : Permission} {room : Room δ}
    (calm : room.host.conduct.Calm)
    (texts : (⟨{ pace := pace, permission := permission }, room⟩ : Scene δ).KeepsTexts) :
    ∃ s, opened pace permission room = .ok s ∧ ∀ ms : List Episode,
      let t := s.live ms
      t.session.status = some t.stance.status ∧
      t.session.statuses.IsChain (· ≠ ·) ∧
      (∀ more, t.session.statuses <+: (t.live more).session.statuses) ∧
      t.room.host.bulletins = room.host.bulletins ++
        if room.host.equipment.onStatusChange then t.session.statuses else [] := by
  let unopened : Scene δ := ⟨{ pace := pace, permission := permission }, room⟩
  have hcandid : Candid room [] unopened :=
    ⟨calm, texts, rfl, by simp [unopened], List.isChain_nil, List.nil_prefix⟩
  obtain ⟨x, s, hrefresh, -⟩ := leads_refreshStatus (s := unopened) calm
  have hcurrent := hcandid.refreshed
  rw [hrefresh] at hcurrent
  refine ⟨s, ?_, fun ms => ?_⟩
  · unfold opened
    rw [hrefresh]
    rfl
  · have hlive := hcurrent.live ms
    have hfrom : Current room (s.live ms).session.statuses (s.live ms) :=
      { hlive with onward := List.prefix_rfl }
    exact ⟨hlive.status, hlive.changes, fun more => (hfrom.live more).onward, hlive.bulletins⟩

/-- A room whose host wants to be told of the status. -/
def watchful : Room Unit :=
  { welcomed.room with host := {
    equipment := { welcomed.room.host.equipment with onStatusChange := true } } }

/-- One error too many shows, and so does that it was forgotten. -/
theorem status_never_stale_lost :
    ∃ s, opened { welcomed.session.pace with maxErrors := 1 } welcomed.session.permission watchful =
      .ok s ∧
    let t := s.live [.occasion .start, .occasion (.report .background 1 (.failed "network")),
      .occasion .restart]
    t.session.status = some .ready ∧ t.room.host.bulletins =
      [.ready, .listening, .manualRestartRequired, .ready] := by
  have calm : watchful.host.conduct.Calm := ⟨fun _ _ _ => rfl, fun _ _ => rfl⟩
  obtain ⟨s, hs, hlive⟩ := @status_never_stale Unit { welcomed.session.pace with maxErrors := 1 }
    welcomed.session.permission watchful calm ⟨⟨_, rfl⟩, fun e he => (List.not_mem_nil he).elim⟩
  obtain ⟨hstatus, -, -, hbulletins⟩ := hlive [.occasion .start,
    .occasion (.report .background 1 (.failed "network")), .occasion .restart]
  refine ⟨s, hs, hstatus.trans ?_, hbulletins.trans ?_⟩
  all_goals
    obtain rfl := Except.ok.inj hs
    rfl

end Scene

end Arcade
