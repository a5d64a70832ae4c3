import Arcade.Proofs.Hub.Silence
import Arcade.Proofs.Ledger.Twins

/-!
# Voice and chat beside the ledger

A hub is used and befallen in any order, and its ledger is dealt with in between. The ledger and the
player's answer share one storage, in which each has keys of its own.

What the ledger becomes, answers and tells follows from what it was asked and when; all other steps
of a run may be left out. Conversely a dealing changes nothing of a hub but the ledger, its notices
and its entries in the storage. The invariant is that the hub houses a ledger that could as well be
alone on a shelf of its own (`Houses`): other steps keep it for the same shelf, and a dealing does to
the shelf what it does to the hub.
-/

namespace Arcade.Hub

open Act

/-! ## Runs -/

/-- Takes the answer of the player back. -/
def takeBack : Act Hub Unit :=
  Act.ofOutcome fun h =>
    let (r, permission, storage) := h.session.permission.reset h.room.storage
    (r, { h with
      session := { h.session with permission := permission }
      room := { h.room with storage := storage } })

/-- What may happen to a hub, one after the other. -/
inductive Step where
  /-- The ledger is asked for something. -/
  | deal (d : Dealing)
  /-- The ledger loads, and the session listens. -/
  | start
  /-- The hub is used in a way that has nothing to do with the ledger. -/
  | aside (u : Use) (hu : u.Aside)
  | befall (i : Incident)
  /-- The player's answer is set or taken back. -/
  | answer (a : Option Answer)
  /-- What neither the ledger nor the player's answer depends on is changed from elsewhere. -/
  | adjust (conduct : Conduct) (stubborn : Bool) (preferences : Preferences) (chat : Option Chat)

namespace Step

/-- What the hub does in a step at an instant. -/
def act (now : Instant) : Step → Act Hub Unit
  | deal d => discard (Scene.inRoom (onShelf (d.act now)))
  | start => Hub.start now
  | aside u _ => u.act now
  | befall i => i.act now
  | answer (some a) => Scene.giveAnswer a
  | answer none => takeBack
  | adjust conduct stubborn preferences chat =>
    modify fun h =>
      { h with room := { h.room with
        host := { h.room.host with conduct := conduct }
        queue := { h.room.queue with stubborn := stubborn }
        preferences := preferences
        rest := { h.room.rest with chat := chat } } }

/-- What the ledger is asked in a step. -/
def dealing? : Step → Option Dealing
  | deal d => some d
  | start => some .load
  | _ => none

/-- What the ledger answers in a step. -/
def answer? (h : Hub) (now : Instant) (x : Step) : Option (Except Fault Operation.Answer) :=
  x.dealing?.map fun d => ((Scene.inRoom (onShelf (d.act now))).outcome h).1

end Step

/-- The hub after steps at their instants. -/
def undergo (h : Hub) (steps : List (Step × Instant)) : Hub :=
  steps.foldl (fun h x => ((x.1.act x.2).outcome h).2) h

/-- What the ledger of a hub answers in steps at their instants. -/
def answers (h : Hub) : List (Step × Instant) → List (Except Fault Operation.Answer)
  | [] => []
  | x :: rest => (x.1.answer? h x.2).toList ++ answers ((x.1.act x.2).outcome h).2 rest

/-- What the ledger is asked in steps, and when. -/
def dealings (steps : List (Step × Instant)) : List (Dealing × Instant) :=
  steps.filterMap fun x => x.1.dealing?.map fun d => (d, x.2)

/-- The ledger is asked the same if all steps are left out in which it is asked nothing. -/
theorem dealings_filter (steps : List (Step × Instant)) :
    dealings (steps.filter fun x => x.1.dealing?.isSome) = dealings steps := by
  unfold dealings
  rw [List.filterMap_filter]
  congr 1
  funext x
  cases x.1.dealing? <;> rfl

/-! ## The ledger alone -/

/-- A ledger on a shelf of its own, with its notices, after a dealing. -/
def dealt (x : Shelf × List String) (y : Dealing × Instant) : Shelf × List String :=
  let s := ((y.1.act y.2).outcome x.1).2
  (s, noticesAfter x.2 (s.ledger.deliveries.drop x.1.ledger.deliveries.length))

/-- What a ledger on a shelf of its own answers. -/
def answersAlone (s : Shelf) : List (Dealing × Instant) → List (Except Fault Operation.Answer)
  | [] => []
  | y :: rest => ((y.1.act y.2).outcome s).1 :: answersAlone ((y.1.act y.2).outcome s).2 rest

/-- The hub with a ledger and a storage as an act on its ledger left them. -/
def withShelf (h : Hub) (before : Ledger) (s : Shelf) : Hub :=
  { h with room := { h.room with
    storage := s.storage
    rest := { h.room.rest with
      ledger := some s.ledger
      notices := noticesAfter h.room.rest.notices
        (s.ledger.deliveries.drop before.deliveries.length) } } }

theorem outcome_onShelf {α : Type} {h : Hub} {ledger : Ledger}
    (hledger : h.room.rest.ledger = some ledger) (a : Act Shelf α) :
    (Scene.inRoom (onShelf a)).outcome h = ((a.outcome ⟨ledger, h.room.storage⟩).1,
      h.withShelf ledger (a.outcome ⟨ledger, h.room.storage⟩).2) := by
  unfold Scene.inRoom onShelf
  rw [outcome_within, outcome_ofOutcome, hledger]
  rfl

/-- The hub keeps the ledger of a shelf and its notices, and the player's answer under a text `p`
which the ledger does not use. -/
structure Houses (p : String) (x : Shelf × List String) (h : Hub) : Prop where
  ledger : h.room.rest.ledger = some x.1.ledger
  notices : h.room.rest.notices = x.2
  twins : x.1.Twins p ⟨x.1.ledger, h.room.storage⟩
  permission : h.session.permission.key = .str p

namespace Houses

variable {α : Type} {p : String} {x : Shelf × List String} {h : Hub} (hh : Houses p x h)

include hh

/-- The hub may change in what is neither the ledger's nor the player's answer. -/
theorem congr {h' : Hub} (hledger : h'.room.rest.ledger = h.room.rest.ledger)
    (hnotices : h'.room.rest.notices = h.room.rest.notices)
    (hstorage : h'.room.storage = h.room.storage)
    (hkey : h'.session.permission.key = h.session.permission.key) : Houses p x h' where
  ledger := hledger.trans hh.ledger
  notices := hnotices.trans hh.notices
  twins := hstorage ▸ hh.twins
  permission := hkey.trans hh.permission

/-- The storage may change under the key of the player's answer. -/
theorem remember {storage : Storage} {permission : Permission}
    (halike : h.room.storage.AlikeBut p storage)
    (hkey : permission.key = h.session.permission.key) :
    Houses p x { h with
      session := { h.session with permission := permission }
      room := { h.room with storage := storage } } where
  ledger := hh.ledger
  notices := hh.notices
  twins := ⟨rfl, hh.twins.storage.trans halike, hh.twins.dataKey, hh.twins.streakKey⟩
  permission := hkey.trans hh.permission

/-- An act on the ledger does to the hub what it does to the shelf. -/
theorem inRoom_onShelf {a : Act Shelf α} (ha : Shelf.Impartial p a) :
    ((Scene.inRoom (onShelf a)).outcome h).1 = (a.outcome x.1).1 ∧
    Houses p ((a.outcome x.1).2, noticesAfter x.2
        ((a.outcome x.1).2.ledger.deliveries.drop x.1.ledger.deliveries.length))
      ((Scene.inRoom (onShelf a)).outcome h).2 := by
  obtain ⟨hresult, htwins, -⟩ := ha _ _ hh.twins
  rw [outcome_onShelf hh.ledger, hresult]
  refine ⟨rfl, ?_, ?_, ?_, hh.permission⟩
  · rw [withShelf, htwins.ledger]
  · rw [withShelf, htwins.ledger, hh.notices]
  · rw [← htwins.ledger]
    exact htwins

end Houses

/-! ## What keeps a ledger housed -/

variable {p : String} {x : Shelf × List String} {h : Hub}

theorem keeps_later (delay : Float) (task : ReplyTask) (session : Session) :
    Keeps (fun r => Houses p x ⟨session, r⟩) (Desk.later delay task) := by
  intro r hr
  unfold Desk.later
  rw [outcome_bind, outcome_get]
  dsimp only
  split
  · exact hr.congr rfl rfl rfl rfl
  · have hroom := Desk.extends_perform task r r (.refl r)
    exact hr.congr (congrArg Desk.ledger hroom.2.2.2.2.1) (congrArg Desk.notices hroom.2.2.2.2.1)
      hroom.2.2.2.1 rfl

theorem keeps_cancelPending (session : Session) :
    Keeps (fun r => Houses p x ⟨session, r⟩) Desk.cancelPending := by
  intro r hr
  unfold Desk.cancelPending
  rw [outcome_bind, outcome_get]
  dsimp only
  split
  · exact hr.congr rfl rfl rfl rfl
  · exact hr

/-- Whatever happens to a hub besides acts on the ledger, the hub houses the same ledger. -/
theorem tended_houses (p : String) (x : Shelf × List String) : Tended (Houses p x) where
  session _ _ hpermission hh := hh.congr rfl rfl rfl (congrArg Permission.key hpermission)
  room hroom hh := hh.congr (congrArg Desk.ledger hroom.2.2.2.2.1)
    (congrArg Desk.notices hroom.2.2.2.2.1) hroom.2.2.2.1 rfl
  schedule _ _ hh := hh.congr rfl rfl rfl rfl
  cancelTimer hh := hh.congr rfl rfl rfl rfl
  answer {h} hh := by
    unfold Scene.lookedUp Permission.lookUp
    split
    · exact hh
    · exact hh.remember (hh.twins.storage.right.alikeBut_get p _) rfl
  giveAnswer {h} a hh := by
    have hset := hh.twins.storage.right.alikeBut_set p (.str a.text)
    rw [← hh.permission] at hset
    exact hh.remember hset rfl
  expiring _ _ hh := hh.congr rfl rfl rfl rfl
  setClock _ hh := hh.congr rfl rfl rfl rfl
  desk session :=
    { room := fun hroom hr => hr.congr (congrArg Desk.ledger hroom.2.2.2.2.1)
        (congrArg Desk.notices hroom.2.2.2.2.1) hroom.2.2.2.1 rfl
      desk := fun _ _ hledger hnotices hr => hr.congr hledger hnotices rfl rfl
      prefer := fun _ hr => hr.congr rfl rfl rfl rfl
      later := fun delay task => keeps_later delay task session
      cancelPending := keeps_cancelPending session }
  replying _ _ hh := hh.congr rfl rfl rfl rfl

namespace Houses

variable (hh : Houses p x h)

include hh

/-- A step in which the ledger is asked nothing leaves the ledger as it was. -/
theorem step_of_none {y : Step} (hy : y.dealing? = none) (now : Instant) :
    Houses p x ((y.act now).outcome h).2 := by
  cases y with
  | deal | start => cases hy
  | aside u hu => exact (tended_houses p x).keeps_use now hu h hh
  | befall i => exact (tended_houses p x).keeps_incident now i h hh
  | adjust => exact hh.congr rfl rfl rfl rfl
  | answer a =>
    cases a with
    | some a => exact (tended_houses p x).giveAnswer a hh
    | none =>
      have hremove := hh.twins.storage.right.alikeBut_remove p
      rw [← hh.permission] at hremove
      exact hh.remember hremove rfl

/-- A step in which the ledger is asked something does to the hub what it does to the ledger
alone. -/
theorem step_of_some {y : Step} {d : Dealing} (hy : y.dealing? = some d) (now : Instant) :
    y.answer? h now = some ((d.act now).outcome x.1).1 ∧
    Houses p (dealt x (d, now)) ((y.act now).outcome h).2 := by
  obtain ⟨hresult, hhouses⟩ := hh.inRoom_onShelf (d.impartial now p)
  refine ⟨?_, ?_⟩
  · rw [Step.answer?, hy, Option.map_some, hresult]
  cases y with
  | aside | befall | answer | adjust => cases hy
  | deal =>
    cases hy
    rw [Step.act, outcome_discard]
    exact hhouses
  | start =>
    cases hy
    have hdealt : ((Dealing.load.act now).outcome x.1).2 = ((Shelf.load now).outcome x.1).2 := by
      rw [Dealing.act, Operation.answer, outcome_map]
    have hload : Houses p (dealt x (.load, now))
        ((discard (Scene.inRoom (onShelf (Shelf.load now))) : Act Hub Unit).outcome h).2 := by
      rw [outcome_discard, dealt, hdealt]
      exact (hh.inRoom_onShelf (Shelf.impartial_load now)).2
    exact keeps_bind_of (P := Houses p _) hload fun _ u hu =>
      (tended_houses p _).keeps_start.discard u (by rwa [hu] at hload)

/-- What a ledger in a hub answers and becomes is what it answers and becomes alone. -/
theorem undergo (steps : List (Step × Instant)) :
    h.answers steps = answersAlone x.1 (dealings steps) ∧
    Houses p ((dealings steps).foldl dealt x) (h.undergo steps) := by
  induction steps generalizing x h with
  | nil => exact ⟨rfl, hh⟩
  | cons y rest ih =>
    cases hy : y.1.dealing? with
    | none =>
      obtain ⟨hanswers, hhouses⟩ := ih (hh.step_of_none hy y.2)
      have hdealings : dealings (y :: rest) = dealings rest := by
        rw [dealings, List.filterMap_cons, hy]
        rfl
      rw [hdealings, Hub.answers, Step.answer?, hy]
      exact ⟨hanswers, hhouses⟩
    | some d =>
      obtain ⟨hanswer, hdealt⟩ := hh.step_of_some hy y.2
      obtain ⟨hanswers, hhouses⟩ := ih hdealt
      have hdealings : dealings (y :: rest) = (d, y.2) :: dealings rest := by
        rw [dealings, List.filterMap_cons, hy]
        rfl
      rw [hdealings, Hub.answers, hanswer, answersAlone]
      exact ⟨congrArg (((d.act y.2).outcome x.1).1 :: ·) hanswers, hhouses⟩

end Houses

/-! ## Both ways -/

/-- A dealing changes nothing of a hub but the ledger, its notices and the storage, and there not
what is under the key of the player's answer. -/
theorem Houses.deal (hh : Houses p x h) (d : Dealing) (now : Instant) :
    ∃ storage ledger notices, storage.peek (.str p) = h.room.storage.peek (.str p) ∧
      (((Step.deal d).act now).outcome h).2 = { h with room := { h.room with
        storage := storage
        rest := { h.room.rest with ledger := ledger, notices := notices } } } := by
  obtain ⟨-, -, hpeek⟩ := d.impartial now p _ _ hh.twins.symm.refl
  let s := ((d.act now).outcome ⟨x.1.ledger, h.room.storage⟩).2
  refine ⟨s.storage, some s.ledger, noticesAfter h.room.rest.notices
    (s.ledger.deliveries.drop x.1.ledger.deliveries.length), hpeek, ?_⟩
  rw [Step.act, outcome_discard, outcome_onShelf hh.ledger]
  rfl

/-- A new hub houses its ledger, if the keys differ and the storage never fails. -/
theorem houses_opened {settings : Settings} {host : Host} {storage : Storage}
    {preferences : Preferences} {now : Instant} {k l : String}
    (opens : Hub.opened settings host storage preferences now = .ok h)
    (hdata : settings.get "storage.data_key" (.str "gameverse-data") = .str k)
    (hstreak : settings.get "storage.legacy_streak_key" (.str "rps-streak") = .str l)
    (hpermission : settings.get "storage.permission_key" (.str "micPermissionStatus") = .str p)
    (hk : k ≠ p) (hl : l ≠ p) (unfailing : storage.Unfailing) : ∃ x, Houses p x h := by
  obtain ⟨ledger, permission, _, _, _, desk, hstart, hgiven, -, hscene⟩ := opened_eq_ok opens
  unfold Ledger.start at hstart
  obtain ⟨_, -, hstart⟩ := bind_eq_ok.1 hstart
  obtain ⟨_, -, hstart⟩ := bind_eq_ok.1 hstart
  unfold Permission.ofSettings at hgiven
  obtain ⟨_, -, hgiven⟩ := bind_eq_ok.1 hgiven
  cases hstart
  cases hgiven
  refine ⟨(Shelf.subscribe ⟨_, storage⟩ .notices, desk.notices),
    (tended_houses p _).of_opened hscene ⟨rfl, rfl, ?_, hpermission⟩⟩
  exact ⟨rfl, ⟨unfailing, unfailing, fun _ _ => rfl⟩, ⟨k, hk, hdata⟩, ⟨l, hl, hstreak⟩⟩

/-- Voice and chat do not touch the ledger, nor the ledger them. Let a new hub have a storage that
never fails, and keys for the document and the old streak that differ from that for the player's
answer. In whatever run it is used and befallen:

* The ledger with its document and what it told, its answers, the notices, and all that is stored
  under other keys, the document among it, are the same in every run in which the ledger is asked
  the same at the same instants, whatever else happens in it. In particular all steps may be left
  out in which the ledger is asked nothing.
* Whatever the ledger is asked next changes nothing but the ledger, the notices and what is stored
  under other keys than that of the player's answer: the session with its mode, its status, its
  permission and its timer, the timers in the queue, the chat and everything else stay. -/
theorem ledger_apart {settings : Settings} {host : Host} {storage : Storage}
    {preferences : Preferences} {now : Instant} {k l : String}
    (opens : Hub.opened settings host storage preferences now = .ok h)
    (hdata : settings.get "storage.data_key" (.str "gameverse-data") = .str k)
    (hstreak : settings.get "storage.legacy_streak_key" (.str "rps-streak") = .str l)
    (hpermission : settings.get "storage.permission_key" (.str "micPermissionStatus") = .str p)
    (hk : k ≠ p) (hl : l ≠ p) (unfailing : storage.Unfailing) (steps : List (Step × Instant)) :
    (∀ others, dealings others = dealings steps →
      h.answers others = h.answers steps ∧
      (h.undergo others).room.rest.ledger = (h.undergo steps).room.rest.ledger ∧
      (h.undergo others).room.rest.notices = (h.undergo steps).room.rest.notices ∧
      ∀ key, key ≠ p → (h.undergo others).room.storage.peek (.str key) =
        (h.undergo steps).room.storage.peek (.str key)) ∧
    ∀ (d : Dealing) (now : Instant), ∃ storage ledger notices,
      storage.peek (.str p) = (h.undergo steps).room.storage.peek (.str p) ∧
      (((Step.deal d).act now).outcome (h.undergo steps)).2 =
        { h.undergo steps with room := { (h.undergo steps).room with
          storage := storage
          rest := { (h.undergo steps).room.rest with ledger := ledger, notices := notices } } } := by
  obtain ⟨x, hh⟩ := houses_opened opens hdata hstreak hpermission hk hl unfailing
  obtain ⟨hanswers, hhouses⟩ := hh.undergo steps
  refine ⟨fun others hothers => ?_, fun d now => hhouses.deal d now⟩
  obtain ⟨hanswers', hhouses'⟩ := hh.undergo others
  rw [hothers] at hanswers' hhouses'
  refine ⟨hanswers'.trans hanswers.symm, hhouses'.ledger.trans hhouses.ledger.symm,
    hhouses'.notices.trans hhouses.notices.symm, fun key hkey => ?_⟩
  exact (hhouses'.twins.storage.peek key hkey).trans (hhouses.twins.storage.peek key hkey).symm

/-- An evening with a game, in which the player types a command and the arcade is closed. -/
def evening : List (Step × Instant) := [
  (.start, Shelf.noon),
  (.aside (.submit (.words "open dashboard")) trivial, Shelf.noon),
  (.deal (.errand (.operate (.countPlay "rock-paper-scissors") Operation.noConfusion)), Shelf.noon),
  (.befall (.elapse 2), Shelf.noon),
  (.deal (.errand (.operate .settle Operation.noConfusion)), Shelf.noon),
  (.aside .close trivial, Shelf.noon)]

/-- A new hub of the visitor has the same ledger after an evening as after the three dealings of the
evening. -/
theorem ledger_apart_evening : ∃ h : Hub, welcome = .ok h ∧
    (dealings evening).length = 3 ∧
    h.answers (evening.filter fun x => x.1.dealing?.isSome) = h.answers evening ∧
    (h.undergo (evening.filter fun x => x.1.dealing?.isSome)).room.rest.ledger =
      (h.undergo evening).room.rest.ledger ∧
    (h.undergo (evening.filter fun x => x.1.dealing?.isSome)).room.storage.peek
        (.str "gameverse-data") =
      (h.undergo evening).room.storage.peek (.str "gameverse-data") := by
  obtain ⟨h, hw, -⟩ := exists_welcome (p := fun _ => true) (by decide)
  obtain ⟨hsame, -⟩ := ledger_apart hw rfl rfl rfl (by decide) (by decide)
    ⟨⟨rfl, fun _ _ => rfl⟩, rfl⟩ evening
  obtain ⟨hanswers, hledger, -, hstored⟩ := hsame _ (dealings_filter evening)
  exact ⟨h, hw, rfl, hanswers, hledger, hstored "gameverse-data" (by decide)⟩

end Arcade.Hub
