import Arcade.Proofs.Host.Speaking
import Arcade.Proofs.Intent.Complete
import Arcade.Proofs.Listening.Stance
import Arcade.Reply.Command

/-!
# Answered requests

At a desk that is attended, every request of a complete intent is carried out to its end and
answered: the reply is handled, and its answer is a text that is the newest message of the chat.
A reply names a screen exactly if the action is one that leads to a screen, and the screen is one
that there is.

A desk is attended as long as it has a chat and timers, the host's own code does not fail when it is
called, and the volume is a number. Devices may fail in any way.
-/

namespace Arcade

open Act

/-- Whether the code of a host never fails when it is called, whatever the devices do. -/
def Conduct.Dependable (c : Conduct) : Prop :=
  ∀ n call, call.fault = .host → c.fails n call = false

theorem Conduct.Dependable.calm {c : Conduct} (h : c.Dependable) : c.Calm :=
  ⟨fun _ _ _ => h _ _ rfl, fun _ _ => h _ _ rfl⟩

namespace Desk

/-- Whether a desk has a chat, and everything that answering takes. -/
structure Attended (c : Chat) (r : Room Desk) : Prop where
  chat : r.rest.chat = some c
  /-- There are timers. -/
  delays : r.rest.delays = true
  dependable : r.host.conduct.Dependable
  /-- A volume that the player has set is a number. -/
  volume : ∀ v, r.preferences.get? "speech_volume" = some v → ∃ x, v.toDouble = .ok x

namespace Attended

variable {c : Chat} {r t : Room Desk}

theorem congr (h : Attended c r) (hchat : t.rest.chat = r.rest.chat)
    (hdelays : t.rest.delays = r.rest.delays) (hconduct : t.host.conduct = r.host.conduct)
    (hpreferences : t.preferences = r.preferences) : Attended c t := by
  refine ⟨hchat.trans h.chat, hdelays.trans h.delays, ?_, ?_⟩
  · rw [hconduct]
    exact h.dependable
  · rw [hpreferences]
    exact h.volume

theorem volumeOr_ok (h : Attended c r) (standard : Float) :
    ∃ x, r.volumeOr standard = .ok x := by
  unfold Room.volumeOr
  cases hv : r.preferences.get? "speech_volume" with
  | none => exact ⟨standard, rfl⟩
  | some v => exact h.volume v hv

end Attended

variable {c : Chat} {r : Room Desk}

/-! ## Acts on the room -/

theorem attended_call (call : HostCall) : Keeps (Attended c) (Room.call call) := by
  intro r h
  unfold Room.call Room.onHost
  rw [outcome_within, Host.outcome_call]
  exact h.congr rfl rfl rfl rfl

theorem attended_setSpeaking (b : Bool) : Keeps (Attended c) (Room.setSpeaking b) :=
  fun _ h => h.congr rfl rfl rfl rfl

theorem Attended.speak (h : Attended c r) (text : Json) :
    Yields (Room.speak text) r fun _ t => Attended c t :=
  (Room.keeps_speak (attended_call _) (fun _ _ _ _ => attended_call _) attended_setSpeaking
    text).yields (Room.speak_ok (h.volumeOr_ok _) text) h

theorem Attended.stopSpeaking (h : Attended c r) :
    Yields Room.stopSpeaking r fun _ t => Attended c t :=
  (Room.keeps_stopSpeaking (attended_call _) attended_setSpeaking).yields ⟨(), rfl⟩ h

theorem Attended.callIf (h : Attended c r) (wanted : Equipment → Bool) {call : HostCall}
    (hcall : call.fault = .host) : Yields (Room.callIf wanted call) r fun _ t => Attended c t := by
  refine yields_get_bind ?_
  split
  · refine (attended_call call).yields ⟨(), ?_⟩ h
    unfold Room.call Room.onHost
    rw [outcome_within, Host.outcome_call, h.dependable _ _ hcall]
    rfl
  · exact yields_pure h

theorem Attended.prefer (h : Attended c r) {name : String} {value : Json}
    (hvolume : name = "speech_volume" → ∃ x, value.toDouble = .ok x) :
    Yields (Room.prefer name value) r fun _ t => Attended c t := by
  refine yields_modify ⟨h.chat, h.delays, h.dependable, fun v hv => ?_⟩
  rw [Dict.get?_insert] at hv
  split at hv
  · rename_i hname
    exact Option.some.inj hv ▸ hvolume hname.symm
  · exact h.volume v hv

theorem Attended.changeVolume (h : Attended c r) (step : Float) :
    Yields (Turn.changeVolume step) r fun _ t => Attended c t := by
  refine yields_get_bind ?_
  obtain ⟨x, hx⟩ := h.volumeOr_ok r.rest.volume
  refine (yields_lift (Q := fun _ t => Attended c t) hx h).bind fun volume t ht => ?_
  exact (ht.prefer fun _ => ⟨_, rfl⟩).bind fun _ u hu => hu.prefer fun h => nomatch h

theorem Attended.later (h : Attended c r) (delay : Float) (task : ReplyTask) :
    Yields (later delay task) r fun _ t => Attended c t := by
  refine yields_get_bind ?_
  rw [if_pos h.delays]
  exact ⟨⟨⟩, _, outcome_set _ _, h.congr rfl rfl rfl rfl⟩

/-- A change of the chat, and of nothing else that is kept. -/
theorem Attended.changeChat (h : Attended c r) (f : Chat → Chat) :
    Yields (change fun d => { d with chat := d.chat.map f }) r fun _ t => Attended (f c) t :=
  yields_modify ⟨congrArg (Option.map f) h.chat, h.delays, h.dependable, h.volume⟩

end Desk

/-! ## Turns -/

/-- Whether a path is what an action leads to: that of a screen, or none. -/
def IntentAction.Leads (action : IntentAction) (path : Option String) : Prop :=
  match action with
  | .navigate | .play | .coins => ∃ p ∈ Screen.paths, path = some p
  | _ => path = none

namespace IntentAction.Leads

variable {action : IntentAction} {path : Option String}

theorem isSome_iff (h : action.Leads path) :
    path.isSome = true ↔ action = .navigate ∨ action = .play ∨ action = .coins := by
  cases action
  case navigate | play | coins =>
    obtain ⟨_, -, rfl⟩ := h
    simp
  all_goals
    obtain rfl : path = none := h
    simp

theorem mem_paths (h : action.Leads path) {p : String} (hp : path = some p) :
    p ∈ Screen.paths := by
  have hsome : path.isSome = true := by rw [hp]; rfl
  obtain rfl | rfl | rfl := h.isSome_iff.1 hsome
  all_goals
    obtain ⟨q, hq, hpath⟩ := h
    exact Option.some.inj (hp.symm.trans hpath) ▸ hq

end IntentAction.Leads

namespace Turn

open Desk

/-- Whether a reply for an action has an answer, which is the newest message of the chat, and a
path. -/
structure Answered (now : Instant) (action : IntentAction) (path : Option String) (t : Turn) :
    Prop where
  chat : ∃ c, Attended c t.room ∧
    c.last? = some ⟨.assistant, t.reply.response, now.timestamp⟩
  answer : ∃ text, t.reply.response = .str text ∧ text ≠ ""
  action : t.reply.action = action
  path : t.reply.path = path

variable {α : Type} {t : Turn} {c : Chat} {now : Instant} {action : IntentAction}
  {path : Option String}

theorem yields_inRoom {a : Act (Room Desk) α} (h : Yields a t.room fun _ r => Attended c r) :
    Yields (inRoom a) t fun _ u => Attended c u.room ∧ u.reply = t.reply :=
  h.within.mono fun _ _ ⟨_, hu, hr⟩ => hu ▸ ⟨hr, rfl⟩

theorem spoken_ne_empty (now : Instant) : now.spoken ≠ "" := by
  unfold Instant.spoken
  exact Text.append_ne_empty (Text.append_ne_empty (Text.append_ne_empty
    (Text.append_ne_empty (by decide) _) _) _) _

/-- There is always something to say about the coins. -/
theorem coinsText_ne_empty (ledger : Option Ledger) : coinsText ledger ≠ "" := by
  unfold coinsText
  split
  · decide
  · exact Text.append_ne_empty (Text.append_ne_empty (Text.append_ne_empty (by decide) _) _) _

/-! ### Before the answer -/

/-- Whether nothing is noted in a reply yet but its action. -/
structure Ready (c : Chat) (action : IntentAction) (t : Turn) : Prop where
  attended : Attended c t.room
  reply : t.reply = { action := action }

theorem Ready.inRoom (h : t.Ready c action) {a : Act (Room Desk) α}
    (ha : ∀ r, Attended c r → Yields a r fun _ u => Attended c u) :
    Yields (Turn.inRoom a) t fun _ u => u.Ready c action :=
  (yields_inRoom (ha _ h.attended)).mono fun _ _ ⟨hu, hreply⟩ => ⟨hu, hreply.trans h.reply⟩

/-! ### After the answer -/

theorem Answered.inRoom (h : t.Answered now action path) {a : Act (Room Desk) α}
    (ha : ∀ c r, Attended c r → Yields a r fun _ u => Attended c u) :
    Yields (Turn.inRoom a) t fun _ u => u.Answered now action path := by
  obtain ⟨c, hc, hlast⟩ := h.chat
  refine (yields_inRoom (ha c _ hc)).mono fun _ u ⟨hu, hreply⟩ => ?_
  rw [← hreply] at hlast
  exact ⟨⟨c, hu, hlast⟩, hreply ▸ h.answer, hreply ▸ h.action, hreply ▸ h.path⟩

/-- Something is delayed if the host wants it. -/
theorem Answered.laterIf (h : t.Answered now action path) (wanted : Bool) (delay : Float)
    (task : ReplyTask) :
    Yields (if wanted then Turn.inRoom (later delay task) else pure ()) t fun _ u =>
      u.Answered now action path := by
  split
  · exact h.inRoom fun _ _ hc => hc.later _ _
  · exact yields_pure h

theorem Answered.go (h : t.Answered now action path) (p : String) :
    Yields (go p) t fun _ u => u.Answered now action (some p) := by
  have hnoted : Yields (note fun r => { r with path := some p }) t fun _ u =>
      u.Answered now action (some p) :=
    yields_modify ⟨h.chat, h.answer, h.action, rfl⟩
  exact hnoted.bind fun _ u hu => yields_get_bind (hu.inRoom fun _ _ hc => hc.later _ _)

/-- The desk is closed later, if the host wants that, and the reply says so at once. -/
theorem Answered.close (h : t.Answered now action path) :
    Yields (do
      note fun r => { r with closing := true }
      let room := (← get).room
      if room.host.equipment.onClose then Turn.inRoom (later room.rest.closeDelay .close)) t
      fun _ u => u.Answered now action path := by
  have hclosing : Yields (note fun r => { r with closing := true }) t fun _ u =>
      u.Answered now action path := yields_modify ⟨h.chat, h.answer, h.action, h.path⟩
  exact hclosing.bind fun _ u hu => yields_get_bind (hu.laterIf _ _ _)

/-! ### Requests -/

variable {o : Outlet}
  (hrespond : ∀ c r text, Attended c r →
    Yields (o.respond text) r fun _ t => Attended (c.add .assistant text now) t)
  (hstop : ∀ c r, Attended c r → Yields o.stopSpeaking r fun _ t => Attended c t)

include hrespond in
theorem Ready.say (h : t.Ready c action) {text : String} (htext : text ≠ "") :
    Yields (say o (.str text)) t fun _ u => u.Answered now action none := by
  have hnoted : Yields (note fun r => { r with response := .str text }) t fun _ u =>
      Attended c u.room ∧ u.reply = { action := action, response := .str text } :=
    yields_modify ⟨h.attended, by rw [h.reply]⟩
  refine hnoted.bind fun _ u ⟨hu, hreply⟩ => ?_
  refine (yields_inRoom (hrespond c u.room (.str text) hu)).mono fun _ v ⟨hv, hsame⟩ => ?_
  rw [hreply] at hsame
  have hlast := c.last?_add .assistant (.str text) now
  refine ⟨⟨_, hv, ?_⟩, ⟨text, ?_, htext⟩, ?_, ?_⟩
  · rw [hsame, hlast]
  all_goals rw [hsame]

include hrespond in
theorem Ready.sayAndGo (h : t.Ready c action) {text : String} (htext : text ≠ "") (p : String) :
    Yields (do
      Turn.say o (.str text)
      go p) t fun _ u => u.Answered now action (some p) :=
  (h.say hrespond htext).bind fun _ _ hu => hu.go p

/-- A chat that is cleared begins with the answer that it was cleared. -/
theorem Ready.clear (h : t.Ready c action) :
    Yields (do
      note fun r => { r with response := .str Chat.clearedText }
      Turn.inRoom (change fun d => { d with chat := d.chat.map fun c => c.clear now })) t
      fun _ u => u.Answered now action none := by
  have hnoted : Yields (note fun r => { r with response := .str Chat.clearedText }) t fun _ u =>
      Attended c u.room ∧ u.reply = { action := action, response := .str Chat.clearedText } :=
    yields_modify ⟨h.attended, by rw [h.reply]⟩
  refine hnoted.bind fun _ t ⟨ht, hreply⟩ => ?_
  refine (yields_inRoom (ht.changeChat fun c => c.clear now)).mono fun _ u ⟨hu, hsame⟩ => ?_
  rw [hreply] at hsame
  have hlast := (Chat.empty c.limit).last?_add .assistant (.str Chat.clearedText) now
  refine ⟨⟨_, hu, ?_⟩, ⟨Chat.clearedText, ?_, by decide⟩, ?_, ?_⟩
  · rw [hsame]
    exact hlast
  all_goals rw [hsame]

include hrespond hstop in
/-- A complete intent is carried out to its end and answered. -/
theorem yields_carryOut {r : Room Desk} (h : Attended c r) {i : Intent} (hi : i.Complete) :
    Yields (carryOut o now i.request) ⟨r, { action := i.action }⟩ fun _ t =>
      ∃ path, i.action.Leads path ∧ t.Answered now i.action path := by
  obtain ⟨kind, action, rawText, target, response⟩ := i
  have hready : Ready c action ⟨r, { action := action }⟩ := ⟨h, rfl⟩
  have hsay : ∀ {t : Turn} {text : String}, t.Ready c action → text ≠ "" →
      Yields (say o (.str text)) t fun _ u => u.Answered now action none :=
    fun ht htext => ht.say hrespond htext
  cases action with
  | navigate =>
    obtain ⟨⟨page, hpage, rfl⟩, text, rfl, htext⟩ := hi
    refine (hready.sayAndGo hrespond htext _).mono fun _ u hu => ?_
    exact ⟨_, ⟨_, Screen.pagePath_mem_paths hpage, rfl⟩, hu⟩
  | play =>
    obtain ⟨⟨game, hgame, rfl⟩, text, rfl, htext⟩ := hi
    refine (hready.sayAndGo hrespond htext _).mono fun _ u hu => ?_
    exact ⟨_, ⟨_, Screen.gamePath_mem_paths hgame, rfl⟩, hu⟩
  | close =>
    obtain ⟨text, rfl, htext⟩ := hi
    refine (hsay hready htext).bind fun _ t ht => ?_
    exact ht.close.mono fun _ u hu => ⟨none, rfl, hu⟩
  | theme =>
    obtain ⟨text, rfl, htext⟩ := hi
    refine Yields.mono (P := fun _ u => u.Answered now .theme none) ?_
      fun _ u hu => ⟨none, rfl, hu⟩
    -- Only the volume has to stay a number, so that another wish leaves the room attended.
    have hname : "theme" ≠ "speech_volume" := by decide
    show Yields (if (Json.ofText? target).truthy then _ else _) _ _
    split
    · refine (hready.inRoom fun _ hc => hc.prefer fun h => absurd h hname).bind fun _ t ht => ?_
      exact (ht.inRoom fun _ hc => hc.callIf _ rfl).bind fun _ u hu => hsay hu htext
    · exact hsay hready htext
  | time => exact (hsay hready (spoken_ne_empty now)).mono fun _ u hu => ⟨none, rfl, hu⟩
  | refresh =>
    obtain ⟨text, rfl, htext⟩ := hi
    refine (hsay hready htext).bind fun _ t ht => yields_get_bind ?_
    exact (ht.laterIf _ _ _).mono fun _ u hu => ⟨none, rfl, hu⟩
  | coins =>
    obtain rfl : target = some "dashboard" := hi
    have hpage : "dashboard" ∈ Screen.pages := by decide
    refine yields_get_bind ?_
    refine (hready.sayAndGo hrespond (coinsText_ne_empty _) _).mono fun _ u hu => ?_
    exact ⟨_, ⟨_, Screen.pagePath_mem_paths hpage, rfl⟩, hu⟩
  | clearChat => exact hready.clear.mono fun _ u hu => ⟨none, rfl, hu⟩
  | volumeUp | volumeDown =>
    obtain ⟨text, rfl, htext⟩ := hi
    refine (hready.inRoom fun _ hc => hc.changeVolume _).bind fun _ t ht => ?_
    exact (hsay ht htext).mono fun _ u hu => ⟨none, rfl, hu⟩
  | mute =>
    obtain ⟨text, rfl, htext⟩ := hi
    refine (hready.inRoom fun r hc => hstop c r hc).bind fun _ t ht => ?_
    have hname : "speech_muted" ≠ "speech_volume" := by decide
    refine (ht.inRoom fun _ hc => hc.prefer fun h => absurd h hname).bind fun _ u hu => ?_
    exact (hsay hu htext).mono fun _ v hv => ⟨none, rfl, hv⟩
  | help | gameInfo | popularGames | smallTalk | fallback =>
    obtain ⟨text, rfl, htext⟩ := hi
    -- The text that is given is not empty, so that the apology does not stand in for it.
    have hgiven : (Json.str text).truthy = true := decide_eq_true htext
    show Yields (say o (if (Json.str text).truthy then _ else _)) _ _
    rw [if_pos hgiven]
    exact (hsay hready htext).mono fun _ u hu => ⟨none, rfl, hu⟩
  | other name => cases hi

include hrespond hstop in
/-- The reply to a complete intent is handled. -/
theorem yields_reply {r : Room Desk} (h : Attended c r) {i : Intent} (hi : i.Complete) :
    Yields (Desk.reply o now i.request) r fun reply u =>
      reply.handled = true ∧
        ∃ path, i.action.Leads path ∧ Turn.Answered now i.action path ⟨u, reply⟩ := by
  obtain ⟨_, t, hout, path, hleads, ht⟩ := yields_carryOut hrespond hstop h hi
  refine ⟨{ t.reply with handled := true }, t.room, ?_, rfl, path, hleads, ht.chat, ht.answer,
    ht.action, ht.path⟩
  have hturn : (Turn.carryOut o now i.request).outcome ⟨r, { action := i.request.action }⟩ =
      (.ok (), t) := hout
  unfold Desk.reply
  rw [outcome_ofOutcome]
  dsimp only
  rw [hturn]
  rfl

end Turn

end Arcade
