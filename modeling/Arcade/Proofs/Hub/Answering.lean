import Arcade.Proofs.Hub.Silence
import Arcade.Proofs.Reply.Answered

/-!
# Every text is answered

At a hub whose desk is attended no text that a player types goes unanswered, unless it is blank. The
wake phrase alone is answered by asking for a command, and everything else by carrying out what it
is taken for. The desk stays attended, so that the next text is answered too.

A volume that is not a number leaves texts unanswered, since it is read before anything is said.
-/

namespace Arcade

open Act

namespace Hub

open Desk

variable {h : Hub} {c : Chat} {r : Room Desk} {text : String} {now : Instant}

/-! ## Attended desks -/

theorem tended_attended : Scene.Tended fun h : Hub => Attended c h.room where
  session _ _ _ h := h
  room hroom h :=
    h.congr (congrArg Desk.chat hroom.2.2.2.2.1) (congrArg Desk.delays hroom.2.2.2.2.1) hroom.2.1
      hroom.2.2.2.2.2.2
  schedule _ _ h := h.congr rfl rfl rfl rfl
  cancelTimer h := h.congr rfl rfl rfl rfl
  answer h := h.congr rfl rfl rfl rfl
  giveAnswer _ h := h.congr rfl rfl rfl rfl
  expiring _ _ h := h.congr rfl rfl rfl rfl
  setClock _ h := h.congr rfl rfl rfl rfl

/-- The desk of a new hub is attended, if the host is dependable and the volume a number. -/
theorem attended_opened {settings : Settings} {host : Host} {storage : Storage}
    {preferences : Preferences} (opens : Hub.opened settings host storage preferences now = .ok h)
    (dependable : host.conduct.Dependable)
    (volume : ∀ v, preferences.get? "speech_volume" = some v → ∃ x, v.toDouble = .ok x) :
    ∃ c, Attended c h.room := by
  obtain ⟨_, _, _, chat, _, hchat, hdelays, hscene⟩ := exists_of_opened opens
  exact ⟨chat, tended_attended.of_opened hscene ⟨hchat, hdelays, dependable, volume⟩⟩

theorem attended_welcome (opens : welcome = .ok h) : ∃ c, Attended c h.room :=
  attended_opened opens (fun _ _ _ => rfl) fun _ hv => Option.some.inj hv ▸ ⟨1, rfl⟩

/-! ## Answers -/

/-- What is yielded in the room is yielded by the hub, whose session stays as it is. -/
theorem yields_inRoom {α : Type} {a : Act (Room Desk) α} {P : α → Room Desk → Prop}
    (ha : Yields a h.room P) :
    Yields (Scene.inRoom a) h fun x t => P x t.room ∧ t.session = h.session :=
  ha.within.mono fun _ _ ⟨_, ht, hx⟩ => ht ▸ ⟨hx, rfl⟩

theorem attended_respond (c : Chat) (r : Room Desk) (text : Json) (h : Attended c r) :
    Yields ((outlet now).respond text) r fun _ t => Attended (c.add .assistant text now) t :=
  (h.changeChat fun c => c.add .assistant text now).bind fun _ _ ht => (ht.speak text).discard

theorem yields_carryOut (h : Attended c r) {i : Intent} (hi : i.Complete) :
    Yields (carryOut now i) r fun reply u =>
      reply.handled = true ∧
        ∃ path, i.action.Leads path ∧ Turn.Answered now i.action path ⟨u, reply⟩ := by
  refine (Turn.yields_reply attended_respond (fun _ _ h => h.stopSpeaking) h hi).bind
    fun reply t ⟨hhandled, path, hleads, ht⟩ => ?_
  obtain ⟨c', hc', hlast⟩ := ht.chat
  have hnoted : Yields (change fun d => { d with lastReply := some reply }) t fun _ u =>
      Turn.Answered now i.action path ⟨u, reply⟩ :=
    yields_modify ⟨⟨c', hc'.congr rfl rfl rfl rfl, hlast⟩, ht.answer, ht.action, ht.path⟩
  exact hnoted.bind fun _ u hu => yields_pure ⟨hhandled, path, hleads, hu⟩

/-- Asking for a command adds the prompt to the chat and succeeds. -/
theorem yields_awaitCommand (attended : Attended c h.room) :
    Yields (Scene.awaitCommand (wiring now)) h fun _ t =>
      Attended (c.add .assistant h.session.pace.prompt now) t.room := by
  refine yields_get_bind ?_
  have hprompt : Yields ((wiring now).respond h.session.pace.prompt) h.room fun _ r =>
      Attended (c.add .assistant h.session.pace.prompt now) r :=
    attended_respond c h.room _ attended
  refine (yields_inRoom hprompt).bind fun _ t ⟨ht, _⟩ => yields_get_bind ?_
  split
  · refine Yields.bind (P := fun _ u =>
        Attended (c.add .assistant h.session.pace.prompt now) u.room)
      ⟨_, _, Scene.outcome_isGranted t, tended_attended.answer ht⟩ fun granted u hu => ?_
    split
    · obtain ⟨x, v, hout, -⟩ := Scene.leads_await (s := u) hu.dependable.calm
      exact tended_attended.keeps_await.yields ⟨x, by rw [hout]⟩ hu
    · exact yields_pure hu
  · exact yields_pure ht

/-! ## Texts -/

theorem yields_addToChat (attended : Attended c r) (author : Author) (content : Json) :
    Yields (addToChat author content now) r fun _ t => Attended (c.add author content now) t :=
  attended.changeChat fun c => c.add author content now

/-- The wake phrase alone is answered by asking for a command. -/
theorem yields_submit_wake (attended : Attended c h.room) (hblank : Text.trim text ≠ "")
    (hwake : WakePhrase.detect text = some "") (now : Instant) :
    Yields (submit (.words text) now) h fun reply t => reply = none ∧
      ∃ c', Attended c' t.room ∧
        c'.last? = some ⟨.assistant, h.session.pace.prompt, now.timestamp⟩ := by
  unfold submit submitText
  dsimp only
  rw [if_neg hblank, if_pos hwake]
  refine (yields_inRoom (yields_addToChat attended _ _)).bind fun _ t ⟨ht, hsession⟩ => ?_
  refine (yields_awaitCommand ht).bind fun _ u hu => yields_pure ⟨rfl, _, hu, ?_⟩
  rw [hsession]
  exact Chat.last?_add _ _ _ _

/-- Everything else is answered by carrying out what it is taken for. -/
theorem yields_submit_command (attended : Attended c h.room) (hblank : Text.trim text ≠ "")
    (hcommand : WakePhrase.detect text ≠ some "") (now : Instant) :
    Yields (submit (.words text) now) h fun reply t => ∃ r, reply = some r ∧ r.handled = true ∧
      ∃ path, (Intent.resolve text).action.Leads path ∧
        Turn.Answered now (Intent.resolve text).action path ⟨t.room, r⟩ := by
  unfold submit submitText
  dsimp only
  rw [if_neg hblank, if_neg hcommand]
  have hi := Intent.complete_resolve text
  generalize Intent.resolve text = i at hi ⊢
  refine (yields_inRoom (yields_addToChat attended _ _)).bind fun _ t ⟨ht, _⟩ => ?_
  refine (yields_inRoom (yields_carryOut ht hi)).bind
    fun reply u ⟨⟨hhandled, path, hleads, hu⟩, _⟩ => yields_pure ?_
  exact ⟨reply, rfl, hhandled, path, hleads, hu⟩

/-- Whatever the player types, the desk stays attended. -/
theorem attended_submit (attended : Attended c h.room) (text : String) (now : Instant) :
    ∃ c', Attended c' ((submit (.words text) now).outcome h).2.room := by
  by_cases hblank : Text.trim text = ""
  · refine ⟨c, ?_⟩
    unfold submit submitText
    dsimp only
    rw [if_pos hblank]
    exact attended
  · by_cases hwake : WakePhrase.detect text = some ""
    · obtain ⟨_, t, hout, -, c', hc', -⟩ := yields_submit_wake attended hblank hwake now
      exact ⟨c', by rwa [hout]⟩
    · obtain ⟨_, t, hout, _, -, -, _, -, hanswered⟩ :=
        yields_submit_command attended hblank hwake now
      obtain ⟨c', hc', -⟩ := hanswered.chat
      exact ⟨c', by rwa [hout]⟩

/-- The hub after the player typed some texts, each at its instant. -/
def conversed (h : Hub) (texts : List (String × Instant)) : Hub :=
  texts.foldl (fun h x => ((submit (.words x.1) x.2).outcome h).2) h

theorem conversed_cons (h : Hub) (x : String × Instant) (texts : List (String × Instant)) :
    h.conversed (x :: texts) = ((submit (.words x.1) x.2).outcome h).2.conversed texts := by
  simp only [conversed, List.foldl_cons]

theorem attended_conversed (attended : Attended c h.room) (texts : List (String × Instant)) :
    ∃ c', Attended c' (h.conversed texts).room := by
  induction texts generalizing h c with
  | nil => exact ⟨c, attended⟩
  | cons x texts ih =>
    obtain ⟨c', hc'⟩ := attended_submit attended x.1 x.2
    rw [conversed_cons]
    exact ih hc'

/-- The hub once the player has set a volume that is not a number. -/
def loud (h : Hub) : Hub :=
  (((Use.elsewhere h.room.host.conduct h.room.storage
    (h.room.preferences.insert "speech_volume" (.str "loud")) h.session.permission
    h.room.rest.chat h.room.rest.ledger).act Shelf.noon).outcome h).2

end Hub

end Arcade
