import Arcade.Ledger.Award
import Arcade.Listening.Hearing
import Arcade.Reply.Command

/-!
# The hub

The hub is the arcade as a whole: a listening session in a room with a desk that has a chat and a
ledger. What is heard and what is typed is carried out at the desk, answers are added to the chat
and spoken, and events of the ledger become notices to the player, of which the last ones are kept.
-/

namespace Arcade

/-- The arcade as a whole. -/
abbrev Hub := Scene Desk

namespace Hub

/-- The greatest number of notices that are kept. -/
def noticeLimit : Nat := 20

/-- The outlet of the desk to the chat and the voice. -/
def outlet (now : Instant) : Outlet where
  respond text := do
    Desk.change fun d => { d with chat := d.chat.map fun c => c.add .assistant text now }
    discard (Room.speak text)
  stopSpeaking := Room.stopSpeaking

/-- Carries an intent out and remembers what became of it. -/
def carryOut (now : Instant) (i : Intent) : Act (Room Desk) Reply := do
  let reply ← Desk.reply (outlet now) now i.request
  Desk.change fun d => { d with lastReply := some reply }
  return reply

/-- Adds what the player said or typed to the chat. -/
def addToChat (author : Author) (content : Json) (now : Instant) : Act (Room Desk) Unit :=
  Desk.change fun d => { d with chat := d.chat.map fun c => c.add author content now }

/-- The wiring of the session to the desk. -/
def wiring (now : Instant) : Wiring Desk where
  respond text := do
    addToChat .assistant text now
    discard (Room.speak text)
  intent i := do
    addToChat .user (.str i.rawText) now
    discard (carryOut now i)

/-! ## The ledger -/

/-- The notices with the messages of further deliveries, of which the last ones are kept. -/
def noticesAfter (notices : List String) (deliveries : List (Listener × Event)) : List String :=
  let all := notices ++ (deliveries.filter fun p => p.1 = .notices).map fun p => p.2.message
  all.drop (all.length - noticeLimit)

/-- An act on the ledger of a room, whose events become notices. -/
def onShelf {α : Type} (a : Act Shelf α) : Act (Room Desk) α :=
  Act.ofOutcome fun room =>
    match room.rest.ledger with
    | none => (.error .noOperation, room)
    | some ledger =>
      let (r, shelf) := a.outcome ⟨ledger, room.storage⟩
      let fresh := shelf.ledger.deliveries.drop ledger.deliveries.length
      (r, { room with
        storage := shelf.storage
        rest := { room.rest with
          ledger := some shelf.ledger
          notices := noticesAfter room.rest.notices fresh } })

/-! ## The arcade at work -/

/-- Loads the ledger and starts listening. -/
def start (now : Instant) : Act Hub Unit := do
  discard (Scene.inRoom (onShelf (Shelf.load now)))
  discard Scene.start

/-- Drops what is delayed and closes the session. -/
def close : Act Hub Unit := do
  Scene.inRoom Desk.cancelPending
  Scene.close

/-- Takes a text of the player. The wake phrase alone asks for a command like the spoken one;
everything else is carried out. Blank texts are passed over. -/
def submitText (text : String) (now : Instant) : Act Hub (Option Reply) := do
  let trimmed := Text.trim text
  if trimmed = "" then return none
  else
    Scene.inRoom (addToChat .user (.str trimmed) now)
    if WakePhrase.detect text = some "" then
      Scene.awaitCommand (wiring now)
      return none
    else return some (← Scene.inRoom (carryOut now (Intent.resolve text)))

/-- Takes what the player typed, which should be a text. -/
def submit (typed : Heard) (now : Instant) : Act Hub (Option Reply) :=
  match typed with
  | .words text => submitText text now
  | .nothing => return none
  | .noise => throw .noOperation

/-- Checks badges and challenges until neither changes, after a round of a game. -/
def settle (now : Instant) : Act Hub (List Event) :=
  Scene.inRoom (onShelf (Shelf.settle now))

/-- Moves the clock forward. -/
def advance (seconds : Float) : Act Hub Unit :=
  Scene.advance Desk.goOff seconds

/-- A new hub. -/
def opened (settings : Settings) (host : Host) (storage : Storage) (preferences : Preferences)
    (now : Instant) : Except Fault Hub := do
  let ledger ← Ledger.start settings now
  let shelf := Shelf.subscribe ⟨ledger, storage⟩ .notices
  let permission ← Permission.ofSettings settings
  let chat ← Chat.start (settings.get "chat.history_limit" (.int 50))
    (settings.get "chat.greeting" (.str Settings.greeting)) now
  let pace ← Pace.ofSettings settings
  let voice ← Voice.ofSettings settings
  let desk ← Desk.ofSettings settings
  let room : Room Desk := {
    host := host
    storage := storage
    preferences := preferences
    voice := voice
    rest := { desk with chat := some chat, ledger := some shelf.ledger }
  }
  Scene.opened pace permission room

end Hub

end Arcade
