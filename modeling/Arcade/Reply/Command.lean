import Arcade.Calendar.Spoken
import Arcade.Intent.Resolve
import Arcade.Reply.Basic
import Arcade.Screen

/-!
# Carrying requests out

What the desk does for each action of a request. A failure of the host on the way is not passed on:
the reply is marked as not handled.
-/

namespace Arcade

/-- A reply in the making, in its room. -/
structure Turn where
  room : Room Desk
  reply : Reply

namespace Turn

/-- An act on the room. -/
def inRoom {α : Type} (a : Act (Room Desk) α) : Act Turn α :=
  a.within Turn.room fun t r => { t with room := r }

/-- Changes the reply. -/
def note (f : Reply → Reply) : Act Turn Unit :=
  modify fun t => { t with reply := f t.reply }

/-- Answers. -/
def say (o : Outlet) (text : Json) : Act Turn Unit := do
  note fun r => { r with response := text }
  inRoom (o.respond text)

/-- Shows another screen after the delay for it. -/
def go (path : String) : Act Turn Unit := do
  note fun r => { r with path := some path }
  inRoom (Desk.later (← get).room.rest.navigationDelay (.go path))

/-- The step by which the volume changes. -/
def volumeStep : Float := 0.1

/-- A volume between silence and the greatest one, with two places. -/
def boundedVolume (x : Float) : Float :=
  let atLeast := if 0 < x then x else 0
  let atMost := if atLeast < 1 then atLeast else 1
  Double.roundPlaces 2 atMost

/-- Changes the volume and unmutes the voice. -/
def changeVolume (step : Float) : Act (Room Desk) Unit := do
  let r ← get
  let volume ← Act.lift (r.volumeOr r.rest.volume)
  Room.prefer "speech_volume" (.num (.float (boundedVolume (volume + step))))
  Room.prefer "speech_muted" (.bool false)

/-- The answer to a question for coins. -/
def coinsText (ledger : Option Ledger) : String :=
  match ledger with
  | none => "Let me show you your coins."
  | some l =>
    let coins := l.document.tally.totalCoins
    "You have earned " ++ toString coins ++ (if coins = 1 then " coin" else " coins") ++
      " from daily challenges."

/-- Carries a request out. -/
def carryOut (o : Outlet) (now : Instant) (q : Request) : Act Turn Unit :=
  match q.action with
  | .navigate => do
    say o q.response
    go (Screen.pagePath q.target.text)
  | .play => do
    say o q.response
    go (Screen.gamePath q.target.text)
  | .close => do
    say o q.response
    note fun r => { r with closing := true }
    let room := (← get).room
    if room.host.equipment.onClose then inRoom (Desk.later room.rest.closeDelay .close)
  | .theme => do
    if q.target.truthy then
      inRoom (Room.prefer "theme" q.target)
      inRoom (Room.callIf Equipment.setTheme (.setTheme q.target))
    say o q.response
  | .time => say o (.str now.spoken)
  | .refresh => do
    say o q.response
    let room := (← get).room
    if room.host.equipment.reload then inRoom (Desk.later room.rest.navigationDelay .reload)
  | .coins => do
    say o (.str (coinsText (← get).room.rest.ledger))
    go (Screen.pagePath (if q.target.truthy then q.target.text else "dashboard"))
  | .clearChat => do
    note fun r => { r with response := .str Chat.clearedText }
    inRoom (Desk.change fun d => { d with chat := d.chat.map fun c => c.clear now })
  | .volumeUp => do
    inRoom (changeVolume volumeStep)
    say o q.response
  | .volumeDown => do
    inRoom (changeVolume (-volumeStep))
    say o q.response
  | .mute => do
    inRoom o.stopSpeaking
    inRoom (Room.prefer "speech_muted" (.bool true))
    say o q.response
  | .help | .gameInfo | .popularGames | .smallTalk | .fallback | .other _ =>
    say o (if q.response.truthy then q.response else .str Phrases.fallback)

end Turn

/-- Carries a request out and tells what became of it. -/
def Desk.reply (o : Outlet) (now : Instant) (q : Request) : Act (Room Desk) Reply :=
  Act.ofOutcome fun room =>
    let (r, turn) := (Turn.carryOut o now q).outcome ⟨room, { action := q.action }⟩
    (.ok { turn.reply with handled := r.toOption.isSome }, turn.room)

end Arcade
