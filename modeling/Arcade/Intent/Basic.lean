import Arcade.Number.Basic

/-!
# Intents

An intent is what a command asks for: a coarse kind, the action to carry out, the command itself
and, where the action needs them, a target and the words to answer with. Actions that nobody
knows how to carry out are kept by name.
-/

namespace Arcade

/-- The coarse kind of a command. -/
inductive IntentKind where
  | navigate
  | playGame
  | help
  | settingsChange
  | query
  | close
  | unknown
deriving DecidableEq, Repr

namespace IntentKind

def name : IntentKind → String
  | .navigate => "navigate"
  | .playGame => "play_game"
  | .help => "help"
  | .settingsChange => "settings_change"
  | .query => "query"
  | .close => "close"
  | .unknown => "unknown"

def all : List IntentKind :=
  [.navigate, .playGame, .help, .settingsChange, .query, .close, .unknown]

def ofName? (name : String) : Option IntentKind :=
  all.find? (·.name = name)

theorem ofName?_name (k : IntentKind) : ofName? k.name = some k := by
  cases k <;> rfl

end IntentKind

/-- What is to be done about a command. -/
inductive IntentAction where
  | navigate
  | play
  | help
  | close
  | theme
  | time
  | gameInfo
  | refresh
  | popularGames
  | coins
  | clearChat
  | volumeUp
  | volumeDown
  | mute
  | smallTalk
  | fallback
  /-- An action that is only answered. -/
  | other (name : String)
deriving DecidableEq, Repr

namespace IntentAction

def name : IntentAction → String
  | .navigate => "navigate"
  | .play => "play"
  | .help => "help"
  | .close => "close"
  | .theme => "theme"
  | .time => "time"
  | .gameInfo => "game_info"
  | .refresh => "refresh"
  | .popularGames => "popular_games"
  | .coins => "coins"
  | .clearChat => "clear_chat"
  | .volumeUp => "volume_up"
  | .volumeDown => "volume_down"
  | .mute => "mute"
  | .smallTalk => "small_talk"
  | .fallback => "fallback"
  | .other name => name

/-- The actions with a meaning of their own. -/
def known : List IntentAction :=
  [.navigate, .play, .help, .close, .theme, .time, .gameInfo, .refresh, .popularGames, .coins,
    .clearChat, .volumeUp, .volumeDown, .mute, .smallTalk, .fallback]

def ofName (name : String) : IntentAction :=
  (known.find? (·.name = name)).getD (.other name)

end IntentAction

/-- What a command asks for. -/
structure Intent where
  kind : IntentKind
  action : IntentAction
  rawText : String
  /-- The page, game or theme that the action is about. -/
  target : Option String := none
  /-- The answer, where it does not depend on anything but the command. -/
  response : Option String := none
deriving DecidableEq, Repr

/-- The longest part of a command that is shown with its intent. -/
def Intent.shownLength : Nat := 50

/-- The intent on one line. -/
def Intent.text (i : Intent) : String :=
  let target := match i.target with
    | none | some "" => ""
    | some t => ", target='" ++ t ++ "'"
  "Intent(" ++ i.kind.name ++ "/" ++ i.action.name ++ target ++ ", text='" ++
    Text.take shownLength i.rawText ++ "')"

end Arcade
