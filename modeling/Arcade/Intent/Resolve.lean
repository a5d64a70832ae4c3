import Arcade.Game.Registry
import Arcade.Intent.Basic
import Arcade.Intent.Phrases
import Arcade.Speech.WakePhrase

/-!
# From commands to intents

A command is matched against categories in a fixed order. A category applies when the command
mentions one of its phrases, and it may still decline, such as navigation without a known page.
The first category that gives an intent wins. What no category takes is small talk or not
understood. The wake phrase in front of a command does not count.
-/

namespace Arcade

namespace Intent

/-- The intent to go to a page. -/
def toPage (text page : String) : Intent :=
  ⟨.navigate, .navigate, text, some page, some ("Taking you to " ++ Game.displayName page ++ "...")⟩

/-- The intent to change between dark and light. -/
def toTheme (text : String) : Intent :=
  if Text.mentions text "dark" then
    ⟨.settingsChange, .theme, text, some "dark", some "Switching to dark mode."⟩
  else if Text.mentions text "light" then
    ⟨.settingsChange, .theme, text, some "light", some "Switching to light mode."⟩
  else
    ⟨.settingsChange, .theme, text, none,
      some "You can say 'dark mode' or 'light mode' to change the theme."⟩

/-- A kind of command, recognised by its phrases. -/
structure Category where
  phrases : List String
  /-- The intent of a command with one of the phrases, unless the category declines. -/
  intent? : String → Option Intent

/-- The categories in the order in which they are tried. -/
def categories : List Category :=
  [
    ⟨["go to", "open", "navigate to", "take me to"],
      fun text => (Phrases.destination? text).map (toPage text)⟩,
    ⟨["play", "start game", "launch game"],
      fun text => (Phrases.game? text).map fun game =>
        ⟨.playGame, .play, text, some game, some ("Opening " ++ Game.displayName game ++ "...")⟩⟩,
    ⟨["help", "what can you do", "commands", "how to use"],
      fun text => some ⟨.help, .help, text, none, some Phrases.helpText⟩⟩,
    ⟨["stats", "statistics", "progress", "my performance"],
      fun text => some (toPage text "dashboard")⟩,
    ⟨["badges", "achievements", "trophies", "awards"],
      fun text => some (toPage text "badges")⟩,
    ⟨["challenges", "daily challenges", "tasks", "missions"],
      fun text => some (toPage text "daily-challenges")⟩,
    ⟨["close", "exit", "bye", "goodbye"],
      fun text => some ⟨.close, .close, text, none, some Phrases.goodbye⟩⟩,
    ⟨["dark mode", "light mode", "theme", "change color"],
      fun text => some (toTheme text)⟩,
    ⟨["time", "date", "day", "today"],
      fun text => some ⟨.query, .time, text, none, none⟩⟩,
    ⟨["tell me about", "what is", "how to play"],
      fun text => (Phrases.game? text).map fun game =>
        ⟨.query, .gameInfo, text, some game, some (Game.describe game)⟩⟩,
    ⟨["settings", "preferences", "options"],
      fun text => some (toPage text "settings")⟩,
    ⟨["about", "information", "info"],
      fun text => some (toPage text "about")⟩,
    ⟨["refresh", "reload", "update"],
      fun text => some ⟨.navigate, .refresh, text, none, some "Refreshing the page..."⟩⟩,
    ⟨["home", "main page", "start page"],
      fun text => some (toPage text "home")⟩,
    ⟨["games list", "all games", "show games"],
      fun text => some (toPage text "games")⟩,
    ⟨["popular games", "best games", "recommended games"],
      fun text => some ⟨.query, .popularGames, text, none, some Phrases.popularGames⟩⟩,
    ⟨["coins", "how many coins", "my coins"],
      fun text => some ⟨.query, .coins, text, some "dashboard", none⟩⟩,
    ⟨["clear chat", "clear messages", "reset chat"],
      fun text => some ⟨.settingsChange, .clearChat, text, none, none⟩⟩,
    ⟨["volume up", "louder", "increase volume"],
      fun text => some ⟨.settingsChange, .volumeUp, text, none, some "I've increased the volume."⟩⟩,
    ⟨["volume down", "quieter", "decrease volume"],
      fun text =>
        some ⟨.settingsChange, .volumeDown, text, none, some "I've decreased the volume."⟩⟩,
    ⟨["mute", "silent", "stop speaking"],
      fun text => some ⟨.settingsChange, .mute, text, none, some "I've muted the audio."⟩⟩
  ]

/-- The intent of a command that is not understood. -/
def notUnderstood (text : String) : Intent :=
  ⟨.unknown, .fallback, text, none, some Phrases.fallback⟩

/-- The intent of small talk, or of a command that is not understood. -/
def conversation (text : String) : Intent :=
  match Phrases.smallTalk.find? fun entry => Text.mentionsAny text entry.1 with
  | some (_, reply) => ⟨.query, .smallTalk, text, none, some reply⟩
  | none => notUnderstood text

/-- The intent that a category gives for a command. -/
def Category.take? (c : Category) (text : String) : Option Intent :=
  if Text.mentionsAny text c.phrases then c.intent? text else none

/-- The intent of a command. -/
def classify (text : String) : Intent :=
  (categories.findSome? (·.take? text)).getD (conversation text)

/-- The intent of a text, with or without the wake phrase. -/
def resolve (text : String) : Intent :=
  classify (WakePhrase.strip text)

end Intent

/-- The intent of what was heard; what is not a text is not understood. -/
def Heard.intent : Heard → Intent
  | .words text => Intent.resolve text
  | .nothing => Intent.resolve ""
  | .noise => Intent.notUnderstood ""

end Arcade
