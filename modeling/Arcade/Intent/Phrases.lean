import Arcade.Json.Basic
import Arcade.Text.Search

/-!
# Phrases

The words by which pages and games are recognised in a command, and the ready-made answers. The
tables are searched from the top: the first entry with a phrase that the command mentions wins.
-/

namespace Arcade.Phrases

/-- The pages and the phrases that name them. -/
def destinations : List (String × List String) :=
  [
    ("home", ["home", "main page", "start", "landing page", "homepage", "front page",
        "welcome page"]),
    ("games", ["games", "game list", "all games", "play games", "game library", "games page",
        "game collection"]),
    ("daily-challenges", ["daily challenges", "challenges", "daily", "challenge", "tasks",
        "missions", "quests", "daily tasks", "daily missions"]),
    ("dashboard", ["dashboard", "stats", "statistics", "progress", "analytics", "data",
        "performance", "my stats", "my progress", "my dashboard"]),
    ("badges", ["badges", "achievements", "trophies", "awards", "medals", "accomplishments",
        "my badges", "my achievements", "my trophies"]),
    ("about", ["about", "info", "information", "details", "learn more", "about page", "about us",
        "about gameverse"]),
    ("settings", ["settings", "preferences", "options", "configuration", "setup", "settings page",
        "my settings", "game settings"])
  ]

/-- The games and the phrases that name them. -/
def games : List (String × List String) :=
  [
    ("rock-paper-scissors", ["rock paper scissors", "rock paper", "rps", "rock", "scissors",
        "paper game", "rock paper scissor"]),
    ("number-guess", ["number guess", "guess number", "number guessing", "number game",
        "guessing game", "guess the number", "number guessing game"]),
    ("dice-roller", ["dice roller", "dice", "roll dice", "dice game", "rolling dice",
        "dice rolling", "roll the dice"]),
    ("memory-match", ["memory match", "memory game", "matching game", "match cards",
        "memory cards", "card matching", "memory matching"]),
    ("trivia-quiz", ["trivia quiz", "trivia", "quiz", "questions", "trivia game", "quiz game",
        "question game", "trivia questions"]),
    ("word-unscramble", ["word unscramble", "unscramble", "word game", "scramble", "word puzzle",
        "unscramble words", "word scramble"]),
    ("grid-puzzle", ["grid puzzle", "puzzle", "sliding puzzle", "tile puzzle", "grid game",
        "sliding tiles", "puzzle game"]),
    ("idle-clicker", ["idle clicker", "clicker", "clicking game", "idle game", "click game",
        "clicker game", "idle clicking"]),
    ("card-battle", ["card battle", "battle", "card game", "battle cards", "card fight",
        "card wars", "battle card game"]),
    ("reaction-speed", ["reaction speed", "reaction", "speed test", "reaction test",
        "reflex test", "reaction time", "speed reaction"])
  ]

/-- The first entry of a table with a phrase that is mentioned. -/
def lookUp (isMentioned : String → Bool) (table : List (String × List String)) : Option String :=
  (table.find? fun entry => entry.2.any isMentioned).map Prod.fst

/-- The page that a text names. -/
def destination? (text : String) : Option String :=
  lookUp (Text.mentions text) destinations

/-- The game that a text names. -/
def game? (text : String) : Option String :=
  lookUp (Text.mentions text) games

/-- What a value mentions: a list its items, an object its names. -/
def mentionedIn (v : Json) : Except Fault (String → Bool) :=
  match v with
  | .str s => .ok (Text.mentions s)
  | .arr items => .ok fun phrase => items.any (· = .str phrase)
  | .obj members => .ok fun phrase => (valueAt? phrase members).isSome
  | _ => .error .wrongKind

/-! ## Answers -/

/-- The answer to a call for help. -/
def helpText : String :=
  "\n".intercalate [
    "I can help you navigate GameVerse and provide information. " ++
      "Here are some commands you can try:",
    "",
    "Navigation:",
    "- \"Open Games\" to see all games",
    "- \"Go to Dashboard\" to see your stats",
    "- \"Show my badges\" to view your achievements",
    "- \"Open daily challenges\" to see today's challenges",
    "- \"Take me to settings\" to access settings",
    "",
    "Games:",
    "- \"Play Rock Paper Scissors\" to start a specific game",
    "- \"Tell me about Memory Match\" to learn about a game",
    "- \"What are the popular games?\" to get recommendations",
    "",
    "Other Commands:",
    "- \"Dark mode\" or \"Light mode\" to change theme",
    "- \"What time is it?\" to check the current time",
    "- \"Clear chat\" to reset our conversation",
    "- \"Close\" or \"Exit\" to close this chat",
    "",
    "You can activate me anytime by saying \"Hey Buddy\" followed by a command."
  ]

/-- The answer to a farewell. -/
def goodbye : String :=
  "Goodbye! Closing the chat window."

/-- The answer to a question for recommended games. -/
def popularGames : String :=
  "Our most popular games are Rock Paper Scissors, Memory Match, and Trivia Quiz. Would " ++
    "you like to play one of these?"

/-- The answer to everything that is not understood. -/
def fallback : String :=
  "I'm not sure how to help with that. Try asking me to open a game, show your stats, or " ++
    "navigate to a specific page. Say 'help' for more options."

/-- Small talk: the phrases and the answers to them. -/
def smallTalk : List (List String × String) :=
  [
    (["hello", "hi "], "Hello! How can I help you with GameVerse today?"),
    (["thank"], "You're welcome! Is there anything else I can help you with?"),
    (["who are you", "what are you"],
      "I'm GameVerse Buddy, your virtual assistant for the GameVerse platform. I can help " ++
        "you navigate the site, play games, and check your progress."),
    (["how do i play", "how to play"],
      "You can browse our games by saying 'Open Games' or directly start a specific game by " ++
        "saying 'Play' followed by the game name, like 'Play Rock Paper Scissors'."),
    (["best game", "recommend", "suggestion"],
      "I'd recommend trying Memory Match or Trivia Quiz if you're new. Rock Paper Scissors " ++
        "is also a classic favorite!")
  ]

end Arcade.Phrases
