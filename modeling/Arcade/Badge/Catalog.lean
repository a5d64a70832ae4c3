import Arcade.Rule.Basic

/-!
# The badges

Every badge that can be earned, in the order in which badges are shown and checked, with the rule
that earns it. The list only ever grows at its end, and no identifier occurs twice.
-/

namespace Arcade.Badge

/-- A badge as the catalog describes it. -/
structure Design where
  id : String
  title : String
  description : String
  /-- The game that the badge is shown with. -/
  game : String
  requirement : String
  icon : String
  rule : Rule
deriving DecidableEq, Repr

/-- The badges of Rock Paper Scissors. -/
def rockPaperScissors : List Design :=
  [
    ⟨"rps_novice", "RPS Novice", "Win your first few rounds of Rock Paper Scissors",
      "rock-paper-scissors", "Win 3 games", "hand",
      .record "rock-paper-scissors" [.least "wins" 3]⟩,
    ⟨"rps_intermediate", "RPS Contender", "Show you can read your opponent",
      "rock-paper-scissors", "Win 10 games", "hand",
      .record "rock-paper-scissors" [.least "wins" 10]⟩,
    ⟨"rps_advanced", "RPS Tactician", "Rock, paper and scissors bend to your will",
      "rock-paper-scissors", "Win 25 games", "medal",
      .record "rock-paper-scissors" [.least "wins" 25]⟩,
    ⟨"rps_expert", "RPS Expert", "Fifty victories in the arena of hands", "rock-paper-scissors",
      "Win 50 games", "trophy", .record "rock-paper-scissors" [.least "wins" 50]⟩,
    ⟨"rps_master", "RPS Master", "The undisputed champion of Rock Paper Scissors",
      "rock-paper-scissors", "Win 100 games", "crown",
      .record "rock-paper-scissors" [.least "wins" 100]⟩,
    ⟨"rps_streak_3", "Hot Hand", "Win three rounds in a row", "rock-paper-scissors",
      "Reach a 3-win streak", "flame", .record "rock-paper-scissors" [.streak 3]⟩,
    ⟨"rps_streak_5", "On Fire", "Win five rounds in a row", "rock-paper-scissors",
      "Reach a 5-win streak", "flame", .record "rock-paper-scissors" [.streak 5]⟩,
    ⟨"rps_streak_10", "Unstoppable", "Win ten rounds in a row", "rock-paper-scissors",
      "Reach a 10-win streak", "flame", .record "rock-paper-scissors" [.streak 10]⟩,
    ⟨"rps_plays_50", "RPS Regular", "Keep coming back for another round", "rock-paper-scissors",
      "Play 50 games", "repeat", .record "rock-paper-scissors" [.least "plays" 50]⟩,
    ⟨"rps_plays_100", "RPS Devotee", "A hundred rounds of hand-to-hand strategy",
      "rock-paper-scissors", "Play 100 games", "repeat",
      .record "rock-paper-scissors" [.least "plays" 100]⟩
  ]

/-- The badges of Number Guess. -/
def numberGuess : List Design :=
  [
    ⟨"guess_novice", "Number Novice", "Take your first guesses", "number-guess", "Play 3 games",
      "hash", .record "number-guess" [.least "plays" 3]⟩,
    ⟨"guess_intermediate", "Number Hunter", "Getting a feel for the numbers", "number-guess",
      "Play 10 games", "hash", .record "number-guess" [.least "plays" 10]⟩,
    ⟨"guess_advanced", "Number Tracker", "The numbers can't hide for long", "number-guess",
      "Play 25 games", "target", .record "number-guess" [.least "plays" 25]⟩,
    ⟨"guess_expert", "Sharp Guesser", "Find the number quickly", "number-guess",
      "Win in 5 guesses or fewer", "target", .record "number-guess" [.best "bestScore" 5]⟩,
    ⟨"guess_master", "Mind Reader", "Find the number very quickly", "number-guess",
      "Win in 3 guesses or fewer", "brain", .record "number-guess" [.best "bestScore" 3]⟩,
    ⟨"guess_plays_50", "Guess Regular", "Fifty numbers found", "number-guess", "Play 50 games",
      "repeat", .record "number-guess" [.least "plays" 50]⟩,
    ⟨"guess_plays_100", "Guess Devotee", "A hundred numbers found", "number-guess",
      "Play 100 games", "repeat", .record "number-guess" [.least "plays" 100]⟩,
    ⟨"guess_perfect", "First Try", "Guess the number on your very first attempt",
      "number-guess", "Win in 1 guess", "sparkles",
      .record "number-guess" [.bestJust "bestScore" 1]⟩,
    ⟨"guess_persistent", "Persistent Guesser", "Keep playing and keep improving",
      "number-guess", "Play 5 games and win in 7 guesses or fewer", "target",
      .record "number-guess" [.least "plays" 5, .best "bestScore" 7]⟩,
    ⟨"guess_lucky", "Lucky Streak", "Find the number almost immediately", "number-guess",
      "Win in 2 guesses or fewer", "clover", .record "number-guess" [.best "bestScore" 2]⟩
  ]

/-- The badges of Memory Match. -/
def memoryMatch : List Design :=
  [
    ⟨"memory_novice", "Memory Novice", "Complete the first level", "memory-match",
      "Reach level 1", "brain", .record "memory-match" [.least "level" 1]⟩,
    ⟨"memory_intermediate", "Memory Keeper", "Your memory is getting stronger", "memory-match",
      "Reach level 2", "brain", .record "memory-match" [.least "level" 2]⟩,
    ⟨"memory_advanced", "Memory Adept", "Pairs are starting to jump out at you", "memory-match",
      "Reach level 3", "brain", .record "memory-match" [.least "level" 3]⟩,
    ⟨"memory_expert", "Memory Expert", "Conquer the hardest level", "memory-match",
      "Reach level 4", "medal", .record "memory-match" [.least "level" 4]⟩,
    ⟨"memory_master", "Memory Master", "Beat the hardest level efficiently", "memory-match",
      "Reach level 4 with a best of 20 moves or fewer", "crown",
      .record "memory-match" [.least "level" 4, .best "bestScore" 20]⟩,
    ⟨"memory_quick", "Quick Recall", "Clear a board in few moves", "memory-match",
      "Best of 15 moves or fewer", "zap", .record "memory-match" [.best "bestScore" 15]⟩,
    ⟨"memory_efficient", "Efficient Mind", "Clear a board in very few moves", "memory-match",
      "Best of 12 moves or fewer", "zap", .record "memory-match" [.best "bestScore" 12]⟩,
    ⟨"memory_plays_25", "Memory Regular", "Twenty-five boards cleared", "memory-match",
      "Play 25 games", "repeat", .record "memory-match" [.least "plays" 25]⟩,
    ⟨"memory_plays_50", "Memory Devotee", "Fifty boards cleared", "memory-match",
      "Play 50 games", "repeat", .record "memory-match" [.least "plays" 50]⟩,
    ⟨"memory_perfect", "Photographic Memory", "Near-perfect play on the hardest level",
      "memory-match", "Reach level 4 with a best of 16 moves or fewer", "sparkles",
      .record "memory-match" [.least "level" 4, .best "bestScore" 16]⟩
  ]

/-- The badges of Trivia Quiz. -/
def triviaQuiz : List Design :=
  [
    ⟨"trivia_novice", "Trivia Novice", "Answer a few questions correctly", "trivia-quiz",
      "Score 3 points", "help-circle", .record "trivia-quiz" [.least "score" 3]⟩,
    ⟨"trivia_intermediate", "Trivia Buff", "Know your facts", "trivia-quiz", "Score 5 points",
      "help-circle", .record "trivia-quiz" [.least "score" 5]⟩,
    ⟨"trivia_advanced", "Trivia Ace", "Get a perfect round", "trivia-quiz", "Best score of 5",
      "medal", .record "trivia-quiz" [.least "bestScore" 5]⟩,
    ⟨"trivia_expert", "Trivia Expert", "Perfect rounds are routine for you", "trivia-quiz",
      "Best score of 5 and 10 games played", "trophy",
      .record "trivia-quiz" [.least "bestScore" 5, .least "plays" 10]⟩,
    ⟨"trivia_master", "Trivia Master", "A walking encyclopedia", "trivia-quiz",
      "Best score of 5 and 25 games played", "crown",
      .record "trivia-quiz" [.least "bestScore" 5, .least "plays" 25]⟩,
    ⟨"trivia_perfect", "Perfectionist", "Prove your perfect round was no fluke", "trivia-quiz",
      "Best score of 5 and 5 games played", "sparkles",
      .record "trivia-quiz" [.least "bestScore" 5, .least "plays" 5]⟩,
    ⟨"trivia_quick", "Quick Thinker", "Strong answers from the start", "trivia-quiz",
      "Best score of 4 and 3 games played", "zap",
      .record "trivia-quiz" [.least "bestScore" 4, .least "plays" 3]⟩,
    ⟨"trivia_plays_25", "Trivia Regular", "Twenty-five quizzes taken", "trivia-quiz",
      "Play 25 games", "repeat", .record "trivia-quiz" [.least "plays" 25]⟩,
    ⟨"trivia_plays_50", "Trivia Devotee", "Fifty quizzes taken", "trivia-quiz", "Play 50 games",
      "repeat", .record "trivia-quiz" [.least "plays" 50]⟩,
    ⟨"trivia_knowledgeable", "Knowledgeable", "Consistently strong across many quizzes",
      "trivia-quiz", "Best score of 4 and 15 games played", "book-open",
      .record "trivia-quiz" [.least "bestScore" 4, .least "plays" 15]⟩
  ]

/-- The badges of Word Unscramble. -/
def wordUnscramble : List Design :=
  [
    ⟨"word_novice", "Word Novice", "Unscramble your first words", "word-unscramble",
      "Solve 3 words", "type", .record "word-unscramble" [.least "solved" 3]⟩,
    ⟨"word_intermediate", "Word Finder", "Letters are falling into place", "word-unscramble",
      "Solve 10 words", "type", .record "word-unscramble" [.least "solved" 10]⟩,
    ⟨"word_advanced", "Word Smith", "A talent for tangled letters", "word-unscramble",
      "Solve 25 words", "medal", .record "word-unscramble" [.least "solved" 25]⟩,
    ⟨"word_expert", "Word Expert", "Fifty words untangled", "word-unscramble", "Solve 50 words",
      "trophy", .record "word-unscramble" [.least "solved" 50]⟩,
    ⟨"word_master", "Word Master", "No scramble can stop you", "word-unscramble",
      "Solve 100 words", "crown", .record "word-unscramble" [.least "solved" 100]⟩,
    ⟨"word_no_hints", "No Help Needed", "Solve words on your own", "word-unscramble",
      "Solve 10 words without using hints", "eye-off",
      .record "word-unscramble" [.least "solved" 10, .just "hintsUsed" 0]⟩,
    ⟨"word_efficient", "Efficient Solver", "Use hints sparingly", "word-unscramble",
      "Solve 20 words using 5 hints or fewer", "zap",
      .record "word-unscramble" [.least "solved" 20, .upTo "hintsUsed" 5]⟩,
    ⟨"word_plays_25", "Word Regular", "Twenty-five games of unscrambling", "word-unscramble",
      "Play 25 games", "repeat", .record "word-unscramble" [.least "plays" 25]⟩,
    ⟨"word_plays_50", "Word Devotee", "Fifty games of unscrambling", "word-unscramble",
      "Play 50 games", "repeat", .record "word-unscramble" [.least "plays" 50]⟩,
    ⟨"word_vocabulary", "Rich Vocabulary", "Thirty words and counting", "word-unscramble",
      "Solve 30 words", "book-open", .record "word-unscramble" [.least "solved" 30]⟩
  ]

/-- The badges of Grid Puzzle. -/
def gridPuzzle : List Design :=
  [
    ⟨"puzzle_novice", "Puzzle Novice", "Slide your first tiles", "grid-puzzle", "Play 1 game",
      "puzzle", .record "grid-puzzle" [.least "plays" 1]⟩,
    ⟨"puzzle_intermediate", "Puzzle Solver", "The grid is starting to make sense",
      "grid-puzzle", "Play 5 games", "puzzle", .record "grid-puzzle" [.least "plays" 5]⟩,
    ⟨"puzzle_advanced", "Puzzle Adept", "Sliding tiles is second nature", "grid-puzzle",
      "Play 15 games", "puzzle", .record "grid-puzzle" [.least "plays" 15]⟩,
    ⟨"puzzle_expert", "Puzzle Expert", "Solve the grid with few moves", "grid-puzzle",
      "Best of 50 moves or fewer", "medal", .record "grid-puzzle" [.best "bestMoves" 50]⟩,
    ⟨"puzzle_master", "Puzzle Master", "Solve the grid with very few moves", "grid-puzzle",
      "Best of 30 moves or fewer", "crown", .record "grid-puzzle" [.best "bestMoves" 30]⟩,
    ⟨"puzzle_quick", "Quick Slider", "Solve the grid fast", "grid-puzzle",
      "Best time of 60 seconds or less", "clock", .record "grid-puzzle" [.best "bestTime" 60]⟩,
    ⟨"puzzle_efficient", "Efficient Slider", "Waste no moves", "grid-puzzle",
      "Best of 40 moves or fewer", "zap", .record "grid-puzzle" [.best "bestMoves" 40]⟩,
    ⟨"puzzle_plays_25", "Puzzle Regular", "Twenty-five grids solved", "grid-puzzle",
      "Play 25 games", "repeat", .record "grid-puzzle" [.least "plays" 25]⟩,
    ⟨"puzzle_plays_50", "Puzzle Devotee", "Fifty grids solved", "grid-puzzle", "Play 50 games",
      "repeat", .record "grid-puzzle" [.least "plays" 50]⟩,
    ⟨"puzzle_speed_demon", "Speed Demon", "Solve the grid blazingly fast", "grid-puzzle",
      "Best time of 45 seconds or less", "flame", .record "grid-puzzle" [.best "bestTime" 45]⟩
  ]

/-- The badges of Idle Clicker. -/
def idleClicker : List Design :=
  [
    ⟨"clicker_novice", "Coin Collector", "Start your fortune", "idle-clicker", "Earn 100 coins",
      "coins", .record "idle-clicker" [.least "coins" 100]⟩,
    ⟨"clicker_intermediate", "Coin Hoarder", "Your pile is growing", "idle-clicker",
      "Earn 500 coins", "coins", .record "idle-clicker" [.least "coins" 500]⟩,
    ⟨"clicker_advanced", "Coin Baron", "A thousand shiny coins", "idle-clicker",
      "Earn 1,000 coins", "medal", .record "idle-clicker" [.least "coins" 1000]⟩,
    ⟨"clicker_expert", "Coin Tycoon", "A serious fortune", "idle-clicker", "Earn 5,000 coins",
      "trophy", .record "idle-clicker" [.least "coins" 5000]⟩,
    ⟨"clicker_master", "Coin Magnate", "Ten thousand coins in the vault", "idle-clicker",
      "Earn 10,000 coins", "crown", .record "idle-clicker" [.least "coins" 10000]⟩,
    ⟨"clicker_clicks_100", "Busy Finger", "Click, click, click", "idle-clicker",
      "Click 100 times", "mouse-pointer", .record "idle-clicker" [.least "clicks" 100]⟩,
    ⟨"clicker_clicks_500", "Tireless Clicker", "Your mouse deserves a break", "idle-clicker",
      "Click 500 times", "mouse-pointer", .record "idle-clicker" [.least "clicks" 500]⟩,
    ⟨"clicker_cps_10", "Automation Apprentice", "Let upgrades do the work", "idle-clicker",
      "Reach 10 coins per second", "cpu", .record "idle-clicker" [.least "cps" 10]⟩,
    ⟨"clicker_cps_50", "Automation Engineer", "A well-oiled coin machine", "idle-clicker",
      "Reach 50 coins per second", "cpu", .record "idle-clicker" [.least "cps" 50]⟩,
    ⟨"clicker_cps_100", "Automation Mogul", "Coins pour in on their own", "idle-clicker",
      "Reach 100 coins per second", "cpu", .record "idle-clicker" [.least "cps" 100]⟩
  ]

/-- The badges of Card Battle. -/
def cardBattle : List Design :=
  [
    ⟨"battle_novice", "Battle Novice", "Win your first battles", "card-battle", "Win 3 battles",
      "swords", .record "card-battle" [.least "wins" 3]⟩,
    ⟨"battle_intermediate", "Battle Veteran", "Your deck is battle-tested", "card-battle",
      "Win 10 battles", "swords", .record "card-battle" [.least "wins" 10]⟩,
    ⟨"battle_advanced", "Battle Commander", "Victory follows your cards", "card-battle",
      "Win 25 battles", "medal", .record "card-battle" [.least "wins" 25]⟩,
    ⟨"battle_expert", "Battle Expert", "Fifty opponents defeated", "card-battle",
      "Win 50 battles", "trophy", .record "card-battle" [.least "wins" 50]⟩,
    ⟨"battle_master", "Battle Master", "Legend of the card table", "card-battle",
      "Win 100 battles", "crown", .record "card-battle" [.least "wins" 100]⟩,
    ⟨"battle_strategist", "Strategist", "Win often and lose rarely", "card-battle",
      "Win 15 battles with 5 losses or fewer", "shield",
      .record "card-battle" [.least "wins" 15, .upTo "losses" 5]⟩,
    ⟨"battle_comeback", "Comeback Kid", "Every loss taught you something", "card-battle",
      "Win 10 battles after losing 10", "rotate-ccw",
      .record "card-battle" [.least "wins" 10, .least "losses" 10]⟩,
    ⟨"battle_plays_25", "Battle Regular", "Twenty-five battles fought", "card-battle",
      "Play 25 battles", "repeat", .record "card-battle" [.least "plays" 25]⟩,
    ⟨"battle_plays_50", "Battle Devotee", "Fifty battles fought", "card-battle",
      "Play 50 battles", "repeat", .record "card-battle" [.least "plays" 50]⟩,
    ⟨"battle_undefeated", "Undefeated", "Win without ever losing", "card-battle",
      "Win 5 battles with no losses", "shield",
      .record "card-battle" [.least "wins" 5, .just "losses" 0]⟩
  ]

/-- The badges of Reaction Speed. -/
def reactionSpeed : List Design :=
  [
    ⟨"reaction_novice", "Quick Reflexes", "React in half a second", "reaction-speed",
      "Best time of 500 ms or less", "zap", .record "reaction-speed" [.best "bestTime" 500]⟩,
    ⟨"reaction_intermediate", "Sharp Reflexes", "React faster still", "reaction-speed",
      "Best time of 400 ms or less", "zap", .record "reaction-speed" [.best "bestTime" 400]⟩,
    ⟨"reaction_advanced", "Rapid Reflexes", "A blink of an eye", "reaction-speed",
      "Best time of 300 ms or less", "medal", .record "reaction-speed" [.best "bestTime" 300]⟩,
    ⟨"reaction_expert", "Reflex Expert", "Faster than most", "reaction-speed",
      "Best time of 250 ms or less", "trophy", .record "reaction-speed" [.best "bestTime" 250]⟩,
    ⟨"reaction_master", "Reflex Master", "Elite reaction speed", "reaction-speed",
      "Best time of 200 ms or less", "crown", .record "reaction-speed" [.best "bestTime" 200]⟩,
    ⟨"reaction_lightning", "Lightning", "Strike like lightning", "reaction-speed",
      "Best time of 180 ms or less", "bolt", .record "reaction-speed" [.best "bestTime" 180]⟩,
    ⟨"reaction_superhuman", "Superhuman", "Are you even human?", "reaction-speed",
      "Best time of 150 ms or less", "sparkles",
      .record "reaction-speed" [.best "bestTime" 150]⟩,
    ⟨"reaction_plays_25", "Reaction Regular", "Twenty-five reaction tests", "reaction-speed",
      "Play 25 games", "repeat", .record "reaction-speed" [.least "plays" 25]⟩,
    ⟨"reaction_plays_50", "Reaction Devotee", "Fifty reaction tests", "reaction-speed",
      "Play 50 games", "repeat", .record "reaction-speed" [.least "plays" 50]⟩,
    ⟨"reaction_consistent", "Consistent", "Reliably fast over many attempts", "reaction-speed",
      "Play 10 games with a best time of 300 ms or less", "activity",
      .record "reaction-speed" [.least "plays" 10, .best "bestTime" 300]⟩
  ]

/-- The badges for what is achieved across games. -/
def acrossGames : List Design :=
  [
    ⟨"gameverse_novice", "Explorer", "Try out different games", "all", "Play 3 different games",
      "compass", .counts .gamesPlayed .atLeast 3⟩,
    ⟨"gameverse_intermediate", "Adventurer", "Broaden your horizons", "all",
      "Play 5 different games", "compass", .counts .gamesPlayed .atLeast 5⟩,
    ⟨"gameverse_advanced", "Globetrotter", "Most of the GameVerse explored", "all",
      "Play 7 different games", "map", .counts .gamesPlayed .atLeast 7⟩,
    ⟨"gameverse_expert", "Completionist", "Almost every game played", "all",
      "Play 9 different games", "map", .counts .gamesPlayed .atLeast 9⟩,
    ⟨"gameverse_master", "GameVerse Master", "You've played every single game", "all",
      "Play all 10 games", "crown", .counts .gamesPlayed .atLeast 10⟩,
    ⟨"gameverse_addict", "GameVerse Addict", "One more game... again", "all",
      "Play 100 games in total", "flame", .counts .totalPlays .atLeast 100⟩,
    ⟨"badge_collector_bronze", "Bronze Collector", "Start a badge collection", "all",
      "Unlock 10 badges", "award", .counts .badgesUnlocked .atLeast 10⟩,
    ⟨"badge_collector_silver", "Silver Collector", "A growing trophy cabinet", "all",
      "Unlock 25 badges", "award", .counts .badgesUnlocked .atLeast 25⟩,
    ⟨"badge_collector_gold", "Gold Collector", "A glittering collection", "all",
      "Unlock 50 badges", "award", .counts .badgesUnlocked .atLeast 50⟩,
    ⟨"badge_collector_platinum", "Platinum Collector", "Few badges remain", "all",
      "Unlock 75 badges", "gem", .counts .badgesUnlocked .atLeast 75⟩,
    ⟨"challenge_master", "Challenge Master", "Daily challenges are your routine", "all",
      "Complete 25 daily challenges", "calendar-check",
      .counts .challengesCompleted .atLeast 25⟩
  ]

/-- All badges in catalog order. -/
def catalog : List Design :=
  rockPaperScissors ++ numberGuess ++ memoryMatch ++ triviaQuiz ++ wordUnscramble ++
    gridPuzzle ++ idleClicker ++ cardBattle ++ reactionSpeed ++ acrossGames

/-- The rule that earns the badge with an identifier. -/
def rule? (id : String) : Option Rule :=
  (catalog.find? (·.id = id)).map Design.rule

end Arcade.Badge
