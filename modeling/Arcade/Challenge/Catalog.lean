import Arcade.Rule.Basic

/-!
# The daily challenges

The challenges of every day, in the order in which they are shown and checked, with the rules
that they are met by and the coins that they bring.
-/

namespace Arcade.Challenge

/-- A challenge as the catalog describes it. -/
structure Design where
  id : String
  title : String
  description : String
  game : String
  requirement : String
  rewardCoins : Nat
  rule : Rule
deriving DecidableEq, Repr

/-- All challenges of a day in catalog order. -/
def catalog : List Design :=
  [
    ⟨"rps_daily_win_3", "Triple Victory", "Win 3 games of Rock Paper Scissors",
      "rock-paper-scissors", "Win 3 games", 50, .record "rock-paper-scissors" [.least "wins" 3]⟩,
    ⟨"rps_daily_play_5", "Hand Warm-up", "Play 5 games of Rock Paper Scissors",
      "rock-paper-scissors", "Play 5 games", 30,
      .record "rock-paper-scissors" [.least "plays" 5]⟩,
    ⟨"guess_daily_win", "Lucky Number", "Find the hidden number", "number-guess", "Win 1 game",
      30, .record "number-guess" [.least "plays" 1, .exceeds "score" 0]⟩,
    ⟨"guess_daily_under_5", "Sharp Guess", "Find the number in 5 guesses or fewer",
      "number-guess", "Win in 5 guesses or fewer", 60,
      .record "number-guess" [.best "bestScore" 5]⟩,
    ⟨"memory_daily_complete", "Memory Workout", "Complete a game of Memory Match",
      "memory-match", "Play 1 game", 30, .record "memory-match" [.least "plays" 1]⟩,
    ⟨"memory_daily_level_2", "Level Up", "Reach level 2 in Memory Match", "memory-match",
      "Reach level 2", 50, .record "memory-match" [.least "level" 2]⟩,
    ⟨"trivia_daily_score_3", "Fact Finder", "Score at least 3 points in Trivia Quiz",
      "trivia-quiz", "Score 3 points", 40, .record "trivia-quiz" [.least "score" 3]⟩,
    ⟨"trivia_daily_perfect", "Perfect Quiz", "Score 5 points in Trivia Quiz", "trivia-quiz",
      "Score 5 points", 80, .record "trivia-quiz" [.least "score" 5]⟩,
    ⟨"word_daily_solve_3", "Word Warm-up", "Unscramble 3 words", "word-unscramble",
      "Solve 3 words", 40, .record "word-unscramble" [.least "solved" 3]⟩,
    ⟨"word_daily_no_hints", "On Your Own", "Solve a word without using a hint",
      "word-unscramble", "Solve 1 word with no hints", 50,
      .record "word-unscramble" [.least "solved" 1, .just "hintsUsed" 0]⟩,
    ⟨"puzzle_daily_complete", "Slide Away", "Complete a Grid Puzzle", "grid-puzzle",
      "Play 1 game", 30, .record "grid-puzzle" [.least "plays" 1]⟩,
    ⟨"puzzle_daily_under_50", "Lean Solver", "Solve a Grid Puzzle in 50 moves or fewer",
      "grid-puzzle", "Best of 50 moves or fewer", 70,
      .record "grid-puzzle" [.best "bestMoves" 50]⟩,
    ⟨"clicker_daily_100", "Pocket Change", "Earn 100 coins in Idle Clicker", "idle-clicker",
      "Earn 100 coins", 30, .record "idle-clicker" [.least "coins" 100]⟩,
    ⟨"clicker_daily_clicks_50", "Click Sprint", "Click 50 times in Idle Clicker",
      "idle-clicker", "Click 50 times", 30, .record "idle-clicker" [.least "clicks" 50]⟩,
    ⟨"battle_daily_win", "First Blood", "Win a Card Battle", "card-battle", "Win 1 battle", 40,
      .record "card-battle" [.least "wins" 1]⟩,
    ⟨"battle_daily_win_3", "Battle Streak", "Win 3 Card Battles", "card-battle",
      "Win 3 battles", 70, .record "card-battle" [.least "wins" 3]⟩,
    ⟨"reaction_daily_under_400", "Quick Draw", "React in 400 ms or less", "reaction-speed",
      "Best time of 400 ms or less", 50, .record "reaction-speed" [.best "bestTime" 400]⟩,
    ⟨"reaction_daily_play_5", "Reflex Training", "Play 5 rounds of Reaction Speed",
      "reaction-speed", "Play 5 games", 30, .record "reaction-speed" [.least "plays" 5]⟩,
    ⟨"daily_play_3_games", "Variety Pack", "Play 3 different games", "all",
      "Play 3 different games", 60, .counts .gamesPlayed .atLeast 3⟩,
    ⟨"daily_play_5_games", "Game Hopper", "Play 5 different games", "all",
      "Play 5 different games", 100, .counts .gamesPlayed .atLeast 5⟩,
    ⟨"daily_total_plays_10", "Marathon", "Play 10 games in total", "all", "Play 10 games", 80,
      .counts .totalPlays .atLeast 10⟩,
    ⟨"daily_unlock_badge", "Badge Hunter", "Unlock a badge", "all", "Unlock 1 badge", 75,
      .counts .badgeUnlocks .above 0⟩,
    ⟨"daily_complete_5_challenges", "Overachiever", "Complete 5 daily challenges", "all",
      "Complete 5 challenges", 150, .counts .generationCompleted .atLeast 5⟩
  ]

/-- The rule that the challenge with an identifier is met by. -/
def rule? (id : String) : Option Rule :=
  (catalog.find? (·.id = id)).map Design.rule

end Arcade.Challenge
