import Arcade.Text.Split
import Arcade.Text.Uppercase

/-!
# The games

The mini-games of the arcade with the stats that a new player starts with. A game that is not
registered can still be played and named: its name is made from its identifier.
-/

namespace Arcade

/-- A registered game. -/
structure Game where
  id : String
  name : String
  description : String
  /-- The stat record of a new player. -/
  defaults : List (String × Int)
deriving DecidableEq, Repr

namespace Game

/-- All games in the order in which they are listed. -/
def registry : List Game :=
  [
    ⟨"rock-paper-scissors", "Rock Paper Scissors",
      "Rock Paper Scissors is a classic game where you choose rock, paper, or scissors. Rock " ++
        "beats scissors, scissors beats paper, and paper beats rock. Try to predict your " ++
        "opponent's move to win!",
      [("wins", 0), ("losses", 0), ("draws", 0), ("plays", 0)]⟩,
    ⟨"number-guess", "Number Guess",
      "In Number Guess, you try to guess a number between 1 and 100. After each guess, you'll " ++
        "get a hint whether the target number is higher or lower.",
      [("plays", 0), ("bestScore", 0), ("score", 0)]⟩,
    ⟨"dice-roller", "Dice Roller",
      "Dice Roller lets you roll virtual dice. It's a simple game of chance - see what numbers " ++
        "you can roll!",
      [("plays", 0)]⟩,
    ⟨"memory-match", "Memory Match",
      "Memory Match tests your memory skills. Flip cards to find matching pairs. The fewer " ++
        "moves you make, the better your score!",
      [("plays", 0), ("bestScore", 0), ("level", 1)]⟩,
    ⟨"trivia-quiz", "Trivia Quiz",
      "Trivia Quiz challenges your knowledge with questions across various topics. Answer " ++
        "correctly before the timer runs out!",
      [("plays", 0), ("score", 0), ("bestScore", 0)]⟩,
    ⟨"word-unscramble", "Word Unscramble",
      "In Word Unscramble, you're given jumbled letters and need to rearrange them to form a " ++
        "valid word. You can use hints if you get stuck.",
      [("plays", 0), ("solved", 0), ("hintsUsed", 0)]⟩,
    ⟨"grid-puzzle", "Grid Puzzle",
      "Grid Puzzle is a sliding tile puzzle where you rearrange tiles to form the correct " ++
        "sequence. The fewer moves, the better!",
      [("plays", 0), ("bestMoves", 0), ("bestTime", 0)]⟩,
    ⟨"idle-clicker", "Idle Clicker",
      "Idle Clicker is a game where you click to earn coins and buy upgrades that " ++
        "automatically generate more coins for you.",
      [("coins", 0), ("cps", 0), ("clicks", 0)]⟩,
    ⟨"card-battle", "Card Battle",
      "Card Battle is a strategic card game where you battle against the computer. Choose your " ++
        "actions wisely to defeat your opponent!",
      [("wins", 0), ("losses", 0), ("plays", 0)]⟩,
    ⟨"reaction-speed", "Reaction Speed",
      "Reaction Speed tests how quickly you can respond. Wait for the green light, then click " ++
        "as fast as you can!",
      [("plays", 0), ("bestTime", 0)]⟩
  ]

/-- The games that are recommended to newcomers. -/
def popular : List String :=
  ["rock-paper-scissors", "memory-match", "trivia-quiz"]

def find? (id : String) : Option Game :=
  registry.find? (·.id = id)

/-- The words of an identifier, each with its first letter in upper case. -/
def displayName (id : String) : String :=
  " ".intercalate ((Text.parts '-' id).map Text.capitalize)

/-- What is said about a game. -/
def describe (id : String) : String :=
  match find? id with
  | some game => game.description
  | none =>
    displayName id ++ " is one of our fun mini-games. Try it out to learn more!"

end Game

end Arcade
