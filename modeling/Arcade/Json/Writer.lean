import Arcade.Json.Basic

/-!
# Writing JSON

A value is written on one line, with a blank after each comma and colon, or with one item a line
and two more blanks at each level. All characters outside ASCII are written as escapes, in pairs
of surrogates where their code points need more than four hexadecimal digits. A double is written
with the fewest digits that read back.
-/

namespace Arcade.Json

/-- The layout of numbers in documents, where the values without digits have names. -/
def numberLayout : Decimal.Layout :=
  { Decimal.plain with infinite := "Infinity", notNumber := "NaN" }

/-- A UTF-16 unit as an escape. -/
def unitEscape (unit : Nat) : List Char :=
  ['\\', 'u'] ++ Text.hexDigits 4 unit

/-- A code point as an escape or a pair of them. -/
def codeEscape (n : Nat) : List Char :=
  if n < 65536 then unitEscape n
  else unitEscape (0xd800 + (n - 65536) / 1024) ++ unitEscape (0xdc00 + (n - 65536) % 1024)

/-- One character between the quotes. A head or tail that spells nothing is kept. -/
def escapeChar (c : Char) : List Char :=
  if c = '"' then ['\\', '"']
  else if c = '\\' then ['\\', '\\']
  else if c = '\n' then ['\\', 'n']
  else if c = '\r' then ['\\', 'r']
  else if c = '\t' then ['\\', 't']
  else if c.toNat = 8 then ['\\', 'b']
  else if c.toNat = 12 then ['\\', 'f']
  else if 32 ≤ c.toNat ∧ c.toNat < 127 then [c]
  else if Text.isInBlock c.toNat then [c]
  else codeEscape c.toNat

/-- One sign between the quotes. -/
def escapeSign : Text.Sign → List Char
  | .char c => escapeChar c
  | .spelt n => codeEscape n

/-- A text in quotes. -/
def writeText (s : String) : String :=
  String.ofList (['"'] ++ (Text.signs s.toList).flatMap escapeSign ++ ['"'])

/-- A number in a document. -/
def writeNumber : Number → String
  | .int n => toString n
  | .float x => numberLayout.writeDouble x

mutual

/-- The value on one line. -/
def write : Json → String
  | .null => "null"
  | .bool b => if b then "true" else "false"
  | .num n => writeNumber n
  | .str s => writeText s
  | .arr items => "[" ++ ", ".intercalate (writeItems items) ++ "]"
  | .obj members => "\x7b" ++ ", ".intercalate (writeMembers members) ++ "\x7d"

def writeItems : List Json → List String
  | [] => []
  | x :: xs => write x :: writeItems xs

def writeMembers : List (String × Json) → List String
  | [] => []
  | (k, x) :: xs => (writeText k ++ ": " ++ write x) :: writeMembers xs

end

/-- The name of a member that is given as a value: a text, or the way another value is written. Lists
and objects are no names. -/
def memberName (v : Json) : Except Fault String :=
  match v with
  | .str s => .ok s
  | .arr _ | .obj _ => .error .wrongKind
  | v => .ok v.write

/-- A line break and the blanks of a level. -/
def breakLine (level : Nat) : String :=
  String.ofList ('\n' :: List.replicate (2 * level) ' ')

/-- Lines between an opening and a closing mark. -/
def writeBlock (level : Nat) (opening closing : String) (lines : List String) : String :=
  if lines = [] then opening ++ closing
  else
    opening ++ breakLine (level + 1) ++ ("," ++ breakLine (level + 1)).intercalate lines ++
      breakLine level ++ closing

mutual

/-- The value with one item a line, inside blocks of the given level. -/
def writeIndented (level : Nat) : Json → String
  | .arr items => writeBlock level "[" "]" (writeIndentedItems (level + 1) items)
  | .obj members => writeBlock level "\x7b" "\x7d" (writeIndentedMembers (level + 1) members)
  | .null => "null"
  | .bool b => if b then "true" else "false"
  | .num n => writeNumber n
  | .str s => writeText s

def writeIndentedItems (level : Nat) : List Json → List String
  | [] => []
  | x :: xs => writeIndented level x :: writeIndentedItems level xs

def writeIndentedMembers (level : Nat) : List (String × Json) → List String
  | [] => []
  | (k, x) :: xs =>
    (writeText k ++ ": " ++ writeIndented level x) :: writeIndentedMembers level xs

end

end Arcade.Json
