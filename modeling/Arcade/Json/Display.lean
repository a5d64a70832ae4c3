import Arcade.Json.Basic

/-!
# Values in running text

Where a value becomes part of a message or an identifier, a text stands for itself and a number is
written in decimal. Lists and objects are shown with their texts in quotes.
-/

namespace Arcade.Json

mutual

/-- The value inside a list or an object. -/
def shown : Json → String
  | .null => "None"
  | .bool b => if b then "True" else "False"
  | .num n => n.text
  | .str s => Text.quoted s
  | .arr items => "[" ++ ", ".intercalate (shownItems items) ++ "]"
  | .obj members => "\x7b" ++ ", ".intercalate (shownMembers members) ++ "\x7d"

def shownItems : List Json → List String
  | [] => []
  | x :: xs => shown x :: shownItems xs

def shownMembers : List (String × Json) → List String
  | [] => []
  | (k, x) :: xs => (Text.quoted k ++ ": " ++ shown x) :: shownMembers xs

end

/-- The name of the kind of a value. -/
def kind : Json → String
  | .null => "NoneType"
  | .bool _ => "bool"
  | .num (.int _) => "int"
  | .num (.float _) => "float"
  | .str _ => "str"
  | .arr _ => "list"
  | .obj _ => "dict"

/-- The value as a text of its own. -/
def text : Json → String
  | .str s => s
  | v => shown v

end Arcade.Json
