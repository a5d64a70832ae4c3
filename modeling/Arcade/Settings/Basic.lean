import Arcade.Json.Basic
import Arcade.Text.Split

/-!
# Settings

Settings are a nested object. A setting is named by the path to it, with points between its parts.
Settings from a file are merged over the standard ones: where both have an object the objects are
merged, and elsewhere the value from the file wins.
-/

namespace Arcade

/-- All settings. -/
structure Settings where
  data : Json
deriving DecidableEq, Repr

namespace Settings

/-- The value at the end of a path, if every value on the way is an object with the next name. -/
def lookup? : List String → Json → Option Json
  | [], v => some v
  | name :: rest, .obj members =>
    match valueAt? name members with
    | some v => lookup? rest v
    | none => none
  | _ :: _, _ => none

/-- The setting with a name, or a default. -/
def get (s : Settings) (name : String) (default : Json) : Json :=
  (lookup? (Text.parts '.' name) s.data).getD default

mutual

/-- A value with another one merged over it. -/
def mergeValue : Json → Json → Json
  | .obj base, .obj members => .obj (mergeMembers base members)
  | _, v => v

/-- Members with others merged over them. -/
def mergeMembers (base : List (String × Json)) : List (String × Json) → List (String × Json)
  | [] => base
  | (name, v) :: rest =>
    let merged := match valueAt? name base with
      | some b => mergeValue b v
      | none => v
    mergeMembers (putEntry name merged base) rest

end

/-- The settings with the members of an object merged over them. -/
def merge (s : Settings) (members : List (String × Json)) : Settings :=
  match s.data with
  | .obj base => ⟨.obj (mergeMembers base members)⟩
  | _ => s

/-- The settings with a value put under a name in a group, which has to be an object. -/
def put (s : Settings) (group name : String) (value : Json) : Except Fault Settings :=
  match s.data with
  | .obj members =>
    match (valueAt? group members).getD (.obj []) with
    | .obj inner => .ok ⟨.obj (putEntry group (.obj (putEntry name value inner)) members)⟩
    | _ => .error .wrongKind
  | _ => .error .wrongKind

end Settings

end Arcade
