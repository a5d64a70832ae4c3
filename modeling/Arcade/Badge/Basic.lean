import Arcade.Badge.Catalog
import Arcade.Json.Display

/-!
# Badges of a player

A badge of a player is described as in the catalog and is locked or unlocked, with the time of
unlocking. A stored badge only needs an identifier: its texts and its time are kept as they are
found, whatever they are.
-/

namespace Arcade

/-- A badge, locked or unlocked. -/
structure Badge where
  id : String
  title : Json
  description : Json
  game : Json
  requirement : Json
  icon : Json
  unlocked : Bool := false
  /-- The time of unlocking, null if there is none. -/
  unlockedAt : Json := .null
deriving DecidableEq, Repr

namespace Badge

/-- A locked badge of the catalog. -/
def ofDesign (d : Design) : Badge where
  id := d.id
  title := .str d.title
  description := .str d.description
  game := .str d.game
  requirement := .str d.requirement
  icon := .str d.icon

/-- All badges of the catalog, locked. -/
def fresh : List Badge := catalog.map ofDesign

/-- A member of an object, or an empty text in its place. -/
def textMember (members : List (String × Json)) (name : String) : Json :=
  (valueAt? name members).getD (.str "")

/-- The badge that a stored value stands for. -/
def ofJson (v : Json) : Except Fault Badge := do
  let id ← v.required "id"
  let members := match v with
    | .obj members => members
    | _ => []
  return {
    id := id.text
    title := textMember members "title"
    description := textMember members "description"
    game := textMember members "game"
    requirement := textMember members "requirement"
    icon := textMember members "icon"
    unlocked := ((valueAt? "unlocked" members).getD (.bool false)).truthy
    unlockedAt := (valueAt? "unlockedAt" members).getD .null
  }

def toJson (b : Badge) : Json :=
  .obj ([("id", .str b.id), ("title", b.title), ("description", b.description), ("game", b.game),
    ("requirement", b.requirement), ("unlocked", .bool b.unlocked), ("icon", b.icon)] ++
    (if b.unlockedAt = .null then [] else [("unlockedAt", b.unlockedAt)]))

@[simp] theorem ofDesign_id (d : Design) : (ofDesign d).id = d.id := rfl

@[simp] theorem ofDesign_unlocked (d : Design) : (ofDesign d).unlocked = false := rfl

end Badge

end Arcade
