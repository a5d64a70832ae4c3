import Arcade.Challenge.Catalog
import Arcade.Badge.Basic

/-!
# Challenges of a player

A challenge of a player belongs to a generation, whose end it names, and is open or completed. A
stored challenge needs an identifier and an end, and its reward must be a number of coins.
-/

namespace Arcade

/-- A challenge, open or completed. -/
structure Challenge where
  id : String
  title : Json
  description : Json
  game : Json
  requirement : Json
  rewardCoins : Nat
  /-- When the challenge can no longer be completed, as a timestamp. -/
  expiresAt : String
  completed : Bool := false
  /-- The time of completion, null if there is none. -/
  completedAt : Json := .null
deriving DecidableEq, Repr

namespace Challenge

/-- An open challenge of the catalog. -/
def ofDesign (d : Design) (expiresAt : String) : Challenge where
  id := d.id
  title := .str d.title
  description := .str d.description
  game := .str d.game
  requirement := .str d.requirement
  rewardCoins := d.rewardCoins
  expiresAt := expiresAt

/-- The challenge that a stored value stands for. -/
def ofJson (v : Json) : Except Fault Challenge := do
  let reward ← ((← v.member? "rewardCoins").getD (.int 0)).toInt
  if reward < 0 then
    throw (.negativeReward ((← v.member? "id").getD .null).text)
  let id ← v.required "id"
  let expiresAt ← v.required "expiresAt"
  let members := match v with
    | .obj members => members
    | _ => []
  return {
    id := id.text
    title := Badge.textMember members "title"
    description := Badge.textMember members "description"
    game := Badge.textMember members "game"
    requirement := Badge.textMember members "requirement"
    rewardCoins := reward.toNat
    expiresAt := expiresAt.text
    completed := ((valueAt? "completed" members).getD (.bool false)).truthy
    completedAt := (valueAt? "completedAt" members).getD .null
  }

def toJson (c : Challenge) : Json :=
  .obj ([("id", .str c.id), ("title", c.title), ("description", c.description), ("game", c.game),
    ("requirement", c.requirement), ("rewardCoins", .int c.rewardCoins),
    ("completed", .bool c.completed)] ++
    (if c.completedAt = .null then [] else [("completedAt", c.completedAt)]) ++
    [("expiresAt", .str c.expiresAt)])

@[simp] theorem ofDesign_id (d : Design) (expiresAt : String) :
    (ofDesign d expiresAt).id = d.id := rfl

@[simp] theorem ofDesign_completed (d : Design) (expiresAt : String) :
    (ofDesign d expiresAt).completed = false := rfl

end Challenge

end Arcade
