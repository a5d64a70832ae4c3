import Arcade.Json.Basic

/-!
# Comparing values

Numbers compare with numbers, texts with texts by code points, and lists item by item: the first
items that are not the same decide. A value that is not a number is in no order with a number, and
other values of different kinds cannot be compared at all.
-/

namespace Arcade.Json

/-- Whether two values are the same thing to group by. -/
def sameKey (a b : Json) : Bool := decide (a = b) || a.equal b

/-- Whether a value can be a thing to group by. -/
def isKey : Json → Bool
  | .arr _ | .obj _ => false
  | _ => true

/-- How a value stands to another one; `none` when they are in no order. Values that cannot be
compared are a fault. The fuel bounds the depth. -/
def relateUpTo : Nat → Json → Json → Except Fault (Option Ordering)
  | 0, _, _ => .error .wrongKind
  | fuel + 1, a, b =>
    match a, b with
    | .str s, .str t => .ok (some (Text.order s t))
    | .arr [], .arr [] => .ok (some .eq)
    | .arr [], .arr (_ :: _) => .ok (some .lt)
    | .arr (_ :: _), .arr [] => .ok (some .gt)
    | .arr (x :: xs), .arr (y :: ys) =>
      if sameKey x y then relateUpTo fuel (.arr xs) (.arr ys) else relateUpTo fuel x y
    | a, b =>
      match a.number?, b.number? with
      | some m, some n => .ok (m.compare? n)
      | _, _ => .error .wrongKind

mutual

/-- The number of values and members in a value. -/
def size : Json → Nat
  | .arr items => sizeItems items + 1
  | .obj members => sizeMembers members + 1
  | _ => 1

def sizeItems : List Json → Nat
  | [] => 0
  | x :: xs => size x + sizeItems xs

def sizeMembers : List (String × Json) → Nat
  | [] => 0
  | (_, x) :: xs => size x + sizeMembers xs

end

/-- How a value stands to another one; `none` when they are in no order. -/
def relate (a b : Json) : Except Fault (Option Ordering) := relateUpTo (a.size + b.size) a b

/-- Compares two values to sort by; `none` when neither comes first and they are not the same. -/
def compare? (a b : Json) : Option Ordering :=
  if sameKey a b then some .eq else (relate a b).toOption.join

/-- Whether a value to sort by comes before another one. -/
def before (a b : Json) : Except Fault Bool :=
  if sameKey a b then .ok false else do return (← relate a b) == some .lt

end Arcade.Json
