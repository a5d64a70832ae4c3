import Arcade.Dict
import Arcade.Number.Reading
import Arcade.Text.CodePoint

/-!
# JSON values

A JSON value is what a stored document, a settings file or a stat record can hold. The members of
an object are listed in order of first insertion. Reading a value as something narrower, such as
a number, a member or a condition, fails with the fault that fits the kind of the value.
-/

namespace Arcade

/-- The values of JSON, with integers of any size. -/
inductive Json where
  | null
  | bool (b : Bool)
  | num (n : Number)
  | str (s : String)
  | arr (items : List Json)
  | obj (members : List (String × Json))
deriving Repr

namespace Json

instance : Inhabited Json := ⟨null⟩

def int (n : Int) : Json := .num (.int n)

instance : OfNat Json n := ⟨int n⟩

mutual

/-- Equality of values, in which the order of members matters. -/
def same : Json → Json → Bool
  | .null, .null => true
  | .bool a, .bool b => a == b
  | .num a, .num b => decide (a = b)
  | .str a, .str b => a == b
  | .arr xs, .arr ys => sameItems xs ys
  | .obj xs, .obj ys => sameMembers xs ys
  | _, _ => false

def sameItems : List Json → List Json → Bool
  | [], [] => true
  | x :: xs, y :: ys => same x y && sameItems xs ys
  | _, _ => false

def sameMembers : List (String × Json) → List (String × Json) → Bool
  | [], [] => true
  | (k, x) :: xs, (l, y) :: ys => k == l && same x y && sameMembers xs ys
  | _, _ => false

end

mutual

theorem eq_of_same : ∀ {a b : Json}, same a b = true → a = b
  | .null, b, h => by cases b <;> simp_all [same]
  | .bool _, b, h => by cases b <;> simp_all [same]
  | .num _, b, h => by cases b <;> simp_all [same]
  | .str _, b, h => by cases b <;> simp_all [same]
  | .arr xs, b, h => by
    cases b with
    | arr ys =>
      have h' : sameItems xs ys = true := by simpa [same] using h
      rw [eq_of_sameItems h']
    | _ => simp [same] at h
  | .obj xs, b, h => by
    cases b with
    | obj ys =>
      have h' : sameMembers xs ys = true := by simpa [same] using h
      rw [eq_of_sameMembers h']
    | _ => simp [same] at h

theorem eq_of_sameItems : ∀ {xs ys : List Json}, sameItems xs ys = true → xs = ys
  | [], ys, h => by cases ys <;> simp_all [sameItems]
  | x :: xs, ys, h => by
    cases ys with
    | nil => simp [sameItems] at h
    | cons y ys =>
      rw [sameItems, Bool.and_eq_true] at h
      rw [eq_of_same h.1, eq_of_sameItems h.2]

theorem eq_of_sameMembers :
    ∀ {xs ys : List (String × Json)}, sameMembers xs ys = true → xs = ys
  | [], ys, h => by cases ys <;> simp_all [sameMembers]
  | (k, x) :: xs, ys, h => by
    cases ys with
    | nil => simp [sameMembers] at h
    | cons y ys =>
      obtain ⟨l, y⟩ := y
      rw [sameMembers, Bool.and_eq_true, Bool.and_eq_true, beq_iff_eq] at h
      rw [h.1.1, eq_of_same h.1.2, eq_of_sameMembers h.2]

end

mutual

theorem same_self : ∀ a : Json, same a a = true
  | .null => rfl
  | .bool _ => by simp [same]
  | .num _ => by simp [same]
  | .str _ => by simp [same]
  | .arr xs => by simp [same, sameItems_self xs]
  | .obj xs => by simp [same, sameMembers_self xs]

theorem sameItems_self : ∀ xs : List Json, sameItems xs xs = true
  | [] => rfl
  | x :: xs => by simp [sameItems, same_self x, sameItems_self xs]

theorem sameMembers_self : ∀ xs : List (String × Json), sameMembers xs xs = true
  | [] => rfl
  | (_, x) :: xs => by simp [sameMembers, same_self x, sameMembers_self xs]

end

instance : DecidableEq Json := fun a b =>
  if h : same a b = true then .isTrue (eq_of_same h)
  else .isFalse fun hab => h (hab ▸ same_self a)

/-! ## Values read as something narrower -/

/-- Whether the value counts as true: null, false, zero and all that is empty do not. -/
def truthy : Json → Bool
  | .null => false
  | .bool b => b
  | .num n => !n.isZero
  | .str s => s ≠ ""
  | .arr items => !items.isEmpty
  | .obj members => !members.isEmpty

/-- A truth value. -/
def bool? : Json → Option Bool
  | .bool b => some b
  | _ => none

/-- A number, where truth values count as one and zero. -/
def number? : Json → Option Number
  | .num n => some n
  | .bool b => some (.int (if b then 1 else 0))
  | _ => none

/-- A number to calculate or compare with. -/
def number (v : Json) : Except Fault Number :=
  match v.number? with
  | some n => .ok n
  | none => .error .wrongKind

/-- The integer that a number without its fraction, or the text of an integer, stands for. -/
def toInt : Json → Except Fault Int
  | .str s => Number.readInt s
  | v => do (← v.number).toInt

/-- The double that a number or the text of one stands for. -/
def toDouble : Json → Except Fault Float
  | .str s => Number.readDouble s
  | v => do (← v.number).toDouble

/-- The member of an object by name; values of other kinds have no members to ask for. -/
def member? (v : Json) (name : String) : Except Fault (Option Json) :=
  match v with
  | .obj members => .ok (valueAt? name members)
  | _ => .error .noOperation

/-- The member that an object must have; values of other kinds cannot be indexed by name. -/
def required (v : Json) (name : String) : Except Fault Json :=
  match v with
  | .obj members =>
    match valueAt? name members with
    | some x => .ok x
    | none => .error (.missingKey name)
  | _ => .error .wrongKind

/-- A text to search or change the case of. -/
def string (v : Json) : Except Fault String :=
  match v with
  | .str s => .ok s
  | _ => .error .noOperation

/-- The number of characters, items or members; other values have no length. -/
def length (v : Json) : Except Fault Nat :=
  match v with
  | .str s => .ok (Text.length s)
  | .arr items => .ok items.length
  | .obj members => .ok members.length
  | _ => .error .wrongKind

/-- Whether two values are equal as keys and numbers are: numbers by value, truth values as
numbers, objects regardless of the order of their members. Inside lists and objects a value is
always equal to itself, also one that is not a number. The fuel bounds the depth. -/
def looselyEqual : Nat → Json → Json → Bool
  | 0, _, _ => false
  | fuel + 1, a, b =>
    match a, b with
    | .null, .null => true
    | .str s, .str t => s == t
    | .arr xs, .arr ys =>
      xs.length == ys.length &&
        (xs.zip ys).all fun p => decide (p.1 = p.2) || looselyEqual fuel p.1 p.2
    | .obj xs, .obj ys =>
      xs.length == ys.length && xs.all fun e =>
        match valueAt? e.1 ys with
        | some y => decide (e.2 = y) || looselyEqual fuel e.2 y
        | none => false
    | a, b =>
      match a.number?, b.number? with
      | some m, some n => m.same n
      | _, _ => false

mutual

/-- The depth of a value. -/
def depth : Json → Nat
  | .arr items => depthItems items + 1
  | .obj members => depthMembers members + 1
  | _ => 1

def depthItems : List Json → Nat
  | [] => 0
  | x :: xs => max (depth x) (depthItems xs)

def depthMembers : List (String × Json) → Nat
  | [] => 0
  | (_, x) :: xs => max (depth x) (depthMembers xs)

end

/-- Equality of values as keys and numbers. -/
def equal (a b : Json) : Bool := looselyEqual a.depth a b

end Json

end Arcade
