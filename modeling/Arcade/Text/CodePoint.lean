import Arcade.Text.Spelling

/-!
# Code points

The length of a text is the number of its code points, and its parts are cut between them. Texts are
ordered by their code points: the first one in which they differ decides, and a text comes after
those with which it starts.

The system takes names of folders, files and variables in bytes, so that not every text is a name.
-/

namespace Arcade.Text

/-- The code points of a text. -/
def codes (s : String) : List Nat :=
  (signs s.toList).map Sign.code

/-- The number of code points in a text. -/
def length (s : String) : Nat := (signs s.toList).length

/-- The first code points of a text. -/
def take (n : Nat) (s : String) : String :=
  String.ofList (((signs s.toList).take n).flatMap Sign.chars)

/-- Whether a text holds half of a pair that stands alone. -/
def hasSurrogate (s : String) : Bool :=
  (codes s).any isSurrogate

theorem codes_spelt (s : String) : codes (spelt s) = s.toList.map Char.toNat :=
  map_code_signs_spelt s

theorem take_eq_self {n : Nat} {s : String} (h : length s ≤ n) : take n s = s := by
  rw [take, List.take_of_length_le h, flatMap_chars_signs, String.ofList_toList]

/-! ## Names -/

/-- Whether a code point stands for a byte that belongs to no character. -/
def isByte (n : Nat) : Bool :=
  decide (0xdc80 ≤ n ∧ n < 0xdd00)

/-- Whether the system takes a text as the name of a folder, file or variable. Such a name is a row
of bytes, so that halves of pairs may stand in it for single bytes. -/
def isName (s : String) : Bool :=
  (codes s).all fun n => !isSurrogate n || isByte n

/-- The number of bytes that a code point takes in a name. -/
def byteCount (n : Nat) : Nat :=
  if isByte n then 1 else (Char.ofNat n).utf8Size

/-! ## Order -/

/-- Compares two rows of code points. -/
def compareCodes : List Nat → List Nat → Ordering
  | [], [] => .eq
  | [], _ :: _ => .lt
  | _ :: _, [] => .gt
  | m :: ms, n :: ns =>
    if m < n then .lt else if n < m then .gt else compareCodes ms ns

/-- Compares two texts by their code points. -/
def order (s t : String) : Ordering :=
  compareCodes (codes s) (codes t)

/-- Whether a text does not come after another one. -/
def le (s t : String) : Bool :=
  order s t != .gt

theorem compareCodes_self (ns : List Nat) : compareCodes ns ns = .eq := by
  induction ns with
  | nil => rfl
  | cons n ns ih => simp [compareCodes, ih]

theorem le_self (s : String) : le s s = true := by
  simp [le, order, compareCodes_self]

end Arcade.Text
