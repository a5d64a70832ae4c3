/-!
# Parts of texts

A text splits at a character into the parts between its occurrences, of which there is always one
more than there are occurrences.
-/

namespace Arcade.Text

/-- The parts of a text between the occurrences of a character. -/
def splitAt (c : Char) : List Char → List (List Char)
  | [] => [[]]
  | d :: rest =>
    match splitAt c rest with
    | [] => [[]]
    | part :: parts => if d = c then [] :: part :: parts else (d :: part) :: parts

/-- The parts of a text as texts. -/
def parts (c : Char) (s : String) : List String :=
  (splitAt c s.toList).map String.ofList

theorem splitAt_ne_nil (c : Char) (cs : List Char) : splitAt c cs ≠ [] := by
  cases cs with
  | nil => simp [splitAt]
  | cons d rest =>
    unfold splitAt
    split
    · simp
    · split <;> simp

/-- With the character put between them again, the parts are the text. -/
theorem intercalate_splitAt (c : Char) (cs : List Char) :
    [c].intercalate (splitAt c cs) = cs := by
  induction cs with
  | nil => rfl
  | cons d rest ih =>
    cases h : splitAt c rest with
    | nil => exact absurd h (splitAt_ne_nil c rest)
    | cons part parts =>
      rw [h] at ih
      simp only [splitAt, h]
      split
      case isTrue hd => rw [List.intercalate_cons_cons, ih, hd]; rfl
      case isFalse =>
        cases parts with
        | nil => simpa [List.intercalate] using ih
        | cons next parts => simpa [List.intercalate_cons_cons] using ih

end Arcade.Text
