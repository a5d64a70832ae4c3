import Arcade.Text.Ranges

/-!
# Blank characters and trimming

A character is blank when it is a space, a line or paragraph separator, or one of the control
characters that act as separators. Trimming removes characters at both ends only, and what is
left neither starts nor ends with a removed character.
-/

namespace Arcade.Text

/-- The code points of the blank characters. -/
def blankRanges : List (Nat × Nat) :=
  [(9, 13), (28, 32), (133, 133), (160, 160), (5760, 5760), (8192, 8202), (8232, 8233),
    (8239, 8239), (8287, 8287), (12288, 12288)]

/-- A blank character separates words and is removed by trimming. -/
def isBlank (c : Char) : Bool :=
  inRanges blankRanges c.toNat

/-- The information separators of ASCII, between files, groups, records and units. -/
def isSeparator (c : Char) : Bool :=
  decide (28 ≤ c.toNat ∧ c.toNat ≤ 31)

/-- The characters without the first and last ones that satisfy `p`. -/
def trimChars (p : Char → Bool) (cs : List Char) : List Char :=
  ((cs.dropWhile p).reverse.dropWhile p).reverse

/-- The text without the first and last characters that satisfy `p`. -/
def trimWhere (p : Char → Bool) (s : String) : String :=
  String.ofList (trimChars p s.toList)

/-- The text without blanks at either end. -/
def trim (s : String) : String :=
  trimWhere isBlank s

@[simp] theorem trimChars_nil (p : Char → Bool) : trimChars p [] = [] := rfl

/-- A first character that stays keeps its place. -/
theorem trimChars_cons {p : Char → Bool} {c : Char} (h : p c = false) (cs : List Char) :
    ∃ ds, trimChars p (c :: cs) = c :: ds := by
  refine ⟨(cs.reverse.dropWhile p).reverse, ?_⟩
  rw [trimChars, List.dropWhile_cons_of_neg (by simp [h]), List.reverse_cons,
    List.dropWhile_append, List.dropWhile_cons_of_neg (by simp [h])]
  split
  · rename_i hnil
    rw [List.isEmpty_iff.1 hnil]
    rfl
  · rw [List.reverse_append]
    rfl

theorem dropWhile_eq_nil {p : Char → Bool} {cs : List Char} :
    cs.dropWhile p = [] ↔ ∀ c ∈ cs, p c = true := by
  induction cs with
  | nil => simp
  | cons c cs ih => by_cases h : p c <;> simp [h, ih]

/-- Trimming removes everything exactly when every character is to be removed. -/
theorem trimChars_eq_nil_iff {p : Char → Bool} {cs : List Char} :
    trimChars p cs = [] ↔ ∀ c ∈ cs, p c = true := by
  rw [trimChars, List.reverse_eq_nil_iff, dropWhile_eq_nil]
  simp only [List.mem_reverse]
  rw [← dropWhile_eq_nil, ← dropWhile_eq_nil]
  constructor
  · intro h
    cases hd : cs.dropWhile p with
    | nil => rfl
    | cons c rest =>
      have hc : p c = false := by
        have := List.head_dropWhile_not p (by simp [hd] : cs.dropWhile p ≠ [])
        simpa [hd] using this
      have : p c = true := (dropWhile_eq_nil.1 (hd ▸ h)) c List.mem_cons_self
      simp [hc] at this
  · intro h
    simp [h]

theorem isBlank_space : isBlank ' ' = true := by decide

theorem isBlank_of_isSeparator {c : Char} (h : isSeparator c = true) : isBlank c = true := by
  simp only [isSeparator, decide_eq_true_eq] at h
  have : c.toNat = 28 ∨ c.toNat = 29 ∨ c.toNat = 30 ∨ c.toNat = 31 := by omega
  rcases this with h | h | h | h <;> simp [isBlank, inRanges, blankRanges, h]

theorem isBlank_of_isWhitespace {c : Char} (h : c.isWhitespace = true) : isBlank c = true := by
  simp only [Char.isWhitespace, Bool.or_eq_true, decide_eq_true_eq] at h
  rcases h with ((rfl | rfl) | rfl) | rfl <;> decide

end Arcade.Text
