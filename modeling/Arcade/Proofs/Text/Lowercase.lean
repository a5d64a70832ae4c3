import Arcade.Text.Blank
import Arcade.Text.Lowercase
import Arcade.Text.Spelling

/-!
# Lower case is final

A text in lower case is its own lower-case form, and blanks neither come nor go with the case of a
text. What the tables say about it is a finite matter: no row of letters is shifted onto another
row, onto a blank or onto one of the two letters that are treated apart.
-/

namespace Arcade.Text

/-! ## Rows of letters -/

namespace CaseRow

/-- The first code point of a row after its shift. -/
def low (r : CaseRow) : Nat := (r.1 + r.2.2.2).toNat

/-- The last code point of a row after its shift. -/
def high (r : CaseRow) : Nat := (r.2.1 + r.2.2.2).toNat

/-- Whether a code point belongs to a row. -/
def holds (r : CaseRow) (n : Nat) : Bool :=
  decide (r.1 ≤ n) && decide (n ≤ r.2.1) && (n - r.1) % r.2.2.1 == 0

/-- No point of one row is shifted into the other: they lie apart, or every other point belongs to
the other row, but never the ones onto which points are shifted. -/
def clears (r q : CaseRow) : Bool :=
  Nat.blt (high r) q.1 || Nat.blt q.2.1 (low r) ||
    (q.2.2.1 == 2 && (r.1 == r.2.1 || r.2.2.1 == 2) && Nat.ble q.1 (low r) &&
      (low r - q.1) % 2 == 1)

/-- No point of a row is shifted onto a blank, onto a letter that is treated apart, or beyond the
code points of characters. -/
def isSound (r : CaseRow) : Bool :=
  decide (high r < 0xd800 ∨ 0xdfff < low r ∧ high r < 0x110000) &&
    (blankRanges.all fun b => decide (high r < b.1 ∨ b.2 < low r)) &&
    clears r (0x130, 0x130, 1, 0) && clears r (0x3a3, 0x3a3, 1, 0)

end CaseRow

theorem clears_lowercaseRows :
    (lowercaseRows.all fun r => lowercaseRows.all r.clears) = true := by decide +kernel

theorem isSound_lowercaseRows : lowercaseRows.all CaseRow.isSound = true := by decide

/-- Where a code point of a row is shifted to. -/
theorem CaseRow.shifted {r : CaseRow} {n : Nat} (h : r.holds n = true) :
    r.low ≤ (n + r.2.2.2).toNat ∧ (n + r.2.2.2).toNat ≤ r.high := by
  simp only [holds, Bool.and_eq_true, decide_eq_true_eq] at h
  unfold low high
  omega

/-- A code point of a row is shifted past every row that the row clears. -/
theorem CaseRow.not_holds_shifted {r q : CaseRow} {n : Nat} (h : r.holds n = true)
    (hc : r.clears q = true) : q.holds (n + r.2.2.2).toNat = false := by
  obtain ⟨hlow, hhigh⟩ := shifted h
  simp only [holds, clears, low, high, Bool.and_eq_true, Bool.or_eq_true,
    decide_eq_true_eq, beq_iff_eq, Nat.blt_eq, Nat.ble_eq] at h hc hlow hhigh
  rw [Bool.eq_false_iff]
  intro hq
  simp only [holds, Bool.and_eq_true, decide_eq_true_eq, beq_iff_eq] at hq
  rcases hc with (hc | hc) | ⟨⟨⟨hstep, hr⟩, hle⟩, hodd⟩
  · omega
  · omega
  · rw [hstep] at hq
    rcases hr with hr | hr
    · omega
    · rw [hr] at h
      omega

/-- A code point is shifted by a row that holds it, or stays as it is. -/
theorem shiftCase_cases (n : Nat) :
    (∃ r ∈ lowercaseRows, r.holds n = true ∧
      shiftCase lowercaseRows n = (n + r.2.2.2).toNat) ∨
    (∀ r ∈ lowercaseRows, r.holds n = false) ∧ shiftCase lowercaseRows n = n := by
  unfold shiftCase
  split
  · rename_i first last step distance h
    have hholds := List.find?_some h
    exact .inl ⟨(first, last, step, distance), List.mem_of_find?_eq_some h, hholds, rfl⟩
  · rename_i h
    exact .inr ⟨fun r hr => Bool.eq_false_iff.2 (List.find?_eq_none.1 h r hr), rfl⟩

/-! ## Letters that stay -/

/-- A character that is its own lower-case form wherever it stands. -/
def IsLower (c : Char) : Prop := ∀ before after, lowerChar before c after = [c]

theorem ascii_toLower : ∀ n < 128, (Char.ofNat n).toLower.toNat < 128 ∧
    (Char.ofNat n).toLower.toLower = (Char.ofNat n).toLower ∧
    (isBlank (Char.ofNat n) = false → isBlank (Char.ofNat n).toLower = false) ∧
    (n < 65 ∨ 90 < n → (Char.ofNat n).toLower = Char.ofNat n) := by decide

/-- A character that no row shifts and that is not treated apart is its own lower-case form. -/
theorem isLower_of {c : Char} (h : ∀ r ∈ lowercaseRows, CaseRow.holds r c.toNat = false)
    (hdotted : c.toNat ≠ 0x130) (hsigma : c.toNat ≠ 0x3a3) : IsLower c := by
  intro before after
  rw [lowerChar, if_neg hdotted, if_neg hsigma]
  split
  · rename_i hascii
    have hrow := h (65, 90, 1, 32) (by decide)
    obtain ⟨-, -, -, hkeep⟩ := ascii_toLower c.toNat hascii
    rw [Char.ofNat_toNat] at hkeep
    rw [hkeep]
    simp only [CaseRow.holds, Bool.and_eq_false_iff, decide_eq_false_iff_not,
      beq_eq_false_iff_ne] at hrow
    omega
  · rcases shiftCase_cases c.toNat with ⟨r, hr, hholds, -⟩ | ⟨-, hkeep⟩
    · rw [h r hr] at hholds
      cases hholds
    · rw [hkeep, Char.ofNat_toNat]

/-- What a row makes of one of its letters. -/
theorem shifted_facts {r : CaseRow} (hr : r ∈ lowercaseRows) {n : Nat} (h : r.holds n = true) :
    isBlank (Char.ofNat (n + r.2.2.2).toNat) = false ∧
      IsLower (Char.ofNat (n + r.2.2.2).toNat) := by
  generalize hm : (n + r.2.2.2).toNat = m
  have hsound : r.isSound = true := List.all_eq_true.1 isSound_lowercaseRows r hr
  have hclears : ∀ q ∈ lowercaseRows, q.holds m = false := fun q hq =>
    hm ▸ CaseRow.not_holds_shifted h
      (List.all_eq_true.1 (List.all_eq_true.1 clears_lowercaseRows r hr) q hq)
  obtain ⟨hlow, hhigh⟩ := CaseRow.shifted h
  rw [hm] at hlow hhigh
  have happart : ∀ k, r.clears (k, k, 1, 0) = true → m ≠ k := by
    intro k hk hmk
    have hnot := CaseRow.not_holds_shifted h hk
    rw [hm, hmk] at hnot
    simp [CaseRow.holds] at hnot
  simp only [CaseRow.isSound, Bool.and_eq_true, decide_eq_true_eq, List.all_eq_true] at hsound
  obtain ⟨⟨⟨hrange, hblank⟩, hdotted⟩, hsigma⟩ := hsound
  have hvalid : m.isValidChar := by
    rcases hrange with hr | hr
    · exact .inl (Nat.lt_of_le_of_lt hhigh hr)
    · exact .inr ⟨Nat.lt_of_lt_of_le hr.1 hlow, Nat.lt_of_le_of_lt hhigh hr.2⟩
  have hcode : (Char.ofNat m).toNat = m := toNat_ofNat hvalid
  refine ⟨?_, isLower_of (hcode.symm ▸ hclears) ?_ ?_⟩
  · rw [isBlank, hcode, Bool.eq_false_iff, ne_eq, inRanges_iff]
    rintro ⟨b, hb, hfirst, hlast⟩
    have hout := hblank b hb
    omega
  · rw [hcode]
    exact happart 0x130 hdotted
  · rw [hcode]
    exact happart 0x3a3 hsigma

/-! ## Characters in lower case -/

theorem ascii_facts {c : Char} (h : c.toNat < 128) :
    IsLower c.toLower ∧ (isBlank c = false → isBlank c.toLower = false) := by
  obtain ⟨hascii, hkeep, hblank, -⟩ := ascii_toLower c.toNat h
  rw [Char.ofNat_toNat] at hascii hkeep hblank
  refine ⟨fun before after => ?_, hblank⟩
  rw [lowerChar, if_neg (by omega), if_neg (by omega), if_pos hascii, hkeep]

/-- The characters that the letters treated apart become: i, the combining dot and both sigmas. -/
theorem special_facts : ∀ n ∈ [0x69, 0x307, 0x3c2, 0x3c3],
    isBlank (Char.ofNat n) = false ∧ IsLower (Char.ofNat n) := by
  have hrows : ∀ n ∈ [0x69, 0x307, 0x3c2, 0x3c3], isBlank (Char.ofNat n) = false ∧
      (lowercaseRows.all fun r => !CaseRow.holds r (Char.ofNat n).toNat) = true ∧
      (Char.ofNat n).toNat ≠ 0x130 ∧ (Char.ofNat n).toNat ≠ 0x3a3 := by decide
  intro n hn
  obtain ⟨hblank, hr, hdotted, hsigma⟩ := hrows n hn
  refine ⟨hblank, isLower_of (fun r hmem => ?_) hdotted hsigma⟩
  simpa using List.all_eq_true.1 hr r hmem

/-- A lower-case form consists of characters that stay, and of blanks only if it is that of one. -/
theorem lowerChar_facts {before after : List Char} {c d : Char}
    (h : d ∈ lowerChar before c after) :
    IsLower d ∧ (isBlank c = false → isBlank d = false) := by
  have hspecial : ∀ n ∈ [0x69, 0x307, 0x3c2, 0x3c3], d = Char.ofNat n →
      IsLower d ∧ (isBlank c = false → isBlank d = false) := by
    rintro n hn rfl
    exact ⟨(special_facts n hn).2, fun _ => (special_facts n hn).1⟩
  unfold lowerChar at h
  split at h
  · rcases List.mem_cons.1 h with rfl | h
    · exact hspecial 0x69 (by decide) rfl
    · exact hspecial 0x307 (by decide) (List.mem_singleton.1 h)
  · rename_i hdotted
    split at h
    · cases hfinal : meetsCased before && !meetsCased after with
      | true =>
        rw [hfinal] at h
        exact hspecial 0x3c2 (by decide) (List.mem_singleton.1 h)
      | false =>
        rw [hfinal] at h
        exact hspecial 0x3c3 (by decide) (List.mem_singleton.1 h)
    · rename_i hsigma
      split at h
      · rename_i hascii
        rw [List.mem_singleton.1 h]
        exact ascii_facts hascii
      · rw [List.mem_singleton.1 h]
        rcases shiftCase_cases c.toNat with ⟨r, hr, hholds, hshift⟩ | ⟨hnone, hshift⟩
        · rw [hshift]
          exact ⟨(shifted_facts hr hholds).2, fun _ => (shifted_facts hr hholds).1⟩
        · rw [hshift, Char.ofNat_toNat]
          exact ⟨isLower_of hnone hdotted hsigma, fun hc => hc⟩

/-! ## Texts in lower case -/

theorem mem_lowerChars {before cs : List Char} {d : Char} (h : d ∈ lowerChars before cs) :
    IsLower d := by
  induction cs generalizing before with
  | nil => cases h
  | cons c cs ih =>
    rcases List.mem_append.1 h with h | h
    · exact (lowerChar_facts h).1
    · exact ih h

theorem lowerChars_of_isLower {before cs : List Char} (h : ∀ c ∈ cs, IsLower c) :
    lowerChars before cs = cs := by
  induction cs generalizing before with
  | nil => rfl
  | cons c cs ih =>
    rw [lowerChars, h c List.mem_cons_self, ih fun d hd => h d (List.mem_cons_of_mem c hd)]
    rfl

theorem lowerChar_ne_nil (before : List Char) (c : Char) (after : List Char) :
    lowerChar before c after ≠ [] := by
  unfold lowerChar
  split
  · exact List.cons_ne_nil _ _
  · split
    · exact List.cons_ne_nil _ _
    · split <;> exact List.cons_ne_nil _ _

/-! ## Texts without blanks at their ends -/

/-- Neither the first character nor the last one is to be removed. -/
def Trimmed (p : Char → Bool) (cs : List Char) : Prop :=
  (∀ c ∈ cs.head?, p c = false) ∧ ∀ c ∈ cs.getLast?, p c = false

theorem trimmed_trimChars (p : Char → Bool) (cs : List Char) : Trimmed p (trimChars p cs) := by
  constructor
  · intro c hc
    cases hd : cs.dropWhile p with
    | nil =>
      rw [trimChars, hd] at hc
      cases hc
    | cons x rest =>
      have hx : p x = false := by
        have h := List.head?_dropWhile_not p cs
        rw [hd] at h
        simpa using h
      have hsame : trimChars p cs = trimChars p (x :: rest) := by
        rw [trimChars, trimChars, hd, List.dropWhile_cons_of_neg (by simp [hx])]
      obtain ⟨ds, hds⟩ := trimChars_cons hx rest
      rw [hsame, hds] at hc
      obtain rfl := Option.some.inj hc
      exact hx
  · intro c hc
    rw [trimChars, List.getLast?_reverse] at hc
    have h := List.head?_dropWhile_not p (cs.dropWhile p).reverse
    rw [Option.mem_def.1 hc] at h
    simpa using h

theorem trimChars_eq_self {p : Char → Bool} {cs : List Char} (h : Trimmed p cs) :
    trimChars p cs = cs := by
  have hdrop {ds : List Char} (hd : ∀ c ∈ ds.head?, p c = false) : ds.dropWhile p = ds := by
    cases ds with
    | nil => rfl
    | cons c rest => exact List.dropWhile_cons_of_neg (by simp [hd c rfl])
  rw [trimChars, hdrop h.1, hdrop (by rw [List.head?_reverse]; exact h.2), List.reverse_reverse]

theorem last_lowerChars {cs : List Char} (h : ∀ c ∈ cs.getLast?, isBlank c = false)
    (before : List Char) : ∀ d ∈ (lowerChars before cs).getLast?, isBlank d = false := by
  induction cs generalizing before with
  | nil => exact fun d hd => absurd hd (by simp)
  | cons c cs ih =>
    intro d hd
    rw [lowerChars, List.getLast?_append, Option.mem_def, Option.or_eq_some_iff] at hd
    rcases hd with hd | ⟨hnone, hd⟩
    · refine ih (fun x hx => h x ?_) _ d hd
      rw [List.getLast?_cons, Option.mem_def.1 hx]
      rfl
    · -- nothing comes after the last character
      have hcs : cs = [] := by
        cases cs with
        | nil => rfl
        | cons x rest =>
          rw [List.getLast?_eq_none_iff, lowerChars, List.append_eq_nil_iff] at hnone
          exact absurd hnone.1 (lowerChar_ne_nil _ _ _)
      subst hcs
      exact (lowerChar_facts (List.mem_of_getLast? hd)).2 (h c rfl)

theorem trimmed_lowerChars {before cs : List Char} (h : Trimmed isBlank cs) :
    Trimmed isBlank (lowerChars before cs) := by
  refine ⟨fun d hd => ?_, last_lowerChars h.2 before⟩
  cases cs with
  | nil => cases hd
  | cons c cs =>
    obtain ⟨x, rest, hx⟩ := List.exists_cons_of_ne_nil (lowerChar_ne_nil before c cs)
    rw [lowerChars, hx] at hd
    obtain rfl := Option.some.inj hd
    exact (lowerChar_facts (hx ▸ List.mem_cons_self)).2 (h.1 c rfl)

/-- A text in lower case without blanks at its ends is what trimming and lowering make of it. -/
theorem lower_trim_lower {cs : List Char} (h : Trimmed isBlank cs) :
    lower (trim (lower (String.ofList cs))) = lower (String.ofList cs) := by
  have hlowered : ∀ c ∈ lowerChars [] cs, IsLower c := fun c hc => mem_lowerChars hc
  simp only [lower, trim, trimWhere, String.toList_ofList]
  rw [trimChars_eq_self (trimmed_lowerChars h), lowerChars_of_isLower hlowered]

end Arcade.Text
