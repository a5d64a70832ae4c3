import Mathlib
import Arcade.Proofs.Text.Lowercase
import Arcade.Text.Search

/-!
# Texts and what surrounds them

Trimming cuts a text out of its surroundings: what is removed stands before it or after it, and the
rest is one piece. A letter becomes lower case without a look at its neighbours, unless it is a
sigma, which looks as far as the next character that is not passed over. So characters without case
at the ends of a text hide what is behind them. A phrase that occurs in a text stays clear of
surroundings that hold neither its first nor its last character.
-/

namespace Arcade.Text

variable {p : Char → Bool} {cs front back before after : List Char}

/-! ## Trimming -/

theorem exists_trimChars (p : Char → Bool) (cs : List Char) : ∃ front back,
    (∀ c ∈ front, p c = true) ∧ (∀ c ∈ back, p c = true) ∧
      cs = front ++ trimChars p cs ++ back := by
  refine ⟨cs.takeWhile p, ((cs.dropWhile p).reverse.takeWhile p).reverse,
    fun c hc => List.mem_takeWhile_imp hc,
    fun c hc => List.mem_takeWhile_imp (List.mem_reverse.1 hc), ?_⟩
  have hback := List.takeWhile_append_dropWhile (p := p) (l := (cs.dropWhile p).reverse)
  have hback := congrArg List.reverse hback
  rw [List.reverse_append, List.reverse_reverse] at hback
  rw [trimChars, List.append_assoc, hback, List.takeWhile_append_dropWhile]

/-- What is put around a text that is trimmed already is removed again. -/
theorem trimChars_surrounded (h : Trimmed p cs) (hfront : ∀ c ∈ front, p c = true)
    (hback : ∀ c ∈ back, p c = true) : trimChars p (front ++ cs ++ back) = cs := by
  have hdrop : (front ++ cs ++ back).dropWhile p = (cs ++ back).dropWhile p := by
    rw [List.append_assoc, List.dropWhile_append_of_pos hfront]
  rw [trimChars, hdrop]
  cases cs with
  | nil => rw [List.nil_append, dropWhile_eq_nil.2 hback]; rfl
  | cons c cs =>
    have hc : p c = false := h.1 c rfl
    have hreverse : ∀ c ∈ back.reverse, p c = true := fun c hc => hback c (List.mem_reverse.1 hc)
    rw [List.cons_append, List.dropWhile_cons_of_neg (by simp [hc]), ← List.cons_append,
      List.reverse_append, List.dropWhile_append_of_pos hreverse]
    have hself := trimChars_eq_self h
    rwa [trimChars, List.dropWhile_cons_of_neg (by simp [hc])] at hself

/-! ## Lower case -/

/-- Nothing behind characters that hide it is met. -/
theorem meetsCased_append (h : meetsCased back = false) (cs : List Char) :
    meetsCased (cs ++ back) = meetsCased cs := by
  unfold meetsCased at h ⊢
  rw [List.dropWhile_append]
  cases hd : cs.dropWhile isCaselessMark with
  | nil => simpa using h
  | cons c rest => simp

theorem lowerChar_surrounded (hfront : meetsCased front = false) (hback : meetsCased back = false)
    (before after : List Char) (c : Char) :
    lowerChar (before ++ front) c (after ++ back) = lowerChar before c after := by
  unfold lowerChar
  rw [meetsCased_append hfront, meetsCased_append hback]

/-- A text becomes lower case on its own, whatever stands around it out of its sight. -/
theorem lowerChars_surrounded (hfront : meetsCased front = false)
    (hback : meetsCased back = false) (before cs : List Char) :
    lowerChars (before ++ front) (cs ++ back) =
      lowerChars before cs ++ lowerChars (cs.reverse ++ (before ++ front)) back := by
  induction cs generalizing before with
  | nil => rfl
  | cons c cs ih =>
    have hrest := ih (c :: before)
    rw [List.cons_append] at hrest
    rw [List.cons_append, lowerChars, lowerChar_surrounded hfront hback, hrest, lowerChars,
      List.append_assoc, List.reverse_cons, List.append_assoc]
    rfl

theorem lowerChar_of_isBlank {c : Char} (h : isBlank c = true) (before after : List Char) :
    lowerChar before c after = [c] := by
  have hall : ∀ r ∈ blankRanges, ∀ n ∈ List.range' r.1 (r.2 + 1 - r.1),
      (Char.ofNat n).toNat ≠ 0x3a3 ∧ lowerChar [] (Char.ofNat n) [] = [Char.ofNat n] := by
    decide
  obtain ⟨r, hr, hlow, hhigh⟩ := inRanges_iff.1 h
  have hc := hall r hr c.toNat (List.mem_range'_1.2 ⟨hlow, by omega⟩)
  rw [Char.ofNat_toNat] at hc
  have hself := hc.2
  unfold lowerChar at hself ⊢
  rwa [if_neg hc.1] at hself ⊢

/-! ## Mentions -/

/-- A phrase that occurs in two texts put together occurs in one of them or across the border. -/
theorem occursIn_append {part xs ys : List Char} : occursIn part (xs ++ ys) = true ↔
    occursIn part xs = true ∨ occursIn part ys = true ∨
      ∃ l r before after, l ≠ [] ∧ r ≠ [] ∧ part = l ++ r ∧ xs = before ++ l ∧ ys = r ++ after := by
  simp only [occursIn_iff]
  constructor
  · rintro ⟨before, after, h⟩
    rw [List.append_assoc] at h
    rcases List.append_eq_append_iff.1 h with ⟨more, rfl, rfl⟩ | ⟨l, rfl, hpart⟩
    · exact .inr (.inl ⟨more, after, (List.append_assoc ..).symm⟩)
    · rcases List.append_eq_append_iff.1 hpart with ⟨more, rfl, rfl⟩ | ⟨r, rfl, rfl⟩
      · exact .inl ⟨before, more, (List.append_assoc ..).symm⟩
      · rcases List.eq_nil_or_concat l with rfl | ⟨l, c, rfl⟩
        · exact .inr (.inl ⟨[], after, rfl⟩)
        rcases r with _ | ⟨d, r⟩
        · exact .inl ⟨before, [], by simp⟩
        · exact .inr (.inr ⟨_, _, before, after, by simp, by simp, rfl, rfl, rfl⟩)
  · rintro (⟨before, after, rfl⟩ | ⟨before, after, rfl⟩ |
      ⟨l, r, before, after, -, -, rfl, rfl, rfl⟩)
    · exact ⟨before, after ++ ys, by simp⟩
    · exact ⟨xs ++ before, after, by simp⟩
    · exact ⟨before, after, by simp⟩

/-- A phrase that does not start among some characters occurs where it does without them. -/
theorem occursIn_of_head {part : List Char} {c : Char} (hc : c ∈ part.head?) (hfront : c ∉ front) :
    occursIn part (front ++ cs) = occursIn part cs := by
  obtain ⟨rest, rfl⟩ : ∃ rest, part = c :: rest := by
    cases part with
    | nil => cases hc
    | cons d rest => exact ⟨rest, by rw [Option.mem_some_iff.1 hc]⟩
  rw [Bool.eq_iff_iff, occursIn_append]
  refine ⟨?_, fun h => .inr (.inl h)⟩
  rintro (h | h | ⟨l, r, before, after, hl, -, heq, rfl, -⟩)
  · obtain ⟨before, after, rfl⟩ := occursIn_iff.1 h
    simp at hfront
  · exact h
  · obtain ⟨d, l, rfl⟩ := List.exists_cons_of_ne_nil hl
    obtain rfl : c = d := (List.cons.inj heq).1
    simp at hfront

/-- A phrase that does not end among some characters occurs where it does without them. -/
theorem occursIn_of_last {part : List Char} {c : Char} (hc : c ∈ part.getLast?)
    (hback : c ∉ back) : occursIn part (cs ++ back) = occursIn part cs := by
  obtain ⟨rest, rfl⟩ : ∃ rest, part = rest ++ [c] := List.getLast?_eq_some_iff.1 hc
  rw [Bool.eq_iff_iff, occursIn_append]
  refine ⟨?_, .inl⟩
  rintro (h | h | ⟨l, r, before, after, -, hr, heq, -, rfl⟩)
  · exact h
  · obtain ⟨before, after, rfl⟩ := occursIn_iff.1 h
    simp at hback
  · obtain ⟨r, d, rfl⟩ := (List.eq_nil_or_concat r).resolve_left hr
    rw [List.concat_eq_append, ← List.append_assoc] at heq
    obtain rfl : c = d := by simpa using (List.append_inj' heq rfl).2
    simp at hback

end Arcade.Text
