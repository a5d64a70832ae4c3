import Mathlib
import Arcade.Proofs.Speech.Phrase
import Arcade.Proofs.Text.Surroundings

/-!
# Texts behind the wake phrase

The wake phrase is put before a text without one. If the text is one line behind the separators at
its head, then the phrase is found, and the command is what the text alone comes to but for
separators at its ends. If it is not, nothing is found and the text is kept with the phrase before
it. Either way lower case makes no further difference: separators and the phrase's blank hide what
is around a text.
-/

namespace Arcade.WakePhrase

open Text

variable {text : String} {cs blanks front back : List Char}

/-! ## Separators -/

theorem isSeparator_of_isBlank {c : Char} (h : isBlank c = true) : isSeparator c = true := by
  rw [isSeparator, h, Bool.true_or]

theorem isBlank_or_mem_of_isSeparator {c : Char} (h : isSeparator c = true) :
    isBlank c = true ∨ c ∈ [',', '.', '!', '?'] := by
  simpa [isSeparator, isPunctuation, or_assoc] using h

theorem isCased_of_isSeparator {c : Char} (h : isSeparator c = true) : isCased c = false := by
  rcases isBlank_or_mem_of_isSeparator h with h | h
  · have hall : ∀ r ∈ blankRanges, ∀ n ∈ List.range' r.1 (r.2 + 1 - r.1),
        isCased (Char.ofNat n) = false := by decide
    obtain ⟨r, hr, hlow, hhigh⟩ := inRanges_iff.1 h
    rw [← Char.ofNat_toNat c]
    exact hall r hr c.toNat (List.mem_range'_1.2 ⟨hlow, by omega⟩)
  · simp only [List.mem_cons, List.not_mem_nil, or_false] at h
    rcases h with rfl | rfl | rfl | rfl <;> decide

/-- Separators hide what is behind them. -/
theorem meetsCased_of_separators (h : ∀ c ∈ cs, isSeparator c = true) : meetsCased cs = false := by
  unfold meetsCased
  split
  · rfl
  · rename_i c rest hd
    exact isCased_of_isSeparator (h c ((List.dropWhile_sublist _).mem (hd ▸ List.mem_cons_self)))

theorem lowerChar_of_isSeparator {c : Char} (h : isSeparator c = true) (before after : List Char) :
    lowerChar before c after = [c] := by
  rcases isBlank_or_mem_of_isSeparator h with h | h
  · exact lowerChar_of_isBlank h before after
  · simp only [List.mem_cons, List.not_mem_nil, or_false] at h
    rcases h with rfl | rfl | rfl | rfl <;> rfl

theorem lowerChars_separators (h : ∀ c ∈ front, isSeparator c = true) (before cs : List Char) :
    lowerChars before (front ++ cs) = front ++ lowerChars (front.reverse ++ before) cs := by
  induction front generalizing before with
  | nil => rfl
  | cons c front ih =>
    rw [List.cons_append, lowerChars, lowerChar_of_isSeparator (h c List.mem_cons_self),
      ih fun d hd => h d (List.mem_cons_of_mem c hd), List.reverse_cons, List.append_assoc]
    rfl

/-- Separators stay as they are in lower case, and what they surround does as on its own. -/
theorem lowerChars_between (hfront : ∀ c ∈ front, isSeparator c = true)
    (hback : ∀ c ∈ back, isSeparator c = true) (cs : List Char) :
    lowerChars [] (front ++ cs ++ back) = front ++ lowerChars [] cs ++ back := by
  have hhidden : meetsCased front.reverse = false :=
    meetsCased_of_separators fun c hc => hfront c (List.mem_reverse.1 hc)
  have hrest := lowerChars_separators hback (cs.reverse ++ front.reverse) []
  rw [List.append_nil, lowerChars_nil, List.append_nil] at hrest
  rw [List.append_assoc, lowerChars_separators hfront, List.append_nil, ← List.nil_append
    front.reverse, lowerChars_surrounded hhidden (meetsCased_of_separators hback), List.nil_append,
    hrest, List.append_assoc]

/-- The phrase and blanks before a text stay as they are in lower case, and the text does as on its
own. -/
theorem lowerChars_woken (h : ∀ c ∈ blanks, isBlank c = true) (cs : List Char) :
    lowerChars [] ("hey buddy".toList ++ (' ' :: blanks ++ cs)) =
      "hey buddy ".toList ++ (blanks ++ lowerChars [] cs) := by
  have hseparators : ∀ c ∈ ' ' :: blanks, isSeparator c = true :=
    List.forall_mem_cons.2 ⟨by decide, fun c hc => isSeparator_of_isBlank (h c hc)⟩
  have hhidden : meetsCased (blanks.reverse ++ ' ' :: "hey buddy".toList.reverse) = false := by
    have hspace : meetsCased (' ' :: "hey buddy".toList.reverse) = false := by decide +kernel
    rw [meetsCased_append hspace]
    exact meetsCased_of_separators fun c hc =>
      hseparators c (List.mem_cons_of_mem _ (List.mem_reverse.1 hc))
  have hcs := lowerChars_surrounded hhidden (meetsCased_of_separators (List.forall_mem_nil _)) [] cs
  rw [List.append_nil, List.nil_append, lowerChars_nil, List.append_nil] at hcs
  rw [lowerChars_append _ _ _ (by simp), lowerChars_separators hseparators, List.append_nil,
    List.reverse_cons, List.append_assoc, List.singleton_append, hcs]
  simp

/-! ## Searching -/

theorem afterPhrase?_cons {c : Char} (h : c.toLower ≠ 'h') (cs : List Char) :
    afterPhrase? (c :: cs) = none := by
  simp [afterPhrase?, greetings, afterWord?, matchesLetter, h]

theorem find?_cons {c : Char} {inWord : Bool} (h : inWord = true ∨ c.toLower ≠ 'h')
    (cs : List Char) : find? inWord (c :: cs) = find? (isWordChar c) cs := by
  rw [find?]
  rcases h with rfl | h
  · rfl
  · rw [commandHere?, afterPhrase?_cons h, ite_self]

theorem isWordChar_of_isAlpha {c : Char} (h : c.isAlpha = true) : isWordChar c = true := by
  have hnum : c.isAlphanum = true := by rw [Char.isAlphanum, h, Bool.true_or]
  rw [isWordChar, isAlphanumeric_of_isAlphanum hnum, Bool.or_true]

/-- The search passes over the rest of a word. -/
theorem find?_letters {word : List Char} (h : ∀ c ∈ word, c.isAlpha = true) (cs : List Char) :
    find? true (word ++ cs) = find? true cs := by
  induction word with
  | nil => rfl
  | cons c word ih =>
    rw [List.cons_append, find?_cons (.inl rfl), isWordChar_of_isAlpha (h c List.mem_cons_self),
      ih fun d hd => h d (List.mem_cons_of_mem c hd)]

theorem find?_space (cs : List Char) : find? true (' ' :: cs) = find? false cs := by
  rw [find?_cons (.inl rfl), isWordChar_of_isBlank isBlank_space]

theorem find?_blanks (h : ∀ c ∈ blanks, isBlank c = true) (cs : List Char) :
    find? false (blanks ++ cs) = find? false cs := by
  induction blanks with
  | nil => rfl
  | cons c blanks ih =>
    have hc := h c List.mem_cons_self
    have hne : c.toLower ≠ 'h' := by
      intro hh
      rcases (toLower_eq_iff (by decide)).1 hh with rfl | rfl <;> revert hc <;> decide
    rw [List.cons_append, find?_cons (.inr hne), isWordChar_of_isBlank hc,
      ih fun d hd => h d (List.mem_cons_of_mem c hd)]

theorem isPhrase_heyBuddy : IsPhrase "hey buddy".toList :=
  ⟨"hey", by decide, "buddy", by decide, "hey".toList, [' '], "buddy".toList,
    by simp [Spells, IsCaseOf], by decide, by simp [isBlank_space], by simp [Spells, IsCaseOf],
    by decide⟩

/-- The search through the phrase, blanks and a text: the text is the command if it is one line, and
else it is searched in its turn. -/
theorem find?_woken (h : ∀ c ∈ blanks, isBlank c = true) (cs : List Char) :
    find? false ("hey buddy".toList ++ (' ' :: blanks ++ cs)) =
      if '\n' ∈ cs.dropWhile isSeparator then find? false cs
      else some (cs.dropWhile isSeparator) := by
  have hafter : afterPhrase? ("hey buddy".toList ++ (' ' :: blanks ++ cs)) =
      some (' ' :: blanks ++ cs) := by
    refine afterPhrase?_eq_some.2 ⟨_, isPhrase_heyBuddy, rfl, ?_⟩
    rw [List.cons_append, endsWord_cons, isWordChar_of_isBlank isBlank_space]
    rfl
  have hdrop : (' ' :: blanks ++ cs).dropWhile isSeparator = cs.dropWhile isSeparator := by
    refine List.dropWhile_append_of_pos (List.forall_mem_cons.2 ⟨by decide, fun c hc => ?_⟩)
    exact isSeparator_of_isBlank (h c hc)
  have hwalk : find? true ("ey buddy".toList ++ (' ' :: blanks ++ cs)) = find? false cs := by
    change find? true ("ey".toList ++ (' ' :: 'b' :: ("uddy".toList ++ (' ' :: blanks ++ cs)))) = _
    rw [find?_letters (by simp), find?_space, find?_cons (.inr (by decide)),
      isWordChar_of_isAlpha (by decide), find?_letters (by simp), List.cons_append, find?_space,
      find?_blanks h]
  rw [show "hey buddy".toList = 'h' :: "ey buddy".toList from rfl, List.cons_append] at hafter ⊢
  rw [find?, commandHere?, hafter]
  simp only [Bool.false_eq_true, if_false, hdrop, List.contains_eq_mem, decide_eq_true_eq]
  by_cases hline : '\n' ∈ cs.dropWhile isSeparator
  · rw [if_pos hline, if_pos hline]
    exact hwalk
  · rw [if_neg hline, if_neg hline]

/-! ## Commands -/

/-- A command is what it is cut out of, without separators before and after it. -/
theorem exists_tidyCommand (cs : List Char) : ∃ front inner back,
    (∀ c ∈ front, isSeparator c = true) ∧ (∀ c ∈ back, isSeparator c = true) ∧
      cs = front ++ inner ++ back ∧
      tidyCommand (cs.dropWhile isSeparator) = lower (String.ofList inner) := by
  have hblank {ds : List Char} (h : ∀ c ∈ ds, isBlank c = true) :
      ∀ c ∈ ds, isSeparator c = true := fun c hc => isSeparator_of_isBlank (h c hc)
  have hmark {ds : List Char} (h : ∀ c ∈ ds, isPunctuation c = true) :
      ∀ c ∈ ds, isSeparator c = true := fun c hc => by rw [isSeparator, h c hc, Bool.or_true]
  have hdrop := List.takeWhile_append_dropWhile (p := isSeparator) (l := cs)
  have htake : ∀ c ∈ cs.takeWhile isSeparator, isSeparator c = true :=
    fun c hc => List.mem_takeWhile_imp hc
  obtain ⟨f₁, b₁, hf₁, hb₁, h₁⟩ := exists_trimChars isBlank (cs.dropWhile isSeparator)
  obtain ⟨f₂, b₂, hf₂, hb₂, h₂⟩ := exists_trimChars isPunctuation
    (trimChars isBlank (cs.dropWhile isSeparator))
  obtain ⟨f₃, b₃, hf₃, hb₃, h₃⟩ := exists_trimChars isBlank
    (trimChars isPunctuation (trimChars isBlank (cs.dropWhile isSeparator)))
  refine ⟨cs.takeWhile isSeparator ++ f₁ ++ f₂ ++ f₃, _, b₃ ++ b₂ ++ b₁, ?_, ?_, ?_, rfl⟩
  · simp only [List.forall_mem_append]
    exact ⟨⟨⟨htake, hblank hf₁⟩, hmark hf₂⟩, hblank hf₃⟩
  · simp only [List.forall_mem_append]
    exact ⟨⟨hblank hb₃, hmark hb₂⟩, hblank hb₁⟩
  · conv_lhs => rw [← hdrop, h₁, h₂, h₃]
    simp only [List.append_assoc]

theorem trimmed_heyBuddy : Trimmed isBlank "hey buddy".toList := by
  constructor
  · intro c hc
    obtain rfl : 'h' = c := by simpa using hc
    decide
  · intro c hc
    obtain rfl : 'y' = c := by simpa using hc
    decide

/-- A text behind the phrase is trimmed at its end only, unless nothing is left of it. -/
theorem exists_trimChars_woken (text : String) : ∃ blanks, (∀ c ∈ blanks, isBlank c = true) ∧
    trimChars isBlank ("hey buddy " ++ text).toList =
      if trimChars isBlank text.toList = [] then "hey buddy".toList
      else "hey buddy".toList ++ (' ' :: blanks ++ trimChars isBlank text.toList) := by
  have hwhole : ("hey buddy " ++ text).toList = "hey buddy".toList ++ ' ' :: text.toList := by
    rw [String.toList_append]
    rfl
  obtain ⟨front, back, hfront, hback, htext⟩ := exists_trimChars isBlank text.toList
  have htrimmed := trimmed_trimChars isBlank text.toList
  refine ⟨front, hfront, ?_⟩
  rw [hwhole]
  split
  · rename_i hnil
    have hblank : ∀ c ∈ ' ' :: text.toList, isBlank c = true :=
      List.forall_mem_cons.2 ⟨isBlank_space, trimChars_eq_nil_iff.1 hnil⟩
    exact trimChars_surrounded trimmed_heyBuddy (List.forall_mem_nil _) hblank
  · rename_i hne
    generalize trimChars isBlank text.toList = cs at htext htrimmed hne ⊢
    have hwoken : Trimmed isBlank ("hey buddy".toList ++ (' ' :: front ++ cs)) := by
      refine ⟨fun c hc => trimmed_heyBuddy.1 c (by simpa using hc), fun c hc => htrimmed.2 c ?_⟩
      rwa [List.getLast?_append_of_ne_nil _ (by simp), List.getLast?_append_of_ne_nil _ hne] at hc
    have hsurrounded := trimChars_surrounded hwoken (List.forall_mem_nil _) hback
    rw [htext]
    simpa using hsurrounded

/-- What a text without the phrase comes to behind it: a command that is the text but for separators
before and after it, or the text with the phrase before it. -/
theorem strip_woken (h : detect text = none) :
    (∃ command front back, detect ("hey buddy " ++ text) = some command ∧
      (∀ c ∈ front, isSeparator c = true) ∧ (∀ c ∈ back, isSeparator c = true) ∧
        (strip text).toList = front ++ command.toList ++ back) ∨
      detect ("hey buddy " ++ text) = none ∧ ∃ blanks, (∀ c ∈ blanks, isBlank c = true) ∧
        (strip ("hey buddy " ++ text)).toList =
          "hey buddy ".toList ++ (blanks ++ (strip text).toList) := by
  obtain ⟨blanks, hblanks, htrim⟩ := exists_trimChars_woken text
  have hsaid : (strip text).toList = lowerChars [] (trimChars isBlank text.toList) := by
    rw [strip, h, lower, trim, trimWhere, String.toList_ofList, String.toList_ofList]
  have hnone : find? false (trimChars isBlank text.toList) = none := by
    simpa [detect] using h
  rw [hsaid]
  generalize trimChars isBlank text.toList = cs at htrim hnone ⊢
  split at htrim
  · rename_i hnil
    refine .inl ⟨"", [], [], ?_, by simp, by simp, by simp [hnil]⟩
    rw [detect, htrim]
    decide
  have hfind := find?_woken hblanks cs
  by_cases hline : '\n' ∈ cs.dropWhile isSeparator
  · have hdetect : detect ("hey buddy " ++ text) = none := by
      rw [detect, htrim, hfind, if_pos hline, hnone]
      rfl
    refine .inr ⟨hdetect, blanks, hblanks, ?_⟩
    rw [strip, hdetect, lower, trim, trimWhere, String.toList_ofList, String.toList_ofList, htrim,
      lowerChars_woken hblanks]
  · obtain ⟨front, inner, back, hfront, hback, hcs, htidy⟩ := exists_tidyCommand cs
    refine .inl ⟨tidyCommand (cs.dropWhile isSeparator), front, back, ?_, hfront, hback, ?_⟩
    · rw [detect, htrim, hfind, if_neg hline]
      rfl
    · rw [htidy, hcs, lowerChars_between hfront hback, lower, String.toList_ofList,
        String.toList_ofList]

end Arcade.WakePhrase
