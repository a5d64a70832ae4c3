import Mathlib
import Arcade.Proofs.Text.Lowercase
import Arcade.Speech.WakePhrase

/-!
# Where the wake phrase is found

The wake phrase is a greeting, blanks and a name of the buddy, in any letter case. It occurs in a
text wherever a word starts with it and it ends with a word. Words and blanks share no characters,
so that a text falls into them in one way only: what follows the phrase at a place is told by the
text alone, whichever greeting and name are tried first. The search finds the first occurrence that
one line follows, and the command there is empty exactly if nothing but blanks and punctuation
follows.
-/

namespace Arcade.WakePhrase

open Text

/-! ## Words in either case -/

/-- Whether a character is a letter in either case. The letter `i` has two more forms, the capital
one with a dot and the small one without. -/
def IsCaseOf (letter c : Char) : Prop :=
  c = letter ∨ c = letter.toUpper ∨ letter = 'i' ∧ (c.toNat = 0x130 ∨ c.toNat = 0x131)

/-- Whether characters spell a word in any letter case. -/
def Spells (word : String) (cs : List Char) : Prop := List.Forall₂ IsCaseOf word.toList cs

theorem toLower_eq_iff {letter c : Char} (h : letter.isLower = true) :
    c.toLower = letter ↔ c = letter ∨ c = letter.toUpper := by
  have hletter : letter.toLower = letter :=
    Char.toLower_eq_of_not_isUpper (Char.not_isUpper_of_isLower h)
  constructor
  · rintro rfl
    by_cases hc : c.isUpper = true
    · rw [Char.toUpper_toLower_eq_toUpper,
        Char.toUpper_eq_of_not_isLower (Char.not_isLower_of_isUpper hc)]
      exact .inr rfl
    · exact .inl (Char.toLower_eq_of_not_isUpper hc).symm
  · rintro (rfl | rfl)
    · exact hletter
    · rw [Char.toLower_toUpper_eq_toLower, hletter]

theorem matchesLetter_iff {letter c : Char} (h : letter.isLower = true) :
    matchesLetter letter c = true ↔ IsCaseOf letter c := by
  unfold matchesLetter IsCaseOf
  rw [Bool.or_eq_true, beq_iff_eq, toLower_eq_iff h, or_assoc]
  simp

theorem afterWord?_eq_some {word cs rest : List Char} (h : ∀ letter ∈ word, letter.isLower = true) :
    afterWord? word cs = some rest ↔
      ∃ front, List.Forall₂ IsCaseOf word front ∧ cs = front ++ rest := by
  induction word generalizing cs with
  | nil => simp [afterWord?]
  | cons letter word ih =>
    have hword := fun l hl => h l (List.mem_cons_of_mem letter hl)
    cases cs with
    | nil => simp [afterWord?]
    | cons c cs =>
      rw [afterWord?]
      by_cases hc : matchesLetter letter c = true
      · rw [if_pos hc, ih hword]
        have hcase := (matchesLetter_iff (h letter List.mem_cons_self)).1 hc
        constructor
        · rintro ⟨front, hfront, rfl⟩
          exact ⟨c :: front, .cons hcase hfront, rfl⟩
        · rintro ⟨front, hfront, heq⟩
          cases hfront with
          | cons hx hfront =>
            rw [List.cons_append, List.cons.injEq] at heq
            exact ⟨_, hfront, heq.2⟩
      · rw [if_neg hc]
        refine iff_of_false (by simp) ?_
        rintro ⟨front, hfront, heq⟩
        cases hfront with
        | cons hx hfront =>
          rw [List.cons_append, List.cons.injEq] at heq
          rw [matchesLetter_iff (h letter List.mem_cons_self), heq.1] at hc
          exact hc hx

/-! ## Blanks and words -/

theorem isWordChar_of_isBlank {c : Char} (h : isBlank c = true) : isWordChar c = false := by
  have hall : ∀ r ∈ blankRanges, ∀ n ∈ List.range' r.1 (r.2 + 1 - r.1),
      isWordChar (Char.ofNat n) = false := by decide +kernel
  obtain ⟨r, hr, hlow, hhigh⟩ := inRanges_iff.1 h
  rw [← Char.ofNat_toNat c]
  exact hall r hr c.toNat (List.mem_range'_1.2 ⟨hlow, by omega⟩)

theorem isWordChar_of_isCaseOf {letter c : Char} (hl : letter.isLower = true)
    (h : IsCaseOf letter c) : isWordChar c = true := by
  have hword {d : Char} (hd : d.isAlpha = true) : isWordChar d = true := by
    have hnum : d.isAlphanum = true := by rw [Char.isAlphanum, hd, Bool.true_or]
    rw [isWordChar, isAlphanumeric_of_isAlphanum hnum, Bool.or_true]
  have hletter : letter.isAlpha = true := by rw [Char.isAlpha, hl, Bool.or_true]
  rcases h with rfl | rfl | ⟨-, hc | hc⟩
  · exact hword hletter
  · exact hword (by rw [Char.isAlpha_toUpper_eq_isAlpha, hletter])
  · rw [← Char.ofNat_toNat c, hc]
    decide
  · rw [← Char.ofNat_toNat c, hc]
    decide

theorem isLower_of_mem {word : String} (h : word ∈ greetings ++ names) :
    ∀ letter ∈ word.toList, letter.isLower = true := by
  have hall : ∀ word ∈ greetings ++ names, ∀ letter ∈ word.toList, letter.isLower = true := by
    simp [greetings, names]
  exact hall word h

/-- The words of the phrase are made of word characters, in either case. -/
theorem Spells.isWordChar {word : String} (hw : word ∈ greetings ++ names) {cs : List Char}
    (h : Spells word cs) : ∀ c ∈ cs, Text.isWordChar c = true := by
  have hlower := isLower_of_mem hw
  unfold Spells at h
  generalize word.toList = letters at h hlower
  induction h with
  | nil => exact fun c hc => nomatch hc
  | cons hcase _ ih =>
    intro c hc
    rcases List.mem_cons.1 hc with rfl | hc
    · exact isWordChar_of_isCaseOf (hlower _ List.mem_cons_self) hcase
    · exact ih (fun l hl => hlower l (List.mem_cons_of_mem _ hl)) c hc

theorem Spells.ne_nil {word : String} (hw : word ∈ greetings ++ names) {cs : List Char}
    (h : Spells word cs) : cs ≠ [] := by
  have hall : ∀ word ∈ greetings ++ names, word.toList ≠ [] := by simp [greetings, names]
  rintro rfl
  exact hall word hw (List.forall₂_nil_right_iff.1 h)

/-! ## The phrase -/

/-- Whether characters are the wake phrase: a greeting, blanks and a name of the buddy. -/
def IsPhrase (cs : List Char) : Prop :=
  ∃ greeting ∈ greetings, ∃ name ∈ names, ∃ g blanks n, Spells greeting g ∧ blanks ≠ [] ∧
    (∀ c ∈ blanks, isBlank c = true) ∧ Spells name n ∧ cs = g ++ (blanks ++ n)

theorem dropWhile_isWordChar {front rest : List Char} (h : ∀ c ∈ front, isWordChar c = true)
    (hend : endsWord rest = true) : (front ++ rest).dropWhile isWordChar = rest := by
  rw [List.dropWhile_append_of_pos h]
  cases rest with
  | nil => rfl
  | cons c rest => exact List.dropWhile_cons_of_neg (by simpa using hend)

/-- Blanks are followed by a word. -/
theorem dropWhile_isBlank {blanks word rest : List Char} (h : ∀ c ∈ blanks, isBlank c = true)
    (hword : ∀ c ∈ word, isWordChar c = true) (hne : word ≠ []) :
    (blanks ++ (word ++ rest)).dropWhile isBlank = word ++ rest := by
  rw [List.dropWhile_append_of_pos h]
  obtain ⟨c, word, rfl⟩ := List.exists_cons_of_ne_nil hne
  refine List.dropWhile_cons_of_neg fun hc => ?_
  have := hword c List.mem_cons_self
  rw [isWordChar_of_isBlank hc] at this
  cases this

theorem endsWord_of_blanks {blanks rest : List Char} (h : ∀ c ∈ blanks, isBlank c = true)
    (hne : blanks ≠ []) : endsWord (blanks ++ rest) = true := by
  obtain ⟨c, blanks, rfl⟩ := List.exists_cons_of_ne_nil hne
  rw [List.cons_append, endsWord_cons, isWordChar_of_isBlank (h c List.mem_cons_self)]
  rfl

/-- What follows a phrase that ends with a word is told by the text alone. -/
theorem IsPhrase.rest_eq {phrase rest : List Char} (h : IsPhrase phrase)
    (hend : endsWord rest = true) : rest =
      (((phrase ++ rest).dropWhile isWordChar).dropWhile isBlank).dropWhile isWordChar := by
  obtain ⟨greeting, hgreeting, name, hname, g, blanks, n, hg, hne, hblanks, hn, rfl⟩ := h
  have hgword := hg.isWordChar (List.mem_append_left _ hgreeting)
  have hnword := hn.isWordChar (List.mem_append_right _ hname)
  have hnne := hn.ne_nil (List.mem_append_right _ hname)
  rw [List.append_assoc, List.append_assoc,
    dropWhile_isWordChar hgword (endsWord_of_blanks hblanks hne),
    dropWhile_isBlank hblanks hnword hnne, dropWhile_isWordChar hnword hend]

theorem findSome?_eq_some_of_unique {α β : Type} {f : α → Option β} {l : List α} {a : α} {b : β}
    (ha : a ∈ l) (hf : f a = some b) (hunique : ∀ x ∈ l, ∀ y, f x = some y → y = b) :
    l.findSome? f = some b := by
  cases h : l.findSome? f with
  | none =>
    rw [List.findSome?_eq_none_iff.1 h a ha] at hf
    cases hf
  | some y =>
    obtain ⟨x, hx, hy⟩ := List.exists_of_findSome?_eq_some h
    rw [hunique x hx y hy]

theorem afterName?_eq_some {cs rest : List Char} : afterName? cs = some rest ↔
    ∃ name ∈ names, ∃ n, Spells name n ∧ cs = n ++ rest ∧ endsWord rest = true := by
  have hone {name : String} (hname : name ∈ names) {rest : List Char} :
      (afterWord? name.toList cs).filter (fun rest => endsWord rest) = some rest ↔
        ∃ n, Spells name n ∧ cs = n ++ rest ∧ endsWord rest = true := by
    rw [Option.filter_eq_some_iff,
      afterWord?_eq_some (isLower_of_mem (List.mem_append_right _ hname))]
    exact ⟨fun ⟨⟨n, hn, hcs⟩, hend⟩ => ⟨n, hn, hcs, hend⟩,
      fun ⟨n, hn, hcs, hend⟩ => ⟨⟨n, hn, hcs⟩, hend⟩⟩
  have hrest {rest : List Char} : (∃ name ∈ names, ∃ n, Spells name n ∧ cs = n ++ rest ∧
      endsWord rest = true) → rest = cs.dropWhile isWordChar := by
    rintro ⟨name, hname, n, hn, rfl, hend⟩
    exact (dropWhile_isWordChar (hn.isWordChar (List.mem_append_right _ hname)) hend).symm
  constructor
  · intro h
    obtain ⟨name, hname, h⟩ := List.exists_of_findSome?_eq_some h
    exact ⟨name, hname, (hone hname).1 h⟩
  · rintro ⟨name, hname, h⟩
    refine findSome?_eq_some_of_unique hname ((hone hname).2 h) fun name' hname' rest' h' => ?_
    rw [hrest ⟨name, hname, h⟩, hrest ⟨name', hname', (hone hname').1 h'⟩]

/-- What is found after one greeting. -/
def afterGreeting? (cs : List Char) (greeting : String) : Option (List Char) :=
  match afterWord? greeting.toList cs with
  | some (c :: rest) => if isBlank c then afterName? (rest.dropWhile isBlank) else none
  | _ => none

theorem afterGreeting?_eq_some {greeting : String} (hgreeting : greeting ∈ greetings)
    {cs rest : List Char} : afterGreeting? cs greeting = some rest ↔
      ∃ name ∈ names, ∃ g blanks n, Spells greeting g ∧ blanks ≠ [] ∧
        (∀ c ∈ blanks, isBlank c = true) ∧ Spells name n ∧ cs = g ++ (blanks ++ n) ++ rest ∧
        endsWord rest = true := by
  have hlower := isLower_of_mem (List.mem_append_left names hgreeting)
  constructor
  · intro h
    unfold afterGreeting? at h
    split at h
    · rename_i c follow hword
      split at h
      · rename_i hblank
        obtain ⟨g, hg, rfl⟩ := (afterWord?_eq_some hlower).1 hword
        obtain ⟨name, hname, n, hn, hfollow, hend⟩ := afterName?_eq_some.1 h
        refine ⟨name, hname, g, c :: follow.takeWhile isBlank, n, hg, List.cons_ne_nil _ _, ?_, hn,
          ?_, hend⟩
        · intro d hd
          rcases List.mem_cons.1 hd with rfl | hd
          · exact hblank
          · exact List.mem_takeWhile_imp hd
        · have hsplit := List.takeWhile_append_dropWhile (p := isBlank) (l := follow)
          rw [hfollow] at hsplit
          simp only [List.append_assoc, List.cons_append, hsplit]
      · cases h
    · cases h
  · rintro ⟨name, hname, g, blanks, n, hg, hne, hblanks, hn, rfl, hend⟩
    -- A name begins with a letter, so that the blanks end where it begins.
    have hnword := hn.isWordChar (List.mem_append_right _ hname)
    have hnne := hn.ne_nil (List.mem_append_right _ hname)
    have hword : afterWord? greeting.toList (g ++ (blanks ++ n) ++ rest) =
        some (blanks ++ (n ++ rest)) :=
      (afterWord?_eq_some hlower).2 ⟨g, hg, by simp only [List.append_assoc]⟩
    obtain ⟨c, blanks, rfl⟩ := List.exists_cons_of_ne_nil hne
    rw [afterGreeting?, hword]
    dsimp only [List.cons_append]
    rw [if_pos (hblanks c List.mem_cons_self),
      dropWhile_isBlank (fun d hd => hblanks d (List.mem_cons_of_mem c hd)) hnword hnne]
    exact afterName?_eq_some.2 ⟨name, hname, n, hn, rfl, hend⟩

/-- The phrase is found at the head of a text exactly if it stands there and ends with a word. -/
theorem afterPhrase?_eq_some {cs rest : List Char} : afterPhrase? cs = some rest ↔
    ∃ phrase, IsPhrase phrase ∧ cs = phrase ++ rest ∧ endsWord rest = true := by
  have hone {greeting : String} (hgreeting : greeting ∈ greetings) {rest : List Char}
      (h : afterGreeting? cs greeting = some rest) :
      ∃ phrase, IsPhrase phrase ∧ cs = phrase ++ rest ∧ endsWord rest = true := by
    obtain ⟨name, hname, g, blanks, n, hg, hne, hblanks, hn, hcs, hend⟩ :=
      (afterGreeting?_eq_some hgreeting).1 h
    exact ⟨_, ⟨greeting, hgreeting, name, hname, g, blanks, n, hg, hne, hblanks, hn, rfl⟩, hcs,
      hend⟩
  constructor
  · intro h
    obtain ⟨greeting, hgreeting, h⟩ := List.exists_of_findSome?_eq_some h
    exact hone hgreeting h
  · rintro ⟨phrase, hphrase, rfl, hend⟩
    have hrest := hphrase.rest_eq hend
    obtain ⟨greeting, hgreeting, name, hname, g, blanks, n, hg, hne, hblanks, hn, heq⟩ := hphrase
    have hfound : afterGreeting? (phrase ++ rest) greeting = some rest :=
      (afterGreeting?_eq_some hgreeting).2
        ⟨name, hname, g, blanks, n, hg, hne, hblanks, hn, by rw [heq], hend⟩
    refine findSome?_eq_some_of_unique hgreeting hfound fun greeting' hgreeting' rest' h' => ?_
    obtain ⟨phrase', hphrase', heq', hend'⟩ := hone hgreeting' h'
    rw [hrest, heq', ← hphrase'.rest_eq hend']

/-! ## Occurrences -/

/-- Whether a word may start behind some characters; `inWord` tells whether a word character stands
before them. -/
def startsWord (inWord : Bool) (before : List Char) : Bool :=
  !before.getLast?.elim inWord isWordChar

/-- Whether the phrase stands between two parts of a text, at the start of a word and ending with
one. -/
def Occurs (inWord : Bool) (cs before rest : List Char) : Prop :=
  ∃ phrase, IsPhrase phrase ∧ cs = before ++ (phrase ++ rest) ∧ startsWord inWord before = true ∧
    endsWord rest = true

/-- Whether what follows a phrase is one line, once the separators at its head are left out. -/
def OneLine (rest : List Char) : Prop := '\n' ∉ rest.dropWhile isSeparator

theorem IsPhrase.ne_nil {phrase : List Char} (h : IsPhrase phrase) : phrase ≠ [] := by
  obtain ⟨greeting, -, name, -, g, blanks, n, -, hne, -, -, rfl⟩ := h
  exact fun hnil => hne (List.append_eq_nil_iff.1 (List.append_eq_nil_iff.1 hnil).2).1

theorem not_occurs_nil (inWord : Bool) (before rest : List Char) :
    ¬ Occurs inWord [] before rest := by
  rintro ⟨phrase, hphrase, heq, -⟩
  have hnil := List.append_eq_nil_iff.1 (List.append_eq_nil_iff.1 heq.symm).2
  exact hphrase.ne_nil hnil.1

theorem occurs_at_head {inWord : Bool} {cs rest : List Char} :
    Occurs inWord cs [] rest ↔ inWord = false ∧ afterPhrase? cs = some rest := by
  rw [afterPhrase?_eq_some]
  constructor
  · rintro ⟨phrase, hphrase, heq, hstart, hend⟩
    exact ⟨by simpa [startsWord] using hstart, phrase, hphrase, heq, hend⟩
  · rintro ⟨rfl, phrase, hphrase, heq, hend⟩
    exact ⟨phrase, hphrase, heq, rfl, hend⟩

theorem startsWord_cons (inWord : Bool) (c : Char) (before : List Char) :
    startsWord inWord (c :: before) = startsWord (isWordChar c) before := by
  unfold startsWord
  rw [List.getLast?_cons]
  cases before.getLast? <;> rfl

theorem occurs_cons {inWord : Bool} {c d : Char} {cs before rest : List Char} :
    Occurs inWord (c :: cs) (d :: before) rest ↔ d = c ∧ Occurs (isWordChar c) cs before rest := by
  constructor
  · rintro ⟨phrase, hphrase, heq, hstart, hend⟩
    rw [List.cons_append, List.cons.injEq] at heq
    obtain ⟨rfl, rfl⟩ := heq
    rw [startsWord_cons] at hstart
    exact ⟨rfl, phrase, hphrase, rfl, hstart, hend⟩
  · rintro ⟨rfl, phrase, hphrase, rfl, hstart, hend⟩
    exact ⟨phrase, hphrase, rfl, (startsWord_cons ..).trans hstart, hend⟩

theorem commandHere?_eq_some {cs command : List Char} : commandHere? cs = some command ↔
    ∃ rest, afterPhrase? cs = some rest ∧ OneLine rest ∧ command = rest.dropWhile isSeparator := by
  unfold commandHere? OneLine
  cases afterPhrase? cs with
  | none => simp
  | some rest => simp [eq_comm]

/-- The first of all occurrences that one line follows, if there is one. -/
def IsFirst (inWord : Bool) (cs before rest : List Char) : Prop :=
  Occurs inWord cs before rest ∧ OneLine rest ∧ ∀ before' rest',
    Occurs inWord cs before' rest' → OneLine rest' → before.length ≤ before'.length

/-- The search finds the first occurrence that one line follows. -/
theorem find?_spec (inWord : Bool) (cs : List Char) :
    match find? inWord cs with
    | none => ∀ before rest, Occurs inWord cs before rest → ¬ OneLine rest
    | some command =>
      ∃ before rest, IsFirst inWord cs before rest ∧ command = rest.dropWhile isSeparator := by
  induction cs generalizing inWord with
  | nil => exact fun before rest h => absurd h (not_occurs_nil inWord before rest)
  | cons c cs ih =>
    rw [find?]
    -- The phrase begins here, unless in the middle of a word, or further behind.
    cases hhere : (if inWord = true then none else commandHere? (c :: cs)) with
    | some command =>
      have hword : inWord = false := by
        by_contra hword
        rw [if_pos (Bool.of_not_eq_false hword)] at hhere
        cases hhere
      rw [hword, if_neg Bool.false_ne_true] at hhere
      obtain ⟨rest, hafter, hline, hcommand⟩ := commandHere?_eq_some.1 hhere
      exact ⟨[], rest, ⟨occurs_at_head.2 ⟨hword, hafter⟩, hline, fun _ _ _ _ => Nat.zero_le _⟩,
        hcommand⟩
    | none =>
      have hhead {rest : List Char} (h : Occurs inWord (c :: cs) [] rest) : ¬ OneLine rest := by
        intro hline
        obtain ⟨rfl, hafter⟩ := occurs_at_head.1 h
        rw [if_neg Bool.false_ne_true, commandHere?_eq_some.2 ⟨rest, hafter, hline, rfl⟩] at hhere
        cases hhere
      have hrest := ih (isWordChar c)
      cases hfind : find? (isWordChar c) cs with
      | none =>
        rw [hfind] at hrest
        intro before rest h
        cases before with
        | nil => exact hhead h
        | cons d before => exact hrest before rest (occurs_cons.1 h).2
      | some command =>
        rw [hfind] at hrest
        obtain ⟨before, rest, ⟨hoccurs, hline, hfirst⟩, hcommand⟩ := hrest
        refine ⟨c :: before, rest, ⟨occurs_cons.2 ⟨rfl, hoccurs⟩, hline, ?_⟩, hcommand⟩
        intro before' rest' h hline'
        cases before' with
        | nil => exact absurd hline' (hhead h)
        | cons d before' =>
          exact Nat.succ_le_succ (hfirst before' rest' (occurs_cons.1 h).2 hline')

/-- What follows an occurrence is told by what stands before it. -/
theorem Occurs.rest_unique {inWord : Bool} {cs before rest before' rest' : List Char}
    (h : Occurs inWord cs before rest) (h' : Occurs inWord cs before' rest')
    (hlength : before'.length = before.length) : rest' = rest := by
  obtain ⟨phrase, hphrase, heq, -, hend⟩ := h
  obtain ⟨phrase', hphrase', heq', -, hend'⟩ := h'
  have hsame := (List.append_inj (heq'.symm.trans heq) hlength).2
  rw [hphrase.rest_eq hend, hphrase'.rest_eq hend', hsame]

/-! ## Commands -/

theorem lower_ne_empty {cs : List Char} (h : cs ≠ []) : Text.lower (String.ofList cs) ≠ "" := by
  obtain ⟨c, cs, rfl⟩ := List.exists_cons_of_ne_nil h
  intro hempty
  have hnil := congrArg String.toList hempty
  rw [Text.lower, String.toList_ofList, String.toList_ofList, lowerChars] at hnil
  exact lowerChar_ne_nil _ _ _ (List.append_eq_nil_iff.1 hnil).1

/-- A command is empty exactly if nothing but separators follows the phrase. -/
theorem tidyCommand_eq_empty (rest : List Char) :
    tidyCommand (rest.dropWhile isSeparator) = "" ↔ ∀ c ∈ rest, isSeparator c = true := by
  rw [← dropWhile_eq_nil]
  cases h : rest.dropWhile isSeparator with
  | nil => exact iff_of_true rfl rfl
  | cons c command =>
    have hc : isSeparator c = false := by
      have hhead := List.head?_dropWhile_not isSeparator rest
      rw [h] at hhead
      simpa using hhead
    rw [isSeparator, Bool.or_eq_false_iff] at hc
    obtain ⟨trimmed, htrimmed⟩ := trimChars_cons hc.1 command
    obtain ⟨inner, hinner⟩ := trimChars_cons hc.2 trimmed
    obtain ⟨tidied, htidied⟩ := trimChars_cons hc.1 inner
    refine iff_of_false ?_ (List.cons_ne_nil c command)
    rw [tidyCommand, htrimmed, hinner, htidied]
    exact lower_ne_empty (List.cons_ne_nil c tidied)

/-! ## Detection -/

/-- The characters of a text without the blanks at its ends. -/
def stripped (text : String) : List Char := trimChars isBlank text.toList

theorem detect_eq (text : String) :
    detect text = (find? false (stripped text)).map tidyCommand := rfl

/-- What is detected belongs to the first occurrence that one line follows. -/
theorem detect_spec (text : String) :
    match detect text with
    | none => ∀ before rest, Occurs false (stripped text) before rest → ¬ OneLine rest
    | some command => ∃ before rest, IsFirst false (stripped text) before rest ∧
        (command = "" ↔ ∀ c ∈ rest, isSeparator c = true) := by
  have hfound := find?_spec false (stripped text)
  rw [detect_eq]
  cases hfind : find? false (stripped text) with
  | none =>
    rw [hfind] at hfound
    exact hfound
  | some command =>
    rw [hfind] at hfound
    obtain ⟨before, rest, hfirst, rfl⟩ := hfound
    exact ⟨before, rest, hfirst, tidyCommand_eq_empty rest⟩

/-- The wake phrase is detected exactly if it occurs somewhere in the text with one line after it.
The command is that of the first such place, and it is empty exactly if nothing but blanks and
punctuation follows there. The first occurrence of all is that place if one line follows it; a line
break behind its separators hides it. -/
theorem detect_exact (text : String) :
    ((detect text).isSome = true ↔
      ∃ before rest, Occurs false (stripped text) before rest ∧ OneLine rest) ∧
    (∀ command, detect text = some command →
      ∃ before rest, IsFirst false (stripped text) before rest ∧
        (command = "" ↔ ∀ c ∈ rest, isSeparator c = true)) ∧
    ∀ before rest, Occurs false (stripped text) before rest →
      (∀ before' rest', Occurs false (stripped text) before' rest' →
        before.length ≤ before'.length) → OneLine rest →
      ∃ command, detect text = some command ∧
        (command = "" ↔ ∀ c ∈ rest, isSeparator c = true) := by
  have hspec := detect_spec text
  cases hdetect : detect text with
  | none =>
    rw [hdetect] at hspec
    refine ⟨iff_of_false nofun fun ⟨before, rest, h, hline⟩ => hspec before rest h hline, nofun,
      fun before rest h _ hline => absurd hline (hspec before rest h)⟩
  | some command =>
    rw [hdetect] at hspec
    obtain ⟨before, rest, hfirst, hempty⟩ := hspec
    refine ⟨iff_of_true rfl ⟨before, rest, hfirst.1, hfirst.2.1⟩, fun command' hcommand => ?_,
      fun before' rest' h' hfirst' hline' => ⟨command, rfl, ?_⟩⟩
    · obtain rfl := Option.some.inj hcommand
      exact ⟨before, rest, hfirst, hempty⟩
    · have hlength : before'.length = before.length := Nat.le_antisymm
        (hfirst' before rest hfirst.1) (hfirst.2.2 before' rest' h' hline')
      rw [hfirst.1.rest_unique h' hlength]
      exact hempty

theorem detect_exact_buddie :
    detect "So, HAY Buddie!" = some "" ∧
    ∃ before rest, Occurs false (stripped "So, HAY Buddie!") before rest ∧
      ∀ c ∈ rest, isSeparator c = true := by
  have hdetect : detect "So, HAY Buddie!" = some "" := by decide
  have hline {before rest : List Char}
      (h : Occurs false (stripped "So, HAY Buddie!") before rest) : OneLine rest := by
    have hnone : '\n' ∉ stripped "So, HAY Buddie!" := by decide
    obtain ⟨phrase, -, heq, -⟩ := h
    intro hbreak
    rw [heq] at hnone
    exact hnone (List.mem_append_right _ (List.mem_append_right _
      ((List.dropWhile_sublist _).mem hbreak)))
  obtain ⟨-, hfound, hplace⟩ := detect_exact "So, HAY Buddie!"
  obtain ⟨before, rest, ⟨hoccurs, hone, hfirst⟩, -⟩ := hfound "" hdetect
  obtain ⟨command, hcommand, hempty⟩ := hplace before rest hoccurs
    (fun before' rest' h => hfirst before' rest' h (hline h)) hone
  rw [hdetect] at hcommand
  exact ⟨hdetect, before, rest, hoccurs, hempty.1 (Option.some.inj hcommand).symm⟩

end Arcade.WakePhrase
