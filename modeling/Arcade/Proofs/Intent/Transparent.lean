import Mathlib
import Arcade.Proofs.Hub.TypedAndSpoken
import Arcade.Proofs.Speech.Woken

/-!
# What the wake phrase changes

What a text means is told by the phrases that it mentions, of the hundred and more that the
categories, the pages, the games and the small talk have. All but one start and end with letters,
and none runs into the wake phrase. So a text means the same behind the wake phrase, however
differently the two are trimmed. The exception is the greeting `"hi "`, which ends with a blank: a
text that ends with it and a punctuation mark loses the blank behind the wake phrase, and the
greeting with it.
-/

namespace Arcade.Intent

open Text (mentions mentionsAny occursIn isBlank)
open WakePhrase

variable {s t : String}

/-- What an intent asks for, without the command itself. -/
def gist (i : Intent) : IntentKind × IntentAction × Option String × Option String :=
  (i.kind, i.action, i.target, i.response)

theorem alike_iff_gist {i j : Intent} : i.Alike j ↔ i.gist = j.gist := by
  simp [Alike, gist]

/-! ## Mentions -/

/-- Whether two texts mention the same phrases of a list. -/
def SameMentions (phrases : List String) (s t : String) : Prop :=
  ∀ phrase ∈ phrases, mentions s phrase = mentions t phrase

/-- The phrases by which a command is told from others, and its page, game and theme. -/
def commandPhrases : List String :=
  categories.flatMap Category.phrases ++
    ((Phrases.destinations ++ Phrases.games).flatMap Prod.snd ++ ["dark", "light"])

/-- The phrases of small talk. -/
def chatPhrases : List String := Phrases.smallTalk.flatMap Prod.fst

theorem SameMentions.mono {phrases more : List String} (h : SameMentions more s t)
    (hsub : phrases ⊆ more) : SameMentions phrases s t :=
  fun phrase hphrase => h phrase (hsub hphrase)

theorem SameMentions.any {phrases : List String} (h : SameMentions phrases s t) :
    mentionsAny s phrases = mentionsAny t phrases := by
  rw [Bool.eq_iff_iff, mentionsAny, mentionsAny, List.any_eq_true, List.any_eq_true]
  exact exists_congr fun phrase => and_congr_right fun hphrase => by rw [h phrase hphrase]

theorem SameMentions.lookUp {table : List (String × List String)}
    (h : SameMentions (table.flatMap Prod.snd) s t) :
    Phrases.lookUp (mentions s) table = Phrases.lookUp (mentions t) table := by
  refine congrArg _ (List.find?_congr fun entry hentry => ?_)
  exact SameMentions.any (h.mono fun phrase hphrase => List.mem_flatMap.2 ⟨entry, hentry, hphrase⟩)

/-! ## Categories -/

theorem gist_toTheme (h : SameMentions ["dark", "light"] s t) :
    (toTheme s).gist = (toTheme t).gist := by
  unfold toTheme
  rw [h "dark" (by simp), h "light" (by simp)]
  split
  · rfl
  · split <;> rfl

/-- What a category makes of a command is told by the phrases. -/
theorem gist_intent? (h : SameMentions commandPhrases s t) :
    ∀ c ∈ categories, (c.intent? s).map gist = (c.intent? t).map gist := by
  have htables := h.mono (List.subset_append_right _ _)
  have hpage : Phrases.destination? s = Phrases.destination? t :=
    SameMentions.lookUp (htables.mono (by simp [List.flatMap_append]))
  have hgame : Phrases.game? s = Phrases.game? t :=
    SameMentions.lookUp (htables.mono (by simp [List.flatMap_append]))
  have htheme := gist_toTheme (htables.mono (List.subset_append_right _ _))
  unfold categories
  simp only [List.forall_mem_cons, List.not_mem_nil, false_imp_iff, implies_true, and_true]
  refine ⟨?navigate, ?play, ?help, ?stats, ?badges, ?challenges, ?close, ?theme, ?time, ?gameInfo,
    ?settings, ?about, ?refresh, ?home, ?games, ?popularGames, ?coins, ?clearChat, ?volumeUp,
    ?volumeDown, ?mute⟩
  case navigate =>
    rw [hpage, Option.map_map, Option.map_map]
    rfl
  case play | gameInfo =>
    rw [hgame, Option.map_map, Option.map_map]
    rfl
  case theme => exact congrArg some htheme
  all_goals rfl

/-- Whether a category takes a command. -/
def IsCommand (text : String) : Prop := ∃ c ∈ categories, c.take? text ≠ none

theorem gist_take? (h : SameMentions commandPhrases s t) {c : Category} (hc : c ∈ categories) :
    (c.take? s).map gist = (c.take? t).map gist := by
  have hany : mentionsAny s c.phrases = mentionsAny t c.phrases :=
    SameMentions.any (h.mono fun phrase hphrase =>
      List.mem_append_left _ (List.mem_flatMap.2 ⟨c, hc, hphrase⟩))
  unfold Category.take?
  rw [hany]
  split
  · exact gist_intent? h c hc
  · rfl

theorem gist_findSome? (h : SameMentions commandPhrases s t) :
    (categories.findSome? (·.take? s)).map gist = (categories.findSome? (·.take? t)).map gist := by
  have hmap : categories.map (fun c => (c.take? s).map gist) =
      categories.map fun c => (c.take? t).map gist :=
    List.map_congr_left fun c hc => gist_take? h hc
  have hfind := congrArg (List.findSome? id) hmap
  rw [List.findSome?_map, List.findSome?_map] at hfind
  rw [List.map_findSome?, List.map_findSome?]
  exact hfind

/-! ## Small talk -/

/-- The answer to a greeting. -/
def greeting : String := "Hello! How can I help you with GameVerse today?"

theorem gist_conversation (h : SameMentions chatPhrases s t) :
    (conversation s).gist = (conversation t).gist := by
  have hfind : (Phrases.smallTalk.find? fun entry => mentionsAny s entry.1) =
      Phrases.smallTalk.find? fun entry => mentionsAny t entry.1 :=
    List.find?_congr fun entry hentry => SameMentions.any (h.mono fun phrase hphrase =>
      List.mem_flatMap.2 ⟨entry, hentry, hphrase⟩)
  unfold conversation
  rw [hfind]
  split <;> rfl

theorem conversation_of_greeting {text : String}
    (h : mentions text "hello" = true ∨ mentions text "hi " = true) :
    conversation text = ⟨.query, .smallTalk, text, none, some greeting⟩ := by
  have hany : mentionsAny text ["hello", "hi "] = true := by simpa [mentionsAny] using h
  have hfirst : (Phrases.smallTalk.find? fun entry => mentionsAny text entry.1) =
      some (["hello", "hi "], greeting) := List.find?_cons_of_pos hany
  unfold conversation
  rw [hfirst]

/-- What is no greeting is not answered as one. -/
theorem response_conversation_ne {text : String} (hhello : mentions text "hello" = false)
    (hhi : mentions text "hi " = false) : (conversation text).response ≠ some greeting := by
  have hothers : ∀ entry ∈ Phrases.smallTalk.tail, entry.2 ≠ greeting := by decide
  have hfallback : Phrases.fallback ≠ greeting := by decide
  have hany : ¬ mentionsAny text ["hello", "hi "] = true := by simp [mentionsAny, hhello, hhi]
  have hskip : (Phrases.smallTalk.find? fun entry => mentionsAny text entry.1) =
      Phrases.smallTalk.tail.find? fun entry => mentionsAny text entry.1 :=
    List.find?_cons_of_neg hany
  unfold conversation
  rw [hskip]
  split
  · rename_i hfind
    exact fun h => hothers _ (List.mem_of_find?_eq_some hfind) (Option.some.inj h)
  · exact fun h => hfallback (Option.some.inj h)

theorem classify_of_not_isCommand {text : String} (h : ¬ IsCommand text) :
    classify text = conversation text := by
  have hnone : categories.findSome? (·.take? text) = none :=
    List.findSome?_eq_none_iff.2 fun c hc => by_contra fun htake => h ⟨c, hc, htake⟩
  rw [classify, hnone]
  rfl

theorem classify_of_isCommand {text : String} (h : IsCommand text) :
    categories.findSome? (·.take? text) = some (classify text) := by
  obtain ⟨c, hc, htake⟩ := h
  cases hfind : categories.findSome? (·.take? text) with
  | none => exact absurd (List.findSome?_eq_none_iff.1 hfind c hc) htake
  | some i => rw [classify, hfind]; rfl

theorem SameMentions.isCommand (h : SameMentions commandPhrases s t) :
    IsCommand s ↔ IsCommand t := by
  refine exists_congr fun c => and_congr_right fun hc => not_congr ?_
  have htake := gist_take? h hc
  cases hs : c.take? s <;> cases ht : c.take? t <;> simp_all

/-- A command means the same as another one that mentions the same phrases. -/
theorem classify_alike_of_isCommand (h : SameMentions commandPhrases s t) (hs : IsCommand s) :
    (classify s).Alike (classify t) := by
  have hfind := gist_findSome? h
  rw [classify_of_isCommand hs, classify_of_isCommand (h.isCommand.1 hs)] at hfind
  exact alike_iff_gist.2 (Option.some.inj hfind)

/-- Texts that mention the same phrases mean the same. -/
theorem classify_alike (hcommand : SameMentions commandPhrases s t)
    (hchat : SameMentions chatPhrases s t) : (classify s).Alike (classify t) := by
  by_cases hs : IsCommand s
  · exact classify_alike_of_isCommand hcommand hs
  · rw [classify_of_not_isCommand hs, classify_of_not_isCommand (hcommand.isCommand.not.1 hs)]
    exact alike_iff_gist.2 (gist_conversation hchat)

/-! ## Phrases and the wake phrase -/

/-- Whether a phrase starts with no separator and runs neither through the wake phrase nor into it
from behind. -/
def StartsClear (phrase : String) : Bool :=
  phrase.toList.head?.any (!isSeparator ·) && !occursIn phrase.toList "hey buddy ".toList &&
    "hey buddy ".toList.tails.all fun tail => tail.isEmpty || !tail.isPrefixOf phrase.toList

/-- Whether a phrase ends with no separator. -/
def EndsClear (phrase : String) : Bool := phrase.toList.getLast?.any (!isSeparator ·)

/-- Whether a phrase can be cut off by the wake phrase neither in front nor behind. -/
def IsClear (phrase : String) : Bool :=
  StartsClear phrase && (phrase = "hi " || EndsClear phrase)

-- Each group of phrases is evaluated on its own; one evaluation of all would take much memory.

theorem clear_categories : ∀ c ∈ categories, ∀ phrase ∈ c.phrases, IsClear phrase = true := by
  unfold categories
  repeat refine List.forall_mem_cons.2 ⟨by decide +kernel, ?_⟩
  exact nofun

theorem clear_tables : ∀ entry ∈ Phrases.destinations ++ Phrases.games, ∀ phrase ∈ entry.2,
    IsClear phrase = true := by
  unfold Phrases.destinations Phrases.games
  repeat refine List.forall_mem_cons.2 ⟨by decide +kernel, ?_⟩
  exact nofun

theorem clear_smallTalk : ∀ entry ∈ Phrases.smallTalk, ∀ phrase ∈ entry.1,
    IsClear phrase = true := by
  unfold Phrases.smallTalk
  repeat refine List.forall_mem_cons.2 ⟨by decide, ?_⟩
  exact nofun

theorem clear_phrases {phrase : String} (h : phrase ∈ commandPhrases ++ chatPhrases) :
    StartsClear phrase = true ∧ (phrase = "hi " ∨ EndsClear phrase = true) := by
  have hthemes : ∀ phrase ∈ ["dark", "light"], IsClear phrase = true := by decide
  have hclear : IsClear phrase = true := by
    rcases List.mem_append.1 h with h | h
    · rcases List.mem_append.1 h with h | h
      · obtain ⟨c, hc, h⟩ := List.mem_flatMap.1 h
        exact clear_categories c hc phrase h
      · rcases List.mem_append.1 h with h | h
        · obtain ⟨entry, hentry, h⟩ := List.mem_flatMap.1 h
          exact clear_tables entry hentry phrase h
        · exact hthemes phrase h
    · obtain ⟨entry, hentry, h⟩ := List.mem_flatMap.1 h
      exact clear_smallTalk entry hentry phrase h
  simpa [IsClear] using hclear

theorem first_of_startsClear {phrase : String} (h : StartsClear phrase = true) :
    ∃ c ∈ phrase.toList.head?, isSeparator c = false := by
  simp only [StartsClear, Bool.and_eq_true, Option.any_eq_true, Bool.not_eq_true'] at h
  obtain ⟨⟨⟨c, hc, hseparator⟩, -⟩, -⟩ := h
  exact ⟨c, hc, hseparator⟩

/-- The wake phrase adds no mention to a text behind it. -/
theorem occursIn_behind {phrase : String} (h : StartsClear phrase = true)
    (cs : List Char) :
    occursIn phrase.toList ("hey buddy ".toList ++ cs) = occursIn phrase.toList cs := by
  simp only [StartsClear, Bool.and_eq_true, Bool.not_eq_true', List.all_eq_true,
    List.mem_tails] at h
  obtain ⟨⟨-, hinside⟩, hacross⟩ := h
  rw [Bool.eq_iff_iff, Text.occursIn_append]
  refine ⟨?_, fun h => .inr (.inl h)⟩
  rintro (h | h | ⟨l, r, before, after, hl, -, hphrase, hfront, -⟩)
  · rw [hinside] at h
    cases h
  · exact h
  · have hprefix := hacross l ⟨before, hfront.symm⟩
    rw [hphrase, List.isPrefixOf_iff_prefix.2 (List.prefix_append l r)] at hprefix
    simp [hl] at hprefix

/-- Separators stand outside of a mention. -/
theorem not_mem_of_separators {cs : List Char} (h : ∀ c ∈ cs, isSeparator c = true) {c : Char}
    (hc : isSeparator c = false) : c ∉ cs := by
  intro hmem
  rw [h c hmem] at hc
  cases hc

theorem mentions_behind {phrase said : String} (h : StartsClear phrase = true)
    {blanks : List Char} (hblanks : ∀ c ∈ blanks, isBlank c = true)
    (ht : t.toList = "hey buddy ".toList ++ (blanks ++ said.toList)) :
    mentions t phrase = mentions said phrase := by
  obtain ⟨c, hc, hseparator⟩ := first_of_startsClear h
  have hblanks : ∀ d ∈ blanks, isSeparator d = true :=
    fun d hd => isSeparator_of_isBlank (hblanks d hd)
  rw [mentions, mentions, ht, occursIn_behind h,
    Text.occursIn_of_head hc (not_mem_of_separators hblanks hseparator)]

theorem mentions_between {phrase said command : String}
    (h : StartsClear phrase = true) (hend : EndsClear phrase = true)
    {front back : List Char} (hfront : ∀ c ∈ front, isSeparator c = true)
    (hback : ∀ c ∈ back, isSeparator c = true)
    (hsaid : said.toList = front ++ command.toList ++ back) :
    mentions command phrase = mentions said phrase := by
  obtain ⟨c, hc, hseparator⟩ := first_of_startsClear h
  obtain ⟨d, hd, hseparator'⟩ : ∃ d ∈ phrase.toList.getLast?, isSeparator d = false := by
    simpa [EndsClear, Option.any_eq_true] using hend
  rw [mentions, mentions, hsaid,
    Text.occursIn_of_last hd (not_mem_of_separators hback hseparator'),
    Text.occursIn_of_head hc (not_mem_of_separators hfront hseparator)]

/-- A greeting that only the surroundings of a command complete ends the command. -/
theorem greeting_cut {said command : String} {front back : List Char}
    (hfront : ∀ c ∈ front, isSeparator c = true) (hback : ∀ c ∈ back, isSeparator c = true)
    (hsaid : said.toList = front ++ command.toList ++ back)
    (hmention : mentions said "hi " = true) (hcommand : mentions command "hi " = false) :
    ∃ word rest, command.toList = word ++ "hi".toList ∧ back = ' ' :: rest := by
  have hnone {c : Char} (hc : isSeparator c = false) : c ∉ back := not_mem_of_separators hback hc
  rw [mentions, hsaid, List.append_assoc, Text.occursIn_of_head (c := 'h') (by simp)
    (not_mem_of_separators hfront (by decide)), Text.occursIn_append] at hmention
  rcases hmention with h | h | ⟨l, r, before, after, hl, hr, hphrase, hbefore, rfl⟩
  · rw [mentions] at hcommand
    rw [hcommand] at h
    cases h
  · obtain ⟨before, after, rfl⟩ := Text.occursIn_iff.1 h
    exact absurd (by simp) (hnone (c := 'h') (by decide))
  · have hphrase : ['h', 'i', ' '] = l ++ r := hphrase
    rcases l with _ | ⟨a, _ | ⟨b, l⟩⟩
    · exact absurd rfl hl
    · obtain ⟨rfl, rfl⟩ := List.cons.inj hphrase
      exact absurd (by simp) (hnone (c := 'i') (by decide))
    · rcases l with _ | ⟨c, l⟩
      · obtain ⟨rfl, rfl, rfl⟩ : a = 'h' ∧ b = 'i' ∧ r = [' '] := by simpa [eq_comm] using hphrase
        exact ⟨before, after, hbefore, rfl⟩
      · have hlength := congrArg List.length hphrase
        have hpos := List.length_pos_of_ne_nil hr
        simp only [List.length_cons, List.length_append, List.length_nil] at hlength
        omega

/-- A command and the text that it is cut out of mean the same, unless the text is answered for
nothing but the greeting that is cut. -/
theorem alike_iff_of_cut {said command : String}
    (hsame : ∀ {phrase}, phrase ∈ commandPhrases ++ chatPhrases → phrase ≠ "hi " →
      mentions command phrase = mentions said phrase)
    (hinside : mentions command "hi " = true → mentions said "hi " = true) :
    (classify command).Alike (classify said) ↔ ¬ (¬ IsCommand said ∧
      mentions said "hello" = false ∧ mentions said "hi " = true ∧
        mentions command "hi " = false) := by
  have hcommand : SameMentions commandPhrases command said := by
    have hnot : "hi " ∉ commandPhrases := by decide
    exact fun phrase hphrase =>
      hsame (List.mem_append_left _ hphrase) fun heq => hnot (heq ▸ hphrase)
  have hhello : mentions command "hello" = mentions said "hello" :=
    hsame (by decide) (by decide)
  -- Only that one greeting can be lost, and where it is not, both are classified alike.
  by_cases hhi : mentions command "hi " = mentions said "hi "
  · refine iff_of_true (classify_alike hcommand fun phrase hphrase => ?_) ?_
    · by_cases hne : phrase = "hi "
      · rw [hne, hhi]
      · exact hsame (List.mem_append_right _ hphrase) hne
    · rintro ⟨-, -, htrue, hfalse⟩
      rw [hhi, htrue] at hfalse
      cases hfalse
  obtain ⟨hsaid, hcut⟩ : mentions said "hi " = true ∧ mentions command "hi " = false := by
    cases hm : mentions command "hi " with
    | true => exact absurd (hm.trans (hinside hm).symm) hhi
    | false => exact ⟨Bool.of_not_eq_false fun hs => hhi (hm.trans hs.symm), rfl⟩
  by_cases htaken : IsCommand said
  · exact iff_of_true (classify_alike_of_isCommand hcommand (hcommand.isCommand.2 htaken))
      fun h => h.1 htaken
  rw [classify_of_not_isCommand htaken, classify_of_not_isCommand (hcommand.isCommand.not.2 htaken),
    conversation_of_greeting (.inr hsaid)]
  cases hgreets : mentions said "hello" with
  | true =>
    rw [conversation_of_greeting (.inl (hhello.trans hgreets))]
    exact iff_of_true (.refl _) fun h => nomatch h.2.1
  | false =>
    -- The text is answered as a greeting, and nothing in the command greets.
    refine iff_of_false (fun h => ?_) (not_not_intro ⟨htaken, rfl, hsaid, hcut⟩)
    exact response_conversation_ne (hhello.trans hgreets) hcut h.2.2.2

/-- Whether a text is a greeting by the word at its end alone, which loses its blank behind the
wake phrase. -/
def LosesGreeting (text : String) : Prop :=
  ¬ IsCommand (strip text) ∧ mentions (strip text) "hello" = false ∧
    mentions (strip text) "hi " = true ∧
      ∃ command, detect ("hey buddy " ++ text) = some command ∧ mentions command "hi " = false

theorem trimmed_strip {text : String} (h : detect text = none) :
    Text.Trimmed isBlank (strip text).toList := by
  rw [strip, h, Text.lower, Text.trim, Text.trimWhere, String.toList_ofList, String.toList_ofList]
  exact Text.trimmed_lowerChars (Text.trimmed_trimChars isBlank _)

theorem losesGreeting_ends {text : String} (h : detect text = none) (hloses : LosesGreeting text) :
    ∃ before marks, strip text = before ++ "hi " ++ marks ∧
      (∀ c ∈ marks.toList, isSeparator c = true) ∧
      ∃ c ∈ marks.toList.getLast?, isPunctuation c = true := by
  obtain ⟨-, -, hmention, command, hdetect, hcommand⟩ := hloses
  rcases strip_woken h with ⟨command', front, back, hdetect', hfront, hback, hsaid⟩ | ⟨hnone, -⟩
  · obtain rfl : command = command' := Option.some.inj (hdetect.symm.trans hdetect')
    obtain ⟨word, rest, hword, rfl⟩ := greeting_cut hfront hback hsaid hmention hcommand
    have hlast := (trimmed_strip h).2
    refine ⟨String.ofList (front ++ word), String.ofList rest, ?_, ?_, ?_⟩
    · refine String.toList_injective ?_
      simp [hsaid, hword]
    · rw [String.toList_ofList]
      exact fun c hc => hback c (List.mem_cons_of_mem _ hc)
    · rw [String.toList_ofList]
      rw [hsaid, List.getLast?_append_of_ne_nil _ (List.cons_ne_nil ' ' rest)] at hlast
      rcases List.eq_nil_or_concat' rest with rfl | ⟨marks, c, rfl⟩
      · exact absurd (hlast ' ' rfl) (by decide)
      · have hc := hback c (by simp)
        have hblank := hlast c (by rw [← List.cons_append, List.getLast?_concat]; rfl)
        rw [isSeparator, hblank, Bool.false_or] at hc
        exact ⟨c, by simp, hc⟩
  · rw [hnone] at hdetect
    cases hdetect

/-- A text without the wake phrase means the same behind it, unless it is a greeting by the word at
its end alone, which only blanks and punctuation follow. -/
theorem resolve_woken {text : String} (h : detect text = none) :
    ((resolve ("hey buddy " ++ text)).Alike (resolve text) ↔ ¬ LosesGreeting text) ∧
      (LosesGreeting text → ∃ before marks, strip text = before ++ "hi " ++ marks ∧
        (∀ c ∈ marks.toList, isSeparator c = true) ∧
        ∃ c ∈ marks.toList.getLast?, isPunctuation c = true) := by
  refine ⟨?_, losesGreeting_ends h⟩
  rw [resolve, resolve]
  rcases strip_woken h with ⟨command, front, back, hdetect, hfront, hback, hsaid⟩ |
    ⟨hnone, blanks, hblanks, hheard⟩
  case inr =>
    have hsame : ∀ phrase ∈ commandPhrases ++ chatPhrases,
        mentions (strip ("hey buddy " ++ text)) phrase = mentions (strip text) phrase :=
      fun phrase hphrase => mentions_behind (clear_phrases hphrase).1 hblanks hheard
    have hkept : ¬ LosesGreeting text := by
      rintro ⟨-, -, -, command, hdetect, -⟩
      rw [hnone] at hdetect
      cases hdetect
    exact iff_of_true (classify_alike (fun p hp => hsame p (List.mem_append_left _ hp))
      fun p hp => hsame p (List.mem_append_right _ hp)) hkept
  case inl =>
    rw [strip_of_detect hdetect]
    have hclear {phrase : String} (hphrase : phrase ∈ commandPhrases ++ chatPhrases)
        (hne : phrase ≠ "hi ") : mentions command phrase = mentions (strip text) phrase :=
      mentions_between (clear_phrases hphrase).1
        ((clear_phrases hphrase).2.resolve_left hne) hfront hback hsaid
    have hinside (hmention : mentions command "hi " = true) :
        mentions (strip text) "hi " = true := by
      rw [mentions, hsaid, Text.occursIn_append, Text.occursIn_append]
      exact .inl (.inr (.inl hmention))
    rw [alike_iff_of_cut hclear hinside, LosesGreeting, hdetect]
    simp

/-- A greeting in front of a blank and a mark is answered alone, but not behind the wake phrase. In
front of another word it is answered both ways. -/
theorem resolve_woken_hi : detect "hi !" = none ∧
    ¬ (resolve ("hey buddy " ++ "hi !")).Alike (resolve "hi !") ∧ detect "hi there!" = none ∧
      (resolve ("hey buddy " ++ "hi there!")).Alike (resolve "hi there!") := by
  have hhi : detect "hi !" = none := by decide
  have hthere : detect "hi there!" = none := by decide
  have hloses : LosesGreeting "hi !" :=
    ⟨by unfold IsCommand; decide, by decide, by decide, "hi",
      by decide, by decide⟩
  have hkept : ¬ LosesGreeting "hi there!" := by
    rintro ⟨-, -, -, command, hdetect, hcommand⟩
    have hword : detect ("hey buddy " ++ "hi there!") = some "hi there" := by decide
    obtain rfl : command = "hi there" := Option.some.inj (hdetect.symm.trans hword)
    revert hcommand
    decide
  exact ⟨hhi, fun h => (resolve_woken hhi).1.1 h hloses, hthere, (resolve_woken hthere).1.2 hkept⟩

end Arcade.Intent
