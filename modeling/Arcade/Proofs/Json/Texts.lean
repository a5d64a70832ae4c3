import Arcade.Json.Reader
import Arcade.Json.Writer

/-!
# Texts that are read back

What is written between quotes is read back sign by sign. The one exception is the first half of a
pair of surrogates with the second half behind it: the two were apart, and they are one code point
when they are read back.
-/

namespace Arcade

namespace Text

/-- Whether a code point is the first half of a pair. -/
def isFirstHalf (n : Nat) : Bool := decide (0xd800 ≤ n ∧ n < 0xdc00)

/-- Whether a code point is the second half of a pair. -/
def isSecondHalf (n : Nat) : Bool := decide (0xdc00 ≤ n ∧ n < 0xe000)

@[simp] theorem isFirstHalf_iff {n : Nat} : isFirstHalf n = true ↔ 0xd800 ≤ n ∧ n < 0xdc00 :=
  decide_eq_true_iff

@[simp] theorem isSecondHalf_iff {n : Nat} : isSecondHalf n = true ↔ 0xdc00 ≤ n ∧ n < 0xe000 :=
  decide_eq_true_iff

theorem isSecondHalf_eq_false {n : Nat} (h : n < 0xdc00 ∨ 0xe000 ≤ n) : isSecondHalf n = false :=
  decide_eq_false (by omega)

theorem isInBlock_iff {n : Nat} : isInBlock n = true ↔ 0x5ff00 ≤ n ∧ n < 0x5ff80 :=
  decide_eq_true_iff

theorem isInBlock_of_ascii {s : String} (h : ∀ c ∈ s.toList, c.toNat < 128) :
    ∀ c ∈ s.toList, isInBlock c.toNat = false := by
  refine fun c hc => Bool.eq_false_iff.2 fun hin => ?_
  have hlt := h c hc
  have hblock := (isInBlock_iff.1 hin).1
  omega

/-- The code points of a text in ASCII are those of its characters. -/
theorem codes_of_ascii {s : String} (h : ∀ c ∈ s.toList, c.toNat < 128) :
    codes s = s.toList.map Char.toNat := by
  rw [codes, signs_eq_map (isInBlock_of_ascii h), List.map_map]
  rfl

/-- The code point of a pair. -/
def pairCode (m n : Nat) : Nat := 0x10000 + (m - 0xd800) * 1024 + (n - 0xdc00)

/-- A code point beyond four digits is that of the pair which it is written as. -/
theorem pairCode_split {n : Nat} (h : 65536 ≤ n) :
    pairCode (0xd800 + (n - 65536) / 1024) (0xdc00 + (n - 65536) % 1024) = n := by
  unfold pairCode
  omega

/-- The code point of two signs that make a pair. -/
def paired? : Sign → Sign → Option Nat
  | .spelt m, .spelt n =>
    if isFirstHalf m && isSecondHalf n then some (pairCode m n) else none
  | _, _ => none

/-- The characters of signs in which halves that stand beside each other have become pairs. -/
def joined : List Sign → List Char
  | [] => []
  | [x] => x.chars
  | x :: y :: rest =>
    match paired? x y with
    | some n => spell n ++ joined rest
    | none => x.chars ++ joined (y :: rest)

/-- The text with its halves joined. -/
def rejoined (s : String) : String := String.ofList (joined (signs s.toList))

/-- Whether a sign can be one of a text. -/
def Sign.Spells : Sign → Prop
  | .char _ => True
  | .spelt n => (rank? n).isSome

theorem toNat_lt (c : Char) : c.toNat < 0x110000 := by
  rcases c.valid with h | ⟨_, h⟩
  · exact Nat.lt_trans h (by decide)
  · exact h

theorem isSurrogate_toNat (c : Char) : isSurrogate c.toNat = false := by
  refine decide_eq_false fun h => ?_
  rcases c.valid with hv | ⟨hv, _⟩
  · exact absurd h.1 (Nat.not_le.mpr hv)
  · exact absurd h.2 (Nat.not_lt.mpr hv)

theorem spell_toNat {c : Char} (h : isInBlock c.toNat = false) :
    spell c.toNat = [c] := by
  simp only [spell, rank?, isSurrogate_toNat, h, Bool.false_eq_true, if_false,
    Char.ofNat_toNat]

theorem rank?_of_pair? {c d : Char} {n : Nat} (h : pair? c d = some n) : (rank? n).isSome := by
  rw [pair?] at h
  split at h
  · rw [rank?_ofRank? h]
    rfl
  · cases h

theorem Sign.Spells.lt {m : Nat} (h : (Sign.spelt m).Spells) : m < 0x110000 := by
  obtain ⟨k, hk⟩ := Option.isSome_iff_exists.1 h
  unfold rank? at hk
  split at hk
  · rename_i hs
    have := of_decide_eq_true hs
    omega
  · split at hk
    · rename_i hb
      have := isInBlock_iff.1 hb
      omega
    · cases hk

theorem spells_of_mem_signs {cs : List Char} : ∀ x ∈ signs cs, x.Spells := by
  fun_induction signs cs with
  | case1 =>
    intro x hx
    cases hx
  | case2 c =>
    intro x hx
    rw [List.mem_singleton.mp hx]
    trivial
  | case3 c d rest n h ih =>
    intro x hx
    rcases List.mem_cons.mp hx with rfl | hx
    · exact rank?_of_pair? h
    · exact ih x hx
  | case4 c d rest h ih =>
    intro x hx
    rcases List.mem_cons.mp hx with rfl | hx
    · trivial
    · exact ih x hx

theorem joined_map_char (cs : List Char) : joined (cs.map .char) = cs := by
  induction cs with
  | nil => rfl
  | cons c rest ih =>
    cases rest with
    | nil => rfl
    | cons d rest => exact congrArg (c :: ·) ih

/-- A text whose characters all stand for themselves is read back as it is. -/
theorem rejoined_eq_self {s : String} (h : ∀ c ∈ s.toList, isInBlock c.toNat = false) :
    rejoined s = s := by
  rw [rejoined, signs_eq_map h, joined_map_char, String.ofList_toList]

end Text

namespace Json

/-! ## Units in hexadecimal digits -/

theorem hexValue?_digitChar {d : Nat} (h : d < 16) : hexValue? (Nat.digitChar d) = some d := by
  have : ∀ d : Fin 16, hexValue? (Nat.digitChar d.val) = some d.val := by decide
  exact this ⟨d, h⟩

theorem hexDigits_four {n : Nat} (h : n < 65536) :
    Text.hexDigits 4 n = [Nat.digitChar (n / 4096), Nat.digitChar (n / 256 % 16),
      Nat.digitChar (n / 16 % 16), Nat.digitChar (n % 16)] := by
  have zero : ∀ {m : Nat}, m = 0 → Nat.digitChar m = '0' := fun h => h ▸ rfl
  have one : ∀ {m : Nat}, m < 16 → Nat.toDigits 16 m = [Nat.digitChar m] :=
    fun h => Nat.toDigits_of_lt_base h
  have more : ∀ {m : Nat}, 16 ≤ m →
      Nat.toDigits 16 m = Nat.toDigits 16 (m / 16) ++ [Nat.digitChar (m % 16)] :=
    fun h => Nat.toDigits_of_base_le (by decide) h
  have d2 : n / 16 / 16 = n / 256 := Nat.div_div_eq_div_mul n 16 16
  have d3 : n / 256 / 16 = n / 4096 := Nat.div_div_eq_div_mul n 256 16
  unfold Text.hexDigits
  by_cases h1 : n < 16
  · rw [one h1, zero (m := n / 4096) (by omega), zero (m := n / 256 % 16) (by omega),
      zero (m := n / 16 % 16) (by omega), Nat.mod_eq_of_lt h1]
    rfl
  · by_cases h2 : n < 256
    · rw [more (by omega), one (by omega), zero (m := n / 4096) (by omega),
        zero (m := n / 256 % 16) (by omega), Nat.mod_eq_of_lt (a := n / 16) (by omega)]
      rfl
    · by_cases h3 : n < 4096
      · rw [more (by omega), more (by omega), one (by omega), d2,
          zero (m := n / 4096) (by omega), Nat.mod_eq_of_lt (a := n / 256) (by omega)]
        rfl
      · rw [more (by omega), more (by omega), more (by omega), one (by omega), d2, d3]
        rfl

theorem readUnit?_hexDigits {n : Nat} (h : n < 65536) {rest : List Char} (hr : rest ≠ []) :
    readUnit? (Text.hexDigits 4 n ++ rest) = some (n, rest) := by
  rw [hexDigits_four h]
  simp only [List.cons_append, List.nil_append, readUnit?, bind, Option.bind,
    hexValue?_digitChar (d := n / 4096) (by omega), hexValue?_digitChar (d := n / 256 % 16) (by omega),
    hexValue?_digitChar (d := n / 16 % 16) (by omega), hexValue?_digitChar (d := n % 16) (by omega),
    if_neg hr]
  have : ((n / 4096 * 16 + n / 256 % 16) * 16 + n / 16 % 16) * 16 + n % 16 = n := by omega
  rw [this]

/-! ## Signs between the quotes -/

/-- Whether a text goes on with an escape of a second half. -/
def GoesOnWithHalf (cs : List Char) : Prop :=
  ∃ more n after, cs = '\\' :: 'u' :: more ∧ readUnit? more = some (n, after) ∧
    Text.isSecondHalf n = true

theorem unitCode_of_not_first {n : Nat} (h : Text.isFirstHalf n = false) (rest : List Char) :
    unitCode n rest = (n, rest) := by
  simp only [Text.isFirstHalf, decide_eq_false_iff_not] at h
  exact if_neg h

theorem unitCode_of_not_half {n : Nat} {rest : List Char} (h : ¬ GoesOnWithHalf rest) :
    unitCode n rest = (n, rest) := by
  unfold unitCode
  split
  · split
    · rename_i more
      split
      · rename_i low after hl
        rw [if_neg fun hlow => h ⟨more, low, after, rfl, hl, decide_eq_true hlow⟩]
      · rfl
    · rfl
  · rfl

theorem unitCode_pair {m n : Nat} (hm : Text.isFirstHalf m = true)
    (hn : Text.isSecondHalf n = true) {rest : List Char} (hr : rest ≠ []) :
    unitCode m (unitEscape n ++ rest) = (Text.pairCode m n, rest) := by
  rw [Text.isFirstHalf_iff] at hm
  rw [Text.isSecondHalf_iff] at hn
  unfold unitCode
  rw [if_pos hm]
  simp only [unitEscape, List.cons_append, List.nil_append]
  rw [readUnit?_hexDigits (by omega) hr]
  exact if_pos hn

variable {start fuel n : Nat} {done rest : List Char}

theorem unitEscape_append_ne_nil (n : Nat) (rest : List Char) : unitEscape n ++ rest ≠ [] :=
  List.cons_ne_nil _ _

/-- One escape is read in one step. -/
theorem readText_unitEscape (h : n < 65536) (hr : rest ≠ []) :
    readText start (fuel + 1) done (unitEscape n ++ rest) =
      readText start fuel ((Text.spell (unitCode n rest).1).reverse ++ done)
        (unitCode n rest).2 := by
  simp only [unitEscape, List.cons_append, List.nil_append]
  rw [readText, if_neg (by decide), if_neg (by decide), if_pos rfl]
  simp only [readUnit?_hexDigits h hr]

/-- The two escapes of a pair are read in one step. -/
theorem readText_pair {m : Nat} (hm : Text.isFirstHalf m = true)
    (hn : Text.isSecondHalf n = true) (hr : rest ≠ []) :
    readText start (fuel + 1) done (unitEscape m ++ (unitEscape n ++ rest)) =
      readText start fuel ((Text.spell (Text.pairCode m n)).reverse ++ done) rest := by
  have hlt := Text.isFirstHalf_iff.1 hm
  rw [readText_unitEscape (by omega) (unitEscape_append_ne_nil n rest), unitCode_pair hm hn hr]

theorem readText_codeEscape (h : n < 0x110000) (hr : rest ≠ [])
    (hh : Text.isFirstHalf n = true → ¬ GoesOnWithHalf rest) :
    readText start (fuel + 1) done (codeEscape n ++ rest) =
      readText start fuel ((Text.spell n).reverse ++ done) rest := by
  unfold codeEscape
  split
  · rename_i hn
    rw [readText_unitEscape hn hr]
    cases hf : Text.isFirstHalf n with
    | false => rw [unitCode_of_not_first hf]
    | true => rw [unitCode_of_not_half (hh hf)]
  · rename_i hn
    have hf : Text.isFirstHalf (0xd800 + (n - 65536) / 1024) = true :=
      Text.isFirstHalf_iff.2 (by omega)
    have hs : Text.isSecondHalf (0xdc00 + (n - 65536) % 1024) = true :=
      Text.isSecondHalf_iff.2 (by omega)
    rw [List.append_assoc, readText_pair hf hs hr, Text.pairCode_split (by omega)]

/-- A character that needs no escape is read as itself. -/
theorem readText_plain {c : Char} (hq : c ≠ '"') (hb : c ≠ '\\') (h : 32 ≤ c.toNat) :
    readText start (fuel + 1) done ([c] ++ rest) = readText start fuel (c :: done) rest := by
  show readText start (fuel + 1) done (c :: rest) = _
  rw [readText.eq_def]
  simp only [if_neg hq, if_neg (Nat.not_lt.mpr h), if_neg hb]

theorem readText_escapeChar (c : Char) (hr : rest ≠ []) :
    readText start (fuel + 1) done (escapeChar c ++ rest) =
      readText start fuel (c :: done) rest := by
  unfold escapeChar
  split
  · rename_i h
    rw [h]
    rfl
  split
  · rename_i h
    rw [h]
    rfl
  split
  · rename_i h
    rw [h]
    rfl
  split
  · rename_i h
    rw [h]
    rfl
  split
  · rename_i h
    rw [h]
    rfl
  split
  · rename_i h
    rw [← Char.ofNat_toNat c, h]
    rfl
  split
  · rename_i h
    rw [← Char.ofNat_toNat c, h]
    rfl
  -- The other characters stand for themselves or are spelt out by their codes.
  rename_i hq hb _ _ _ _ _
  split
  · rename_i h
    exact readText_plain hq hb h.1
  split
  · rename_i h
    have := Text.isInBlock_iff.1 h
    exact readText_plain hq hb (by omega)
  · rename_i h
    have hc : Text.isFirstHalf c.toNat = true → ¬ GoesOnWithHalf rest := fun hf => by
      have := Text.isFirstHalf_iff.1 hf
      have := decide_eq_false_iff_not.1 (Text.isSurrogate_toNat c)
      omega
    rw [readText_codeEscape (Text.toNat_lt c) hr hc, Text.spell_toNat (by simpa using h)]
    rfl

theorem not_goesOnWithHalf_unit (h : n < 65536) (hn : Text.isSecondHalf n = false)
    (hr : rest ≠ []) : ¬ GoesOnWithHalf (unitEscape n ++ rest) := by
  rintro ⟨more, k, after, he, hu, hk⟩
  obtain rfl : Text.hexDigits 4 n ++ rest = more := by simpa [unitEscape] using he
  rw [readUnit?_hexDigits h hr] at hu
  obtain ⟨rfl, -⟩ := Prod.mk.inj (Option.some.inj hu)
  rw [hn] at hk
  cases hk

theorem not_goesOnWithHalf_code (h : n < 0x110000) (hn : Text.isSecondHalf n = false)
    (hr : rest ≠ []) : ¬ GoesOnWithHalf (codeEscape n ++ rest) := by
  unfold codeEscape
  split
  · rename_i hlt
    exact not_goesOnWithHalf_unit hlt hn hr
  · rw [List.append_assoc]
    exact not_goesOnWithHalf_unit (by omega) (Text.isSecondHalf_eq_false (by omega))
      (unitEscape_append_ne_nil _ rest)

theorem not_goesOnWithHalf_char (c : Char) (hr : rest ≠ []) :
    ¬ GoesOnWithHalf (escapeChar c ++ rest) := by
  have other {d : Char} {cs : List Char} (h : d ≠ 'u') : ¬ GoesOnWithHalf ('\\' :: d :: cs) :=
    fun ⟨_, _, _, he, _⟩ => h (List.cons.inj (List.cons.inj he).2).1
  unfold escapeChar
  repeat' split
  all_goals try exact other (by decide)
  · rename_i hb _ _ _ _ _ _
    exact fun ⟨_, _, _, he, _⟩ => hb (List.cons.inj he).1
  · rename_i hb _ _ _ _ _ _ _
    exact fun ⟨_, _, _, he, _⟩ => hb (List.cons.inj he).1
  · have := decide_eq_false_iff_not.1 (Text.isSurrogate_toNat c)
    exact not_goesOnWithHalf_code (Text.toNat_lt c) (Text.isSecondHalf_eq_false (by omega)) hr

/-- A text of signs goes on with a second half only if its first sign is one. -/
theorem not_goesOnWithHalf {x : Text.Sign} (hx : x.Spells)
    (h : ∀ n, x = .spelt n → Text.isSecondHalf n = false) (hr : rest ≠ []) :
    ¬ GoesOnWithHalf (escapeSign x ++ rest) := by
  cases x with
  | char c => exact not_goesOnWithHalf_char c hr
  | spelt n => exact not_goesOnWithHalf_code hx.lt (h n rfl) hr

/-- One sign is read in one step, unless it makes a pair with what follows. -/
theorem readText_sign {x : Text.Sign} (hx : x.Spells) (hr : rest ≠ [])
    (hh : ∀ m, x = .spelt m → Text.isFirstHalf m = true → ¬ GoesOnWithHalf rest) :
    readText start (fuel + 1) done (escapeSign x ++ rest) =
      readText start fuel (x.chars.reverse ++ done) rest := by
  cases x with
  | char c => exact readText_escapeChar c hr
  | spelt m => exact readText_codeEscape hx.lt hr (hh m rfl)

theorem codeEscape_ne_nil (n : Nat) : codeEscape n ≠ [] := by
  unfold codeEscape
  split
  · exact List.cons_ne_nil _ _
  · exact List.cons_ne_nil _ _

theorem escapeSign_pos (x : Text.Sign) : 0 < (escapeSign x).length := by
  refine List.length_pos_iff.2 ?_
  cases x with
  | char c =>
    unfold escapeSign escapeChar
    repeat' split
    all_goals first | exact List.cons_ne_nil _ _ | exact codeEscape_ne_nil _
  | spelt n => exact codeEscape_ne_nil n

theorem readText_quote : readText start (fuel + 1) done ('"' :: rest) =
    .ok (String.ofList done.reverse, rest) := rfl

/-- Two signs that do not make a pair are read one by one. -/
theorem not_goesOnWithHalf_of_paired? {x y : Text.Sign} (hy : y.Spells)
    (h : Text.paired? x y = none) (hr : rest ≠ []) {m : Nat} (hx : x = .spelt m)
    (hm : Text.isFirstHalf m = true) : ¬ GoesOnWithHalf (escapeSign y ++ rest) := by
  refine not_goesOnWithHalf hy (fun n hn => ?_) hr
  subst hx hn
  cases hs : Text.isSecondHalf n with
  | false => rfl
  | true => simp [Text.paired?, hm, hs] at h

/-- Two signs that make a pair are read in one step. -/
theorem readText_of_paired? {x y : Text.Sign} (h : Text.paired? x y = some n) (hr : rest ≠ []) :
    readText start (fuel + 1) done (escapeSign x ++ (escapeSign y ++ rest)) =
      readText start fuel ((Text.spell n).reverse ++ done) rest := by
  unfold Text.paired? at h
  split at h
  · rename_i m n
    split at h
    · rename_i hmn
      rw [Bool.and_eq_true] at hmn
      obtain rfl := Option.some.inj h
      have hm := Text.isFirstHalf_iff.1 hmn.1
      have hn := Text.isSecondHalf_iff.1 hmn.2
      simp only [escapeSign, codeEscape, if_pos (show m < 65536 by omega),
        if_pos (show n < 65536 by omega)]
      exact readText_pair hmn.1 hmn.2 hr
    · cases h
  · cases h

/-- The signs of a text between quotes are read back, with halves joined. -/
theorem readText_signs {signs : List Text.Sign} (hs : ∀ x ∈ signs, x.Spells)
    (hf : (signs.flatMap escapeSign).length < fuel) :
    readText start fuel done (signs.flatMap escapeSign ++ '"' :: rest) =
      .ok (String.ofList (done.reverse ++ Text.joined signs), rest) := by
  -- The induction follows the joining, so that a pair is one step.
  fun_induction Text.joined signs generalizing fuel done with
  | case1 =>
    obtain ⟨fuel, rfl⟩ : ∃ f, fuel = f + 1 := ⟨fuel - 1, by omega⟩
    rw [List.append_nil]
    exact readText_quote
  | case2 x =>
    have hx := escapeSign_pos x
    rw [List.flatMap_cons, List.length_append] at hf
    obtain ⟨fuel, rfl⟩ : ∃ f, fuel = f + 1 + 1 := ⟨fuel - 2, by omega⟩
    have hq : ¬ GoesOnWithHalf ('"' :: rest) := fun ⟨_, _, _, he, _⟩ =>
      absurd (List.cons.inj he).1 (by decide)
    rw [List.flatMap_cons, List.append_assoc, List.flatMap_nil, List.nil_append,
      readText_sign (hs x List.mem_cons_self) (List.cons_ne_nil _ _) fun _ _ _ => hq]
    exact readText_quote.trans (by rw [List.reverse_append, List.reverse_reverse])
  | case3 x y more n hp ih =>
    have hx := escapeSign_pos x
    simp only [List.flatMap_cons, List.length_append] at hf
    obtain ⟨fuel, rfl⟩ : ∃ f, fuel = f + 1 := ⟨fuel - 1, by omega⟩
    simp only [List.flatMap_cons, List.append_assoc]
    rw [readText_of_paired? hp (by simp), ih (fun z hz =>
      hs z (List.mem_cons_of_mem x (List.mem_cons_of_mem y hz))) (by omega), List.reverse_append,
      List.reverse_reverse, List.append_assoc]
  | case4 x y more hp ih =>
    have hx := escapeSign_pos x
    have hy := hs y (List.mem_cons_of_mem x List.mem_cons_self)
    rw [List.flatMap_cons, List.length_append] at hf
    obtain ⟨fuel, rfl⟩ : ∃ f, fuel = f + 1 := ⟨fuel - 1, by omega⟩
    rw [List.flatMap_cons, List.append_assoc,
      readText_sign (hs x List.mem_cons_self) (by simp) fun m hm hf => by
        rw [List.flatMap_cons, List.append_assoc]
        exact not_goesOnWithHalf_of_paired? hy hp (by simp) hm hf,
      ih (fun z hz => hs z (List.mem_cons_of_mem x hz)) (by omega), List.reverse_append,
      List.reverse_reverse, List.append_assoc]

/-- A text with its closing quote. -/
def textBody (s : String) : List Char := (Text.signs s.toList).flatMap escapeSign ++ ['"']

theorem toList_writeText (s : String) : (writeText s).toList = '"' :: textBody s := by
  rw [writeText, String.toList_ofList, List.append_assoc]
  rfl

/-- A text with its closing quote is read back, with halves joined. -/
theorem readText_textBody {s : String} (hf : (textBody s).length ≤ fuel) :
    readText start fuel [] (textBody s ++ rest) = .ok (Text.rejoined s, rest) := by
  rw [textBody, List.append_assoc]
  refine readText_signs Text.spells_of_mem_signs ?_
  rw [textBody, List.length_append, List.length_singleton] at hf
  exact hf

end Json

end Arcade
