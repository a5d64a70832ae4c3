/-!
# The spelling of code points

A text is a row of code points. Nearly all of them are characters. The others are surrogates, the
halves of pairs, of which a text from outside may hold one that stands alone. Such a half is spelt
with two characters of a block of plane 5 in which no characters are assigned: a head and a tail.
So that nothing else is spelt in this way, the characters of the block are spelt with a head and a
tail too. A text from outside is spelt before anything else is done with it.

No head is a tail, so that one spelt text occurs in another one only where its code points do. A
head or a tail without its partner spells nothing, it is a sign of its own.
-/

namespace Arcade.Text

/-- Whether a code point is half of a pair. -/
def isSurrogate (n : Nat) : Bool :=
  decide (0xd800 ≤ n ∧ n < 0xe000)

/-- The first of the 64 heads; the 64 tails follow them. -/
def blockStart : Nat := 0x5ff00

/-- Whether a code point is a head or a tail. -/
def isInBlock (n : Nat) : Bool :=
  decide (blockStart ≤ n ∧ n < blockStart + 128)

/-- The place of a code point among those that are spelt with a head and a tail. -/
def rank? (n : Nat) : Option Nat :=
  if isSurrogate n then some (n - 0xd800)
  else if isInBlock n then some (2048 + (n - blockStart))
  else none

/-- The code point at a place. -/
def ofRank? (k : Nat) : Option Nat :=
  if k < 2048 then some (0xd800 + k)
  else if k < 2048 + 128 then some (blockStart + (k - 2048))
  else none

/-- The characters that spell a code point. -/
def spell (n : Nat) : List Char :=
  match rank? n with
  | some k => [Char.ofNat (blockStart + k / 64), Char.ofNat (blockStart + 64 + k % 64)]
  | none => [Char.ofNat n]

/-- The code point that a head and a tail spell. -/
def pair? (head tail : Char) : Option Nat :=
  if blockStart ≤ head.toNat ∧ blockStart + 64 ≤ tail.toNat ∧ tail.toNat < blockStart + 128 then
    ofRank? ((head.toNat - blockStart) * 64 + (tail.toNat - (blockStart + 64)))
  else none

/-- What one code point of a text is spelt with. -/
inductive Sign where
  /-- A character that stands for itself. -/
  | char (c : Char)
  /-- A code point that is spelt with a head and a tail. -/
  | spelt (n : Nat)
deriving DecidableEq, Repr

namespace Sign

/-- The code point of a sign. -/
def code : Sign → Nat
  | char c => c.toNat
  | spelt n => n

/-- The characters of a sign. -/
def chars : Sign → List Char
  | char c => [c]
  | spelt n => spell n

end Sign

/-- The signs of a text. -/
def signs : List Char → List Sign
  | [] => []
  | [c] => [.char c]
  | c :: d :: rest =>
    match pair? c d with
    | some n => .spelt n :: signs rest
    | none => .char c :: signs (d :: rest)

/-- The text with some code points. -/
def ofCodes (ns : List Nat) : String :=
  String.ofList (ns.flatMap spell)

/-- A text from outside, whose characters all stand for themselves, in its spelling. -/
def spelt (s : String) : String :=
  ofCodes (s.toList.map Char.toNat)

/-! ## Laws -/

theorem toNat_ofNat {n : Nat} (h : n.isValidChar) : (Char.ofNat n).toNat = n := by
  rw [Char.ofNat, dif_pos h]
  rfl

theorem ofRank?_rank? {n k : Nat} (h : rank? n = some k) : ofRank? k = some n := by
  simp only [rank?, isSurrogate, isInBlock, decide_eq_true_eq] at h
  split at h
  · obtain rfl := Option.some.inj h
    rw [ofRank?, if_pos (by omega)]
    exact congrArg some (by omega)
  · split at h
    · obtain rfl := Option.some.inj h
      rw [ofRank?, if_neg (by omega), if_pos (by omega)]
      exact congrArg some (by omega)
    · simp at h

theorem rank?_lt {n k : Nat} (h : rank? n = some k) : k < 2048 + 128 := by
  simp only [rank?, isSurrogate, isInBlock, decide_eq_true_eq] at h
  split at h
  · obtain rfl := Option.some.inj h
    omega
  · split at h
    · obtain rfl := Option.some.inj h
      omega
    · simp at h

theorem rank?_ofRank? {n k : Nat} (h : ofRank? k = some n) : rank? n = some k := by
  have hb : blockStart = 0x5ff00 := rfl
  simp only [ofRank?] at h
  split at h
  · obtain rfl := Option.some.inj h
    have hs : isSurrogate (0xd800 + k) = true := decide_eq_true (by omega)
    rw [rank?, if_pos hs]
    exact congrArg some (by omega)
  · split at h
    · obtain rfl := Option.some.inj h
      have hs : isSurrogate (blockStart + (k - 2048)) = false := decide_eq_false (by omega)
      have hi : isInBlock (blockStart + (k - 2048)) = true := decide_eq_true (by omega)
      rw [rank?, if_neg (by simp [hs]), if_pos hi]
      exact congrArg some (by omega)
    · simp at h

theorem toNat_head {k : Nat} (h : k < 2048 + 128) :
    (Char.ofNat (blockStart + k / 64)).toNat = blockStart + k / 64 :=
  toNat_ofNat (by right; simp only [blockStart]; omega)

theorem toNat_tail (k : Nat) :
    (Char.ofNat (blockStart + 64 + k % 64)).toNat = blockStart + 64 + k % 64 :=
  toNat_ofNat (by right; simp only [blockStart]; omega)

/-- A head and a tail are read as the code point that they spell. -/
theorem pair?_of_rank {n k : Nat} (h : rank? n = some k) :
    pair? (Char.ofNat (blockStart + k / 64)) (Char.ofNat (blockStart + 64 + k % 64)) =
      some n := by
  have hk := rank?_lt h
  rw [pair?, toNat_head hk, toNat_tail, if_pos (by omega)]
  have he : (blockStart + k / 64 - blockStart) * 64 + (blockStart + 64 + k % 64 -
      (blockStart + 64)) = k := by omega
  rw [he]
  exact ofRank?_rank? h

/-- A code point that is spelt with a head and a tail is read back. -/
theorem signs_spell_of_rank {n k : Nat} (h : rank? n = some k) (cs : List Char) :
    signs (spell n ++ cs) = .spelt n :: signs cs := by
  simp only [spell, h, List.cons_append, List.nil_append, signs, pair?_of_rank h]

theorem pair?_eq_none {c d : Char} (h : isInBlock c.toNat = false) : pair? c d = none := by
  simp only [isInBlock, decide_eq_false_iff_not] at h
  rw [pair?]
  split
  · rename_i hc
    simp only [ofRank?]
    rw [if_neg (by omega), if_neg (by omega)]
  · rfl

/-- A character outside the block stands for itself. -/
theorem signs_cons {c : Char} (h : isInBlock c.toNat = false) (cs : List Char) :
    signs (c :: cs) = .char c :: signs cs := by
  cases cs with
  | nil => rfl
  | cons d rest => simp only [signs, pair?_eq_none h]

/-- The code point of a character is read back from its spelling. -/
theorem map_code_signs_spell (c : Char) (cs : List Char) :
    (signs (spell c.toNat ++ cs)).map Sign.code = c.toNat :: (signs cs).map Sign.code := by
  cases h : rank? c.toNat with
  | some k => rw [signs_spell_of_rank h, List.map_cons, Sign.code]
  | none =>
    have hc : isInBlock c.toNat = false := by
      rw [rank?] at h
      split at h
      · simp at h
      · split at h
        · simp at h
        · rename_i hb
          simpa using hb
    rw [spell, h, Char.ofNat_toNat, List.singleton_append, signs_cons hc, List.map_cons, Sign.code]

/-- A text from outside has the code points of its characters. -/
theorem map_code_signs_spelt (s : String) :
    (signs (spelt s).toList).map Sign.code = s.toList.map Char.toNat := by
  rw [spelt, ofCodes, String.toList_ofList]
  induction s.toList with
  | nil => rfl
  | cons c cs ih => rw [List.map_cons, List.flatMap_cons, map_code_signs_spell, ih]

theorem spell_of_pair? {c d : Char} {n : Nat} (h : pair? c d = some n) : spell n = [c, d] := by
  rw [pair?] at h
  split at h
  · rename_i hb
    have hc : blockStart + ((c.toNat - blockStart) * 64 + (d.toNat - (blockStart + 64))) / 64 =
        c.toNat := by omega
    have hd : blockStart + 64 + ((c.toNat - blockStart) * 64 +
        (d.toNat - (blockStart + 64))) % 64 = d.toNat := by omega
    rw [spell, rank?_ofRank? h]
    simp only [hc, hd, Char.ofNat_toNat]
  · simp at h

/-- The signs of a text hold all of its characters. -/
theorem flatMap_chars_signs (cs : List Char) : (signs cs).flatMap Sign.chars = cs := by
  fun_induction signs cs with
  | case1 => rfl
  | case2 c => rfl
  | case3 c d rest n h ih =>
    rw [List.flatMap_cons, ih, Sign.chars, spell_of_pair? h]
    rfl
  | case4 c d rest h ih =>
    rw [List.flatMap_cons, ih]
    rfl

theorem signs_eq_map {cs : List Char} (h : ∀ c ∈ cs, isInBlock c.toNat = false) :
    signs cs = cs.map .char := by
  induction cs with
  | nil => rfl
  | cons c cs ih =>
    rw [signs_cons (h c List.mem_cons_self), ih fun d hd => h d (List.mem_cons_of_mem c hd)]
    rfl

end Arcade.Text
