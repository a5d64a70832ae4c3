import Arcade.Proofs.Json.Texts

/-!
# Halves of pairs

A text that comes back as it is holds no two halves of a pair beside each other. The text between
quotes is such a text whenever no half stands alone in what it is read from: a half can then only
come from an escape, and two escapes that make a pair are read as one.
-/

namespace Arcade

namespace Text

/-! ## Heads and tails -/

/-- A tail is no head. -/
theorem pair?_after {c d : Char} {n : Nat} (h : pair? c d = some n) (e : Char) :
    pair? d e = none := by
  have hb : blockStart = 0x5ff00 := rfl
  have hd : blockStart + 64 ≤ d.toNat := by
    rw [pair?] at h
    split at h
    · rename_i hcd
      exact hcd.2.1
    · cases h
  rw [pair?]
  split
  · simp only [ofRank?]
    rw [if_neg (by omega), if_neg (by omega)]
  · rfl

/-- A head is no tail. -/
theorem pair?_before {c d : Char} {n : Nat} (h : pair? c d = some n) (b : Char) :
    pair? b c = none := by
  cases hb : pair? b c with
  | none => rfl
  | some m =>
    rw [pair?_after hb d] at h
    cases h

/-- A character outside the block is no tail. -/
theorem pair?_eq_none_right {d : Char} (h : isInBlock d.toNat = false) (c : Char) :
    pair? c d = none := by
  simp only [isInBlock, decide_eq_false_iff_not] at h
  rw [pair?]
  exact if_neg fun hcd => h (by omega)

/-- A code point that is not spelt with a head and a tail is no head and no tail. -/
theorem isInBlock_ofNat {n : Nat} (h : rank? n = none) :
    isInBlock (Char.ofNat n).toNat = false := by
  by_cases hn : n.isValidChar
  · rw [toNat_ofNat hn]
    unfold rank? at h
    split at h
    · cases h
    · split at h
      · cases h
      · rename_i hb
        exact Bool.eq_false_iff.2 hb
  · rw [Char.ofNat, dif_neg hn]
    rfl

/-! ## Texts without halves -/

/-- Whether no half of a pair stands alone in a text. -/
def NoHalves (cs : List Char) : Prop :=
  ∀ c d n, [c, d] <:+: cs → pair? c d = some n → isSurrogate n = false

theorem NoHalves.suffix {cs ds : List Char} (h : NoHalves cs) (hd : ds <:+ cs) : NoHalves ds :=
  fun c d n hcd => h c d n (hcd.trans hd.isInfix)

theorem NoHalves.cons {c : Char} {cs : List Char} (h : NoHalves cs)
    (hc : ∀ d ∈ cs.head?, ∀ n, pair? c d = some n → isSurrogate n = false) :
    NoHalves (c :: cs) := by
  intro a b n hab hn
  rcases List.infix_cons_iff.1 hab with hprefix | hinfix
  · obtain ⟨rfl, ds, rfl⟩ := List.cons_prefix_cons.1 hprefix
    exact hc b rfl n hn
  · exact h a b n hinfix hn

theorem noHalves_of_signs {cs : List Char} (h : ∀ x ∈ signs cs, isSurrogate x.code = false) :
    NoHalves cs := by
  fun_induction signs cs with
  | case1 => exact fun _ _ _ h => absurd h.length_le (by simp)
  | case2 c => exact fun _ _ _ h => absurd h.length_le (by simp)
  | case3 c d rest n hn ih =>
    have hrest := ih fun x hx => h x (List.mem_cons_of_mem _ hx)
    refine NoHalves.cons (NoHalves.cons hrest fun e _ m hm => ?_) fun e he m hm => ?_
    · rw [pair?_after hn] at hm
      cases hm
    · obtain rfl := Option.some.inj he
      rw [hn] at hm
      obtain rfl := Option.some.inj hm
      exact h _ List.mem_cons_self
  | case4 c d rest hn ih =>
    refine NoHalves.cons (ih fun x hx => h x (List.mem_cons_of_mem _ hx)) fun e he m hm => ?_
    obtain rfl := Option.some.inj he
    rw [hn] at hm
    cases hm

theorem noHalves_of_hasSurrogate {s : String} (h : hasSurrogate s = false) : NoHalves s.toList := by
  refine noHalves_of_signs fun x hx => ?_
  rw [hasSurrogate, codes, List.any_map, List.any_eq_false] at h
  exact Bool.eq_false_iff.2 (h x hx)

/-! ## Texts that come back as they are -/

/-- Whether no two halves of a pair stand beside each other in a text. -/
def Unsplit (cs : List Char) : Prop :=
  ∀ a b c d m n, [a, b, c, d] <:+: cs → pair? a b = some m → pair? c d = some n →
    isFirstHalf m = true → isSecondHalf n = false

theorem Unsplit.suffix {cs ds : List Char} (h : Unsplit cs) (hd : ds <:+ cs) : Unsplit ds :=
  fun a b c d m n hin => h a b c d m n (hin.trans hd.isInfix)

theorem of_suffix_concat (xs : List Char) {cs : List Char} {e d : Char}
    (h : xs ++ [e] <:+ cs ++ [d]) : xs <:+ cs ∧ e = d := by
  obtain ⟨ds, hds⟩ := h
  rw [← List.append_assoc] at hds
  obtain ⟨rfl, he⟩ := List.append_inj' hds rfl
  exact ⟨⟨ds, rfl⟩, (List.cons.inj he).1⟩

/-- A character at the end makes no pair that is split, unless halves end there. -/
theorem Unsplit.concat {cs : List Char} {d : Char} (h : Unsplit cs)
    (hd : ∀ a b c m n, [a, b, c] <:+ cs → pair? a b = some m → pair? c d = some n →
      isFirstHalf m = true → isSecondHalf n = false) : Unsplit (cs ++ [d]) := by
  intro a b c e m n hin hm hn
  rcases List.infix_concat_iff.1 hin with hsuffix | hinfix
  · obtain ⟨hcs, rfl⟩ := of_suffix_concat [a, b, c] hsuffix
    exact hd a b c m n hcs hm hn
  · exact h a b c e m n hinfix hm hn

theorem joined_cons {x : Sign} {xs : List Sign} (h : ∀ y ∈ xs.head?, paired? x y = none) :
    joined (x :: xs) = x.chars ++ joined xs := by
  cases xs with
  | nil => simp [joined]
  | cons y rest => rw [joined, h y rfl]

theorem exists_of_head?_signs {cs : List Char} {n : Nat} (h : Sign.spelt n ∈ (signs cs).head?) :
    ∃ c d rest, cs = c :: d :: rest ∧ pair? c d = some n := by
  unfold signs at h
  split at h
  · cases h
  · cases h
  · rename_i c d rest
    split at h
    · rename_i m hm
      cases h
      exact ⟨c, d, rest, rfl, hm⟩
    · cases h

/-- Where no pair is split, nothing is joined. -/
theorem joined_signs {cs : List Char} (h : Unsplit cs) : joined (signs cs) = cs := by
  fun_induction signs cs with
  | case1 => rfl
  | case2 c => rfl
  | case3 c d rest n hn ih =>
    rw [joined_cons, ih (h.suffix ⟨[c, d], rfl⟩), Sign.chars, spell_of_pair? hn]
    · rfl
    · intro y hy
      cases y with
      | char e => rfl
      | spelt k =>
        obtain ⟨e, f, more, rfl, hk⟩ := exists_of_head?_signs hy
        have hsecond := h c d e f n k ⟨[], more, rfl⟩ hn hk
        cases hf : isFirstHalf n with
        | false => simp [paired?, hf]
        | true => simp [paired?, hsecond hf]
  | case4 c d rest hn ih =>
    rw [joined_cons, ih (h.suffix ⟨[c], rfl⟩)]
    · rfl
    · exact fun y _ => by cases y <;> rfl

theorem rejoined_of_unsplit {s : String} (h : Unsplit s.toList) : rejoined s = s := by
  rw [rejoined, joined_signs h, String.ofList_toList]

end Text

namespace Json

open Text

/-! ## Reading between quotes -/

/-- What holds while a text is read: the part that was read has no pair split, no half stands alone
in what is left, and no pair is split or made where the two meet. -/
structure Unbroken (done left : List Char) : Prop where
  unsplit : Unsplit done
  noHalves : NoHalves left
  meet : ∀ c d n, [c] <:+ done → [d] <+: left → pair? c d = some n → isSurrogate n = false
  half : ∀ a b m, [a, b] <:+ done → pair? a b = some m → isFirstHalf m = true →
    ¬ GoesOnWithHalf left

theorem Unbroken.nil {left : List Char} (h : NoHalves left) : Unbroken [] left where
  unsplit _ _ _ _ _ _ hin := absurd hin.length_le (by simp)
  noHalves := h
  meet _ _ _ hin := absurd hin.length_le (by simp)
  half _ _ _ hin := absurd hin.length_le (by simp)

theorem isFirstHalf_eq_false {n : Nat} (h : isSurrogate n = false) : isFirstHalf n = false := by
  have := decide_eq_false_iff_not.1 h
  exact decide_eq_false (by omega)

theorem isSecondHalf_eq_false_of {n : Nat} (h : isSurrogate n = false) :
    isSecondHalf n = false := by
  have := decide_eq_false_iff_not.1 h
  exact decide_eq_false (by omega)

variable {done left : List Char} {c : Char}

/-- A character that is taken over as it is. -/
theorem Unbroken.raw (h : Unbroken done (c :: left)) : Unbroken (done ++ [c]) left where
  unsplit := h.unsplit.concat fun a b x m n hin _ hn _ =>
    isSecondHalf_eq_false_of (h.meet x c n ((show [x] <:+ [a, b, x] from ⟨[a, b], rfl⟩).trans hin)
      ⟨left, rfl⟩ hn)
  noHalves := h.noHalves.suffix ⟨[c], rfl⟩
  meet a d n hin hd hn := by
    obtain ⟨-, rfl⟩ := of_suffix_concat [] hin
    obtain ⟨ds, rfl⟩ := hd
    exact h.noHalves a d n ⟨[], ds, rfl⟩ hn
  half a b m hin hm hf := by
    obtain ⟨hlast, rfl⟩ := of_suffix_concat [a] hin
    rw [isFirstHalf_eq_false (h.meet a b m hlast ⟨left, rfl⟩ hm)] at hf
    cases hf

/-- A character that stands for itself, and that an escape is read as. -/
theorem Unbroken.plain {more : List Char} (h : Unbroken done left) (hc : isInBlock c.toNat = false)
    (hm : more <:+ left) : Unbroken (done ++ [c]) more where
  unsplit := h.unsplit.concat fun a b x m n _ _ hn _ => by
    rw [pair?_eq_none_right hc] at hn
    cases hn
  noHalves := h.noHalves.suffix hm
  meet a d n hin _ hn := by
    obtain ⟨-, rfl⟩ := of_suffix_concat [] hin
    rw [pair?_eq_none hc] at hn
    cases hn
  half a b m hin hm _ := by
    obtain ⟨-, rfl⟩ := of_suffix_concat [a] hin
    rw [pair?_eq_none_right hc] at hm
    cases hm

/-- A code point that is spelt with a head and a tail, and that an escape is read as. -/
theorem Unbroken.spelt {more : List Char} {d : Char} {n : Nat} (h : Unbroken done left)
    (hn : pair? c d = some n) (hm : more <:+ left)
    (hsecond : isSecondHalf n = true → GoesOnWithHalf left)
    (hfirst : isFirstHalf n = true → ¬ GoesOnWithHalf more) :
    Unbroken (done ++ [c] ++ [d]) more where
  unsplit := by
    refine (h.unsplit.concat fun a b x m k _ _ hk _ => ?_).concat fun a b x m k hin hm hk hf => ?_
    · rw [pair?_before hn] at hk
      cases hk
    · obtain ⟨hlast, rfl⟩ := of_suffix_concat [a, b] hin
      rw [hn] at hk
      obtain rfl := Option.some.inj hk
      exact Bool.eq_false_iff.2 fun hs => h.half a b m hlast hm hf (hsecond hs)
  noHalves := h.noHalves.suffix hm
  meet a e k hin _ hk := by
    obtain ⟨-, rfl⟩ := of_suffix_concat [] hin
    rw [pair?_after hn] at hk
    cases hk
  half a b m hin hm hf := by
    obtain ⟨hlast, rfl⟩ := of_suffix_concat [a] hin
    obtain ⟨-, rfl⟩ := of_suffix_concat [] hlast
    rw [hn] at hm
    obtain rfl := Option.some.inj hm
    exact hfirst hf

theorem readUnit?_suffix {cs after : List Char} {n : Nat} (h : readUnit? cs = some (n, after)) :
    after <:+ cs := by
  unfold readUnit? at h
  split at h
  · rename_i a b c d rest
    simp only [Option.bind_eq_bind, Option.bind_eq_some_iff] at h
    obtain ⟨w, -, x, -, y, -, z, -, h⟩ := h
    split at h
    · cases h
    · cases h
      exact ⟨[a, b, c, d], rfl⟩
  · cases h

/-- What the code point of an escape says about what follows: a first half that is left alone is not
followed by a second one. -/
theorem unitCode_spec (unit : Nat) (rest : List Char) :
    (unitCode unit rest).2 <:+ rest ∧
      (isSecondHalf (unitCode unit rest).1 = true → (unitCode unit rest).1 = unit) ∧
      (isFirstHalf (unitCode unit rest).1 = true → ¬ GoesOnWithHalf (unitCode unit rest).2) := by
  by_cases hrest : GoesOnWithHalf rest
  · cases hunit : isFirstHalf unit with
    | false =>
      rw [unitCode_of_not_first hunit]
      exact ⟨List.suffix_rfl, fun _ => rfl, fun h => by rw [hunit] at h; cases h⟩
    | true =>
      obtain ⟨more, n, after, rfl, hmore, hn⟩ := hrest
      have hcode : unitCode unit ('\\' :: 'u' :: more) = (pairCode unit n, after) := by
        unfold unitCode
        rw [if_pos (isFirstHalf_iff.1 hunit)]
        simp only [hmore]
        exact if_pos (isSecondHalf_iff.1 hn)
      have hlarge : 0x10000 ≤ pairCode unit n := by
        unfold pairCode
        omega
      rw [hcode]
      refine ⟨(readUnit?_suffix hmore).trans ⟨['\\', 'u'], rfl⟩, fun h => ?_, fun h => ?_⟩
      · have := isSecondHalf_iff.1 h
        omega
      · have := isFirstHalf_iff.1 h
        omega
  · rw [unitCode_of_not_half hrest]
    exact ⟨List.suffix_rfl, fun _ => rfl, fun _ => hrest⟩

/-- The code point of an escape, whatever it is. -/
theorem Unbroken.code {more after : List Char} {unit : Nat}
    (h : Unbroken done ('\\' :: 'u' :: more)) (hu : readUnit? more = some (unit, after)) :
    Unbroken (done ++ spell (unitCode unit after).1) (unitCode unit after).2 := by
  obtain ⟨hsuffix, hsecond, hfirst⟩ := unitCode_spec unit after
  generalize unitCode unit after = found at *
  have hleft : found.2 <:+ '\\' :: 'u' :: more :=
    hsuffix.trans ((readUnit?_suffix hu).trans ⟨['\\', 'u'], rfl⟩)
  cases hk : rank? found.1 with
  | none =>
    rw [spell, hk]
    exact h.plain (isInBlock_ofNat hk) hleft
  | some k =>
    rw [spell, hk]
    change Unbroken (done ++ ([_] ++ [_])) found.2
    rw [← List.append_assoc]
    exact h.spelt (pair?_of_rank hk) hleft
      (fun hs => ⟨more, found.1, after, rfl, (hsecond hs).symm ▸ hu, hs⟩) hfirst

theorem isInBlock_escapedChar {d : Char} (h : escapedChar? c = some d) :
    isInBlock d.toNat = false := by
  unfold escapedChar? at h
  split at h <;> cases h
  all_goals decide

/-- What is read between quotes comes back as it is, if no half stands alone in what it is read
from. -/
theorem rejoined_of_readText {start fuel : Nat} {done cs rest : List Char} {s : String}
    (h : Unbroken done.reverse cs) (hr : readText start fuel done cs = .ok (s, rest)) :
    rejoined s = s ∧ rest <:+ cs := by
  induction fuel generalizing done cs with
  | zero => cases hr
  | succ fuel ih =>
    cases cs with
    | nil => cases hr
    | cons c left =>
      rw [readText.eq_def] at hr
      dsimp only at hr
      split at hr
      · cases hr
        refine ⟨rejoined_of_unsplit ?_, ⟨[c], rfl⟩⟩
        rw [String.toList_ofList]
        exact h.unsplit
      split at hr
      · cases hr
      split at hr
      · rename_i hc
        subst hc
        split at hr
        · cases hr
        · rename_i more
          split at hr
          · -- An escape may stand for half of a pair, whose other half is the next escape if there
            -- is one.
            rename_i unit after hu
            have hcode := h.code hu
            obtain ⟨hs, hrest⟩ := ih (by rwa [List.reverse_append, List.reverse_reverse]) hr
            exact ⟨hs, hrest.trans ((unitCode_spec unit after).1.trans
              ((readUnit?_suffix hu).trans ⟨['\\', 'u'], rfl⟩))⟩
          · cases hr
        · rename_i d more _
          split at hr
          · rename_i e he
            have hplain := h.plain (isInBlock_escapedChar he) ⟨['\\', d], rfl⟩
            obtain ⟨hs, hrest⟩ := ih (by rwa [List.reverse_cons]) hr
            exact ⟨hs, hrest.trans ⟨['\\', d], rfl⟩⟩
          · cases hr
      · have hraw := h.raw
        obtain ⟨hs, hrest⟩ := ih (by rwa [List.reverse_cons]) hr
        exact ⟨hs, hrest.trans ⟨[c], rfl⟩⟩

end Json

end Arcade
