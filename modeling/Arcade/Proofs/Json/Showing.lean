import Arcade.Proofs.Json.Plain

/-!
# Shown values hold no halves

A value that is shown in running text is shown with characters that stand for themselves. Numbers
are ASCII, and in a quoted text everything that is spelt with a head and a tail is written by its code
point. The text of a legible value comes back as it is.
-/

namespace Arcade

namespace Text

/-- Whether each character of a text stands for itself. -/
def Literal (cs : List Char) : Prop := ∀ c ∈ cs, isInBlock c.toNat = false

theorem Literal.nil : Literal [] := List.forall_mem_nil _

theorem Literal.append {cs ds : List Char} (hc : Literal cs) (hd : Literal ds) :
    Literal (cs ++ ds) :=
  List.forall_mem_append.2 ⟨hc, hd⟩

theorem literal_of_lt {cs : List Char} (h : ∀ c ∈ cs, c.toNat < 128) : Literal cs := by
  intro c hc
  have := h c hc
  refine decide_eq_false fun hb => ?_
  have : blockStart = 0x5ff00 := rfl
  omega

theorem literal_of_all {cs : List Char} (h : (cs.all fun c => decide (c.toNat < 128)) = true) :
    Literal cs :=
  literal_of_lt (forall_mem_of_all h)

/-- No printable character is a head or a tail. -/
theorem isInBlock_of_isPrintable {c : Char} (h : isPrintable c = true) :
    isInBlock c.toNat = false := by
  have hranges : ∀ r ∈ printableRanges, r.2 < 0x5ff00 ∨ 0x5ff80 ≤ r.1 := by decide +kernel
  obtain ⟨r, hr, hlow, hhigh⟩ := inRanges_iff.1 h
  refine Bool.eq_false_iff.2 fun hb => ?_
  have hblock := isInBlock_iff.1 hb
  rcases hranges r hr with hlt | hle <;> omega

theorem toNat_digitChar_lt {d : Nat} (h : d < 16) : (Nat.digitChar d).toNat < 128 := by
  have : ∀ d : Fin 16, (Nat.digitChar d.val).toNat < 128 := by decide
  exact this ⟨d, h⟩

theorem toNat_lt_of_mem_toDigits {n : Nat} {c : Char} (h : c ∈ Nat.toDigits 16 n) :
    c.toNat < 128 := by
  induction n using Nat.strongRecOn with
  | ind n ih =>
    by_cases hn : n < 16
    · rw [Nat.toDigits_of_lt_base hn] at h
      rw [List.mem_singleton.1 h]
      exact toNat_digitChar_lt hn
    · rw [Nat.toDigits_of_base_le (by decide) (Nat.not_lt.1 hn)] at h
      rcases List.mem_append.1 h with h | h
      · exact ih (n / 16) (by omega) h
      · rw [List.mem_singleton.1 h]
        exact toNat_digitChar_lt (Nat.mod_lt _ (by decide))

theorem literal_hexDigits (width n : Nat) : Literal (hexDigits width n) := by
  refine Literal.append (fun c hc => ?_) (literal_of_lt fun c hc => toNat_lt_of_mem_toDigits hc)
  rw [List.eq_of_mem_replicate hc]
  decide

theorem literal_escape {c : Char} (h : c.toNat < 128) : Literal ['\\', c] :=
  literal_of_lt (List.forall_mem_cons.2 ⟨by decide, List.forall_mem_singleton.2 h⟩)

theorem literal_quoteCode (n : Nat) : Literal (quoteCode n) := by
  unfold quoteCode
  split
  · exact (literal_escape (by decide)).append (literal_hexDigits 2 n)
  · split
    · exact (literal_escape (by decide)).append (literal_hexDigits 4 n)
    · exact (literal_escape (by decide)).append (literal_hexDigits 8 n)

theorem literal_quoteSign {quote : Char} (hq : quote.toNat < 128) (x : Sign) :
    Literal (quoteSign quote x) := by
  cases x with
  | spelt n => exact literal_quoteCode n
  | char c =>
    change Literal (quoteChar quote c)
    unfold quoteChar
    split
    · rename_i hc
      rcases hc with rfl | rfl
      · exact literal_escape hq
      · exact literal_escape (by decide)
    split
    · exact literal_escape (by decide)
    split
    · exact literal_escape (by decide)
    split
    · exact literal_escape (by decide)
    split
    · rename_i hc
      exact List.forall_mem_singleton.2 (isInBlock_of_isPrintable hc)
    · exact literal_quoteCode _

theorem toNat_quoteFor_lt (s : String) : (quoteFor s).toNat < 128 := by
  unfold quoteFor
  split <;> decide

theorem literal_quoted (s : String) : Literal (quoted s).toList := by
  have hquote : Literal [quoteFor s] :=
    literal_of_lt (List.forall_mem_singleton.2 (toNat_quoteFor_lt s))
  rw [quoted, String.toList_ofList]
  refine (hquote.append fun c hc => ?_).append hquote
  obtain ⟨x, -, hx⟩ := List.mem_flatMap.1 hc
  exact literal_quoteSign (toNat_quoteFor_lt s) x c hx

end Text

namespace Json

open Text (Literal literal_of_lt literal_of_all)

/-! ## Numbers -/

theorem toNat_lt_of_isPlainDigit {c : Char} (h : Text.isPlainDigit c = true) : c.toNat < 128 := by
  rw [Text.isPlainDigit, Bool.and_eq_true, decide_eq_true_eq, decide_eq_true_eq] at h
  have : '9'.toNat = 57 := rfl
  omega

theorem literal_of_digits {cs : List Char} (h : ∀ c ∈ cs, Text.isPlainDigit c = true) :
    Literal cs :=
  literal_of_lt fun c hc => toNat_lt_of_isPlainDigit (h c hc)

theorem literal_of_isDouble {cs : List Char} {d : Decimal.Scaled} (h : IsDouble cs d) :
    Literal cs := by
  obtain ⟨ws, fs, es, n, rfl, hw, hf, he, -⟩ := h
  refine Literal.append (Literal.append ?whole ?fraction) ?exponent
  case whole =>
    rcases hw with rfl | ⟨-, hd, -⟩
    · exact literal_of_all rfl
    · exact literal_of_digits hd
  case fraction =>
    rcases hf with rfl | ⟨ds, rfl, -, hd⟩
    · exact .nil
    · exact List.forall_mem_cons.2 ⟨by decide, literal_of_digits hd⟩
  case exponent =>
    rcases he with ⟨rfl, -⟩ | ⟨sign, ds, rfl, hs, -, hd, -⟩
    · exact .nil
    · refine List.forall_mem_cons.2 ⟨by decide, List.forall_mem_cons.2 ⟨?_, literal_of_digits hd⟩⟩
      rcases hs with rfl | rfl <;> decide

theorem literal_natText (n : Nat) : Literal (toString n).toList := by
  rw [toList_toString]
  exact literal_of_digits fun c hc => Number.isPlainDigit_of_mem_toDigits hc

theorem literal_sign (negative : Bool) : Literal (if negative then "-" else "").toList := by
  cases negative <;> exact literal_of_all rfl

theorem literal_numberText (n : Number) : Literal n.text.toList := by
  cases n with
  | int n =>
    cases n with
    | ofNat n => exact literal_natText n
    | negSucc n =>
      change Literal ("-" ++ toString (n + 1)).toList
      rw [String.toList_append]
      exact (literal_sign true).append (literal_natText (n + 1))
  | float x =>
    change Literal (Decimal.plain.writeDouble x).toList
    unfold Decimal.Layout.writeDouble
    cases Double.meaning x with
    | nan => exact literal_of_all rfl
    | infinite negative => cases negative <;> exact literal_of_all rfl
    | finite negative mantissa exponent =>
      obtain ⟨zeros, hd⟩ := isDouble_finite mantissa exponent
      dsimp only
      rw [String.toList_append]
      exact (literal_sign negative).append (literal_of_isDouble hd)

/-! ## Values -/

theorem literal_intercalate {texts : List String} (h : ∀ s ∈ texts, Literal s.toList) :
    Literal (", ".intercalate texts).toList := by
  cases texts with
  | nil => exact .nil
  | cons s rest =>
    rw [String.toList_intercalate, List.map_cons, intercalate_cons]
    refine (h s List.mem_cons_self).append fun c hc => ?_
    obtain ⟨cs, hcs, hc⟩ := List.mem_flatMap.1 hc
    obtain ⟨t, ht, rfl⟩ := List.mem_map.1 hcs
    exact (literal_of_all rfl).append (h t (List.mem_cons_of_mem _ ht)) c hc

mutual

/-- A value is shown with characters that stand for themselves. -/
theorem literal_shown : ∀ v : Json, Literal (shown v).toList
  | .null => literal_of_all rfl
  | .bool b => by cases b <;> exact literal_of_all rfl
  | .num n => literal_numberText n
  | .str s => Text.literal_quoted s
  | .arr items => by
    rw [shown, String.toList_append, String.toList_append]
    exact ((literal_of_all rfl).append (literal_intercalate (literal_shownItems items))).append
      (literal_of_all rfl)
  | .obj members => by
    rw [shown, String.toList_append, String.toList_append]
    exact ((literal_of_all rfl).append
      (literal_intercalate (literal_shownMembers members))).append (literal_of_all rfl)

theorem literal_shownItems : ∀ xs : List Json, ∀ s ∈ shownItems xs, Literal s.toList
  | [] => List.forall_mem_nil _
  | x :: xs => List.forall_mem_cons.2 ⟨literal_shown x, literal_shownItems xs⟩

theorem literal_shownMembers :
    ∀ xs : List (String × Json), ∀ s ∈ shownMembers xs, Literal s.toList
  | [] => List.forall_mem_nil _
  | (k, x) :: xs => by
    refine List.forall_mem_cons.2 ⟨?_, literal_shownMembers xs⟩
    rw [String.toList_append, String.toList_append]
    exact ((Text.literal_quoted k).append (literal_of_all rfl)).append (literal_shown x)

end

/-- The text of a legible value comes back as it is. -/
theorem rejoined_text {room : Nat} {v : Json} (h : Legible room v) :
    Text.rejoined v.text = v.text := by
  cases h with
  | str h => exact h
  | _ => exact Text.rejoined_eq_self (literal_shown _)

end Json

end Arcade
