import Mathlib.Algebra.Group.Nat.Defs
import Arcade.Json.Reader
import Arcade.Json.Writer

/-!
# Numbers that are read back

An integer is written as its digits and is read back as it is, unless it has more digits than are
read. A double is always written with a point or an exponent, and so is read back as a double: that
of the decimal which was written, perhaps with zeros behind its digits.
-/

namespace Arcade

/-- What can be decided of each item of a list is decided item by item. -/
theorem forall_mem_of_all {α : Type} {l : List α} {p : α → Prop} [DecidablePred p]
    (h : (l.all fun x => decide (p x)) = true) : ∀ x ∈ l, p x :=
  fun x hx => of_decide_eq_true (List.all_eq_true.1 h x hx)

/-! ## Rows of digits -/

namespace Number

theorem isPlainDigit_of_isDigit {c : Char} (h : c.isDigit = true) :
    Text.isPlainDigit c = true := by
  rw [Text.isPlainDigit, Bool.and_eq_true, decide_eq_true_eq, decide_eq_true_eq]
  exact Char.isDigit_iff_toNat.1 h

theorem isPlainDigit_of_mem_toDigits {n : Nat} {c : Char} (h : c ∈ Nat.toDigits 10 n) :
    Text.isPlainDigit c = true :=
  isPlainDigit_of_isDigit (Nat.isDigit_of_mem_toDigits (by decide) (by decide) h)

theorem digitsValue_toDigits (n : Nat) : digitsValue (Nat.toDigits 10 n) = n :=
  Nat.ofDigitChars_toDigits (by decide) (by decide)

theorem digitsValue_append_zeros (ds : List Char) (n : Nat) :
    digitsValue (ds ++ List.replicate n '0') = digitsValue ds * 10 ^ n := by
  change Nat.ofDigitChars 10 (ds ++ List.replicate n '0') 0 = _
  rw [Nat.ofDigitChars_append, Nat.ofDigitChars_replicate_zero, Nat.mul_comm]
  rfl

theorem digitsValue_zeros_append (n : Nat) (ds : List Char) :
    digitsValue (List.replicate n '0' ++ ds) = digitsValue ds := by
  change Nat.ofDigitChars 10 (List.replicate n '0' ++ ds) 0 = _
  rw [Nat.ofDigitChars_append, Nat.ofDigitChars_replicate_zero, Nat.mul_zero]
  rfl

/-- Only zero is written with a zero in front. -/
theorem head?_toDigits {n : Nat} (h : n ≠ 0) : (Nat.toDigits 10 n).head? ≠ some '0' := by
  induction n using Nat.strongRecOn with
  | ind n ih =>
    by_cases hn : n < 10
    · rw [Nat.toDigits_of_lt_base hn]
      have : ∀ d : Fin 10, d.val ≠ 0 → [Nat.digitChar d.val].head? ≠ some '0' := by decide
      exact this ⟨n, hn⟩ h
    · obtain ⟨c, cs, hc⟩ := List.exists_cons_of_ne_nil (Nat.toDigits_ne_nil (n := n / 10) (b := 10))
      have hi := ih (n / 10) (by omega) (by omega)
      rw [Nat.toDigits_of_base_le (by decide) (Nat.not_lt.mp hn), hc]
      rwa [hc] at hi

/-- Whether a text does not go on with a digit. -/
def Ends (cs : List Char) : Prop := ∀ c ∈ cs.head?, Text.isPlainDigit c = false

theorem spanDigits_append {ds rest : List Char} (hd : ∀ c ∈ ds, Text.isPlainDigit c = true)
    (hr : Ends rest) : spanDigits (ds ++ rest) = (ds, rest) := by
  have ht : rest.takeWhile Text.isPlainDigit = [] ∧ rest.dropWhile Text.isPlainDigit = rest := by
    cases rest with
    | nil => exact ⟨rfl, rfl⟩
    | cons c rest =>
      have := hr c rfl
      simp [this]
  rw [spanDigits, List.takeWhile_append_of_pos hd, List.dropWhile_append_of_pos hd, ht.1, ht.2,
    List.append_nil]

end Number

namespace Json

open Number (Ends)

/-- Whether a text does not go on with a part of a number. -/
def Stops (cs : List Char) : Prop :=
  ∀ c ∈ cs.head?, Text.isPlainDigit c = false ∧ c ≠ '.' ∧ c ≠ 'e' ∧ c ≠ 'E'

theorem Stops.ends {cs : List Char} (h : Stops cs) : Ends cs := fun c hc => (h c hc).1

/-- The integer part of a number: a zero alone or digits that start with another one. -/
def IsWhole (cs : List Char) : Prop :=
  cs = ['0'] ∨ cs ≠ [] ∧ (∀ c ∈ cs, Text.isPlainDigit c = true) ∧ cs.head? ≠ some '0'

/-- A point with digits, or nothing. -/
def IsFraction (cs : List Char) : Prop :=
  cs = [] ∨ ∃ ds, cs = '.' :: ds ∧ ds ≠ [] ∧ ∀ c ∈ ds, Text.isPlainDigit c = true

/-- An exponent with its mark and sign, or nothing. -/
def IsExponent (cs : List Char) (n : Int) : Prop :=
  cs = [] ∧ n = 0 ∨ ∃ sign ds, cs = 'e' :: sign :: ds ∧ (sign = '+' ∨ sign = '-') ∧ ds ≠ [] ∧
    (∀ c ∈ ds, Text.isPlainDigit c = true) ∧
    n = if sign = '-' then -(Number.digitsValue ds : Int) else Number.digitsValue ds

/-- A decimal that is written with a fraction or an exponent. -/
def IsDouble (cs : List Char) (d : Decimal.Scaled) : Prop :=
  ∃ whole fraction exponent n, cs = whole ++ fraction ++ exponent ∧ IsWhole whole ∧
    IsFraction fraction ∧ IsExponent exponent n ∧ (fraction ≠ [] ∨ exponent ≠ []) ∧
    d = ⟨Number.digitsValue (whole ++ fraction.drop 1), n - (fraction.drop 1).length⟩

theorem isWhole_toDigits (n : Nat) : IsWhole (Nat.toDigits 10 n) := by
  by_cases h : n = 0
  · exact .inl (h ▸ Nat.toDigits_zero 10)
  · exact .inr ⟨Nat.toDigits_ne_nil, fun c hc => Number.isPlainDigit_of_mem_toDigits hc,
      Number.head?_toDigits h⟩

theorem spanWhole_append {ws rest : List Char} (hw : IsWhole ws) (hr : Ends rest) :
    spanWhole (ws ++ rest) = (ws, rest) := by
  rcases hw with rfl | ⟨hne, hd, hz⟩
  · rfl
  · obtain ⟨c, cs, rfl⟩ := List.exists_cons_of_ne_nil hne
    have hc : c ≠ '0' := fun h => hz (congrArg some h)
    rw [List.cons_append, spanWhole]
    · exact Number.spanDigits_append hd hr
    · exact fun rest h => hc (List.cons.inj h).1

theorem spanFraction_append {fs rest : List Char} (hf : IsFraction fs) (hr : Ends rest)
    (hp : rest.head? ≠ some '.') : spanFraction (fs ++ rest) = (fs.drop 1, rest) := by
  rcases hf with rfl | ⟨ds, rfl, hne, hd⟩
  · rw [List.nil_append, spanFraction]
    · rfl
    · exact fun more h => hp (congrArg List.head? h)
  · simp only [List.cons_append, spanFraction, Number.spanDigits_append hd hr, if_neg hne,
      List.drop_succ_cons, List.drop_zero]

/-- The exponent that is read does not depend on what follows it. -/
theorem spanExponent_append {es : List Char} {n : Int} (he : IsExponent es n) {rest : List Char}
    (hr : Stops rest) : spanExponent (es ++ rest) = (if es = [] then none else some n, rest) := by
  rcases he with ⟨rfl, rfl⟩ | ⟨sign, ds, rfl, hs, hne, hd, rfl⟩
  · rw [List.nil_append]
    cases rest with
    | nil => rfl
    | cons c rest =>
      have hc : ¬ (c = 'e' ∨ c = 'E') := fun h => h.elim (hr c rfl).2.2.1 (hr c rfl).2.2.2
      simp only [spanExponent, if_neg hc, if_true]
  · rcases hs with rfl | rfl <;>
      simp [spanExponent, Number.takeSign, Number.spanDigits_append hd hr.ends, hne]

theorem IsExponent.head? {es rest : List Char} {n : Int} (he : IsExponent es n) (hr : Stops rest) :
    ∀ c ∈ (es ++ rest).head?, Text.isPlainDigit c = false ∧ c ≠ '.' := by
  rcases he with ⟨rfl, -⟩ | ⟨sign, ds, rfl, -⟩
  · exact fun c hc => ⟨(hr c hc).1, (hr c hc).2.1⟩
  · intro c hc
    obtain rfl := Option.some.inj hc
    exact ⟨by decide, by decide⟩

theorem IsFraction.ends {fs rest : List Char} (hf : IsFraction fs) (hr : Ends rest) :
    Ends (fs ++ rest) := by
  rcases hf with rfl | ⟨ds, rfl, -⟩
  · exact hr
  · intro c hc
    obtain rfl := Option.some.inj hc
    decide

theorem IsFraction.drop_eq_nil {fs : List Char} (hf : IsFraction fs) :
    fs.drop 1 = [] ↔ fs = [] := by
  rcases hf with rfl | ⟨ds, rfl, hne, -⟩
  · exact ⟨fun _ => rfl, fun _ => rfl⟩
  · exact ⟨fun h => absurd h hne, fun h => nomatch h⟩

theorem IsWhole.ne_nil {ws : List Char} (hw : IsWhole ws) : ws ≠ [] := by
  rcases hw with rfl | ⟨hne, -⟩
  · exact List.cons_ne_nil _ _
  · exact hne

/-- A decimal with a fraction or an exponent is read as its double, whatever follows it. -/
theorem readNumber?_of_isDouble {cs : List Char} {d : Decimal.Scaled} (h : IsDouble cs d)
    (negative : Bool) {rest : List Char} (hr : Stops rest) :
    readNumber? negative (cs ++ rest) =
      some (.ok (.num (.float (Double.ofDecimal negative d.digits d.exponent)), rest)) := by
  obtain ⟨ws, fs, es, n, rfl, hw, hf, he, hne, rfl⟩ := h
  have hend : Ends (es ++ rest) := fun c hc => (he.head? hr c hc).1
  have hpoint : (es ++ rest).head? ≠ some '.' := fun hc => (he.head? hr '.' hc).2 rfl
  have hdouble : ¬ (fs.drop 1 = [] ∧ (if es = [] then none else some n) = none) := by
    rw [hf.drop_eq_nil]
    rintro ⟨hfs, hes⟩
    rw [if_neg (hne.resolve_left (· hfs))] at hes
    cases hes
  have hexponent : (if es = [] then none else some n).getD 0 = n := by
    rcases he with ⟨rfl, rfl⟩ | ⟨sign, ds, rfl, -⟩ <;> rfl
  unfold readNumber?
  rw [List.append_assoc, List.append_assoc, spanWhole_append hw (hf.ends hend)]
  simp only [spanFraction_append hf hend hpoint, spanExponent_append he hr, if_neg hw.ne_nil,
    if_neg hdouble, hexponent]

/-- An integer is read as far as its digits go. -/
theorem readNumber?_toDigits (n : Nat) (negative : Bool) {rest : List Char} (hr : Stops rest) :
    readNumber? negative (Nat.toDigits 10 n ++ rest) = some
      (if (Nat.toDigits 10 n).length ≤ Number.digitLimit then
        .ok (.int (if negative then -(n : Int) else n), rest)
      else .error (.tooManyDigits (Nat.toDigits 10 n).length)) := by
  have hf : spanFraction rest = ([], rest) :=
    spanFraction_append (.inl rfl) hr.ends fun h => (hr '.' h).2.1 rfl
  have he : spanExponent rest = (none, rest) := spanExponent_append (.inl ⟨rfl, rfl⟩) hr
  unfold readNumber?
  rw [spanWhole_append (isWhole_toDigits n) hr.ends]
  simp only [hf, he, if_neg Nat.toDigits_ne_nil, Number.digitsValue_toDigits, and_self, if_true]
  split <;> rfl

/-! ## How doubles are written -/

end Json

namespace Decimal

/-- The same decimal with zeros behind its digits. -/
def Scaled.padded (d : Scaled) (zeros : Nat) : Scaled := ⟨d.digits * 10 ^ zeros, d.exponent - zeros⟩

theorem Scaled.padded_zero (d : Scaled) : d.padded 0 = d := by
  rw [padded, Nat.pow_zero, Nat.mul_one, Int.natCast_zero, Int.sub_zero]

theorem step_pos (exponent grid : Int) :
    0 < (scaleByTen (Double.scaleByTwo 1 4 exponent).1 (Double.scaleByTwo 1 4 exponent).2 grid).1 := by
  have hone : 0 < (Double.scaleByTwo 1 4 exponent).1 := by
    unfold Double.scaleByTwo
    split
    · exact Nat.mul_pos Nat.one_pos (Nat.pow_pos (by decide))
    · exact Nat.one_pos
  unfold scaleByTen
  split
  · exact hone
  · exact Nat.mul_pos hone (Nat.pow_pos (by decide))

/-- Zero lies below the interval of a positive double. -/
theorem ne_zero_of_rounds {even : Prop} [Decidable even] {low n unit : Nat} {closed half : Bool}
    (hlow : 0 < low) (h : (if even then decide (low ≤ n * unit) && closed
      else decide (low < n * unit) && half) = true) : n ≠ 0 := by
  rintro rfl
  rw [Nat.zero_mul] at h
  split at h
  · exact absurd (of_decide_eq_true (Bool.and_eq_true_iff.1 h).1) (Nat.not_le.mpr hlow)
  · exact absurd (of_decide_eq_true (Bool.and_eq_true_iff.1 h).1) (Nat.not_lt_zero _)

/-- A decimal that rounds to a positive double is not zero. -/
theorem digits_ne_zero_of_onGrid? {mantissa : Nat} {exponent grid : Int} {d : Scaled}
    (hm : mantissa ≠ 0) (h : onGrid? mantissa exponent grid = some d) : d.digits ≠ 0 := by
  have hstep := step_pos exponent grid
  -- Zero does not round to the double, so that a decimal that does has digits.
  have hlow : 0 < (roundingInterval mantissa exponent).1 := by
    unfold roundingInterval
    dsimp only
    split <;> omega
  have hprod := Nat.mul_pos hlow hstep
  unfold onGrid? at h
  dsimp only at h
  generalize (scaleByTen (Double.scaleByTwo 1 4 exponent).1 (Double.scaleByTwo 1 4 exponent).2
    grid).1 = step at h hprod
  generalize (roundingInterval mantissa exponent).1 = low at h hprod
  generalize (roundingInterval mantissa exponent).2.1 * step / _ = below at h
  split at h
  · cases h
  · rename_i hr _
    cases h
    exact ne_zero_of_rounds hprod hr
  · cases h
    exact Nat.succ_ne_zero below
  · rename_i hr _
    split at h
    · cases h
      exact Nat.succ_ne_zero below
    · split at h
      · cases h
        exact ne_zero_of_rounds hprod hr
      · cases h
        dsimp only
        split
        · exact ne_zero_of_rounds hprod hr
        · exact Nat.succ_ne_zero below

theorem dropZeros_cases (fuel : Nat) {d : Scaled} (h : d.digits ≠ 0 ∨ d.exponent = 0) :
    (dropZeros fuel d).digits ≠ 0 ∨ (dropZeros fuel d).exponent = 0 := by
  induction fuel generalizing d with
  | zero => exact h
  | succ fuel ih =>
    rw [dropZeros]
    split
    · rename_i hd
      exact ih (.inl (by simp only; omega))
    · exact h

/-- Only the double zero has a decimal with no digits but zero at another place than the first. -/
theorem shortest_cases {mantissa : Nat} (hm : mantissa ≠ 0) (exponent : Int) :
    (shortest mantissa exponent).digits ≠ 0 ∨ (shortest mantissa exponent).exponent = 0 := by
  unfold shortest
  dsimp only
  refine dropZeros_cases 20 ?_
  generalize hf : List.findSome? _ (List.range 17) = found
  cases found with
  | none => exact .inr rfl
  | some d =>
    obtain ⟨k, -, hk⟩ := List.exists_of_findSome?_eq_some hf
    exact .inl (digits_ne_zero_of_onGrid? hm hk)

end Decimal

namespace Json

open Decimal

theorem toList_toString (n : Nat) : (toString n).toList = Nat.toDigits 10 n := Nat.toList_repr

theorem isPlainDigit_of_mem_replicate {n : Nat} {c : Char} (h : c ∈ List.replicate n '0') :
    Text.isPlainDigit c = true := by
  rw [List.eq_of_mem_replicate h]
  decide

/-- Digits in front of the point stay an integer part with zeros after them. -/
theorem isWhole_take {n point : Nat} (h : n ≠ 0) (hp : 0 < point) {zeros : List Char}
    (hz : ∀ c ∈ zeros, Text.isPlainDigit c = true) :
    IsWhole ((Nat.toDigits 10 n).take point ++ zeros) := by
  have hhead := Number.head?_toDigits h
  have hd : ∀ c ∈ Nat.toDigits 10 n, Text.isPlainDigit c = true :=
    fun c hc => Number.isPlainDigit_of_mem_toDigits hc
  obtain ⟨c, cs, hc⟩ := List.exists_cons_of_ne_nil (Nat.toDigits_ne_nil (n := n) (b := 10))
  obtain ⟨p, rfl⟩ : ∃ p, point = p + 1 := ⟨point - 1, by omega⟩
  rw [hc] at hhead hd ⊢
  refine .inr ⟨List.cons_ne_nil _ _, fun x hx => ?_, hhead⟩
  rcases List.mem_append.1 hx with hx | hx
  · exact hd x (List.mem_of_mem_take hx)
  · exact hz x hx

theorem isDouble_point {ws ds : List Char} (hw : IsWhole ws) (hne : ds ≠ [])
    (hd : ∀ c ∈ ds, Text.isPlainDigit c = true) :
    IsDouble (ws ++ '.' :: ds) ⟨Number.digitsValue (ws ++ ds), -ds.length⟩ :=
  ⟨ws, '.' :: ds, [], 0, (List.append_nil _).symm, hw, .inr ⟨ds, rfl, hne, hd⟩, .inl ⟨rfl, rfl⟩,
    .inl (List.cons_ne_nil _ _), by rw [List.drop_succ_cons, List.drop_zero, Int.zero_sub]⟩

/-- Digits with the point after some of them. -/
theorem isDouble_pointAfter {n point : Nat} (h : n ≠ 0 ∨ point = 1) (hp : 0 < point) :
    ∃ zeros, IsDouble (pointAfter (Nat.toDigits 10 n) point).toList
      (Scaled.padded ⟨n, point - (Nat.toDigits 10 n).length⟩ zeros) := by
  have hd : ∀ c ∈ (Nat.toDigits 10 n).drop point, Text.isPlainDigit c = true :=
    fun c hc => Number.isPlainDigit_of_mem_toDigits (List.mem_of_mem_drop hc)
  have hw : IsWhole ((Nat.toDigits 10 n).take point ++
      List.replicate (point - ((Nat.toDigits 10 n).take point).length) '0') := by
    by_cases hn : n = 0
    · rw [hn, h.resolve_left (· hn)]
      exact .inl rfl
    · exact isWhole_take hn hp fun c hc => isPlainDigit_of_mem_replicate hc
  unfold pointAfter
  simp only [String.toList_append, String.toList_ofList]
  rw [List.append_assoc]
  change ∃ zeros, IsDouble (_ ++ '.' :: (if (Nat.toDigits 10 n).drop point = [] then ['0'] else
    (Nat.toDigits 10 n).drop point)) _
  split
  · -- All digits stand in front of the point, with zeros behind them.
    rename_i hnil
    have hlength := List.drop_eq_nil_iff.1 hnil
    rw [List.take_of_length_le hlength] at hw ⊢
    refine ⟨point - (Nat.toDigits 10 n).length + 1, ?_⟩
    have hpoint := isDouble_point hw (List.cons_ne_nil '0' []) (forall_mem_of_all rfl)
    have hvalue : Number.digitsValue (Nat.toDigits 10 n ++
        List.replicate (point - (Nat.toDigits 10 n).length) '0' ++ ['0']) =
          n * 10 ^ (point - (Nat.toDigits 10 n).length + 1) := by
      rw [List.append_assoc, ← List.replicate_succ', Number.digitsValue_append_zeros,
        Number.digitsValue_toDigits]
    have hexponent : (-(['0'].length : Int)) = (point : Int) - (Nat.toDigits 10 n).length -
        (point - (Nat.toDigits 10 n).length + 1 : Nat) := by
      simp only [List.length_singleton]
      omega
    rwa [hvalue, hexponent] at hpoint
  · -- The point stands between two digits, and there is nothing to fill up.
    rename_i hne
    have hlength : point < (Nat.toDigits 10 n).length := by
      rwa [List.drop_eq_nil_iff, Nat.not_le] at hne
    have hzeros : point - ((Nat.toDigits 10 n).take point).length = 0 := by
      rw [List.length_take_of_le (Nat.le_of_lt hlength), Nat.sub_self]
    rw [hzeros, List.replicate_zero, List.append_nil] at hw ⊢
    refine ⟨0, ?_⟩
    have hpoint := isDouble_point hw hne hd
    rw [List.take_append_drop, Number.digitsValue_toDigits, List.length_drop] at hpoint
    rw [Scaled.padded_zero]
    have hexponent : (-((Nat.toDigits 10 n).length - point : Nat) : Int) =
        (point : Int) - (Nat.toDigits 10 n).length := by omega
    rwa [hexponent] at hpoint

/-- Digits behind a point and zeros. -/
theorem isDouble_zeros (n zeros : Nat) :
    IsDouble ("0." ++ String.ofList (List.replicate zeros '0' ++ Nat.toDigits 10 n)).toList
      ⟨n, -(zeros + (Nat.toDigits 10 n).length : Nat)⟩ := by
  have hne : List.replicate zeros '0' ++ Nat.toDigits 10 n ≠ [] :=
    List.append_ne_nil_of_right_ne_nil _ Nat.toDigits_ne_nil
  have hpoint := isDouble_point (show IsWhole ['0'] from .inl rfl) hne fun c hc => by
    rcases List.mem_append.1 hc with hc | hc
    · exact isPlainDigit_of_mem_replicate hc
    · exact Number.isPlainDigit_of_mem_toDigits hc
  have hvalue : Number.digitsValue (['0'] ++ (List.replicate zeros '0' ++ Nat.toDigits 10 n)) = n :=
    (Number.digitsValue_zeros_append (zeros + 1) _).trans (Number.digitsValue_toDigits n)
  rw [hvalue, List.length_append, List.length_replicate] at hpoint
  rw [String.toList_append]
  change IsDouble (['0'] ++ '.' :: (String.ofList _).toList) _
  rwa [String.toList_ofList]

/-- An exponent is written with its sign and at least one digit. -/
theorem isExponent_write (negative : Prop) [Decidable negative] (width n : Nat) :
    IsExponent ("e" ++ (if negative then "-" else "+") ++ padZeros width (toString n)).toList
      (if negative then -n else n) := by
  refine .inr ⟨if negative then '-' else '+',
    List.replicate (width - (toString n).length) '0' ++ Nat.toDigits 10 n, ?_, ?_, ?_, ?_, ?_⟩
  · simp only [padZeros, String.toList_append, String.toList_ofList, toList_toString]
    split <;> rfl
  · split
    · exact .inr rfl
    · exact .inl rfl
  · exact fun h => Nat.toDigits_ne_nil (List.append_eq_nil_iff.1 h).2
  · intro c hc
    rcases List.mem_append.1 hc with hc | hc
    · exact isPlainDigit_of_mem_replicate hc
    · exact Number.isPlainDigit_of_mem_toDigits hc
  · rw [Number.digitsValue_zeros_append, Number.digitsValue_toDigits]
    by_cases h : negative <;> simp [h]

/-- The digits in front of an exponent: one alone, or one and the others after a point. -/
theorem isDouble_lead {n : Nat} {es : List Char} {k : Int} (he : IsExponent es k) (hne : es ≠ []) :
    IsDouble ((match Nat.toDigits 10 n with
      | [_] => String.ofList (Nat.toDigits 10 n) ++ ""
      | c :: rest => String.ofList (c :: '.' :: rest)
      | [] => "").toList ++ es) ⟨n, k + 1 - (Nat.toDigits 10 n).length⟩ := by
  have hw := isWhole_toDigits n
  have hd : ∀ c ∈ Nat.toDigits 10 n, Text.isPlainDigit c = true :=
    fun c hc => Number.isPlainDigit_of_mem_toDigits hc
  have hvalue := Number.digitsValue_toDigits n
  split
  · rename_i c hone
    rw [String.toList_append, String.toList_ofList]
    refine ⟨_, [], es, k, by simp, hw, .inl rfl, he, .inr hne, ?_⟩
    rw [List.drop_nil, List.append_nil, hvalue, hone]
    simp only [List.length_singleton, List.length_nil]
    congr 1
    omega
  · rename_i c rest hone heq
    rw [heq] at hw hd hvalue ⊢
    rw [String.toList_ofList]
    have hrest : rest ≠ [] := hone
    refine ⟨[c], '.' :: rest, es, k, rfl, ?_, .inr ⟨rest, rfl, hrest, fun x hx =>
      hd x (List.mem_cons_of_mem c hx)⟩, he, .inr hne, ?_⟩
    · rcases hw with hw | ⟨-, -, hz⟩
      · exact absurd (List.cons.inj hw).2 hrest
      · exact .inr ⟨List.cons_ne_nil _ _, fun x hx => hd x (List.mem_singleton.1 hx ▸
          List.mem_cons_self), hz⟩
    · rw [List.drop_succ_cons, List.drop_zero, List.singleton_append, hvalue, List.length_cons]
      congr 1
      omega
  · rename_i heq
    exact absurd heq Nat.toDigits_ne_nil

/-- A positive decimal is written with a point or an exponent. -/
theorem isDouble_write {d : Scaled} (h : d.digits ≠ 0 ∨ d.exponent = 0) :
    ∃ zeros, IsDouble (numberLayout.write d).toList (d.padded zeros) := by
  unfold Layout.write
  rw [toList_toString]
  dsimp only
  generalize htop : d.exponent + ((Nat.toDigits 10 d.digits).length : Int) - 1 = top
  split
  · split
    · -- The point is behind a digit.
      have hexponent : ((top.toNat + 1 : Nat) : Int) - (Nat.toDigits 10 d.digits).length =
          d.exponent := by omega
      have hwritten := isDouble_pointAfter (n := d.digits) ?_ top.toNat.succ_pos
      · rwa [hexponent] at hwritten
      · by_cases hd : d.digits = 0
        · rw [hd, h.resolve_left (· hd)] at htop
          exact .inr (congrArg (·.toNat + 1) htop.symm)
        · exact .inl hd
    · -- The number is less than one, with zeros behind its point.
      have hexponent : (-((-top - 1).toNat + (Nat.toDigits 10 d.digits).length : Nat) : Int) =
          d.exponent := by omega
      have hwritten := isDouble_zeros d.digits (-top - 1).toNat
      rw [hexponent] at hwritten
      exact ⟨0, d.padded_zero.symm ▸ hwritten⟩
  · -- The exponent is written out, for a number with one digit in front of the point.
    have hexponent : (if top < 0 then -(top.natAbs : Int) else top.natAbs) + 1 -
        (Nat.toDigits 10 d.digits).length = d.exponent := by
      split <;> omega
    have hwritten := isDouble_lead (n := d.digits) (isExponent_write (top < 0) 2 top.natAbs) (by
      rw [String.append_assoc, String.toList_append]
      exact List.cons_ne_nil _ _)
    rw [hexponent] at hwritten
    refine ⟨0, ?_⟩
    rw [String.append_assoc, String.append_assoc, String.toList_append, ← String.append_assoc,
      d.padded_zero]
    exact hwritten

/-! ## Numbers as values -/

/-- The double that the text of a double is read back as. -/
def rereadDouble (x : Float) : Float :=
  match readScalar (writeNumber (.float x)).toList with
  | .ok (.num (.float y), _) => y
  | _ => x

/-- What the text of a number is read back as. -/
def echoNumber : Number → Except ReadFault Number
  | .int n =>
    let digits := (Nat.toDigits 10 n.natAbs).length
    if digits ≤ Number.digitLimit then .ok (.int n) else .error (.tooManyDigits digits)
  | .float x => .ok (.float (rereadDouble x))

/-- No word starts with a digit. -/
theorem findWord_digit {c : Char} (h : Text.isPlainDigit c = true) (cs : List Char) :
    (wordValues.findSome? fun e => (after? e.1.toList (c :: cs)).map fun rest => (e.2, rest)) =
      none := by
  have hno : ∀ d ∈ ['n', 't', 'f', 'N', 'I', '-'], ¬ Text.isPlainDigit d = true :=
    forall_mem_of_all (by decide)
  have hne : ∀ d ∈ ['n', 't', 'f', 'N', 'I', '-'], d ≠ c := by
    rintro d hd rfl
    exact hno d hd h
  simp at hne
  simp [wordValues, after?, hne]

theorem findWord_minus {c : Char} (h : Text.isPlainDigit c = true) (cs : List Char) :
    (wordValues.findSome? fun e =>
      (after? e.1.toList ('-' :: c :: cs)).map fun rest => (e.2, rest)) = none := by
  have hne : 'I' ≠ c := by
    rintro rfl
    exact absurd h (by decide)
  simp [wordValues, after?, hne]

theorem readScalar_digit {c : Char} (h : Text.isPlainDigit c = true) (cs : List Char) :
    readScalar (c :: cs) = (readNumber? false (c :: cs)).getD
      (.error (.flaw .valueExpected (c :: cs).length)) := by
  have hc : c ≠ '-' := by
    rintro rfl
    exact absurd h (by decide)
  unfold readScalar
  rw [findWord_digit h]
  dsimp only
  split
  · rename_i rest he
    exact absurd (List.cons.inj he).1 hc
  · rfl

theorem readScalar_minus {c : Char} (h : Text.isPlainDigit c = true) (cs : List Char) :
    readScalar ('-' :: c :: cs) = (readNumber? true (c :: cs)).getD
      (.error (.flaw .valueExpected ('-' :: c :: cs).length)) := by
  unfold readScalar
  rw [findWord_minus h]
  rfl

theorem readScalar_toDigits (n : Nat) {rest : List Char} (hr : Stops rest) :
    readScalar (Nat.toDigits 10 n ++ rest) =
      (echoNumber (.int n)).map fun m => (.num m, rest) := by
  have h := readNumber?_toDigits n false hr
  obtain ⟨c, cs, hc⟩ := List.exists_cons_of_ne_nil (Nat.toDigits_ne_nil (n := n) (b := 10))
  have hd := Number.isPlainDigit_of_mem_toDigits (hc ▸ List.mem_cons_self : c ∈ Nat.toDigits 10 n)
  simp only [echoNumber, Int.natAbs_natCast]
  rw [hc] at h ⊢
  rw [List.cons_append, readScalar_digit hd, ← List.cons_append, h]
  split <;> rfl

theorem readScalar_minus_toDigits (n : Nat) {rest : List Char} (hr : Stops rest) :
    readScalar ('-' :: (Nat.toDigits 10 n ++ rest)) =
      (echoNumber (.int (-n))).map fun m => (.num m, rest) := by
  have h := readNumber?_toDigits n true hr
  obtain ⟨c, cs, hc⟩ := List.exists_cons_of_ne_nil (Nat.toDigits_ne_nil (n := n) (b := 10))
  have hd := Number.isPlainDigit_of_mem_toDigits (hc ▸ List.mem_cons_self : c ∈ Nat.toDigits 10 n)
  simp only [echoNumber, Int.natAbs_neg, Int.natAbs_natCast]
  rw [hc] at h ⊢
  rw [List.cons_append, readScalar_minus hd, ← List.cons_append, h]
  split <;> rfl

theorem IsDouble.head {cs : List Char} {d : Scaled} (h : IsDouble cs d) :
    ∃ c rest, cs = c :: rest ∧ Text.isPlainDigit c = true := by
  obtain ⟨ws, fs, es, n, rfl, hw, -⟩ := h
  rcases hw with rfl | ⟨hne, hd, -⟩
  · exact ⟨'0', fs ++ es, rfl, by decide⟩
  · obtain ⟨c, cs, rfl⟩ := List.exists_cons_of_ne_nil hne
    exact ⟨c, cs ++ fs ++ es, rfl, hd c List.mem_cons_self⟩

theorem readScalar_of_isDouble {cs : List Char} {d : Scaled} (h : IsDouble cs d) (negative : Bool)
    {rest : List Char} (hr : Stops rest) :
    readScalar ((if negative then ['-'] else []) ++ cs ++ rest) =
      .ok (.num (.float (Double.ofDecimal negative d.digits d.exponent)), rest) := by
  have hn := readNumber?_of_isDouble h negative hr
  obtain ⟨c, cs, rfl, hc⟩ := h.head
  cases negative with
  | true =>
    change readScalar ('-' :: c :: (cs ++ rest)) = _
    rw [readScalar_minus hc, ← List.cons_append, hn]
    rfl
  | false =>
    change readScalar (c :: (cs ++ rest)) = _
    rw [readScalar_digit hc, ← List.cons_append, hn]
    rfl

/-- The decimal that a finite double is written as. -/
def written (mantissa : Nat) (exponent : Int) : Scaled :=
  if mantissa = 0 then ⟨0, 0⟩ else shortest mantissa exponent

theorem isDouble_finite (mantissa : Nat) (exponent : Int) :
    ∃ zeros, IsDouble (if mantissa = 0 then "0.0" else
      numberLayout.write (shortest mantissa exponent)).toList
        ((written mantissa exponent).padded zeros) := by
  unfold written
  split
  · exact ⟨1, isDouble_point (.inl rfl) (List.cons_ne_nil _ _) (forall_mem_of_all rfl)⟩
  · rename_i hm
    exact isDouble_write (shortest_cases hm exponent)

/-- The text of a finite double is read back as the double of its decimal. -/
theorem exists_readScalar_finite {x : Float} {negative : Bool} {mantissa : Nat} {exponent : Int}
    (h : Double.meaning x = .finite negative mantissa exponent) :
    ∃ zeros, ∀ rest, Stops rest → readScalar ((writeNumber (.float x)).toList ++ rest) =
      .ok (.num (.float (Double.ofDecimal negative ((written mantissa exponent).padded zeros).digits
        ((written mantissa exponent).padded zeros).exponent)), rest) := by
  obtain ⟨zeros, hd⟩ := isDouble_finite mantissa exponent
  refine ⟨zeros, fun rest hr => ?_⟩
  change readScalar ((numberLayout.writeDouble x).toList ++ rest) = _
  rw [Layout.writeDouble, h, ← readScalar_of_isDouble hd negative hr]
  dsimp only
  rw [String.toList_append]
  cases negative <;> rfl

/-- The text of a double is read back as one and the same double, whatever follows it. -/
theorem exists_readScalar_double (x : Float) :
    ∃ y : Float, ∀ rest, Stops rest →
      readScalar ((writeNumber (.float x)).toList ++ rest) = .ok (.num (.float y), rest) := by
  cases h : Double.meaning x with
  | nan =>
    refine ⟨Double.nan, fun rest _ => ?_⟩
    change readScalar ((numberLayout.writeDouble x).toList ++ rest) = _
    rw [Layout.writeDouble, h]
    rfl
  | infinite negative =>
    refine ⟨Double.ofBits negative Double.infinityBits, fun rest _ => ?_⟩
    change readScalar ((numberLayout.writeDouble x).toList ++ rest) = _
    rw [Layout.writeDouble, h]
    cases negative <;> rfl
  | finite negative mantissa exponent =>
    obtain ⟨zeros, hx⟩ := exists_readScalar_finite h
    exact ⟨_, hx⟩

/-- The characters that the text of a number can start with. -/
def StartsNumber (c : Char) : Prop := Text.isPlainDigit c = true ∨ c ∈ ['-', 'N', 'I']

theorem writeNumber_head (n : Number) : ∃ c cs, (writeNumber n).toList = c :: cs ∧
    StartsNumber c := by
  cases n with
  | int n =>
    cases n with
    | ofNat n =>
      obtain ⟨c, cs, hc⟩ := List.exists_cons_of_ne_nil (Nat.toDigits_ne_nil (n := n) (b := 10))
      exact ⟨c, cs, (toList_toString n).trans hc, .inl (Number.isPlainDigit_of_mem_toDigits
        (hc ▸ List.mem_cons_self : c ∈ Nat.toDigits 10 n))⟩
    | negSucc n =>
      refine ⟨'-', Nat.toDigits 10 (n + 1), ?_, .inr List.mem_cons_self⟩
      change ("-" ++ toString (n + 1)).toList = _
      rw [String.toList_append, toList_toString]
      rfl
  | float x =>
    change ∃ c cs, (numberLayout.writeDouble x).toList = c :: cs ∧ StartsNumber c
    unfold Layout.writeDouble
    cases Double.meaning x with
    | nan => exact ⟨'N', ['a', 'N'], rfl, .inr (by decide)⟩
    | infinite negative =>
      cases negative with
      | true => exact ⟨'-', "Infinity".toList, rfl, .inr (by decide)⟩
      | false => exact ⟨'I', "nfinity".toList, rfl, .inr (by decide)⟩
    | finite negative mantissa exponent =>
      obtain ⟨zeros, hdouble⟩ := isDouble_finite mantissa exponent
      obtain ⟨c, cs, hc, hd⟩ := hdouble.head
      dsimp only
      rw [String.toList_append, hc]
      cases negative with
      | true => exact ⟨'-', c :: cs, rfl, .inr (by decide)⟩
      | false => exact ⟨c, cs, rfl, .inl hd⟩

/-- What the text of a number is read back as does not depend on what follows it. -/
theorem readScalar_writeNumber (n : Number) {rest : List Char} (hr : Stops rest) :
    readScalar ((writeNumber n).toList ++ rest) = (echoNumber n).map fun m => (.num m, rest) := by
  cases n with
  | int n =>
    cases n with
    | ofNat n =>
      change readScalar ((toString n).toList ++ rest) = _
      rw [toList_toString]
      exact readScalar_toDigits n hr
    | negSucc n =>
      change readScalar (("-" ++ toString (n + 1)).toList ++ rest) = _
      rw [String.toList_append, toList_toString]
      exact readScalar_minus_toDigits (n + 1) hr
  | float x =>
    obtain ⟨y, hy⟩ := exists_readScalar_double x
    have hx : rereadDouble x = y := by
      have hnil := hy [] fun c hc => nomatch hc
      rw [List.append_nil] at hnil
      rw [rereadDouble, hnil]
    rw [hy rest hr, ← hx]
    rfl

end Json

end Arcade
