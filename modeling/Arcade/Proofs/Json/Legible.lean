import Arcade.Proofs.Json.Doubles
import Arcade.Proofs.Json.Halves
import Arcade.Proofs.Json.Rereading

/-!
# Legible values

A value is legible if its integers are of a length that is read, none of its texts has two halves
of a pair beside each other, no object has a name twice, and there is room for its depth. What is
legible comes back from its text as it was. All that is read is legible, unless a half of a pair
stands alone in the text that is read.
-/

namespace Arcade.Json

/-! ## Legible values come back -/

/-- Names that are read back and do not repeat. -/
structure Named (members : List (String × Json)) : Prop where
  plain : ∀ e ∈ members, Text.rejoined e.1 = e.1
  distinct : (members.map Prod.fst).Nodup

/-- Whether a number has no more digits than are read. -/
def IsShort (n : Nat) : Prop := (Nat.toDigits 10 n).length ≤ Number.digitLimit

theorem isShort_iff {n : Nat} : IsShort n ↔ n < 10 ^ Number.digitLimit :=
  Nat.length_toDigits_le_iff (by decide) (by decide)

theorem IsShort.mono {m n : Nat} (h : IsShort n) (hle : m ≤ n) : IsShort m :=
  isShort_iff.2 (Nat.lt_of_le_of_lt hle (isShort_iff.1 h))

/-- Whether a value comes back from its text, with at most `room` lists and objects inside each
other. -/
inductive Legible : Nat → Json → Prop where
  | null {room : Nat} : Legible room .null
  | bool {room : Nat} (b : Bool) : Legible room (.bool b)
  | int {room : Nat} {n : Int} (h : IsShort n.natAbs) : Legible room (.int n)
  | float {room : Nat} (x : Float) : Legible room (.num (.float x))
  | str {room : Nat} {s : String} (h : Text.rejoined s = s) : Legible room (.str s)
  | arr {room : Nat} {items : List Json} (h : ∀ x ∈ items, Legible room x) :
    Legible (room + 1) (.arr items)
  | obj {room : Nat} {members : List (String × Json)} (hn : Named members)
    (h : ∀ e ∈ members, Legible room e.2) : Legible (room + 1) (.obj members)

theorem Legible.mono {room more : Nat} {v : Json} (h : Legible room v) (hle : room ≤ more) :
    Legible more v := by
  induction h generalizing more with
  | null => exact .null
  | bool b => exact .bool b
  | int h => exact .int h
  | float x => exact .float x
  | str h => exact .str h
  | arr _ ih =>
    obtain ⟨more, rfl⟩ := Nat.exists_eq_add_of_lt hle
    exact .arr fun x hx => ih x hx (by omega)
  | obj hn _ ih =>
    obtain ⟨more, rfl⟩ := Nat.exists_eq_add_of_lt hle
    exact .obj hn fun e he => ih e he (by omega)

theorem Named.nil : Named [] := ⟨List.forall_mem_nil _, List.nodup_nil⟩

theorem Named.tail {e : String × Json} {members : List (String × Json)} (h : Named (e :: members)) :
    Named members :=
  ⟨fun x hx => h.plain x (List.mem_cons_of_mem _ hx), (List.nodup_cons.1 h.distinct).2⟩

/-- The names that are left stay new when the first one is put at the end of others. -/
theorem Named.not_mem_concat {k : String} {x : Json} {members done : List (String × Json)}
    (h : Named ((k, x) :: members)) (hd : ∀ e ∈ (k, x) :: members, e.1 ∉ done.map Prod.fst)
    (y : Json) : ∀ e ∈ members, e.1 ∉ (done ++ [(k, y)]).map Prod.fst := by
  intro e he hmem
  rw [List.map_append, List.mem_append] at hmem
  rcases hmem with hmem | hmem
  · exact hd e (List.mem_cons_of_mem _ he) hmem
  · have he : e.1 ∈ members.map Prod.fst := List.mem_map_of_mem he
    rw [List.mem_singleton.1 hmem] at he
    exact (List.nodup_cons.1 h.distinct).1 he

theorem echoItems_of_forall {room : Nat} {items : List Json}
    (h : ∀ x ∈ items, echo room x = .ok x) : echoItems room items = .ok items := by
  induction items with
  | nil => rfl
  | cons x rest ih =>
    rw [echoItems, h x List.mem_cons_self, ih fun y hy => h y (List.mem_cons_of_mem _ hy)]
    rfl

theorem echoMembers_of_forall {room : Nat} {members done : List (String × Json)}
    (hn : Named members) (hd : ∀ e ∈ members, e.1 ∉ done.map Prod.fst)
    (h : ∀ e ∈ members, echo room e.2 = .ok e.2) :
    echoMembers room done members = .ok (done ++ members) := by
  induction members generalizing done with
  | nil => rw [echoMembers, List.append_nil]
  | cons e rest ih =>
    obtain ⟨k, x⟩ := e
    rw [echoMembers, hn.plain (k, x) List.mem_cons_self, h (k, x) List.mem_cons_self]
    change echoMembers room (putEntry k x done) rest = _
    rw [putEntry_of_not_mem (hd (k, x) List.mem_cons_self),
      ih hn.tail (hn.not_mem_concat hd x) fun e he => h e (List.mem_cons_of_mem _ he),
      List.append_assoc]
    rfl

/-- A legible value is its own echo. -/
theorem echo_of_legible {room : Nat} {v : Json} (h : Legible room v) : echo room v = .ok v := by
  induction h with
  | null => rfl
  | bool => rfl
  | @int _ n h =>
    have h : (Nat.toDigits 10 n.natAbs).length ≤ Number.digitLimit := h
    change (echoNumber (.int n)).map Json.num = _
    rw [echoNumber, if_pos h]
    rfl
  | float x =>
    rw [echo, echoNumber_float]
    rfl
  | str h => rw [echo, h]
  | arr _ ih =>
    rw [echo, if_neg (Nat.succ_ne_zero _), Nat.add_sub_cancel, echoItems_of_forall ih]
    rfl
  | obj hn _ ih =>
    rw [echo, if_neg (Nat.succ_ne_zero _), Nat.add_sub_cancel,
      echoMembers_of_forall hn (fun _ _ => List.not_mem_nil) ih]
    rfl

/-! ## What is read is legible -/

/-! ### Numbers -/

theorem digitsValue_lt {cs : List Char} (h : ∀ c ∈ cs, Text.isPlainDigit c = true) :
    Number.digitsValue cs < 10 ^ cs.length := by
  induction cs with
  | nil => exact Nat.one_pos
  | cons c rest ih =>
    have hrest := ih fun d hd => h d (List.mem_cons_of_mem _ hd)
    have hdigit := h c List.mem_cons_self
    rw [Text.isPlainDigit, Bool.and_eq_true, decide_eq_true_eq, decide_eq_true_eq] at hdigit
    have hvalue : Number.digitsValue (c :: rest) =
        10 ^ rest.length * (c.toNat - '0'.toNat) + Number.digitsValue rest := by
      change Nat.ofDigitChars 10 (c :: rest) 0 = _
      rw [Nat.ofDigitChars_cons, Nat.mul_zero, Nat.zero_add, Nat.ofDigitChars_eq_ofDigitChars_zero]
      rfl
    have hc : c.toNat - '0'.toNat ≤ 9 := Nat.sub_le_iff_le_add.2 hdigit.2
    have := Nat.mul_le_mul_left (10 ^ rest.length) hc
    rw [hvalue, List.length_cons, Nat.pow_succ]
    omega

/-- An integer of a row of digits is written with no more digits. -/
theorem length_toDigits_le {cs : List Char} (hne : cs ≠ [])
    (h : ∀ c ∈ cs, Text.isPlainDigit c = true) :
    (Nat.toDigits 10 (Number.digitsValue cs)).length ≤ cs.length :=
  (Nat.length_toDigits_le_iff (by decide) (List.length_pos_iff.2 hne)).2 (digitsValue_lt h)

theorem natAbs_signed (negative : Bool) (n : Nat) :
    (if negative then -(n : Int) else n).natAbs = n := by
  cases negative with
  | true => exact Int.natAbs_neg _
  | false => rfl

theorem isPlainDigit_of_mem_spanDigits {cs : List Char} {c : Char}
    (h : c ∈ (Number.spanDigits cs).1) : Text.isPlainDigit c = true :=
  List.mem_takeWhile_imp h

theorem spanDigits_suffix (cs : List Char) : (Number.spanDigits cs).2 <:+ cs :=
  List.dropWhile_suffix _

theorem takeSign_suffix (cs : List Char) : (Number.takeSign cs).2 <:+ cs := by
  unfold Number.takeSign
  split
  · exact List.suffix_cons _ _
  · exact List.suffix_cons _ _
  · exact List.suffix_rfl

theorem isPlainDigit_of_mem_spanWhole {cs : List Char} {c : Char} (h : c ∈ (spanWhole cs).1) :
    Text.isPlainDigit c = true := by
  unfold spanWhole at h
  split at h
  · rw [List.mem_singleton.1 h]
    decide
  · exact isPlainDigit_of_mem_spanDigits h

theorem spanWhole_suffix (cs : List Char) : (spanWhole cs).2 <:+ cs := by
  unfold spanWhole
  split
  · exact List.suffix_cons _ _
  · exact spanDigits_suffix cs

theorem spanFraction_suffix (cs : List Char) : (spanFraction cs).2 <:+ cs := by
  unfold spanFraction
  split
  · dsimp only
    split
    · exact List.suffix_rfl
    · exact (spanDigits_suffix _).trans (List.suffix_cons _ _)
  · exact List.suffix_rfl

theorem spanExponent_suffix (cs : List Char) : (spanExponent cs).2 <:+ cs := by
  unfold spanExponent
  split
  · split
    · dsimp only
      split
      · exact List.suffix_rfl
      · exact (spanDigits_suffix _).trans ((takeSign_suffix _).trans (List.suffix_cons _ _))
    · exact List.suffix_rfl
  · exact List.suffix_rfl

theorem legible_of_readNumber? {room : Nat} {negative : Bool} {cs rest : List Char} {v : Json}
    (h : readNumber? negative cs = some (.ok (v, rest))) : Legible room v ∧ rest <:+ cs := by
  have hsuffix :=
    (spanExponent_suffix _).trans ((spanFraction_suffix _).trans (spanWhole_suffix cs))
  unfold readNumber? at h
  dsimp only at h
  split at h
  · cases h
  · rename_i hne
    split at h
    · split at h
      · rename_i hlimit
        cases h
        refine ⟨.int ?_, hsuffix⟩
        rw [natAbs_signed]
        exact (length_toDigits_le hne fun c hc => isPlainDigit_of_mem_spanWhole hc).trans hlimit
      · cases h
    · cases h
      exact ⟨.float _, hsuffix⟩

theorem after?_suffix {word cs rest : List Char} (h : after? word cs = some rest) :
    rest <:+ cs := by
  induction word generalizing cs with
  | nil =>
    obtain rfl := Option.some.inj h
    exact List.suffix_rfl
  | cons w word ih =>
    cases cs with
    | nil => cases h
    | cons c cs =>
      rw [after?] at h
      split at h
      · exact (ih h).trans (List.suffix_cons _ _)
      · cases h

theorem legible_of_readScalar {room : Nat} {cs rest : List Char} {v : Json}
    (h : readScalar cs = .ok (v, rest)) : Legible room v ∧ rest <:+ cs := by
  unfold readScalar at h
  dsimp only at h
  split at h
  · rename_i found hfound
    cases h
    -- A word is one of a table of six, and whatever else is a scalar is a number.
    obtain ⟨e, he, hword⟩ := List.exists_of_findSome?_eq_some hfound
    obtain ⟨rest, hrest, hpair⟩ := Option.map_eq_some_iff.1 hword
    cases hpair
    refine ⟨?_, after?_suffix hrest⟩
    simp only [wordValues, List.mem_cons, List.not_mem_nil, or_false] at he
    rcases he with rfl | rfl | rfl | rfl | rfl | rfl
    · exact .null
    · exact .bool true
    · exact .bool false
    · exact .float _
    · exact .float _
    · exact .float _
  · split at h
    · rename_i more _
      cases hn : readNumber? true more with
      | none =>
        rw [hn] at h
        cases h
      | some found =>
        rw [hn] at h
        obtain rfl : found = .ok (v, rest) := h
        obtain ⟨hv, hrest⟩ := legible_of_readNumber? hn
        exact ⟨hv, hrest.trans (List.suffix_cons _ _)⟩
    · cases hn : readNumber? false cs with
      | none =>
        rw [hn] at h
        cases h
      | some found =>
        rw [hn] at h
        obtain rfl : found = .ok (v, rest) := h
        exact legible_of_readNumber? hn

/-! ### Lists and objects -/

theorem skipGap_suffix (cs : List Char) : skipGap cs <:+ cs := List.dropWhile_suffix _

theorem Named.put {members : List (String × Json)} {k : String} (h : Named members)
    (hk : Text.rejoined k = k) (x : Json) : Named (putEntry k x members) where
  plain e he := by
    rcases mem_putEntry he with rfl | he
    · exact hk
    · exact h.plain e he
  distinct := nodup_names_putEntry h.distinct

mutual

/-- The value that is read is legible, and it leaves the end of the text. -/
theorem legible_of_readValue {fuel : Nat} {cs rest : List Char} {v : Json} (room : Nat)
    (hcs : Text.NoHalves cs) (h : readValue room fuel cs = .ok (v, rest)) :
    Legible room v ∧ rest <:+ cs := by
  cases fuel with
  | zero => cases h
  | succ fuel =>
    rw [readValue.eq_def] at h
    dsimp only at h
    split at h
    · rename_i more
      have hmore := hcs.suffix (List.suffix_cons _ _)
      obtain ⟨⟨s, left⟩, ht, h⟩ := bind_eq_ok.1 h
      cases h
      -- A text begins with no half of a pair that an escape could go on with.
      obtain ⟨hs, hrest⟩ := rejoined_of_readText
        (show Unbroken ([] : List Char).reverse more from .nil hmore) ht
      exact ⟨.str hs, hrest.trans (List.suffix_cons _ _)⟩
    · rename_i more
      have hmore := hcs.suffix (List.suffix_cons _ _)
      split at h
      · cases h
      · rename_i hroom
        obtain ⟨room, rfl⟩ := Nat.exists_eq_succ_of_ne_zero hroom
        have hgap := skipGap_suffix more
        split at h
        · rename_i left hleft
          cases h
          rw [hleft] at hgap
          exact ⟨.arr (List.forall_mem_nil _),
            (List.suffix_cons _ _).trans (hgap.trans (List.suffix_cons _ _))⟩
        · obtain ⟨hv, hrest⟩ :=
            legible_of_readItems room (List.forall_mem_nil _) (hmore.suffix hgap) h
          exact ⟨hv, hrest.trans (hgap.trans (List.suffix_cons _ _))⟩
    · rename_i more
      have hmore := hcs.suffix (List.suffix_cons _ _)
      split at h
      · cases h
      · rename_i hroom
        obtain ⟨room, rfl⟩ := Nat.exists_eq_succ_of_ne_zero hroom
        have hgap := skipGap_suffix more
        split at h
        · rename_i left hleft
          cases h
          rw [hleft] at hgap
          exact ⟨.obj .nil (List.forall_mem_nil _),
            (List.suffix_cons _ _).trans (hgap.trans (List.suffix_cons _ _))⟩
        · obtain ⟨hv, hrest⟩ :=
            legible_of_readMembers room .nil (List.forall_mem_nil _) (hmore.suffix hgap) h
          exact ⟨hv, hrest.trans (hgap.trans (List.suffix_cons _ _))⟩
    · exact legible_of_readScalar h
termination_by fuel

theorem legible_of_readItems {fuel : Nat} {done : List Json} {cs rest : List Char} {v : Json}
    (room : Nat) (hd : ∀ x ∈ done, Legible room x) (hcs : Text.NoHalves cs)
    (h : readItems room fuel done cs = .ok (v, rest)) : Legible (room + 1) v ∧ rest <:+ cs := by
  cases fuel with
  | zero => cases h
  | succ fuel =>
    rw [readItems] at h
    obtain ⟨⟨item, left⟩, hitem, h⟩ := bind_eq_ok.1 h
    obtain ⟨hx, hleft⟩ := legible_of_readValue room hcs hitem
    have hall : ∀ x ∈ item :: done, Legible room x := List.forall_mem_cons.2 ⟨hx, hd⟩
    have hgap := (skipGap_suffix left).trans hleft
    dsimp only at h
    split at h
    · rename_i more hmore
      rw [hmore] at hgap
      have hnext := (skipGap_suffix more).trans ((List.suffix_cons _ _).trans hgap)
      obtain ⟨hv, hrest⟩ := legible_of_readItems room hall (hcs.suffix hnext) h
      exact ⟨hv, hrest.trans hnext⟩
    · rename_i more hmore
      rw [hmore] at hgap
      cases h
      exact ⟨.arr fun x hx => hall x (List.mem_reverse.1 hx), (List.suffix_cons _ _).trans hgap⟩
    · cases h
termination_by fuel

theorem legible_of_readMembers {fuel : Nat} {done : List (String × Json)} {cs rest : List Char}
    {v : Json} (room : Nat) (hn : Named done) (hd : ∀ e ∈ done, Legible room e.2)
    (hcs : Text.NoHalves cs) (h : readMembers room fuel done cs = .ok (v, rest)) :
    Legible (room + 1) v ∧ rest <:+ cs := by
  cases fuel with
  | zero => cases h
  | succ fuel =>
    rw [readMembers.eq_def] at h
    dsimp only at h
    split at h
    · rename_i more
      have hmore := hcs.suffix (List.suffix_cons _ _)
      obtain ⟨⟨name, left⟩, hname, h⟩ := bind_eq_ok.1 h
      obtain ⟨hs, hleft⟩ := rejoined_of_readText
        (show Unbroken ([] : List Char).reverse more from .nil hmore) hname
      -- Each step leaves an end of what it was given, and so an end of the whole text.
      have hcolon := (skipGap_suffix left).trans (hleft.trans (List.suffix_cons '"' more))
      dsimp only at h
      split at h
      · rename_i below hbelow
        rw [hbelow] at hcolon
        have hstart := (skipGap_suffix below).trans ((List.suffix_cons _ _).trans hcolon)
        obtain ⟨⟨value, after⟩, hvalue, h⟩ := bind_eq_ok.1 h
        obtain ⟨hx, hafter⟩ := legible_of_readValue room (hcs.suffix hstart) hvalue
        -- A repeated name changes an entry in place, so that names stay distinct.
        have hnamed := hn.put hs value
        have hall : ∀ e ∈ putEntry name value done, Legible room e.2 := fun e he => by
          rcases mem_putEntry he with rfl | he
          · exact hx
          · exact hd e he
        have hgap := (skipGap_suffix after).trans (hafter.trans hstart)
        dsimp only at h
        split at h
        · rename_i next hnext
          rw [hnext] at hgap
          have hbegin := (skipGap_suffix next).trans ((List.suffix_cons _ _).trans hgap)
          obtain ⟨hv, hrest⟩ := legible_of_readMembers room hnamed hall (hcs.suffix hbegin) h
          exact ⟨hv, hrest.trans hbegin⟩
        · rename_i next hnext
          rw [hnext] at hgap
          cases h
          exact ⟨.obj hnamed hall, (List.suffix_cons _ _).trans hgap⟩
        · cases h
      · cases h
    · cases h
termination_by fuel

end

/-- What is read from a text in which no half of a pair stands alone is legible. -/
theorem legible_of_read {s : String} {v : Json} (hs : Text.hasSurrogate s = false)
    (h : read s = .ok v) : Legible depthLimit v := by
  have hcs := Text.noHalves_of_hasSurrogate hs
  unfold read at h
  split at h
  · rename_i w hread
    cases h
    unfold readAll at hread
    split at hread
    · cases hread
    · obtain ⟨⟨value, rest⟩, hvalue, hread⟩ := bind_eq_ok.1 hread
      dsimp only at hread
      split at hread
      · cases hread
        exact (legible_of_readValue depthLimit (hcs.suffix (skipGap_suffix _)) hvalue).1
      · cases hread
  · cases h

/-- A legible value is read back from its text. -/
theorem read_write_of_legible {v : Json} (h : Legible depthLimit v) : read v.write = .ok v :=
  read_write.2 (echo_of_legible h)

theorem read_writeIndented_of_legible {v : Json} (h : Legible depthLimit v) :
    read (v.writeIndented 0) = .ok v :=
  read_writeIndented.2 (echo_of_legible h)

end Arcade.Json
