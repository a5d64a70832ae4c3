import Arcade.Proofs.Json.Numbers
import Arcade.Proofs.Json.Texts

/-!
# Values that are read back

Whatever is written can be read, and what is read back is told by recursion on the value: an echo
of it. Texts with halves of pairs, names that become the same and what is too long or too deep are
the only places in which the echo may differ; doubles, as is shown later, come back as they were. The
two ways of writing a value have the same echo, because they only differ in the gaps between its
parts.
-/

namespace Arcade.Json

/-! ## The echo of a value -/

mutual

/-- What the text of a value is read back as, with at most `room` lists and objects inside each
other. -/
def echo (room : Nat) : Json → Except ReadFault Json
  | .null => .ok .null
  | .bool b => .ok (.bool b)
  | .num n => (echoNumber n).map .num
  | .str s => .ok (.str (Text.rejoined s))
  | .arr items => if room = 0 then .error .tooDeep else (echoItems (room - 1) items).map .arr
  | .obj members =>
    if room = 0 then .error .tooDeep else (echoMembers (room - 1) [] members).map .obj

def echoItems (room : Nat) : List Json → Except ReadFault (List Json)
  | [] => .ok []
  | x :: xs => do return (← echo room x) :: (← echoItems room xs)

def echoMembers (room : Nat) (done : List (String × Json)) :
    List (String × Json) → Except ReadFault (List (String × Json))
  | [] => .ok done
  | (k, x) :: xs => do echoMembers room (putEntry (Text.rejoined k) (← echo room x) done) xs

end

/-! ## Texts with gaps -/

/-- The gaps at each level: after an opening mark, after a comma and before a closing mark. -/
structure Gaps where
  opening : Nat → List Char
  between : Nat → List Char
  closing : Nat → List Char
  isGap_opening : ∀ level, ∀ c ∈ opening level, isGap c = true
  isGap_between : ∀ level, ∀ c ∈ between level, isGap c = true
  isGap_closing : ∀ level, ∀ c ∈ closing level, isGap c = true

/-- The text of a name and what comes after it. -/
def nameText (k : String) (cs : List Char) : List Char := (writeText k).toList ++ ':' :: ' ' :: cs

theorem nameText_eq (k : String) (cs : List Char) :
    nameText k cs = '"' :: (textBody k ++ ':' :: ' ' :: cs) := by
  rw [nameText, toList_writeText, List.cons_append]

theorem nameText_append (k : String) (cs ds : List Char) :
    nameText k cs ++ ds = nameText k (cs ++ ds) := by
  rw [nameText, nameText, List.append_assoc, List.cons_append, List.cons_append]

theorem length_le_nameText (k : String) (cs : List Char) : cs.length ≤ (nameText k cs).length := by
  rw [nameText, List.length_append, List.length_cons, List.length_cons]
  omega

variable (g : Gaps)

mutual

/-- The text of a value with gaps. -/
def spread (level : Nat) : Json → List Char
  | .null => "null".toList
  | .bool b => (if b then "true" else "false").toList
  | .num n => (writeNumber n).toList
  | .str s => (writeText s).toList
  | .arr [] => ['[', ']']
  | .arr (x :: xs) =>
    '[' :: (g.opening level ++ (spread (level + 1) x ++ spreadItems level xs))
  | .obj [] => ['\x7b', '\x7d']
  | .obj ((k, x) :: xs) =>
    '\x7b' :: (g.opening level ++ nameText k (spread (level + 1) x ++ spreadMembers level xs))

/-- The items after the first one, up to the closing mark. -/
def spreadItems (level : Nat) : List Json → List Char
  | [] => g.closing level ++ [']']
  | x :: xs => ',' :: (g.between level ++ (spread (level + 1) x ++ spreadItems level xs))

def spreadMembers (level : Nat) : List (String × Json) → List Char
  | [] => g.closing level ++ ['\x7d']
  | (k, x) :: xs =>
    ',' :: (g.between level ++ nameText k (spread (level + 1) x ++ spreadMembers level xs))

end

/-! ## Heads of texts -/

/-- Whether a character can be the first one of a value. -/
def StartsValue (c : Char) : Prop :=
  isGap c = false ∧ c ≠ ']' ∧ c ≠ '\x7d' ∧ c ≠ '\ufeff'

theorem startsValue_of_startsNumber {c : Char} (h : StartsNumber c) :
    StartsValue c ∧ c ≠ '"' ∧ c ≠ '[' ∧ c ≠ '\x7b' := by
  have hne : ∀ d ∈ [' ', '\t', '\n', '\r', ']', '\x7d', '\ufeff', '"', '[', '\x7b'],
      ¬ (Text.isPlainDigit d = true ∨ d ∈ ['-', 'N', 'I']) :=
    forall_mem_of_all (by decide)
  have hc : ∀ d ∈ [' ', '\t', '\n', '\r', ']', '\x7d', '\ufeff', '"', '[', '\x7b'], c ≠ d := by
    rintro d hd rfl
    exact hne c hd h
  simp only [List.mem_cons, List.not_mem_nil, or_false, forall_eq_or_imp, forall_eq] at hc
  simp [StartsValue, isGap, hc]

theorem startsValue_of_mem {c : Char} (h : c ∈ ['n', 't', 'f', '"', '[', '\x7b']) :
    StartsValue c := by
  have : ∀ c ∈ ['n', 't', 'f', '"', '[', '\x7b'],
      isGap c = false ∧ c ≠ ']' ∧ c ≠ '\x7d' ∧ c ≠ '\ufeff' :=
    forall_mem_of_all (by decide)
  exact this c h

theorem spread_head (level : Nat) (v : Json) :
    ∃ c cs, spread g level v = c :: cs ∧ StartsValue c := by
  cases v with
  | null => exact ⟨'n', _, rfl, startsValue_of_mem (by decide)⟩
  | bool b =>
    cases b with
    | true => exact ⟨'t', _, rfl, startsValue_of_mem (by decide)⟩
    | false => exact ⟨'f', _, rfl, startsValue_of_mem (by decide)⟩
  | num n =>
    obtain ⟨c, cs, hc, hs⟩ := writeNumber_head n
    exact ⟨c, cs, hc, (startsValue_of_startsNumber hs).1⟩
  | str s => exact ⟨'"', _, toList_writeText s, startsValue_of_mem (by decide)⟩
  | arr items => cases items <;> exact ⟨'[', _, rfl, startsValue_of_mem (by decide)⟩
  | obj members => cases members <;> exact ⟨'\x7b', _, rfl, startsValue_of_mem (by decide)⟩

/-- A gap with something after it that no number goes on with. -/
theorem stops_append {gap : List Char} (hg : ∀ c ∈ gap, isGap c = true) {c : Char}
    {cs : List Char} (hc : c ∈ [',', ']', '\x7d']) : Stops (gap ++ c :: cs) := by
  have hmark : ∀ d ∈ [',', ']', '\x7d', ' ', '\t', '\n', '\r'],
      Text.isPlainDigit d = false ∧ d ≠ '.' ∧ d ≠ 'e' ∧ d ≠ 'E' :=
    forall_mem_of_all (by decide)
  intro d hd
  cases gap with
  | nil =>
    obtain rfl := Option.some.inj hd
    exact hmark c (List.mem_append_left _ hc)
  | cons b bs =>
    obtain rfl := Option.some.inj hd
    have hb := hg b List.mem_cons_self
    simp only [isGap, Bool.or_eq_true, beq_iff_eq] at hb
    rcases hb with ((rfl | rfl) | rfl) | rfl <;> exact hmark _ (by decide)

theorem stops_cons {c : Char} {cs : List Char} (hc : c ∈ [',', ']', '\x7d']) : Stops (c :: cs) :=
  stops_append (show ∀ c ∈ [], isGap c = true from nofun) hc

theorem skipGap_append {gap : List Char} (hg : ∀ c ∈ gap, isGap c = true) {c : Char}
    {cs : List Char} (hc : isGap c = false) : skipGap (gap ++ c :: cs) = c :: cs := by
  rw [skipGap, List.dropWhile_append_of_pos hg]
  simp [hc]

theorem skipGap_cons {c : Char} {cs : List Char} (hc : isGap c = false) :
    skipGap (c :: cs) = c :: cs :=
  skipGap_append (show ∀ c ∈ [], isGap c = true from nofun) hc

/-! ## Reading -/

variable {g} {room fuel level : Nat} {rest : List Char}

theorem readValue_scalar {c : Char} {cs : List Char} (hq : c ≠ '"') (hb : c ≠ '[')
    (ho : c ≠ '\x7b') : readValue room (fuel + 1) (c :: cs) = readScalar (c :: cs) := by
  rw [readValue]
  · exact fun _ h => hq (List.cons.inj h).1
  · exact fun _ h => hb (List.cons.inj h).1
  · exact fun _ h => ho (List.cons.inj h).1

theorem readValue_list {gap cs : List Char} {c : Char} (hg : ∀ c ∈ gap, isGap c = true)
    (hc : StartsValue c) : readValue room (fuel + 1) ('[' :: (gap ++ c :: cs)) =
      if room = 0 then .error .tooDeep else readItems (room - 1) fuel [] (c :: cs) := by
  rw [readValue]
  split
  · rfl
  · rw [skipGap_append hg hc.1]
    split
    · rename_i h
      exact absurd (List.cons.inj h).1 hc.2.1
    · rfl

theorem readValue_object {gap cs : List Char} (hg : ∀ c ∈ gap, isGap c = true) :
    readValue room (fuel + 1) ('\x7b' :: (gap ++ '"' :: cs)) =
      if room = 0 then .error .tooDeep else readMembers (room - 1) fuel [] ('"' :: cs) := by
  rw [readValue]
  split
  · rfl
  · rw [skipGap_append hg (by decide)]
    rfl

theorem stops_spreadItems (g : Gaps) (level : Nat) (rest : List Char) (xs : List Json) :
    Stops (spreadItems g level xs ++ rest) := by
  cases xs with
  | nil =>
    rw [spreadItems, List.append_assoc]
    exact stops_append (g.isGap_closing level) (by decide)
  | cons x xs => exact stops_cons (by decide)

theorem stops_spreadMembers (g : Gaps) (level : Nat) (rest : List Char)
    (xs : List (String × Json)) : Stops (spreadMembers g level xs ++ rest) := by
  cases xs with
  | nil =>
    rw [spreadMembers, List.append_assoc]
    exact stops_append (g.isGap_closing level) (by decide)
  | cons x xs => exact stops_cons (by decide)

theorem spread_length_pos (g : Gaps) (level : Nat) (v : Json) : 0 < (spread g level v).length := by
  obtain ⟨c, cs, h, -⟩ := spread_head g level v
  rw [h]
  exact Nat.succ_pos _

/-! ### Steps -/

section Steps

variable {cs ds gap : List Char} {c : Char} {x : Json} {items : List Json}
  {members : List (String × Json)}

theorem readItems_error {e : ReadFault} (h : readValue room fuel cs = .error e) :
    readItems room (fuel + 1) items cs = .error e := by
  rw [readItems, h]
  rfl

theorem readItems_last (h : readValue room fuel cs = .ok (x, gap ++ ']' :: rest))
    (hg : ∀ c ∈ gap, isGap c = true) :
    readItems room (fuel + 1) items cs = .ok (.arr (items.reverse ++ [x]), rest) := by
  rw [readItems, h, ← List.reverse_cons]
  simp only [bind, Except.bind]
  rw [skipGap_append hg (by decide)]
  rfl

theorem readItems_more (h : readValue room fuel cs = .ok (x, ',' :: (gap ++ c :: ds)))
    (hg : ∀ c ∈ gap, isGap c = true) (hc : isGap c = false) :
    readItems room (fuel + 1) items cs = readItems room fuel (x :: items) (c :: ds) := by
  rw [readItems, h]
  change readItems room fuel (x :: items) (skipGap (gap ++ c :: ds)) = _
  rw [skipGap_append hg hc]

theorem readMembers_name (k : String) (hc : isGap c = false) :
    readMembers room (fuel + 1) members (nameText k (c :: cs)) = (do
      let (value, rest) ← readValue room fuel (c :: cs)
      let done := putEntry (Text.rejoined k) value members
      match skipGap rest with
      | ',' :: rest => readMembers room fuel done (skipGap rest)
      | '\x7d' :: rest => return (.obj done, rest)
      | rest => .error (.flaw .commaExpected rest.length)) := by
  have hgap : skipGap (' ' :: c :: cs) = c :: cs :=
    skipGap_append (show ∀ c ∈ [' '], isGap c = true from forall_mem_of_all rfl) hc
  rw [nameText_eq, readMembers,
    readText_textBody (by simp only [List.length_append]; omega)]
  change (do
    let (value, rest) ← readValue room fuel (skipGap (' ' :: c :: cs))
    _) = _
  rewrite [hgap]
  rfl

theorem readMembers_error {k : String} {e : ReadFault} (hc : isGap c = false)
    (h : readValue room fuel (c :: cs) = .error e) :
    readMembers room (fuel + 1) members (nameText k (c :: cs)) = .error e := by
  rw [readMembers_name k hc, h]
  rfl

theorem readMembers_last {k : String} (hc : isGap c = false)
    (h : readValue room fuel (c :: cs) = .ok (x, gap ++ '\x7d' :: rest))
    (hg : ∀ c ∈ gap, isGap c = true) :
    readMembers room (fuel + 1) members (nameText k (c :: cs)) =
      .ok (.obj (putEntry (Text.rejoined k) x members), rest) := by
  rw [readMembers_name k hc, h]
  change (match skipGap (gap ++ '\x7d' :: rest) with
    | ',' :: rest => _ | '\x7d' :: rest => _ | rest => _) = _
  rw [skipGap_append hg (by decide)]
  rfl

theorem readMembers_more {k : String} {d : Char} (hc : isGap c = false)
    (h : readValue room fuel (c :: cs) = .ok (x, ',' :: (gap ++ d :: ds)))
    (hg : ∀ c ∈ gap, isGap c = true) (hd : isGap d = false) :
    readMembers room (fuel + 1) members (nameText k (c :: cs)) =
      readMembers room fuel (putEntry (Text.rejoined k) x members) (d :: ds) := by
  rw [readMembers_name k hc, h]
  change readMembers room fuel _ (skipGap (gap ++ d :: ds)) = _
  rw [skipGap_append hg hd]

end Steps

mutual

/-- The text of a value is read back as its echo. -/
theorem readValue_spread {g : Gaps} {fuel level : Nat} {rest : List Char} (room : Nat)
    (v : Json) (hf : (spread g level v).length ≤ fuel) (hr : Stops rest) :
    readValue room fuel (spread g level v ++ rest) =
      (echo room v).map fun w => (w, rest) := by
  have hpos := spread_length_pos g level v
  -- The induction is on the fuel: a value takes one of it, and its parts are shorter by as much.
  obtain ⟨fuel, rfl⟩ : ∃ f, fuel = f + 1 := ⟨fuel - 1, by omega⟩
  cases v with
  | null => exact readValue_scalar (by decide) (by decide) (by decide)
  | bool b => cases b <;> exact readValue_scalar (by decide) (by decide) (by decide)
  | num n =>
    obtain ⟨c, cs, hc, hs⟩ := writeNumber_head n
    have hne := (startsValue_of_startsNumber hs).2
    have hn := readScalar_writeNumber n hr
    rw [echo, spread, hc, List.cons_append, readValue_scalar hne.1 hne.2.1 hne.2.2,
      ← List.cons_append, ← hc, hn]
    cases echoNumber n <;> rfl
  | str s =>
    rw [echo, spread, toList_writeText, List.cons_append, readValue,
      readText_textBody (by simp only [List.length_append]; omega)]
    rfl
  | arr items =>
    cases items with
    | nil =>
      change (if room = 0 then _ else _) = _
      rw [echo]
      split <;> rfl
    | cons x xs =>
      obtain ⟨c, cs, hc, hs⟩ := spread_head g (level + 1) x
      have hlen : (spread g (level + 1) x ++ spreadItems g level xs).length ≤ fuel := by
        simp only [spread, List.length_cons, List.length_append] at hf ⊢
        omega
      have ih := readItems_spread (room - 1) rest [] x xs hlen
      rw [spread, List.cons_append, List.append_assoc, List.append_assoc, hc, List.cons_append,
        readValue_list (g.isGap_opening level) hs, ← List.cons_append, ← hc, ih, echo]
      split
      · rfl
      · cases echoItems (room - 1) (x :: xs) <;> rfl
  | obj members =>
    cases members with
    | nil =>
      change (if room = 0 then _ else _) = _
      rw [echo]
      split <;> rfl
    | cons e xs =>
      obtain ⟨k, x⟩ := e
      have hname := length_le_nameText k (spread g (level + 1) x ++ spreadMembers g level xs)
      have hlen : (spread g (level + 1) x ++ spreadMembers g level xs).length ≤ fuel := by
        simp only [spread, List.length_cons, List.length_append] at hf hname ⊢
        omega
      have ih := readMembers_spread (room - 1) rest [] k x xs hlen
      rw [spread, List.cons_append, List.append_assoc, nameText_append, List.append_assoc,
        nameText_eq, readValue_object (g.isGap_opening level), ← nameText_eq, ih, echo]
      split
      · rfl
      · cases echoMembers (room - 1) [] ((k, x) :: xs) <;> rfl
termination_by fuel

theorem readItems_spread {g : Gaps} {fuel level : Nat} (room : Nat) (rest : List Char)
    (done : List Json) (x : Json) (xs : List Json)
    (hf : (spread g (level + 1) x ++ spreadItems g level xs).length ≤ fuel) :
    readItems room fuel done (spread g (level + 1) x ++ (spreadItems g level xs ++ rest)) =
      (echoItems room (x :: xs)).map fun ys => (.arr (done.reverse ++ ys), rest) := by
  have hpos := spread_length_pos g (level + 1) x
  rw [List.length_append] at hf
  obtain ⟨fuel, rfl⟩ : ∃ f, fuel = f + 1 := ⟨fuel - 1, by omega⟩
  have hx : (spread g (level + 1) x).length ≤ fuel := by
    cases xs <;> simp only [spreadItems, List.length_cons, List.length_append] at hf <;> omega
  -- A value ends where it should, as a comma or a bracket comes after it.
  have hv := readValue_spread room x hx (stops_spreadItems g level rest xs)
  rw [echoItems]
  cases hy : echo room x with
  | error e =>
    rw [hy] at hv
    exact readItems_error hv
  | ok y =>
    rw [hy] at hv
    cases xs with
    | nil =>
      simp only [spreadItems, List.append_assoc, List.singleton_append] at hv ⊢
      exact readItems_last hv (g.isGap_closing level)
    | cons z zs =>
      obtain ⟨c, cs, hc, hs⟩ := spread_head g (level + 1) z
      have hlen : (spread g (level + 1) z ++ spreadItems g level zs).length ≤ fuel := by
        simp only [spreadItems, List.length_cons, List.length_append] at hf ⊢
        omega
      have ih := readItems_spread room rest (y :: done) z zs hlen
      simp only [spreadItems, List.append_assoc, List.cons_append, hc] at hv ih ⊢
      rw [readItems_more hv (g.isGap_between level) hs.1, ih]
      cases echoItems room (z :: zs) with
      | error e => rfl
      | ok ys => simp [Except.map, bind, Except.bind, pure, Except.pure]
termination_by fuel

theorem readMembers_spread {g : Gaps} {fuel level : Nat} (room : Nat) (rest : List Char)
    (done : List (String × Json)) (k : String) (x : Json) (xs : List (String × Json))
    (hf : (spread g (level + 1) x ++ spreadMembers g level xs).length ≤ fuel) :
    readMembers room fuel done
      (nameText k (spread g (level + 1) x ++ (spreadMembers g level xs ++ rest))) =
      (echoMembers room done ((k, x) :: xs)).map fun ys => (.obj ys, rest) := by
  have hpos := spread_length_pos g (level + 1) x
  obtain ⟨c, cs, hc, hs⟩ := spread_head g (level + 1) x
  rw [List.length_append] at hf
  obtain ⟨fuel, rfl⟩ : ∃ f, fuel = f + 1 := ⟨fuel - 1, by omega⟩
  have hx : (spread g (level + 1) x).length ≤ fuel := by
    cases xs <;> simp only [spreadMembers, List.length_cons, List.length_append] at hf <;> omega
  have hv := readValue_spread room x hx (stops_spreadMembers g level rest xs)
  rw [hc, List.cons_append] at hv ⊢
  rw [echoMembers]
  cases hy : echo room x with
  | error e =>
    rw [hy] at hv
    exact readMembers_error hs.1 hv
  | ok y =>
    rw [hy] at hv
    cases xs with
    | nil =>
      simp only [spreadMembers, List.append_assoc, List.singleton_append] at hv ⊢
      exact readMembers_last hs.1 hv (g.isGap_closing level)
    | cons e zs =>
      obtain ⟨l, z⟩ := e
      have hname := length_le_nameText l (spread g (level + 1) z ++ spreadMembers g level zs)
      have hlen : (spread g (level + 1) z ++ spreadMembers g level zs).length ≤ fuel := by
        simp only [spreadMembers, List.length_cons, List.length_append] at hf hname ⊢
        omega
      have ih := readMembers_spread room rest (putEntry (Text.rejoined k) y done) l z zs hlen
      -- The reader takes the comma, the gap and the name apart, so that the tail is brought to that
      -- form.
      have htail : spreadMembers g level ((l, z) :: zs) ++ rest = ',' :: (g.between level ++
          nameText l (spread g (level + 1) z ++ (spreadMembers g level zs ++ rest))) := by
        rw [spreadMembers, List.cons_append, List.append_assoc, nameText_append, List.append_assoc]
      rw [nameText_eq] at htail ih
      rw [htail] at hv ⊢
      exact (readMembers_more hs.1 hv (g.isGap_between level) (by decide)).trans ih
termination_by fuel

end

/-- A text with gaps holds the echo of its value. -/
theorem readAll_spread (g : Gaps) (level : Nat) (v : Json) :
    readAll (spread g level v) = echo depthLimit v := by
  obtain ⟨c, cs, hc, hs⟩ := spread_head g level v
  have hgap : skipGap (spread g level v) = spread g level v := by
    rw [hc]
    exact skipGap_cons hs.1
  have hv := readValue_spread depthLimit v (Nat.le_succ (spread g level v).length)
    (show Stops [] from nofun)
  rw [List.append_nil] at hv
  unfold readAll
  split
  · rename_i h
    exact absurd (List.cons.inj (hc.symm.trans h)).1 hs.2.2.2
  · rw [hgap, hv]
    cases echo depthLimit v <;> rfl

/-! ## The two ways of writing -/

theorem intercalate_cons (sep l : List Char) (ls : List (List Char)) :
    sep.intercalate (l :: ls) = l ++ ls.flatMap (sep ++ ·) := by
  induction ls generalizing l with
  | nil => simp [List.intercalate]
  | cons m ls ih =>
    rw [List.intercalate_cons_cons, ih, List.flatMap_cons, List.append_assoc, List.append_assoc]

/-- The gaps of a value on one line. -/
def lineGaps : Gaps where
  opening _ := []
  between _ := [' ']
  closing _ := []
  isGap_opening _ := nofun
  isGap_between _ := forall_mem_of_all rfl
  isGap_closing _ := nofun

theorem isGap_of_mem_breakLine {level : Nat} {c : Char} (h : c ∈ (breakLine level).toList) :
    isGap c = true := by
  rw [breakLine, String.toList_ofList] at h
  rcases List.mem_cons.1 h with rfl | h
  · decide
  · rw [List.eq_of_mem_replicate h]
    decide

/-- The gaps of a value with one item a line. -/
def blockGaps : Gaps where
  opening level := (breakLine (level + 1)).toList
  between level := (breakLine (level + 1)).toList
  closing level := (breakLine level).toList
  isGap_opening _ _ := isGap_of_mem_breakLine
  isGap_between _ _ := isGap_of_mem_breakLine
  isGap_closing _ _ := isGap_of_mem_breakLine

mutual

theorem toList_write (level : Nat) : ∀ v : Json, (write v).toList = spread lineGaps level v
  | .null => rfl
  | .bool _ => rfl
  | .num _ => rfl
  | .str _ => rfl
  | .arr [] => rfl
  | .arr (x :: xs) => by
    rw [write, writeItems, spread, spreadItems_lineGaps level xs, ← toList_write (level + 1) x,
      String.toList_append, String.toList_append, String.toList_intercalate, List.map_cons,
      intercalate_cons]
    simp [lineGaps]
  | .obj [] => rfl
  | .obj ((k, x) :: xs) => by
    rw [write, writeMembers, spread, spreadMembers_lineGaps level xs,
      ← toList_write (level + 1) x, String.toList_append, String.toList_append,
      String.toList_intercalate, List.map_cons, intercalate_cons]
    simp [lineGaps, nameText]

theorem spreadItems_lineGaps (level : Nat) : ∀ xs : List Json, spreadItems lineGaps level xs =
    ((writeItems xs).map String.toList).flatMap ([',', ' '] ++ ·) ++ [']']
  | [] => rfl
  | x :: xs => by
    rw [spreadItems, writeItems, ← toList_write (level + 1) x, spreadItems_lineGaps level xs]
    simp [lineGaps]

theorem spreadMembers_lineGaps (level : Nat) : ∀ xs : List (String × Json),
    spreadMembers lineGaps level xs =
      ((writeMembers xs).map String.toList).flatMap ([',', ' '] ++ ·) ++ ['\x7d']
  | [] => rfl
  | (k, x) :: xs => by
    rw [spreadMembers, writeMembers, ← toList_write (level + 1) x,
      spreadMembers_lineGaps level xs]
    simp [lineGaps, nameText]

end

/-- The text of a block with at least one line. -/
theorem toList_writeBlock (level : Nat) (opening closing l : String) (ls : List String) :
    (writeBlock level opening closing (l :: ls)).toList =
      opening.toList ++ (blockGaps.opening level ++ (l.toList ++
        ((ls.map String.toList).flatMap ((',' :: blockGaps.between level) ++ ·) ++
          (blockGaps.closing level ++ closing.toList)))) := by
  rw [writeBlock, if_neg (List.cons_ne_nil _ _)]
  simp only [String.toList_append, String.toList_intercalate, List.map_cons, intercalate_cons,
    List.append_assoc]
  rfl

theorem toList_writeBlock_nil (level : Nat) (opening closing : String) :
    (writeBlock level opening closing []).toList = opening.toList ++ closing.toList := by
  rw [writeBlock, if_pos rfl, String.toList_append]

mutual

theorem toList_writeIndented (level : Nat) :
    ∀ v : Json, (writeIndented level v).toList = spread blockGaps level v
  | .null => rfl
  | .bool _ => rfl
  | .num _ => rfl
  | .str _ => rfl
  | .arr [] => toList_writeBlock_nil level "[" "]"
  | .arr (x :: xs) => by
    rw [writeIndented, writeIndentedItems, toList_writeBlock, spread,
      spreadItems_blockGaps level xs, toList_writeIndented (level + 1) x]
    rfl
  | .obj [] => toList_writeBlock_nil level "\x7b" "\x7d"
  | .obj ((k, x) :: xs) => by
    rw [writeIndented, writeIndentedMembers, toList_writeBlock, spread,
      spreadMembers_blockGaps level xs, ← toList_writeIndented (level + 1) x]
    simp [nameText]

theorem spreadItems_blockGaps (level : Nat) : ∀ xs : List Json, spreadItems blockGaps level xs =
    ((writeIndentedItems (level + 1) xs).map String.toList).flatMap
      ((',' :: blockGaps.between level) ++ ·) ++ (blockGaps.closing level ++ [']'])
  | [] => rfl
  | x :: xs => by
    rw [spreadItems, writeIndentedItems, ← toList_writeIndented (level + 1) x,
      spreadItems_blockGaps level xs]
    simp

theorem spreadMembers_blockGaps (level : Nat) : ∀ xs : List (String × Json),
    spreadMembers blockGaps level xs =
      ((writeIndentedMembers (level + 1) xs).map String.toList).flatMap
        ((',' :: blockGaps.between level) ++ ·) ++ (blockGaps.closing level ++ ['\x7d'])
  | [] => rfl
  | (k, x) :: xs => by
    rw [spreadMembers, writeIndentedMembers, ← toList_writeIndented (level + 1) x,
      spreadMembers_blockGaps level xs]
    simp [nameText]

end

theorem read_of_spread {s : String} {g : Gaps} {level : Nat} {v w : Json}
    (h : s.toList = spread g level v) : read s = .ok w ↔ echo depthLimit v = .ok w := by
  rw [read, h, readAll_spread]
  cases echo depthLimit v with
  | ok x => exact ⟨fun h => congrArg Except.ok (Except.ok.inj h), fun h => congrArg Except.ok (Except.ok.inj h)⟩
  | error e => exact ⟨nofun, nofun⟩

/-- What is read from the text of a value is its echo. -/
theorem read_write {v w : Json} : read v.write = .ok w ↔ echo depthLimit v = .ok w :=
  read_of_spread (toList_write 0 v)

/-- What is read from the indented text of a value is its echo. -/
theorem read_writeIndented {v w : Json} :
    read (v.writeIndented 0) = .ok w ↔ echo depthLimit v = .ok w :=
  read_of_spread (toList_writeIndented 0 v)

end Arcade.Json
