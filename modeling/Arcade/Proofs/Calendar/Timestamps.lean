import Arcade.Calendar.Timestamp
import Arcade.Proofs.Json.Numbers
import Arcade.Proofs.Json.Texts

/-!
# Timestamps that are read back

The timestamp of an instant has a fixed number of digits for each part, and is read as that instant
down to the second.
-/

namespace Arcade

namespace Calendar

/-- The two digits of a number below one hundred. -/
def twoDigits (n : Nat) : List Char := [Nat.digitChar (n / 10), Nat.digitChar (n % 10)]

theorem toList_padded (width n : Nat) : (padded width n).toList =
    List.replicate (width - (Nat.toDigits 10 n).length) '0' ++ Nat.toDigits 10 n := by
  simp only [padded, String.toList_append, String.toList_ofList, Json.toList_toString,
    ← String.length_toList]

theorem toList_padded_two {n : Nat} (h : n < 100) : (padded 2 n).toList = twoDigits n := by
  rw [toList_padded, twoDigits]
  by_cases h' : n < 10
  · rw [Nat.toDigits_of_lt_base h', Nat.div_eq_of_lt h', Nat.mod_eq_of_lt h']
    rfl
  · rw [Nat.toDigits_of_base_le (by decide) (Nat.not_lt.1 h'),
      Nat.toDigits_of_lt_base (b := 10) (n := n / 10) (by omega)]
    rfl

theorem toList_padded_four {n : Nat} (h : n < 10000) :
    (padded 4 n).toList = twoDigits (n / 100) ++ twoDigits (n % 100) := by
  have zero : ∀ {m : Nat}, m = 0 → Nat.digitChar m = '0' := fun h => h ▸ rfl
  have one : ∀ {m : Nat}, m < 10 → Nat.toDigits 10 m = [Nat.digitChar m] :=
    fun h => Nat.toDigits_of_lt_base h
  have more : ∀ {m : Nat}, 10 ≤ m →
      Nat.toDigits 10 m = Nat.toDigits 10 (m / 10) ++ [Nat.digitChar (m % 10)] :=
    fun h => Nat.toDigits_of_base_le (by decide) h
  have d2 : n / 10 / 10 = n / 100 := Nat.div_div_eq_div_mul n 10 10
  have m2 : n % 100 / 10 = n / 10 % 10 := by omega
  have m3 : n % 100 % 10 = n % 10 := by omega
  rw [toList_padded, twoDigits, twoDigits, m2, m3]
  by_cases h1 : n < 10
  · rw [one h1, zero (m := n / 100 / 10) (by omega), zero (m := n / 100 % 10) (by omega),
      zero (m := n / 10 % 10) (by omega), Nat.mod_eq_of_lt h1]
    rfl
  · by_cases h2 : n < 100
    · rw [more (by omega), one (by omega), zero (m := n / 100 / 10) (by omega),
        zero (m := n / 100 % 10) (by omega), Nat.mod_eq_of_lt (a := n / 10) (by omega)]
      rfl
    · by_cases h3 : n < 1000
      · rw [more (by omega), more (by omega), one (by omega), d2,
          zero (m := n / 100 / 10) (by omega), Nat.mod_eq_of_lt (a := n / 100) (by omega)]
        rfl
      · rw [more (by omega), more (by omega), more (by omega), one (by omega), d2]
        rfl

end Calendar

namespace Timestamp

open Calendar

theorem isPlainDigit_digitChar {d : Nat} (h : d < 10) :
    Text.isPlainDigit (Nat.digitChar d) = true := by
  have : ∀ d : Fin 10, Text.isPlainDigit (Nat.digitChar d.val) = true := by decide
  exact this ⟨d, h⟩

theorem toNat_digitChar {d : Nat} (h : d < 10) : (Nat.digitChar d).toNat - '0'.toNat = d := by
  have : ∀ d : Fin 10, (Nat.digitChar d.val).toNat - '0'.toNat = d.val := by decide
  exact this ⟨d, h⟩

theorem digits?_append {n : Nat} {row : List Char} (hn : row.length = n)
    (hd : ∀ c ∈ row, Text.isPlainDigit c = true) (rest : List Char) :
    digits? n (row ++ rest) = some (Number.digitsValue row, rest) := by
  subst hn
  rw [digits?, List.take_left, List.drop_left, if_pos ⟨rfl, List.all_eq_true.2 hd⟩]

theorem isPlainDigit_of_mem_twoDigits {n : Nat} (h : n < 100) :
    ∀ c ∈ twoDigits n, Text.isPlainDigit c = true := by
  intro c hc
  rcases List.mem_cons.1 hc with rfl | hc
  · exact isPlainDigit_digitChar (by omega)
  · rw [List.mem_singleton.1 hc]
    exact isPlainDigit_digitChar (by omega)

theorem digits?_two {n : Nat} (h : n < 100) (rest : List Char) :
    digits? 2 (twoDigits n ++ rest) = some (n, rest) := by
  rw [digits?_append (n := 2) rfl (isPlainDigit_of_mem_twoDigits h)]
  simp only [Number.digitsValue, twoDigits, List.foldl_cons, List.foldl_nil,
    toNat_digitChar (d := n / 10) (by omega), toNat_digitChar (d := n % 10) (by omega)]
  rw [show 10 * (10 * 0 + n / 10) + n % 10 = n by omega]

theorem digits?_four {n : Nat} (h : n < 10000) (rest : List Char) :
    digits? 4 (twoDigits (n / 100) ++ twoDigits (n % 100) ++ rest) = some (n, rest) := by
  have hd : ∀ c ∈ twoDigits (n / 100) ++ twoDigits (n % 100), Text.isPlainDigit c = true := by
    intro c hc
    rcases List.mem_append.1 hc with hc | hc
    · exact isPlainDigit_of_mem_twoDigits (by omega) c hc
    · exact isPlainDigit_of_mem_twoDigits (by omega) c hc
  rw [digits?_append (n := 4) rfl hd]
  simp only [Number.digitsValue, twoDigits, List.cons_append, List.nil_append, List.foldl_cons,
    List.foldl_nil, toNat_digitChar (d := n / 100 / 10) (by omega),
    toNat_digitChar (d := n / 100 % 10) (by omega), toNat_digitChar (d := n % 100 / 10) (by omega),
    toNat_digitChar (d := n % 100 % 10) (by omega)]
  rw [show 10 * (10 * (10 * (10 * 0 + n / 100 / 10) + n / 100 % 10) + n % 100 / 10) +
    n % 100 % 10 = n by omega]

theorem ne_of_isPlainDigit {c d : Char} (hc : Text.isPlainDigit c = true)
    (hd : Text.isPlainDigit d = false) : c ≠ d := by
  rintro rfl
  rw [hc] at hd
  cases hd

theorem digitChar_ne {d : Nat} (h : d < 10) {c : Char} (hc : Text.isPlainDigit c = false) :
    Nat.digitChar d ≠ c :=
  ne_of_isPlainDigit (isPlainDigit_digitChar h) hc

/-! ## The parts of a timestamp -/

/-- The characters of a date. -/
def dateChars (d : Date) : List Char :=
  twoDigits (d.year / 100) ++ twoDigits (d.year % 100) ++ '-' :: (twoDigits d.month ++
    '-' :: twoDigits d.day)

/-- The characters of a time of day. -/
def timeChars (t : TimeOfDay) : List Char :=
  twoDigits t.hour.val ++ ':' :: (twoDigits t.minute.val ++ ':' :: twoDigits t.second.val)

theorem year_lt (d : Date) : d.year < 10000 := Nat.lt_succ_of_le d.valid.2.1

theorem day_lt (d : Date) : d.day < 100 := by
  have := daysInMonth_le d.year d.month
  have := d.valid
  omega

theorem toList_dateText (d : Date) : d.text.toList = dateChars d := by
  have hm := d.month_le
  simp only [Date.text, String.toList_append, toList_padded_four (year_lt d),
    toList_padded_two (show d.month < 100 by omega), toList_padded_two (day_lt d)]
  rw [dateChars, List.append_assoc, List.append_assoc, List.append_assoc]
  rfl

theorem toList_timeText (t : TimeOfDay) : t.text.toList = timeChars t := by
  have hh := t.hour.isLt
  have hm := t.minute.isLt
  have hs := t.second.isLt
  simp only [TimeOfDay.text, String.toList_append,
    toList_padded_two (show t.hour.val < 100 by omega),
    toList_padded_two (show t.minute.val < 100 by omega),
    toList_padded_two (show t.second.val < 100 by omega)]
  rw [timeChars, List.append_assoc, List.append_assoc, List.append_assoc]
  rfl

theorem toList_timestamp (i : Instant) :
    i.timestamp.toList = dateChars i.date ++ 'T' :: timeChars i.time := by
  rw [Instant.timestamp, String.toList_append, String.toList_append, toList_dateText,
    toList_timeText, List.append_assoc]
  rfl

theorem dateLength?_dateChars (d : Date) (c : Char) (cs : List Char) :
    dateLength? (dateChars d ++ c :: cs) = some 10 := by
  have hm := d.month_le
  have hw : ¬ some (Nat.digitChar (d.month / 10)) = some 'W' := fun h =>
    digitChar_ne (by omega) (by decide) (Option.some.inj h)
  have hlen : (dateChars d ++ c :: cs).length = cs.length + 11 := by
    simp [dateChars, twoDigits]
  have h4 : charAt (dateChars d ++ c :: cs) 4 = some '-' := rfl
  have h5 : charAt (dateChars d ++ c :: cs) 5 = some (Nat.digitChar (d.month / 10)) := rfl
  rw [dateLength?, hlen, if_neg (by omega), if_neg (by omega), h4, if_pos rfl, h5, if_neg hw]

theorem ofParts?_self (d : Date) : Date.ofParts? d.year d.month d.day = some d := by
  rw [Date.ofParts?, dif_pos d.valid]

theorem dateChars_append (d : Date) (cs : List Char) :
    dateChars d ++ cs = twoDigits (d.year / 100) ++ twoDigits (d.year % 100) ++
      '-' :: (twoDigits d.month ++ '-' :: (twoDigits d.day ++ cs)) := by
  simp [dateChars]

theorem date?_dateChars (d : Date) (cs : List Char) :
    date? (dateChars d ++ cs) 10 = some d := by
  have hm := d.month_le
  have hw : ¬ (twoDigits d.month ++ '-' :: (twoDigits d.day ++ cs)).head? = some 'W' := fun h =>
    digitChar_ne (by omega) (by decide) (Option.some.inj h)
  rw [dateChars_append, date?, digits?_four (year_lt d)]
  simp only [Option.bind_eq_bind, Option.bind_some, List.head?_cons, decide_true, if_true,
    List.drop_succ_cons, List.drop_zero, if_neg hw, digits?_two (show d.month < 100 by omega),
    dash?, digits?_two (day_lt d), ofParts?_self]

/-- The time of day down to the second. -/
def wholeSecond (t : TimeOfDay) : TimeOfDay := { t with micro := TimeOfDay.midnight.micro }

theorem clock?_timeChars (t : TimeOfDay) :
    clock? (timeChars t) = some (⟨t.hour.val, t.minute.val, t.second.val, 0⟩, []) := by
  have hh := t.hour.isLt
  have hm := t.minute.isLt
  have hs := t.second.isLt
  have hend := digits?_two (show t.second.val < 100 by omega) []
  rw [List.append_nil] at hend
  have hcolon (n : Nat) (cs : List Char) :
      follow? true (':' :: (twoDigits n ++ cs)) = some (.part (twoDigits n ++ cs)) := rfl
  have hlast (n : Nat) : follow? true (':' :: twoDigits n) = some (.part (twoDigits n)) := rfl
  rw [timeChars, clock?, digits?_two (show t.hour.val < 100 by omega)]
  simp only [Option.bind_eq_bind, Option.bind_some, List.head?_cons, decide_true, hcolon,
    digits?_two (show t.minute.val < 100 by omega), hlast, hend]
  rfl

theorem mem_timeChars {t : TimeOfDay} {c : Char} (h : c ∈ timeChars t) :
    Text.isPlainDigit c = true ∨ c = ':' := by
  have hh := t.hour.isLt
  have hm := t.minute.isLt
  have hs := t.second.isLt
  simp only [timeChars, List.mem_append, List.mem_cons] at h
  rcases h with h | rfl | h | rfl | h
  · exact .inl (isPlainDigit_of_mem_twoDigits (by omega) c h)
  · exact .inr rfl
  · exact .inl (isPlainDigit_of_mem_twoDigits (by omega) c h)
  · exact .inr rfl
  · exact .inl (isPlainDigit_of_mem_twoDigits (by omega) c h)

theorem mem_dateChars {d : Date} {c : Char} (h : c ∈ dateChars d) :
    Text.isPlainDigit c = true ∨ c = '-' := by
  have hy := year_lt d
  have hm := d.month_le
  have hd := day_lt d
  simp only [dateChars, List.mem_append, List.mem_cons] at h
  rcases h with (h | h) | rfl | h | rfl | h
  · exact .inl (isPlainDigit_of_mem_twoDigits (by omega) c h)
  · exact .inl (isPlainDigit_of_mem_twoDigits (by omega) c h)
  · exact .inr rfl
  · exact .inl (isPlainDigit_of_mem_twoDigits (by omega) c h)
  · exact .inr rfl
  · exact .inl (isPlainDigit_of_mem_twoDigits (by omega) c h)

theorem timeAndOffset?_timeChars (t : TimeOfDay) :
    timeAndOffset? (timeChars t) = some (wholeSecond t, none) := by
  have hall : ∀ c ∈ timeChars t, (!startsOffset c) = true := by
    intro c hc
    rcases mem_timeChars hc with h | rfl
    · simp [startsOffset, ne_of_isPlainDigit h (d := '+') (by decide),
        ne_of_isPlainDigit h (d := '-') (by decide), ne_of_isPlainDigit h (d := 'Z') (by decide)]
    · decide
  have hbefore : (timeChars t ++ []).takeWhile (fun c => !startsOffset c) = timeChars t ++ [] :=
    List.takeWhile_append_of_pos hall
  have hafter : (timeChars t ++ []).dropWhile (fun c => !startsOffset c) = [] :=
    List.dropWhile_append_of_pos hall
  rw [List.append_nil] at hbefore hafter
  have hparts : TimeOfDay.ofParts? t.hour.val t.minute.val t.second.val 0 =
      some (wholeSecond t) := by
    rw [TimeOfDay.ofParts?, dif_pos t.hour.isLt, dif_pos t.minute.isLt, dif_pos t.second.isLt]
    rfl
  unfold timeAndOffset?
  simp only [hbefore, hafter, clock?_timeChars, Option.bind_eq_bind, Option.bind_some, hparts]
  rfl

/-! ## Reading timestamps -/

/-- A text of ASCII characters that does not end with a `Z` is read as it is. -/
theorem readable?_of_ascii {s : String} (h : ∀ c ∈ s.toList, c.toNat < 128)
    (hz : plainOffset s.toList = s.toList) : readable? s = some s.toList := by
  have hns : (Text.signs s.toList).map Text.Sign.code = s.toList.map Char.toNat :=
    Text.codes_of_ascii h
  have hs : ∀ n ∈ s.toList.map Char.toNat, Text.isSurrogate n = false := by
    intro n hn
    obtain ⟨c, hc, rfl⟩ := List.mem_map.1 hn
    exact Text.isSurrogate_toNat c
  have hplain : plainSeparator (s.toList.map Char.toNat) = s.toList.map Char.toNat := by
    have hfind : separatorPlaces.find? (isSurrogateAt (s.toList.map Char.toNat)) = none := by
      refine List.find?_eq_none.2 fun i _ hi => ?_
      unfold isSurrogateAt at hi
      split at hi
      · rename_i n hn
        rw [hs n (List.mem_of_getElem? hn)] at hi
        cases hi
      · cases hi
    rw [plainSeparator, hfind]
  have hany : (s.toList.map Char.toNat).any Text.isSurrogate = false :=
    List.any_eq_false.2 fun n hn => by simp [hs n hn]
  have hmap : (s.toList.map Char.toNat).map Char.ofNat = s.toList := by
    rw [List.map_map]
    exact (List.map_congr_left fun c _ => Char.ofNat_toNat c).trans (List.map_id _)
  simp only [readable?, hz, hns, hplain, hany, hmap, Bool.false_eq_true, if_false]

theorem plainOffset_append {cs : List Char} {c : Char} (hc : c ≠ 'Z') :
    plainOffset (cs ++ [c]) = cs ++ [c] := by
  unfold plainOffset
  split
  · rename_i front h
    rw [List.reverse_append] at h
    exact absurd (List.cons.inj h).1 hc
  · rfl

theorem plainOffset_timestamp (i : Instant) :
    plainOffset i.timestamp.toList = i.timestamp.toList := by
  have hs := i.time.second.isLt
  have hsplit : i.timestamp.toList = (dateChars i.date ++ 'T' ::
      (twoDigits i.time.hour.val ++ ':' :: (twoDigits i.time.minute.val ++
        [':', Nat.digitChar (i.time.second.val / 10)]))) ++
      [Nat.digitChar (i.time.second.val % 10)] := by
    rw [toList_timestamp]
    simp [timeChars, twoDigits]
  rw [hsplit]
  exact plainOffset_append (digitChar_ne (by omega) (by decide))

theorem toNat_lt_of_isPlainDigit {c : Char} (h : Text.isPlainDigit c = true) : c.toNat < 128 := by
  rw [Text.isPlainDigit, Bool.and_eq_true, decide_eq_true_eq, decide_eq_true_eq] at h
  exact Nat.lt_of_le_of_lt h.2 (by decide)

theorem toNat_lt_of_mem_dateText {d : Date} {c : Char} (h : c ∈ d.text.toList) :
    c.toNat < 128 := by
  rw [toList_dateText] at h
  rcases mem_dateChars h with h | rfl
  · exact toNat_lt_of_isPlainDigit h
  · decide

theorem toNat_lt_of_mem_timestamp {i : Instant} {c : Char} (h : c ∈ i.timestamp.toList) :
    c.toNat < 128 := by
  rw [toList_timestamp, List.mem_append, List.mem_cons, ← toList_dateText] at h
  rcases h with h | rfl | h
  · exact toNat_lt_of_mem_dateText h
  · decide
  · rcases mem_timeChars h with h | rfl
    · exact toNat_lt_of_isPlainDigit h
    · decide

/-- A timestamp is read as its instant down to the second. -/
theorem read_timestamp (i : Instant) :
    read i.timestamp = .ok (some ⟨i.date, wholeSecond i.time⟩) := by
  have hparts : parts? i.timestamp.toList = some (i.date, wholeSecond i.time, none) := by
    rw [toList_timestamp, parts?, dateLength?_dateChars]
    have hdrop : (dateChars i.date ++ 'T' :: timeChars i.time).drop 10 = 'T' :: timeChars i.time :=
      rfl
    simp only [Option.bind_eq_bind, Option.bind_some, date?_dateChars, hdrop,
      timeAndOffset?_timeChars]
    rfl
  rw [read, readable?_of_ascii (fun c hc => toNat_lt_of_mem_timestamp hc) (plainOffset_timestamp i),
    Option.bind_some, hparts]

/-- Only times without a date at the offset zero are out of range. -/
theorem read_error {s : String} {e : Fault} (h : read s = .error e) : e = .outOfRange := by
  unfold read at h
  split at h
  · cases h
  · cases h
  · rcases bind_eq_error.1 h with h | ⟨i, -, h⟩
    · unfold Instant.addMicros at h
      dsimp only at h
      split at h
      · cases h
      · exact (Except.error.inj h).symm
    · cases h

end Timestamp

end Arcade
