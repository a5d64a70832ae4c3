import Arcade.Proofs.Calendar.Days
import Arcade.Proofs.Calendar.Timestamps
import Arcade.Proofs.Text.Order

/-!
# Dates sort as their texts

The text of a date has a fixed number of digits for each part, with the year in front and the day
at the end. So the texts of dates, compared by their code points, are in the order of the dates,
and that is the order of the days that their ordinals count.
-/

namespace Arcade

namespace Calendar

/-- Numbers in mixed radix are compared by what is in front first. -/
theorem compare_mul_add {k q q' r r' : Nat} (h : r < k) (h' : r' < k) :
    compare (q * k + r) (q' * k + r') = (compare q q').then (compare r r') := by
  rcases Nat.lt_trichotomy q q' with hlt | rfl | hgt
  · have hmul := Nat.mul_le_mul_right k (Nat.succ_le_of_lt hlt)
    rw [Nat.succ_mul] at hmul
    rw [Nat.compare_eq_lt.2 hlt, Nat.compare_eq_lt.2 (by omega), Ordering.lt_then]
  · rw [Nat.compare_eq_eq.2 (Eq.refl q), Ordering.eq_then, Nat.compare_eq_ite_lt,
      Nat.compare_eq_ite_lt]
    simp only [Nat.add_lt_add_iff_left]
  · have hmul := Nat.mul_le_mul_right k (Nat.succ_le_of_lt hgt)
    rw [Nat.succ_mul] at hmul
    rw [Nat.compare_eq_gt.2 hgt, Nat.compare_eq_gt.2 (by omega), Ordering.gt_then]

theorem compare_digitChar {d e : Nat} (hd : d < 10) (he : e < 10) :
    compare (Nat.digitChar d).toNat (Nat.digitChar e).toNat = compare d e := by
  rw [Nat.toNat_digitChar_of_lt_ten hd, Nat.toNat_digitChar_of_lt_ten he, Nat.compare_eq_ite_lt,
    Nat.compare_eq_ite_lt]
  simp only [Nat.add_lt_add_iff_left]

/-- Two digits in front are compared as the number that they stand for. -/
theorem compareCodes_twoDigits {m n : Nat} (hm : m < 100) (hn : n < 100) (cs ds : List Char) :
    Text.compareCodes ((twoDigits m ++ cs).map Char.toNat) ((twoDigits n ++ ds).map Char.toNat) =
      (compare m n).then (Text.compareCodes (cs.map Char.toNat) (ds.map Char.toNat)) := by
  have hdigits : compare m n = (compare (m / 10) (n / 10)).then (compare (m % 10) (n % 10)) := by
    rw [← compare_mul_add (k := 10) (by omega) (by omega), Nat.div_add_mod', Nat.div_add_mod']
  simp only [twoDigits, List.cons_append, List.nil_append, List.map_cons, Text.compareCodes_cons]
  rw [compare_digitChar (by omega) (by omega), compare_digitChar (by omega) (by omega),
    ← Ordering.then_assoc, ← hdigits]

theorem compareCodes_mark (c : Char) (cs ds : List Char) :
    Text.compareCodes ((c :: cs).map Char.toNat) ((c :: ds).map Char.toNat) =
      Text.compareCodes (cs.map Char.toNat) (ds.map Char.toNat) := by
  rw [List.map_cons, List.map_cons, Text.compareCodes_cons, Nat.compare_eq_eq.2 rfl,
    Ordering.eq_then]

end Calendar

namespace Date

open Calendar Timestamp

theorem codes_text (d : Date) : Text.codes d.text = (dateChars d).map Char.toNat := by
  rw [Text.codes_of_ascii fun _ hc => toNat_lt_of_mem_dateText hc, toList_dateText]

/-- Keys are compared by the year, then by the month, then by the day. -/
theorem compare_key (a b : Date) : compare a.key b.key =
    (compare a.year b.year).then ((compare a.month b.month).then (compare a.day b.day)) := by
  have hd := fun d : Date => daysInMonth_le d.year d.month
  have hv := fun d : Date => d.valid.2.2.2
  unfold key
  rw [compare_mul_add (Nat.lt_succ_of_le ((hv a).trans (hd a)))
      (Nat.lt_succ_of_le ((hv b).trans (hd b))),
    compare_mul_add (Nat.lt_succ_of_le a.month_le) (Nat.lt_succ_of_le b.month_le),
    Ordering.then_assoc]

theorem compare_ordinal (a b : Date) : compare a.ordinal b.ordinal = compare a.key b.key := by
  rw [Nat.compare_eq_ite_lt, Nat.compare_eq_ite_lt]
  simp only [ordinal_lt_iff]

/-- The texts of dates are in the order of the dates. -/
theorem order_text (a b : Date) : Text.order a.text b.text = compare a.ordinal b.ordinal := by
  have ha := year_lt a
  have hb := year_lt b
  have hma := a.month_le
  have hmb := b.month_le
  have hyear : compare a.year b.year =
      (compare (a.year / 100) (b.year / 100)).then (compare (a.year % 100) (b.year % 100)) := by
    rw [← compare_mul_add (k := 100) (by omega) (by omega), Nat.div_add_mod', Nat.div_add_mod']
  rw [Text.order, codes_text, codes_text, dateChars, dateChars, List.append_assoc,
    List.append_assoc, compareCodes_twoDigits (by omega) (by omega),
    compareCodes_twoDigits (by omega) (by omega), compareCodes_mark,
    compareCodes_twoDigits (by omega) (by omega), compareCodes_mark,
    ← List.append_nil (twoDigits a.day), ← List.append_nil (twoDigits b.day),
    compareCodes_twoDigits (day_lt a) (day_lt b), compare_ordinal, compare_key, hyear,
    Ordering.then_assoc]
  rw [show Text.compareCodes ([].map Char.toNat) ([].map Char.toNat) = .eq from rfl,
    Ordering.then_eq]

end Date

end Arcade
