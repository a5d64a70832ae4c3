import Arcade.Proofs.Challenge.Generations

/-!
# Lists of challenges that last

A list of challenges is due for replacement at the midnight that its first challenge names, while
every challenge expires on its own. The two agree at every instant exactly for lists with one
midnight as the end of all challenges. No challenge expires before the list is due exactly if the
list starts with a midnight and names no end before it.
-/

namespace Arcade

theorem TimeOfDay.micros_injective {a b : TimeOfDay} (h : a.micros = b.micros) : a = b := by
  obtain ⟨⟨ha, _⟩, ⟨ma, _⟩, ⟨sa, _⟩, ⟨ua, _⟩⟩ := a
  obtain ⟨⟨hb, _⟩, ⟨mb, _⟩, ⟨sb, _⟩, ⟨ub, _⟩⟩ := b
  simp only [micros, TimeOfDay.mk.injEq, Fin.mk.injEq] at h ⊢
  omega

namespace Instant

variable {a b e i : Instant}

theorem le_refl (i : Instant) : i ≤ i := Nat.le_refl _

theorem le_antisymm (h : a ≤ b) (h' : b ≤ a) : a = b := by
  have ha := a.time.micros_lt
  have hb := b.time.micros_lt
  rw [le_iff, key, key, Duration.dayMicros] at h h'
  have hdate : a.date = b.date := Date.key_injective (by omega)
  rw [hdate] at h h'
  have htime : a.time = b.time := TimeOfDay.micros_injective (by omega)
  cases a
  cases b
  exact congr (congrArg Instant.mk hdate) htime

/-- Whether an instant is the midnight at the start of its day. -/
def IsMidnight (i : Instant) : Prop := i.startOfDay = i

theorem isMidnight_of_nextMidnight (h : i.nextMidnight = .ok e) : e.IsMidnight := by
  cases e
  cases (date_of_nextMidnight h).2
  rfl

/-- A midnight has passed at an instant if it has passed at the start of its day. -/
theorem IsMidnight.le_startOfDay_iff (h : e.IsMidnight) : e ≤ i.startOfDay ↔ e ≤ i := by
  refine ⟨fun hle => le_trans hle i.startOfDay_le, fun hle => ?_⟩
  have hi := i.time.micros_lt
  have he : e.startOfDay = e := h
  rw [← he, startOfDay_le_iff]
  rw [le_iff, key, key, Duration.dayMicros] at hle
  omega

/-- The end of a day has not passed at the start of that day, unless it is that start. -/
theorem isMidnight_of_le_startOfDay (h : e ≤ e.startOfDay) : e.IsMidnight :=
  le_antisymm e.startOfDay_le h

end Instant

namespace Challenge

variable {c : Challenge} {cs : List Challenge} {e i now later : Instant}

/-! ## Expiring -/

theorem isExpired_of_read (h : Timestamp.read c.expiresAt = .ok (some i)) (now : Instant) :
    c.isExpired now = .ok (decide (i ≤ now)) := by
  rw [isExpired, h]
  rfl

theorem isExpired_at_end (h : Timestamp.read c.expiresAt = .ok (some i)) :
    c.isExpired i = .ok true := by
  rw [isExpired_of_read h, decide_eq_true i.le_refl]

/-- A challenge that is not expired at some instant has an end that can be read. -/
theorem exists_read_of_isExpired (h : c.isExpired now = .ok false) :
    ∃ i, Timestamp.read c.expiresAt = .ok (some i) ∧ ¬ i ≤ now := by
  obtain ⟨found, hread, h⟩ := bind_eq_ok.1 h
  cases found with
  | none => cases Except.ok.inj h
  | some i => exact ⟨i, hread, of_decide_eq_false (Except.ok.inj h)⟩

/-- Challenges that are not due have a first one, whose end can be read. -/
theorem exists_read_of_needsRefresh (h : needsRefresh cs now = .ok false) :
    ∃ first rest e, cs = first :: rest ∧ Timestamp.read first.expiresAt = .ok (some e) ∧
      ¬ e ≤ now.startOfDay := by
  cases cs with
  | nil => cases h
  | cons first rest =>
    obtain ⟨found, hread, h⟩ := bind_eq_ok.1 h
    cases found with
    | none => cases Except.ok.inj h
    | some e => exact ⟨first, rest, e, rfl, hread, of_decide_eq_false (Except.ok.inj h)⟩

theorem needsRefresh_of_read {first : Challenge}
    (h : Timestamp.read first.expiresAt = .ok (some e)) (rest : List Challenge) (now : Instant) :
    needsRefresh (first :: rest) now = .ok (decide (e ≤ now.startOfDay)) := by
  rw [needsRefresh, h]
  rfl

/-! ## Lasting -/

/-- Whether the ends of challenges are instants that satisfy `p` with the first of them, which is a
midnight. -/
def Ending (p : Instant → Instant → Prop) (cs : List Challenge) : Prop :=
  ∃ e : Instant, e.IsMidnight ∧
    (cs.map expiresAt).head?.map Timestamp.read = some (.ok (some e)) ∧
    ∀ s ∈ cs.map expiresAt, ∃ i, Timestamp.read s = .ok (some i) ∧ p e i

/-- Whether the first end is a midnight and no end is before it. -/
def Lasting : List Challenge → Prop := Ending (· ≤ ·)

/-- Whether all challenges end at one midnight. -/
def Uniform : List Challenge → Prop := Ending (· = ·)

theorem Uniform.lasting (h : Uniform cs) : Lasting cs := by
  obtain ⟨e, he, hfirst, hall⟩ := h
  refine ⟨e, he, hfirst, fun s hs => ?_⟩
  obtain ⟨i, hi, rfl⟩ := hall s hs
  exact ⟨e, hi, e.le_refl⟩

/-- Only the ends count. -/
theorem Lasting.congr (h : Lasting cs) {cs' : List Challenge}
    (hends : cs'.map expiresAt = cs.map expiresAt) : Lasting cs' := by
  unfold Lasting Ending
  rw [hends]
  exact h

/-- A generation ends at one midnight. -/
theorem uniform_generation (h : generation now = .ok cs) : Uniform cs := by
  obtain ⟨m, hm, rfl⟩ := generation_eq_ok.1 h
  have hread := read_nextMidnight hm
  refine ⟨m, Instant.isMidnight_of_nextMidnight hm, ?_, fun s hs => ⟨m, ?_, rfl⟩⟩
  · rw [← hread]
    rfl
  · obtain ⟨c, hc, rfl⟩ := List.mem_map.1 hs
    obtain ⟨d, -, rfl⟩ := List.mem_map.1 hc
    exact hread

/-- The first end and all ends of challenges, in the terms of the challenges. -/
theorem ending_cons {p : Instant → Instant → Prop} {rest : List Challenge} :
    Ending p (c :: rest) ↔ ∃ e, e.IsMidnight ∧ Timestamp.read c.expiresAt = .ok (some e) ∧
      ∀ d ∈ c :: rest, ∃ i, Timestamp.read d.expiresAt = .ok (some i) ∧ p e i := by
  simp only [Ending, List.forall_mem_map]
  exact exists_congr fun e => and_congr_right fun _ => and_congr_left fun _ =>
    ⟨Option.some.inj, congrArg some⟩

/-- No challenge of a list that lasts is expired before the list is due. -/
theorem Lasting.isExpired (h : Lasting cs) (hdue : needsRefresh cs later = .ok false)
    (hc : c ∈ cs) : c.isExpired later = .ok false := by
  obtain ⟨first, rest, e, rfl, hread, hlt⟩ := exists_read_of_needsRefresh hdue
  obtain ⟨e', he, hread', hall⟩ := ending_cons.1 h
  obtain rfl : e = e' := Option.some.inj (Except.ok.inj (hread.symm.trans hread'))
  obtain ⟨i, hi, hle⟩ := hall c hc
  rw [isExpired_of_read hi, decide_eq_false]
  exact fun hpassed => hlt (he.le_startOfDay_iff.2 (Instant.le_trans hle hpassed))

/-- A challenge of a list of one end expires when the list is due. -/
theorem Uniform.isExpired (h : Uniform cs) (hc : c ∈ cs) (later : Instant) :
    c.isExpired later = needsRefresh cs later := by
  cases cs with
  | nil => exact absurd hc List.not_mem_nil
  | cons first rest =>
    obtain ⟨e, he, hread, hall⟩ := ending_cons.1 h
    obtain ⟨i, hi, rfl⟩ := hall c hc
    rw [isExpired_of_read hi, needsRefresh_of_read hread]
    exact congrArg Except.ok (decide_eq_decide.2 he.le_startOfDay_iff.symm)

/-- A list that is not due at some instant lasts exactly if it is never due after one of its
challenges expired. -/
theorem lasting_iff (h : needsRefresh cs now = .ok false) :
    Lasting cs ↔ ∀ later, needsRefresh cs later = .ok false →
      ∀ c ∈ cs, c.isExpired later = .ok false := by
  refine ⟨fun hl later hdue c hc => hl.isExpired hdue hc, fun hall => ?_⟩
  obtain ⟨first, rest, e, rfl, hread, -⟩ := exists_read_of_needsRefresh h
  have notDue {later : Instant} (hlt : ¬ e ≤ later.startOfDay) :
      needsRefresh (first :: rest) later = .ok false := by
    rw [needsRefresh_of_read hread, decide_eq_false hlt]
  -- At its own end the first challenge is expired, so that the list has to be due.
  have hmidnight : e.IsMidnight := by
    refine Classical.byContradiction fun hno => ?_
    have hfirst := hall e (notDue fun hle => hno (Instant.isMidnight_of_le_startOfDay hle)) first
      List.mem_cons_self
    rw [isExpired_at_end hread] at hfirst
    cases hfirst
  refine ending_cons.2 ⟨e, hmidnight, hread, fun c hc => ?_⟩
  obtain ⟨i, hi, -⟩ := exists_read_of_isExpired (hall now h c hc)
  refine ⟨i, hi, Classical.byContradiction fun hlt => ?_⟩
  have hexpired := hall i (notDue fun hle => hlt (Instant.le_trans hle i.startOfDay_le)) c hc
  rw [isExpired_at_end hi] at hexpired
  cases hexpired

/-- The two tests of a list that is not due at some instant agree exactly if the list has one
end. -/
theorem uniform_iff (h : needsRefresh cs now = .ok false) :
    Uniform cs ↔ ∀ later, ∀ c ∈ cs, c.isExpired later = needsRefresh cs later := by
  refine ⟨fun hu later c hc => hu.isExpired hc later, fun hall => ?_⟩
  have hlasting : Lasting cs := (lasting_iff h).2 fun later hdue c hc => hdue ▸ hall later c hc
  obtain ⟨first, rest, e, rfl, hread, -⟩ := exists_read_of_needsRefresh h
  obtain ⟨e', he, hread', hends⟩ := ending_cons.1 hlasting
  obtain rfl : e = e' := Option.some.inj (Except.ok.inj (hread.symm.trans hread'))
  refine ending_cons.2 ⟨e, he, hread, fun c hc => ?_⟩
  obtain ⟨i, hi, hle⟩ := hends c hc
  have hsame := hall e c hc
  rw [isExpired_of_read hi, needsRefresh_of_read hread,
    decide_eq_true (he.le_startOfDay_iff.2 e.le_refl)] at hsame
  exact ⟨i, hi, Instant.le_antisymm hle (of_decide_eq_true (Except.ok.inj hsame))⟩

end Challenge

end Arcade
