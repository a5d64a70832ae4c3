import Arcade.Challenge.Generation
import Arcade.Proofs.Calendar.Timestamps

/-!
# The life of a generation

A new generation names the next midnight as its end. Until then it is neither due for replacement
nor expired, so that what was just brought up to date stays as it is.
-/

namespace Arcade

namespace Instant

theorem date_of_nextMidnight {i m : Instant} (h : i.nextMidnight = .ok m) :
    i.date.next = .ok m.date ∧ m.time = TimeOfDay.midnight := by
  obtain ⟨d, hd, h⟩ := bind_eq_ok.1 h
  obtain rfl := Except.ok.inj h
  exact ⟨hd, rfl⟩

/-- The next midnight is later than its day. -/
theorem lt_nextMidnight {i m : Instant} (h : i.nextMidnight = .ok m) : ¬ m ≤ i := by
  obtain ⟨hd, ht⟩ := date_of_nextMidnight h
  have hkey := Date.key_lt_of_next hd
  have hmicros := i.time.micros_lt
  rw [le_iff, key, key, ht, Duration.dayMicros]
  omega

theorem startOfDay_le (i : Instant) : i.startOfDay ≤ i := by
  have hmidnight : TimeOfDay.midnight.micros = 0 := rfl
  simp only [le_iff, key, startOfDay, hmidnight]
  omega

theorem le_trans {a b c : Instant} (h : a ≤ b) (h' : b ≤ c) : a ≤ c :=
  Nat.le_trans h h'

end Instant

namespace Challenge

/-- A midnight is read from its timestamp. -/
theorem read_nextMidnight {now m : Instant} (h : now.nextMidnight = .ok m) :
    Timestamp.read m.timestamp = .ok (some m) := by
  have hm : (⟨m.date, Timestamp.wholeSecond m.time⟩ : Instant) = m := by
    cases m
    cases (Instant.date_of_nextMidnight h).2
    rfl
  rw [Timestamp.read_timestamp, hm]

/-- The challenges of a generation are those of the catalog, open, up to the next midnight. -/
theorem generation_eq_ok {now : Instant} {challenges : List Challenge} :
    generation now = .ok challenges ↔
      ∃ m, now.nextMidnight = .ok m ∧ challenges = catalog.map (ofDesign · m.timestamp) := by
  unfold generation
  rw [bind_eq_ok]
  exact exists_congr fun m => and_congr_right fun _ =>
    ⟨fun h => (Except.ok.inj h).symm, fun h => congrArg Except.ok h.symm⟩

/-- No challenge of a generation is expired on the day of the generation. -/
theorem isExpired_generation {now : Instant} {challenges : List Challenge}
    (h : generation now = .ok challenges) {c : Challenge} (hc : c ∈ challenges) :
    c.isExpired now = .ok false := by
  obtain ⟨m, hm, rfl⟩ := generation_eq_ok.1 h
  obtain ⟨d, -, rfl⟩ := List.mem_map.1 hc
  have hlt : decide (m ≤ now) = false := decide_eq_false (Instant.lt_nextMidnight hm)
  rw [isExpired, ofDesign, read_nextMidnight hm, ← hlt]
  rfl

/-- Whether a challenge is expired is not known only if its end is out of range. -/
theorem isExpired_error {c : Challenge} {now : Instant} {e : Fault}
    (h : c.isExpired now = .error e) : e = .outOfRange := by
  rcases bind_eq_error.1 h with h | ⟨i, -, h⟩
  · exact Timestamp.read_error h
  · cases i <;> cases h

/-- Challenges that end at the next midnight are not due for replacement. -/
theorem needsRefresh_of_nextMidnight {now m : Instant} (h : now.nextMidnight = .ok m)
    {c : Challenge} (hc : c.expiresAt = m.timestamp) (rest : List Challenge) :
    needsRefresh (c :: rest) now = .ok false := by
  have hlt : decide (m ≤ now.startOfDay) = false := decide_eq_false fun hle =>
    Instant.lt_nextMidnight h (Instant.le_trans hle now.startOfDay_le)
  rw [needsRefresh, hc, read_nextMidnight h, ← hlt]
  rfl

/-- A generation is not due for replacement on its day. -/
theorem needsRefresh_generation {now : Instant} {challenges : List Challenge}
    (h : generation now = .ok challenges) : needsRefresh challenges now = .ok false := by
  obtain ⟨m, hm, rfl⟩ := generation_eq_ok.1 h
  obtain ⟨first, others, hcatalog⟩ : ∃ d ds, catalog = d :: ds := ⟨_, _, rfl⟩
  rw [hcatalog, List.map_cons]
  exact needsRefresh_of_nextMidnight (c := ofDesign first m.timestamp) hm rfl _

theorem replacement?_eq_ok {now : Instant} {challenges : List Challenge}
    {r : Option (List Challenge)} :
    replacement? challenges now = .ok r ↔
      (needsRefresh challenges now = .ok false ∧ r = none) ∨
      (needsRefresh challenges now = .ok true ∧ ∃ g, generation now = .ok g ∧ r = some g) := by
  unfold replacement?
  constructor
  · intro h
    obtain ⟨due, hdue, h⟩ := bind_eq_ok.1 h
    cases due with
    | false => exact .inl ⟨hdue, (Except.ok.inj h).symm⟩
    | true =>
      obtain ⟨g, hg, h⟩ := bind_eq_ok.1 h
      exact .inr ⟨hdue, g, hg, (Except.ok.inj h).symm⟩
  · rintro (⟨hdue, rfl⟩ | ⟨hdue, g, hg, rfl⟩)
    · exact bind_eq_ok.2 ⟨false, hdue, rfl⟩
    · exact bind_eq_ok.2 ⟨true, hdue, bind_eq_ok.2 ⟨g, hg, rfl⟩⟩

/-- Bringing challenges up to date keeps them if they are not due, and else replaces them. -/
theorem refreshed_eq_ok {now : Instant} {challenges fresh : List Challenge} :
    refreshed challenges now = .ok fresh ↔
      (needsRefresh challenges now = .ok false ∧ fresh = challenges) ∨
      (needsRefresh challenges now = .ok true ∧ generation now = .ok fresh) := by
  unfold refreshed
  constructor
  · intro h
    obtain ⟨r, hr, h⟩ := bind_eq_ok.1 h
    rcases replacement?_eq_ok.1 hr with ⟨hdue, rfl⟩ | ⟨hdue, g, hg, rfl⟩
    · exact .inl ⟨hdue, (Except.ok.inj h).symm⟩
    · exact .inr ⟨hdue, Except.ok.inj h ▸ hg⟩
  · rintro (⟨hdue, rfl⟩ | ⟨hdue, hg⟩)
    · exact bind_eq_ok.2 ⟨none, replacement?_eq_ok.2 (.inl ⟨hdue, rfl⟩), rfl⟩
    · exact bind_eq_ok.2 ⟨some fresh, replacement?_eq_ok.2 (.inr ⟨hdue, fresh, hg, rfl⟩), rfl⟩

/-- Challenges that were brought up to date are not due for replacement. -/
theorem needsRefresh_refreshed {now : Instant} {challenges fresh : List Challenge}
    (h : refreshed challenges now = .ok fresh) : needsRefresh fresh now = .ok false := by
  rcases refreshed_eq_ok.1 h with ⟨hdue, rfl⟩ | ⟨-, hg⟩
  · exact hdue
  · exact needsRefresh_generation hg

theorem refreshed_refreshed {now : Instant} {challenges fresh : List Challenge}
    (h : refreshed challenges now = .ok fresh) : refreshed fresh now = .ok fresh :=
  refreshed_eq_ok.2 (.inl ⟨needsRefresh_refreshed h, rfl⟩)

end Challenge

end Arcade
