import Mathlib.Logic.Relation
import Arcade.Proofs.Number.Unsigned
import Arcade.Proofs.Progress.Normalising
import Arcade.Proofs.Rule.Growth
import Arcade.Proofs.Rule.Recorded

/-!
# Nothing recorded and zero

To the rules a stat that was never recorded is a zero. A rule looks at a record only through what
its stats count as, and what a stat counts as stays the same when a zero is dropped or put where
nothing was. Where lower results are better, the zero counts as worse than any result. The counts
over all games look at the plays of each game, of which those that are zero do not matter: they are
not counted, and adding them changes no sum of plays.
-/

namespace Arcade

/-! ## Zero among numbers -/

namespace Number

variable {n : Number}

theorem isZero_zero : isZero 0 = true := rfl

theorem compare_mul_zero (k : Int) {den : Nat} (h : 0 < den) :
    compare (k * den) 0 = compare k 0 := by
  have hden : (0 : Int) < den := Int.ofNat_lt.2 h
  rcases Int.lt_trichotomy k 0 with hk | rfl | hk
  · rw [Int.compare_eq_lt.2 hk, Int.compare_eq_lt.2 (Int.mul_neg_of_neg_of_pos hk hden)]
  · rw [Int.zero_mul]
  · rw [Int.compare_eq_gt.2 hk, Int.compare_eq_gt.2 (Int.mul_pos hk hden)]

/-- Every zero compares with integers as the integer zero does. -/
theorem compare?_of_isZero (h : n.isZero = true) (k : Int) :
    n.compare? (.int k) = compare? 0 (.int k) := by
  have hzero : n.compare? 0 = some .eq := by simpa [isZero, same] using h
  cases n with
  | int i =>
    obtain rfl : i = 0 := Int.compare_eq_eq.1 (Option.some.inj hzero)
    rfl
  | float x =>
    change (compareIntDouble k x).map Ordering.swap = some (compare 0 k)
    replace hzero : (compareIntDouble 0 x).map Ordering.swap = some .eq := hzero
    unfold compareIntDouble at hzero ⊢
    cases hm : Double.meaning x with
    | nan =>
      rw [hm] at hzero
      cases hzero
    | infinite negative =>
      rw [hm] at hzero
      cases negative <;> cases hzero
    | finite negative mantissa exponent =>
      rw [hm] at hzero
      have hden := Double.scaleByTwo_pos mantissa Nat.one_pos exponent
      dsimp only at hzero ⊢
      generalize Double.scaleByTwo mantissa 1 exponent = p at hzero hden ⊢
      have hsize : (if negative then -(p.1 : Int) else p.1) = 0 := by
        have heq := Ordering.swap_eq_eq.1 (Option.some.inj hzero)
        rw [Int.zero_mul] at heq
        exact (Int.compare_eq_eq.1 heq).symm
      rw [hsize, compare_mul_zero k hden, Option.map_some, Int.compare_swap]

end Number

namespace StatRecord

/-- A counter that is kept as a double has no minus sign: negative ones become zero, and so does
the zero with a minus sign. -/
theorem unsigned_of_kept {x : Float} (h : whole (atLeastZero (.float x)) = .float x) :
    Double.Unsigned x := by
  have hpositive : Number.lt (.float x) 0 = false := by
    by_contra hlt
    rw [atLeastZero, if_pos (Bool.eq_true_of_not_eq_false hlt)] at h
    cases h
  have hfraction : Double.isIntegral x = false := by
    by_contra hwhole
    have hzero : atLeastZero (.float x) = .float x := eq_float_of_whole h
    rw [hzero, whole, if_pos (Bool.eq_true_of_not_eq_false hwhole)] at h
    cases h
  have hinfinity : Double.infinityBits < 2 ^ 63 := by decide
  -- No kept double is below zero, and one that is zero would have been kept as an integer.
  cases hm : Double.meaning x with
  | nan =>
    rw [← Double.of_meaning_nan hm]
    exact Double.unsigned_ofBits (by decide)
  | infinite negative =>
    cases negative with
    | true =>
      have hcompare : Number.compare? (.float x) 0 = some .lt := by
        change (Number.compareIntDouble 0 x).map Ordering.swap = _
        rw [Number.compareIntDouble, hm]
        rfl
      rw [Number.lt, hcompare] at hpositive
      cases hpositive
    | false =>
      rw [← Double.of_meaning_infinite hm]
      exact Double.unsigned_ofBits hinfinity
  | finite negative mantissa exponent =>
    obtain ⟨hnormal, hx⟩ := Double.of_meaning_finite hm
    cases negative with
    | false =>
      rw [← hx]
      exact Double.unsigned_ofBits ((Double.magnitude_lt hnormal).trans hinfinity)
    | true =>
      rcases Nat.eq_zero_or_pos (Double.scaleByTwo mantissa 1 exponent).1 with hzero | hpos
      · rw [Double.isIntegral, hm] at hfraction
        dsimp only at hfraction
        rw [hzero, Nat.zero_mod] at hfraction
        cases hfraction
      · rw [lt_zero_of_meaning hm hpos] at hpositive
        cases hpositive

end StatRecord

/-! ## Records -/

namespace StatRecord

variable {r r' : StatRecord}

/-- A record without any stat but zeros. -/
def Blank (r : StatRecord) : Prop := ∀ e ∈ r.entries, e.2.isZero = true

instance (r : StatRecord) : Decidable r.Blank :=
  inferInstanceAs (Decidable (∀ e ∈ r.entries, _ = true))

instance (r : StatRecord) : Decidable r.Clean :=
  inferInstanceAs (Decidable (∀ e ∈ r.entries, _ = some _))

/-- A zero is dropped from a record, or put where nothing is recorded. -/
inductive ZeroEdit : StatRecord → StatRecord → Prop
  | drop {r : StatRecord} {field : String} {n : Number} (hn : Dict.get? r field = some n)
      (hzero : n.isZero = true) : ZeroEdit r (Dict.erase r field)
  | put {r : StatRecord} {field : String} {n : Number} (hnone : Dict.get? r field = none)
      (hkept : clean? field (.num n) = some n) (hzero : n.isZero = true) :
      ZeroEdit r (Dict.insert r field n)

/-- The integer zero can be put for every known stat. -/
theorem ZeroEdit.put_zero {field : String} (hnone : Dict.get? r field = none)
    (hfield : field ∈ fields) : ZeroEdit r (Dict.insert r field 0) := by
  have hkept : clean? field (.num 0) = some 0 := by
    rw [clean?, if_pos hfield]
    dsimp only
    split <;> rfl
  exact .put hnone hkept rfl

theorem reading_of_zero {field : String} {n : Number} (hn : Dict.get? r field = some n)
    (hzero : n.isZero = true) : r.reading field = 0 := by
  rw [reading_of_some hn, if_pos hzero]

/-- What counts as zero is the integer zero. -/
theorem reading_eq_zero {field : String} (h : (r.reading field).isZero = true) :
    r.reading field = 0 := by
  cases hn : Dict.get? r field with
  | none => exact reading_of_none hn
  | some n =>
    rw [reading_of_some hn] at h ⊢
    split
    · rfl
    · rename_i hzero
      rw [if_neg hzero] at h
      exact absurd h hzero

theorem Blank.reading (h : r.Blank) (field : String) : r.reading field = 0 := by
  cases hn : Dict.get? r field with
  | none => exact reading_of_none hn
  | some n => exact reading_of_zero hn (h _ (Dict.mem_entries_of_get? hn))

/-- No stat counts as anything else after an edit. -/
theorem ZeroEdit.reading (h : ZeroEdit r r') (field : String) :
    r'.reading field = r.reading field := by
  cases h with
  | drop hn hzero =>
    rename_i dropped n
    by_cases hf : field = dropped
    · rw [hf, reading_of_zero hn hzero, reading_of_none (Dict.get?_erase_self r dropped)]
    · rw [StatRecord.reading, StatRecord.reading, Dict.get?_erase_of_ne hf]
  | put hnone hkept hzero =>
    rename_i added n
    by_cases hf : field = added
    · rw [hf, reading_of_none hnone, reading_of_zero (Dict.get?_insert_self r added n) hzero]
    · rw [StatRecord.reading, StatRecord.reading, Dict.get?_insert_of_ne hf]

theorem ZeroEdit.clean (h : ZeroEdit r r') (hr : r.Clean) : r'.Clean := by
  cases h with
  | drop hn hzero => exact fun e he => hr e (List.mem_of_mem_filter he)
  | put hnone hkept hzero =>
    intro e he
    rcases Dict.mem_entries_insert he with rfl | he
    · exact hkept
    · exact hr e he

theorem Clean.unsigned_plays (h : r.Clean) : (r.reading "plays").Unsigned := by
  cases hn : Dict.get? r "plays" with
  | none =>
    rw [reading_of_none hn]
    exact Int.le_refl 0
  | some n =>
    rw [reading_of_some hn]
    split
    · exact Int.le_refl 0
    · have hkept := h _ (Dict.mem_entries_of_get? hn)
      cases n with
      | int k => exact (soundStat_of_clean? hkept).2.1 k rfl
      | float x => exact unsigned_of_kept (Option.some.inj hkept)

end StatRecord

/-! ## Conditions -/

/-- Whether nothing recorded and zero are the same to a threshold: a zero counts as not recorded, or
what is not recorded counts as zero. The bound is an integer. -/
def Threshold.isSettled (t : Threshold) : Bool :=
  (t.zeroIsMissing || t.missing = 0) && match t.bound with
    | .num (.int _) => true
    | _ => false

def Condition.isSettled : Condition → Bool
  | .threshold t => t.isSettled
  | .streak _ => true

def Rule.isSettled : Rule → Bool
  | .record _ conditions => conditions.all Condition.isSettled
  | .counts _ _ _ => true

/-- The conditions that a rule tries. -/
def Rule.conditions : Rule → List Condition
  | .record _ conditions => conditions
  | .counts _ _ _ => []

theorem Rule.isSettled_of_mem_conditions {r : Rule} (h : r.isSettled = true) {c : Condition}
    (hc : c ∈ r.conditions) : c.isSettled = true := by
  cases r with
  | record game conditions => exact List.all_eq_true.1 h c hc
  | counts measure games n => exact absurd hc List.not_mem_nil

theorem Badge.isSettled_of_mem_catalog : ∀ d ∈ Badge.catalog, d.rule.isSettled = true := by decide

theorem Challenge.isSettled_of_mem_catalog :
    ∀ d ∈ Challenge.catalog, d.rule.isSettled = true := by decide

theorem Badge.isSettled_of_rule? {id : String} {r : Rule} (h : Badge.rule? id = some r) :
    r.isSettled = true := by
  obtain ⟨d, hd, rfl⟩ := Badge.exists_design_of_rule? h
  exact isSettled_of_mem_catalog d hd

theorem Challenge.isSettled_of_rule? {id : String} {r : Rule} (h : Challenge.rule? id = some r) :
    r.isSettled = true := by
  obtain ⟨d, hd, hr⟩ := Option.map_eq_some_iff.1 h
  exact hr ▸ isSettled_of_mem_catalog d (List.mem_of_find?_eq_some hd)

namespace StatRecord

variable {r r' : StatRecord}

/-- What a threshold compares, in a record that a ledger keeps. -/
theorem holds_toJson (t : Threshold) (r : StatRecord) : t.holds r.toJson =
    t.comparator.relates ((Dict.get? r t.field).elim t.missing fun n =>
      if t.zeroIsMissing && n.isZero then t.missing else .num n) t.bound := by
  rw [Threshold.holds, Threshold.read, member?_toJson]
  cases Dict.get? r t.field <;> rfl

/-- What a settled threshold compares is a matter of what its stat counts as. -/
theorem holds_threshold {t : Threshold} (ht : t.isSettled = true) (r : StatRecord) :
    t.holds r.toJson = t.comparator.relates
      (if t.zeroIsMissing && (r.reading t.field).isZero then t.missing
        else .num (r.reading t.field)) t.bound := by
  rw [Threshold.isSettled, Bool.and_eq_true] at ht
  obtain ⟨hmissing, hbound⟩ := ht
  obtain ⟨k, hk⟩ : ∃ k, t.bound = .num (.int k) := by
    split at hbound
    · exact ⟨_, ‹_›⟩
    · cases hbound
  rw [holds_toJson]
  cases hn : Dict.get? r t.field with
  | none =>
    rw [reading_of_none hn]
    cases hz : t.zeroIsMissing with
    | true => rfl
    | false =>
      rw [hz, Bool.false_or, decide_eq_true_iff] at hmissing
      rw [hmissing]
      rfl
  | some n =>
    rw [reading_of_some hn]
    cases hzero : n.isZero with
    | false => simp [hzero]
    | true =>
      cases hz : t.zeroIsMissing with
      | true => simp [hzero, Number.isZero_zero]
      | false => simp [hk, Number.compare?_of_isZero hzero]

/-- A result where lower is better is worse than every bound but infinity if it is not recorded. -/
theorem holds_best_of_zero {field : String}
    (h : ∀ n, Dict.get? r field = some n → n.isZero = true) {bound : Number}
    (hbound : bound ≠ .float Double.infinity) :
    (Condition.best field bound).holds r.toJson = .ok false ∧
      (Condition.bestJust field bound).holds r.toJson = .ok false := by
  have hread : (Dict.get? r field).elim Threshold.unrecorded (fun n =>
      if true && n.isZero then Threshold.unrecorded else .num n) = Threshold.unrecorded := by
    cases hn : Dict.get? r field with
    | none => rfl
    | some n => rw [Option.elim_some, h n hn]; rfl
  have hnot (c : Comparator) (hc : c = .atMost ∨ c = .equal) :
      c.relates Threshold.unrecorded (.num bound) = .ok false := by
    rw [Threshold.unrecorded, Comparator.relates_num]
    rcases Number.compare?_infinity hbound with hcompare | hcompare <;>
      rcases hc with rfl | rfl <;> rw [hcompare] <;> rfl
  constructor
  · exact (holds_toJson (.atMost field (.num bound)) r).trans
      ((congrArg (Comparator.atMost.relates · _) hread).trans (hnot .atMost (.inl rfl)))
  · exact (holds_toJson (.bestExactly field (.num bound)) r).trans
      ((congrArg (Comparator.equal.relates · _) hread).trans (hnot .equal (.inr rfl)))

theorem holds_congr (h : ∀ field, r'.reading field = r.reading field) {c : Condition}
    (hc : c.isSettled = true) : c.holds r'.toJson = c.holds r.toJson := by
  cases c with
  | threshold t =>
    change t.holds r'.toJson = t.holds r.toJson
    rw [holds_threshold hc, holds_threshold hc, h]
  | streak n => rw [holds_streak, holds_streak, streak, streak, h, h]

theorem allHold_congr (h : ∀ field, r'.reading field = r.reading field) {cs : List Condition}
    (hcs : cs.all Condition.isSettled = true) :
    Rule.allHold r'.toJson cs = Rule.allHold r.toJson cs := by
  induction cs with
  | nil => rfl
  | cons c rest ih =>
    rw [List.all_cons, Bool.and_eq_true] at hcs
    rw [Rule.allHold, Rule.allHold, holds_congr h hcs.1, ih hcs.2]

end StatRecord

/-! ## All records -/

section Lists

variable {α β κ : Type} [DecidableEq κ] {f : κ × α → β} {name : κ} {v w : α}

/-- Putting what looks like the value that was there changes nothing that is looked at. -/
theorem map_putEntry {entries : List (κ × α)} (h : valueAt? name entries = some v)
    (hf : f (name, w) = f (name, v)) : (putEntry name w entries).map f = entries.map f := by
  induction entries with
  | nil => cases h
  | cons e rest ih =>
    by_cases he : e.1 = name
    · rw [valueAt?, if_pos he] at h
      obtain rfl := Option.some.inj h
      subst he
      rw [putEntry, if_pos rfl, List.map_cons, List.map_cons, hf]
    · rw [valueAt?, if_neg he] at h
      rw [putEntry, if_neg he, List.map_cons, List.map_cons, ih h]

end Lists

/-- The records of games, with a zero dropped or put, or with a record of zeros dropped or put. -/
inductive ZeroEdit : Dict StatRecord → Dict StatRecord → Prop
  | stat {p : Dict StatRecord} {game : String} {r r' : StatRecord} (hr : p.get? game = some r)
      (h : r.ZeroEdit r') : ZeroEdit p (p.insert game r')
  | drop {p : Dict StatRecord} {game : String} {r : StatRecord} (hr : p.get? game = some r)
      (hblank : r.Blank) : ZeroEdit p (p.erase game)
  | put {p : Dict StatRecord} {game : String} {r : StatRecord} (hnone : p.get? game = none)
      (hclean : r.Clean) (hblank : r.Blank) : ZeroEdit p (p.insert game r)

/-- Records whose stats were cleaned. -/
def CleanRecords (p : Dict StatRecord) : Prop := ∀ e ∈ p.entries, StatRecord.Clean e.2

instance (p : Dict StatRecord) : Decidable (CleanRecords p) :=
  inferInstanceAs (Decidable (∀ e ∈ p.entries, StatRecord.Clean e.2))

/-- The record of a game, an empty one if there is none. -/
def recordIn (p : Dict StatRecord) (game : String) : StatRecord := (p.get? game).getD Dict.empty

/-- The plays of the games that were played, as a rule adds them. -/
def playsOf (p : Dict StatRecord) : List Number :=
  (p.entries.map fun e => e.2.reading "plays").filter fun n => !n.isZero

variable {p q : Dict StatRecord}

theorem ZeroEdit.clean (h : ZeroEdit p q) (hp : CleanRecords p) : CleanRecords q := by
  cases h with
  | stat hr h =>
    intro e he
    rcases Dict.mem_entries_insert he with rfl | he
    · exact h.clean (hp _ (Dict.mem_entries_of_get? hr))
    · exact hp e he
  | drop hr hblank => exact fun e he => hp e (List.mem_of_mem_filter he)
  | put hnone hclean hblank =>
    intro e he
    rcases Dict.mem_entries_insert he with rfl | he
    · exact hclean
    · exact hp e he

theorem ZeroEdit.reading (h : ZeroEdit p q) (game field : String) :
    (recordIn q game).reading field = (recordIn p game).reading field := by
  unfold recordIn
  cases h with
  | stat hr h =>
    rename_i edited r r'
    by_cases hg : game = edited
    · rw [hg, Dict.get?_insert_self, hr, Option.getD_some, Option.getD_some, h.reading]
    · rw [Dict.get?_insert_of_ne hg]
  | drop hr hblank =>
    rename_i dropped r
    by_cases hg : game = dropped
    · rw [hg, Dict.get?_erase_self, hr, Option.getD_some, hblank.reading]
      rfl
    · rw [Dict.get?_erase_of_ne hg]
  | put hnone hclean hblank =>
    rename_i added r
    by_cases hg : game = added
    · rw [hg, Dict.get?_insert_self, hnone, Option.getD_some, hblank.reading]
      rfl
    · rw [Dict.get?_insert_of_ne hg]

theorem ZeroEdit.plays (h : ZeroEdit p q) : playsOf q = playsOf p := by
  cases h with
  | stat hr h =>
    rename_i game r r'
    unfold playsOf
    rw [Dict.insert, map_putEntry (f := fun e : String × StatRecord => e.2.reading "plays") hr
      (h.reading "plays")]
  | drop hr hblank =>
    rename_i game r
    unfold playsOf
    rw [Dict.erase, List.filter_map, List.filter_map, List.filter_filter]
    refine congrArg _ (List.filter_congr fun e he => ?_)
    by_cases hg : e.1 = game
    · obtain rfl : e.2 = r := by
        rw [← hg, Dict.get?_of_mem_entries he] at hr
        exact Option.some.inj hr
      simp [hblank.reading, Number.isZero_zero]
    · simp [hg]
  | put hnone hclean hblank =>
    rename_i game r
    have hnew : game ∉ p.names := fun hin => by
      rw [← Dict.contains_iff, Dict.contains, hnone] at hin
      cases hin
    have hentries : (p.insert game r).entries = p.entries ++ [(game, r)] :=
      putEntry_of_not_mem hnew
    unfold playsOf
    rw [hentries, List.map_append, List.filter_append, List.map_singleton, hblank.reading]
    exact List.append_nil _

/-! ## Counts over all games -/

namespace Measure

theorem countPlayed_map (rs : List StatRecord) : countPlayed (rs.map StatRecord.toJson) =
    .ok (rs.countP fun r => Number.lt 0 (r.reading "plays")) := by
  induction rs with
  | nil => rfl
  | cons r rest ih =>
    rw [List.map_cons, countPlayed, StatRecord.statOrZero_toJson, ih, List.countP_cons,
      Nat.add_comm]
    rfl

theorem sumPlays_map (sum : Number) (rs : List StatRecord) :
    sumPlays sum (rs.map StatRecord.toJson) =
      (rs.map fun r => r.reading "plays").foldlM Number.add sum := by
  induction rs generalizing sum with
  | nil => rfl
  | cons r rest ih =>
    rw [List.map_cons, sumPlays, StatRecord.statOrZero_toJson, List.map_cons, List.foldlM_cons]
    exact congrArg _ (funext ih)

/-- Zeros are not counted. -/
theorem countP_filter_nonzero {ns : List Number} (hzero : ∀ n ∈ ns, n.isZero = true → n = 0) :
    (ns.filter fun n => !n.isZero).countP (Number.lt 0) = ns.countP (Number.lt 0) := by
  rw [List.countP_filter]
  refine List.countP_congr fun n hn => ?_
  cases hz : n.isZero with
  | false => simp
  | true =>
    rw [hzero n hn hz]
    exact iff_of_false (by decide) (by decide)

/-- Zeros do not matter to a sum of numbers without a minus sign. -/
theorem foldlM_filter_nonzero {ns : List Number} (hns : ∀ n ∈ ns, n.Unsigned)
    (hzero : ∀ n ∈ ns, n.isZero = true → n = 0) {sum : Number} (hs : sum.Unsigned) :
    (ns.filter fun n => !n.isZero).foldlM Number.add sum = ns.foldlM Number.add sum := by
  induction ns generalizing sum with
  | nil => rfl
  | cons n rest ih =>
    have hrest {sum : Number} (hs : sum.Unsigned) :=
      ih (fun m hm => hns m (List.mem_cons_of_mem n hm))
        (fun m hm => hzero m (List.mem_cons_of_mem n hm)) hs
    rw [List.foldlM_cons]
    cases hz : n.isZero with
    | true =>
      rw [hzero n List.mem_cons_self hz, List.filter_cons_of_neg (by decide), hs.add_zero]
      exact hrest hs
    | false =>
      rw [List.filter_cons_of_pos (by simp [hz]), List.foldlM_cons]
      cases hadd : sum.add n with
      | error e => rfl
      | ok sum' => exact hrest (hs.add (hns n List.mem_cons_self) hadd)

end Measure

/-! ## Snapshots -/

namespace Snapshot

/-- The snapshot with other records, as a ledger keeps them. -/
def withRecords (s : Snapshot) (p : Dict StatRecord) : Snapshot :=
  { s with records := p.mapValues fun _ r => r.toJson }

variable (s : Snapshot) {p q : Dict StatRecord}

theorem values_withRecords (p : Dict StatRecord) :
    (s.withRecords p).records.values = p.values.map StatRecord.toJson := by
  rw [withRecords, Dict.values, Dict.values, Dict.mapValues, List.map_map, List.map_map]
  rfl

theorem value_gamesPlayed (p : Dict StatRecord) : Measure.gamesPlayed.value (s.withRecords p) =
    .ok (.int ((playsOf p).countP (Number.lt 0))) := by
  have hzero : ∀ n ∈ p.entries.map fun e => e.2.reading "plays", n.isZero = true → n = 0 :=
    List.forall_mem_map.2 fun e _ => StatRecord.reading_eq_zero
  rw [Measure.value, values_withRecords, Measure.countPlayed_map, playsOf,
    Measure.countP_filter_nonzero hzero, Dict.values, List.countP_map, List.countP_map]
  rfl

theorem value_totalPlays (hp : CleanRecords p) :
    Measure.totalPlays.value (s.withRecords p) = (playsOf p).foldlM Number.add 0 := by
  have hzero : ∀ n ∈ p.entries.map fun e => e.2.reading "plays", n.isZero = true → n = 0 :=
    List.forall_mem_map.2 fun e _ => StatRecord.reading_eq_zero
  have hplays : ∀ n ∈ p.entries.map fun e => e.2.reading "plays", n.Unsigned :=
    List.forall_mem_map.2 fun e he => (hp e he).unsigned_plays
  have hstart : Number.Unsigned 0 := Int.le_refl 0
  rw [Measure.value, values_withRecords, Measure.sumPlays_map, playsOf,
    Measure.foldlM_filter_nonzero hplays hzero hstart, Dict.values, List.map_map]
  rfl

/-- No measure tells records apart whose plays are the same but for zeros. -/
theorem value_congr (hp : CleanRecords p) (hq : CleanRecords q) (h : playsOf q = playsOf p)
    (m : Measure) : m.value (s.withRecords q) = m.value (s.withRecords p) := by
  cases m with
  | gamesPlayed => rw [value_gamesPlayed, value_gamesPlayed, h]
  | totalPlays => rw [value_totalPlays s hp, value_totalPlays s hq, h]
  | _ => rfl

theorem holds_congr (h : ZeroEdit p q) (hp : CleanRecords p) {r : Rule} (hr : r.isSettled = true) :
    r.holds (s.withRecords q) = r.holds (s.withRecords p) := by
  unfold Rule.holds
  cases r with
  | record game conditions =>
    have hrecord (p : Dict StatRecord) :
        Rule.recordOf (s.withRecords p) game = (recordIn p game).toJson :=
      Rule.recordOf_mapValues rfl game
    rw [Rule.eval, Rule.eval, hrecord, hrecord, StatRecord.allHold_congr (h.reading game) hr]
  | counts m c bound => rw [Rule.eval, Rule.eval, value_congr s hp (h.clean hp) h.plays]

theorem satisfies_congr (h : ZeroEdit p q) (hp : CleanRecords p) {rule? : String → Option Rule}
    (hrules : ∀ id r, rule? id = some r → r.isSettled = true) :
    (s.withRecords q).satisfies rule? = (s.withRecords p).satisfies rule? := by
  funext id
  unfold satisfies
  cases hid : rule? id with
  | none => rfl
  | some r => exact holds_congr s h hp (hrules id r hid)

/-- Two snapshots in which the same badges are earned, the same challenges are met and all measures
have the same values. -/
structure SameSaid (s t : Snapshot) : Prop where
  badges : t.earnedBadges = s.earnedBadges
  challenges : t.metChallenges = s.metChallenges
  measures : ∀ m : Measure, m.value t = m.value s

/-- One edit changes nothing that rules say. -/
theorem sameSaid_of_edit (h : ZeroEdit p q) (hp : CleanRecords p) :
    SameSaid (s.withRecords p) (s.withRecords q) where
  badges := by
    have hsame : (s.withRecords q).satisfies Badge.rule? =
        (s.withRecords p).satisfies Badge.rule? :=
      satisfies_congr s h hp fun _ _ => Badge.isSettled_of_rule?
    unfold earnedBadges
    rw [hsame]
    rfl
  challenges := by
    have hsame : (s.withRecords q).satisfies Challenge.rule? =
        (s.withRecords p).satisfies Challenge.rule? :=
      satisfies_congr s h hp fun _ _ => Challenge.isSettled_of_rule?
    unfold metChallenges
    rw [hsame]
    rfl
  measures := value_congr s hp (h.clean hp) h.plays

theorem sameSaid_of_edits (hp : CleanRecords p) (h : Relation.ReflTransGen ZeroEdit p q) :
    CleanRecords q ∧ SameSaid (s.withRecords p) (s.withRecords q) := by
  induction h with
  | refl => exact ⟨hp, rfl, rfl, fun _ => rfl⟩
  | tail _ hedit ih =>
    obtain ⟨hclean, hsaid⟩ := ih
    have hstep := sameSaid_of_edit s hedit hclean
    exact ⟨hedit.clean hclean, hstep.badges.trans hsaid.badges,
      hstep.challenges.trans hsaid.challenges, fun m => (hstep.measures m).trans (hsaid.measures m)⟩

/-- The rules for badges and challenges. -/
def tables : List Rule :=
  Badge.catalog.map Badge.Design.rule ++ Challenge.catalog.map Challenge.Design.rule

theorem isSettled_of_mem_tables {r : Rule} (h : r ∈ tables) : r.isSettled = true := by
  rcases List.mem_append.1 h with h | h
  · obtain ⟨d, hd, rfl⟩ := List.mem_map.1 h
    exact Badge.isSettled_of_mem_catalog d hd
  · obtain ⟨d, hd, rfl⟩ := List.mem_map.1 h
    exact Challenge.isSettled_of_mem_catalog d hd

/-- To the rules nothing recorded and zero are the same. Whatever zeros are dropped from cleaned
records, put where nothing is recorded, and whatever records of zeros are dropped or put, the same
badges are earned, the same challenges are met and all measures have the same values. Where lower
results are better, one that is not recorded or zero meets no bound but infinity, and so no
condition of any rule for a badge or a challenge. -/
theorem zeros_are_unrecorded (hp : CleanRecords p)
    (h : Relation.ReflTransGen ZeroEdit p q) :
    (s.withRecords q).earnedBadges = (s.withRecords p).earnedBadges ∧
    (s.withRecords q).metChallenges = (s.withRecords p).metChallenges ∧
    (∀ m : Measure, m.value (s.withRecords q) = m.value (s.withRecords p)) ∧
    ∀ (r : StatRecord) (field : String),
      (∀ n, Dict.get? r field = some n → n.isZero = true) →
      (∀ bound, bound ≠ .float Double.infinity →
        (Condition.best field bound).holds r.toJson = .ok false ∧
        (Condition.bestJust field bound).holds r.toJson = .ok false) ∧
      ∀ rule ∈ tables, ∀ c ∈ rule.conditions, ∀ bound,
        c = .best field bound ∨ c = .bestJust field bound → c.holds r.toJson = .ok false := by
  obtain ⟨-, hbadges, hchallenges, hmeasures⟩ := sameSaid_of_edits s hp h
  refine ⟨hbadges, hchallenges, hmeasures, fun r field hr => ⟨fun bound hbound =>
    StatRecord.holds_best_of_zero hr hbound, fun rule hrule c hc bound hbest => ?_⟩⟩
  have hsettled := Rule.isSettled_of_mem_conditions (isSettled_of_mem_tables hrule) hc
  have hbound : bound ≠ .float Double.infinity := by
    rintro rfl
    rcases hbest with rfl | rfl <;> cases hsettled
  rcases hbest with rfl | rfl
  · exact (StatRecord.holds_best_of_zero hr hbound).1
  · exact (StatRecord.holds_best_of_zero hr hbound).2

/-- The record of a guessing game in which the best score is a zero that stands for none. -/
def guesses : StatRecord := Dict.ofList [("plays", 3), ("bestScore", 0), ("wins", 1)]

theorem zeros_are_unrecorded_guesses :
    let s := (Document.fresh []).snapshot
    let p : Dict StatRecord := Dict.ofList [("number-guess", guesses)]
    let q : Dict StatRecord :=
      Dict.ofList [("number-guess", Dict.ofList [("plays", 3), ("wins", 1), ("coins", 0)]),
        ("chess", Dict.ofList [("plays", 0)])]
    (s.withRecords p).earnedBadges = ["guess_novice"] ∧
    (s.withRecords q).earnedBadges = ["guess_novice"] ∧
    Measure.totalPlays.value (s.withRecords q) = .ok 3 ∧
    (Condition.best "bestScore" 5).holds guesses.toJson = .ok false := by
  intro s p q
  have hclean : CleanRecords p := by decide
  let guessed : StatRecord := Dict.erase guesses "bestScore"
  let p₁ := p.insert "number-guess" guessed
  let p₂ := p₁.insert "number-guess" (Dict.insert guessed "coins" 0)
  have hcoins : guessed.ZeroEdit (Dict.insert guessed "coins" 0) := .put_zero rfl (by decide)
  have hdrop : ZeroEdit p p₁ := .stat rfl (.drop rfl rfl)
  have hput : ZeroEdit p₁ p₂ := .stat rfl hcoins
  have hgame : ZeroEdit p₂ q :=
    .put (r := Dict.ofList [("plays", 0)]) rfl (by decide) (by decide)
  obtain ⟨hbadges, -, hmeasures, hbest⟩ := zeros_are_unrecorded s hclean
    (((Relation.ReflTransGen.single hdrop).tail hput).tail hgame)
  have hearned : (s.withRecords p).earnedBadges = ["guess_novice"] := by decide
  have hplays : Measure.totalPlays.value (s.withRecords p) = .ok 3 := by decide
  refine ⟨hearned, hbadges.trans hearned, (hmeasures .totalPlays).trans hplays, ?_⟩
  refine ((hbest guesses "bestScore" fun n hn => ?_).1 5 nofun).1
  obtain rfl := Option.some.inj hn
  rfl

end Snapshot

end Arcade
