import Arcade.Dashboard.Progress
import Arcade.Proofs.Number.Finite
import Arcade.Proofs.Rule.Unrecorded

/-!
# When progress can be told

Shares of a list can always be told in percent. The best win rate can be told exactly if every win
rate is a double and its hundredfold is finite, also those rates that are not the best: the first
rate above that bound is the best one so far when it is told. Without any wins there is only one
division left that can fail, that of a reaction time; what it gives can always be told.
-/

namespace Arcade.Dashboard

/-! ## Whole percents -/

/-- A double is rounded to an integer unless it is infinite or not a number. -/
theorem returns_roundHalfUp {x : Float} :
    (∃ n, roundHalfUp (.float x) = .ok n) ↔ Double.IsFinite x :=
  Number.returns_toInt_iff.trans Double.isFinite_add_half

/-- The share of a part can be told in percent. -/
theorem returns_percent {part whole : Nat} (h : part ≤ whole) :
    ∃ n, percent part whole = .ok n := by
  unfold percent
  split
  · exact ⟨0, rfl⟩
  · rename_i hwhole
    obtain ⟨x, hx, hfinite⟩ := Double.exists_ofRatio? (Nat.pos_of_ne_zero hwhole)
      (show part * 100 ≤ 100 * whole by omega)
    obtain ⟨n, hn⟩ := returns_roundHalfUp.2 hfinite
    refine ⟨n, bind_eq_ok.2 ⟨x, ?_, hn⟩⟩
    have hpart : ¬ (part : Int) * 100 < 0 := by omega
    have hsize : ((part : Int) * 100).natAbs = part * 100 := by omega
    unfold Number.div
    dsimp only
    rw [decide_eq_false hpart, decide_eq_false (Int.natCast_nonneg whole).not_gt, hsize,
      Int.natAbs_natCast, bne_self_eq_false, hx]

theorem returns_badgeProgress (d : Document) : ∃ s, badgeProgress d = .ok s := by
  obtain ⟨n, hn⟩ := returns_percent (List.countP_le_length (p := (·.unlocked)) (l := d.badges))
  exact ⟨_, bind_eq_ok.2 ⟨n, hn, rfl⟩⟩

theorem returns_challengeProgress (d : Document) : ∃ s, challengeProgress d = .ok s := by
  obtain ⟨n, hn⟩ :=
    returns_percent (List.countP_le_length (p := (·.completed)) (l := d.challenges))
  exact ⟨_, bind_eq_ok.2 ⟨n, hn, rfl⟩⟩

/-! ## Win rates -/

/-- A record whose win rate, if it has one that is positive, can be told in percent. -/
def HasRate (r : StatRecord) : Prop :=
  ∃ rate, winRate? r = .ok rate ∧ ∀ x ∈ rate, 0.0 < x → x < Double.percentLimit

/-- What to beat, once there is something, is a positive rate that can be told. -/
def Told (best : Option Highlight) : Prop :=
  ∀ b ∈ best, ∃ x, b.metric = .float x ∧ 0.0 < x ∧ x < Double.percentLimit

variable {best found : Option Highlight} {entries : List (String × StatRecord)}

/-- The rate to beat. -/
theorem Told.bound (h : Told best) :
    ∃ y, (best.map Highlight.metric).getD (.float 0.0) = .float y ∧ y < Double.percentLimit ∧
      ∀ x, y < x → 0.0 < x := by
  cases best with
  | none => exact ⟨0.0, rfl, by decide, fun x hx => hx⟩
  | some b =>
    obtain ⟨y, hy, hpos, hlt⟩ := h b rfl
    exact ⟨y, hy, hlt, fun x hx => Double.lt_trans hpos hx⟩

theorem hasRate_iff {r : StatRecord} {rate : Option Float} (h : winRate? r = .ok rate) :
    HasRate r ↔ ∀ x ∈ rate, 0.0 < x → x < Double.percentLimit := by
  constructor
  · rintro ⟨rate', h', hall⟩
    rw [h] at h'
    obtain rfl := Except.ok.inj h'
    exact hall
  · exact fun hall => ⟨rate, h, hall⟩

theorem returns_percentOf {x : Float} (h : 0.0 < x) :
    (∃ n, roundHalfUp (.float (x * 100.0)) = .ok n) ↔ x < Double.percentLimit :=
  returns_roundHalfUp.trans (Double.isFinite_mul_hundred h)

/-- The best win rate is found exactly if every win rate can be told. -/
theorem returns_bestWinRate (hbest : Told best) :
    (∃ found, bestWinRate best entries = .ok found) ↔ ∀ e ∈ entries, HasRate e.2 := by
  induction entries generalizing best with
  | nil => exact iff_of_true ⟨best, rfl⟩ nofun
  | cons e rest ih =>
    obtain ⟨game, r⟩ := e
    rw [List.forall_mem_cons]
    cases hr : winRate? r with
    | error f =>
      refine iff_of_false ?_ fun h => ?_
      · rintro ⟨found, hfound⟩
        rw [bestWinRate, hr] at hfound
        cases hfound
      · obtain ⟨rate, hrate, -⟩ := h.1
        rw [hr] at hrate
        cases hrate
    | ok rate =>
      rw [bestWinRate, hr, hasRate_iff hr]
      cases rate with
      | none => exact (ih hbest).trans (and_iff_right nofun).symm
      | some x =>
        obtain ⟨y, hy, hlt, hpos⟩ := hbest.bound
        -- Only a rate above the best one so far is told as a percentage, which fails beyond the
        -- limit. The other rates are within it as the best one is.
        simp only [bind, Except.bind, hy, Number.lt_float, decide_eq_true_iff, Option.mem_def,
          Option.some.injEq, forall_eq']
        split
        · rename_i hyx
          have hx := hpos x hyx
          by_cases hl : x < Double.percentLimit
          · obtain ⟨n, hn⟩ := (returns_percentOf hx).2 hl
            rw [hn]
            refine (ih ?_).trans (and_iff_right fun _ => hl).symm
            rintro b hb
            obtain rfl := Option.some.inj hb
            exact ⟨x, rfl, hx, hl⟩
          · refine iff_of_false ?_ fun h => hl (h.1 hx)
            rintro ⟨found, hfound⟩
            obtain ⟨n, hn, -⟩ := bind_eq_ok.1 hfound
            exact hl ((returns_percentOf hx).1 ⟨n, hn⟩)
        · rename_i hyx
          exact (ih hbest).trans (and_iff_right (Double.lt_of_not_lt hyx hlt)).symm

/-- Nothing is found exactly if there is no positive win rate. -/
theorem bestWinRate_eq_none (h : bestWinRate best entries = .ok found) :
    found = none ↔ best = none ∧
      ∀ e ∈ entries, ∀ x, winRate? e.2 = .ok (some x) → ¬ 0.0 < x := by
  induction entries generalizing best with
  | nil =>
    obtain rfl := Except.ok.inj h
    exact (and_iff_left nofun).symm
  | cons e rest ih =>
    obtain ⟨game, r⟩ := e
    rw [List.forall_mem_cons]
    obtain ⟨rate, hr, h⟩ := bind_eq_ok.1 h
    rw [hr]
    cases rate with
    | none =>
      rw [ih h]
      simp
    | some x =>
      -- As long as nothing is found, a rate is compared with nought.
      have hfirst (hnone : best = none) :
          ((best.map Highlight.metric).getD (.float 0.0)).lt (.float x) = decide (0.0 < x) := by
        rw [hnone]
        exact Number.lt_float 0.0 x
      dsimp only at h
      split at h
      · rename_i hlt
        obtain ⟨n, -, h⟩ := bind_eq_ok.1 h
        rw [ih h]
        refine iff_of_false (fun hnone => nomatch hnone.1) fun hnone => ?_
        rw [hfirst hnone.1, decide_eq_true_iff] at hlt
        exact hnone.2.1 x rfl hlt
      · rename_i hlt
        rw [ih h]
        refine and_congr_right fun hnone => (and_iff_right ?_).symm
        rw [hfirst hnone, decide_eq_true_iff] at hlt
        intro y hy
        obtain rfl := Option.some.inj (Except.ok.inj hy)
        exact hlt

/-! ## Games without wins -/

theorem unsigned_bestTime {r : StatRecord} (h : r.Clean) : (stat r "bestTime").Unsigned := by
  unfold stat
  cases hn : Dict.get? r "bestTime" with
  | none => exact Int.le_refl 0
  | some n =>
    have hkept := h _ (Dict.mem_entries_of_get? hn)
    cases n with
    | int k => exact (StatRecord.soundStat_of_clean? hkept).2.1 k rfl
    | float x => exact StatRecord.unsigned_of_kept (Option.some.inj hkept)

/-- A reaction speed can be told, whatever the time. -/
theorem returns_speed {time : Float} (h : Double.Unsigned time) :
    ∃ n, roundHalfUp (Number.max 0 (.float (100.0 - time))) = .ok n := by
  have hzero : roundHalfUp 0 = .ok 0 := by rfl
  unfold Number.max
  split
  · rename_i hlt
    rcases Double.hundred_sub_cases (Double.hasPlus_unpack h) with hfinite | hnan | hinfinite
    · exact returns_roundHalfUp.2 hfinite
    · rw [hnan] at hlt
      exact absurd hlt (by decide)
    · rw [hinfinite] at hlt
      exact absurd hlt (by decide)
  · exact ⟨0, hzero⟩

theorem hundred_sub (x : Float) : (Number.int 100).sub (.float x) = .ok (.float (100.0 - x)) := by
  have hhundred : (Number.int 100).toDouble = .ok 100.0 := by decide
  change (do return Number.float ((← (Number.int 100).toDouble) - x)) = _
  rw [hhundred]
  rfl

/-- A product with an integer in the range of doubles is a number. -/
theorem returns_mul (n : Number) {k : Int} {y : Float} (hk : (Number.int k).toDouble = .ok y) :
    ∃ m, n.mul (.int k) = .ok m := by
  cases n with
  | int i => exact ⟨_, rfl⟩
  | float x =>
    refine ⟨.float (x * y), ?_⟩
    change (do return Number.float (x * (← (Number.int k).toDouble))) = _
    rw [hk]
    rfl

theorem returns_div_of_isZero {n : Number} (h : n.isZero = true) : ∃ x, n.div 5 = .ok x := by
  have hfive : (Number.int 5).toDouble = .ok 5.0 := by decide
  cases n with
  | int k =>
    rw [Number.isZero, show (0 : Number) = .int 0 from rfl, Number.same_int,
      decide_eq_true_iff] at h
    subst h
    exact ⟨_, rfl⟩
  | float x =>
    refine ⟨x / 5.0, ?_⟩
    change (do return x / (← (Number.int 5).toDouble)) = _
    rw [hfive]
    rfl

/-- A game that is measured by the multiple of a stat has words for it. -/
theorem measured_mul (n : Number) {k : Int} {y : Float} (hk : (Number.int k).toDouble = .ok y)
    (words : String) : ∃ m : Option (Number × Except Fault String),
      (if n.isZero then .ok none
        else (n.mul (.int k) >>= fun metric => pure (metric, .ok words)) >>= fun p =>
          pure (some p)) = Except.ok (ε := Fault) m ∧ ∀ p ∈ m, ∃ w, p.2 = .ok w := by
  obtain ⟨product, hproduct⟩ := returns_mul n hk
  split
  · exact ⟨none, rfl, nofun⟩
  · rw [hproduct]
    refine ⟨_, rfl, fun p hp => ?_⟩
    obtain rfl := Option.some.inj hp
    exact ⟨words, rfl⟩

/-- Only the division of a reaction time can fail in a game without wins, and whatever is measured
can be told. -/
theorem specialMetric?_told (game : String) {r : StatRecord} (h : r.Clean) :
    ((∃ m, specialMetric? game r = .ok m) ↔
      (game = "reaction-speed" → ∃ time, (stat r "bestTime").div 5 = .ok time)) ∧
    ∀ m, specialMetric? game r = .ok m → ∀ p ∈ m, ∃ w, p.2 = .ok w := by
  have measured {x : Except Fault (Option (Number × Except Fault String))}
      (hx : ∃ m, x = .ok m ∧ ∀ p ∈ m, ∃ w, p.2 = .ok w) (hgame : game ≠ "reaction-speed") :
      ((∃ m, x = .ok m) ↔
        (game = "reaction-speed" → ∃ time, (stat r "bestTime").div 5 = .ok time)) ∧
      ∀ m, x = .ok m → ∀ p ∈ m, ∃ w, p.2 = .ok w := by
    obtain ⟨m, rfl, hm⟩ := hx
    refine ⟨iff_of_true ⟨m, rfl⟩ fun he => absurd he hgame, fun m' he => ?_⟩
    rwa [← Except.ok.inj he]
  -- The reaction time is the one measure with a division.
  unfold specialMetric?
  dsimp only
  split
  · rename_i hgame
    rw [forall_prop_of_true hgame]
    split
    · rename_i hzero
      refine ⟨iff_of_true ⟨none, rfl⟩ (returns_div_of_isZero hzero), fun m hm => ?_⟩
      obtain rfl := Except.ok.inj hm
      exact nofun
    · cases htime : (stat r "bestTime").div 5 with
      | error f => exact ⟨iff_of_false nofun nofun, nofun⟩
      | ok time =>
        have hfive : Number.Unsigned 5 := (by decide : (0 : Int) ≤ 5)
        obtain ⟨n, hn⟩ := returns_speed ((unsigned_bestTime h).div hfive htime)
        simp only [bind, Except.bind, hundred_sub, hn]
        refine ⟨iff_of_true ⟨_, rfl⟩ ⟨time, rfl⟩, fun m hm p hp => ?_⟩
        obtain rfl := Except.ok.inj hm
        obtain rfl := Option.some.inj hp
        exact ⟨_, rfl⟩
  · rename_i hgame
    split
    · exact measured (measured_mul _ (k := 25) (y := 25.0) (by decide) _) hgame
    · split
      · exact measured (measured_mul _ (k := 20) (y := 20.0) (by decide) _) hgame
      · exact measured ⟨none, rfl, nofun⟩ hgame

/-- The best result of the games without wins is found exactly if the reaction time is one. -/
theorem returns_bestSpecial (h : ∀ e ∈ entries, StatRecord.Clean e.2) :
    (∃ found, bestSpecial best entries = .ok found) ↔ ∀ e ∈ entries, e.1 = "reaction-speed" →
      ∃ time, (stat e.2 "bestTime").div 5 = .ok time := by
  induction entries generalizing best with
  | nil => exact iff_of_true ⟨best, rfl⟩ nofun
  | cons e rest ih =>
    obtain ⟨game, r⟩ := e
    rw [List.forall_mem_cons] at h ⊢
    obtain ⟨hmetric, hwords⟩ := specialMetric?_told game h.1
    cases hm : specialMetric? game r with
    | error f =>
      refine iff_of_false ?_ fun hall => ?_
      · rintro ⟨found, hfound⟩
        rw [bestSpecial, hm] at hfound
        cases hfound
      · obtain ⟨m, hm'⟩ := hmetric.2 hall.1
        rw [hm] at hm'
        cases hm'
    | ok m =>
      refine Iff.trans ?_ (and_iff_right (hmetric.1 ⟨m, hm⟩)).symm
      rw [bestSpecial, hm]
      cases m with
      | none => exact ih h.2
      | some p =>
        obtain ⟨w, hw⟩ := hwords _ hm p rfl
        simp only [bind, Except.bind, hw]
        split <;> exact ih h.2

/-! ## The best performance -/

/-- The best performance is told exactly if every win rate can be told and, if none is positive,
the reaction times can be divided. -/
theorem returns_bestPerformance {d : Document}
    (h : ∀ e ∈ d.progress.entries, StatRecord.Clean e.2) :
    (∃ words, bestPerformance d = .ok words) ↔ (∀ e ∈ d.progress.entries, HasRate e.2) ∧
      ((∃ e ∈ d.progress.entries, ∃ x, winRate? e.2 = .ok (some x) ∧ 0.0 < x) ∨
        ∀ e ∈ d.progress.entries, e.1 = "reaction-speed" →
          ∃ time, (stat e.2 "bestTime").div 5 = .ok time) := by
  have hrates : (∃ found, bestWinRate none d.progress.entries = .ok found) ↔
      ∀ e ∈ d.progress.entries, HasRate e.2 := returns_bestWinRate nofun
  have hspecial : (∃ found, bestSpecial none d.progress.entries = .ok found) ↔ _ :=
    returns_bestSpecial h
  cases hbest : bestWinRate none d.progress.entries with
  | error f =>
    refine iff_of_false ?_ fun hall => ?_
    · rintro ⟨words, hwords⟩
      rw [bestPerformance, hbest] at hwords
      cases hwords
    · obtain ⟨found, hfound⟩ := hrates.2 hall.1
      rw [hbest] at hfound
      cases hfound
  | ok found =>
    have hnone := bestWinRate_eq_none hbest
    refine Iff.trans ?_ (and_iff_right (hrates.1 ⟨found, hbest⟩)).symm
    rw [bestPerformance, hbest]
    cases found with
    | some b =>
      refine iff_of_true ⟨b.words, rfl⟩ (.inl ?_)
      -- What was found is a positive rate.
      by_contra hno
      refine absurd (hnone.2 ⟨rfl, fun e he x hx hpos => hno ⟨e, he, x, hx, hpos⟩⟩) nofun
    | none =>
      have hno : ¬ ∃ e ∈ d.progress.entries, ∃ x, winRate? e.2 = .ok (some x) ∧ 0.0 < x := by
        rintro ⟨e, he, x, hx, hpos⟩
        exact (hnone.1 rfl).2 e he x hx hpos
      rw [or_iff_right hno, ← hspecial]
      constructor
      · rintro ⟨words, hwords⟩
        obtain ⟨rate, hrate, hwords⟩ := bind_eq_ok.1 hwords
        obtain rfl := Except.ok.inj hrate
        obtain ⟨found, hfound, -⟩ := bind_eq_ok.1 hwords
        exact ⟨found, hfound⟩
      · rintro ⟨found, hfound⟩
        cases found with
        | none => exact ⟨_, bind_eq_ok.2 ⟨none, rfl, bind_eq_ok.2 ⟨_, hfound, rfl⟩⟩⟩
        | some b => exact ⟨_, bind_eq_ok.2 ⟨none, rfl, bind_eq_ok.2 ⟨_, hfound, rfl⟩⟩⟩

end Arcade.Dashboard
