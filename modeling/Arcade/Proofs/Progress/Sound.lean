import Arcade.Ledger.Opening
import Arcade.Proofs.Progress.Decoding

/-!
# Sound documents

In a sound document all stats have known names, integers among them are not negative, and no badge
of the catalog and no registered game is missing. Whatever is read from outside has sound records,
and what it lacks is added. A sound document whose counters are integers is read back as it is, and
there is nothing to add to it.
-/

namespace Arcade

namespace StatRecord

/-- What is known of every stat: its name, and that it is not negative, as far as it can be told
without rounding. -/
def SoundStat (name : String) (n : Number) : Prop :=
  name ∈ fields ∧ (∀ k, n = .int k → 0 ≤ k) ∧ (name ∈ fractional → atLeastZero n = n)

/-- A record in which all stats are sound. -/
def Sound (r : StatRecord) : Prop := ∀ e ∈ r.entries, SoundStat e.1 e.2

theorem atLeastZero_int_of_nonneg {k : Int} (h : 0 ≤ k) : atLeastZero (.int k) = .int k := by
  have hk : Number.lt (.int k) 0 = false := by
    rw [show (0 : Number) = .int 0 from rfl, Number.lt_int]
    exact decide_eq_false (Int.not_lt.2 h)
  rw [atLeastZero, hk]
  rfl

theorem nonneg_of_atLeastZero {n : Number} {k : Int} (h : atLeastZero n = .int k) : 0 ≤ k := by
  unfold atLeastZero at h
  split at h
  · obtain rfl := Number.int.inj h
    exact Int.le_refl 0
  · rename_i hn
    subst h
    rw [show (0 : Number) = .int 0 from rfl, Number.lt_int] at hn
    exact Int.not_lt.1 fun hk => hn (decide_eq_true hk)

theorem atLeastZero_atLeastZero (n : Number) : atLeastZero (atLeastZero n) = atLeastZero n := by
  by_cases h : n.lt 0 = true
  · have hz : atLeastZero n = 0 := if_pos h
    rw [hz]
    exact atLeastZero_int_of_nonneg (Int.le_refl 0)
  · have hn : atLeastZero n = n := if_neg h
    rw [hn, hn]

/-- A negative double is below zero. -/
theorem lt_zero_of_meaning {x : Float} {mantissa : Nat} {exponent : Int}
    (hm : Double.meaning x = .finite true mantissa exponent)
    (hpos : 0 < (Double.scaleByTwo mantissa 1 exponent).1) : Number.lt (.float x) 0 = true := by
  have hcmp : Number.compare? (.float x) 0 = some .lt := by
    change (Number.compareIntDouble 0 x).map Ordering.swap = _
    rw [Number.compareIntDouble, hm]
    dsimp only
    generalize Double.scaleByTwo mantissa 1 exponent = p at hpos ⊢
    have hlt : ¬ (0 : Int) * p.2 < -(p.1 : Int) := by omega
    have heq : ¬ (0 : Int) * p.2 = -(p.1 : Int) := by omega
    simp only [if_true, compare, compareOfLessAndEq, if_neg hlt, if_neg heq]
    rfl
  rw [Number.lt, hcmp]
  rfl

/-- A double that is not negative has no negative integer part. -/
theorem truncate?_nonneg {x : Float} {k : Int} (h : Number.lt (.float x) 0 = false)
    (hk : Double.truncate? x = some k) : 0 ≤ k := by
  unfold Double.truncate? at hk
  cases hm : Double.meaning x with
  | nan => rw [hm] at hk; cases hk
  | infinite negative => rw [hm] at hk; cases hk
  | finite negative mantissa exponent =>
    have hneg (hm : Double.meaning x = .finite true mantissa exponent)
        (hpos : 0 < (Double.scaleByTwo mantissa 1 exponent).1) := lt_zero_of_meaning hm hpos
    rw [hm] at hk hneg
    dsimp only at hk
    generalize Double.scaleByTwo mantissa 1 exponent = p at hk hneg
    cases negative with
    | false =>
      obtain rfl := Option.some.inj hk
      exact Int.natCast_nonneg (p.1 / p.2)
    | true =>
      have hnum : p.1 = 0 := Nat.eq_zero_of_not_pos fun hpos => by
        rw [hneg rfl hpos] at h
        cases h
      rw [hnum, Nat.zero_div] at hk
      obtain rfl := Option.some.inj hk
      exact Int.le_refl 0

theorem nonneg_of_whole {n : Number} {k : Int} (h : whole (atLeastZero n) = .int k) : 0 ≤ k := by
  cases ha : atLeastZero n with
  | int m =>
    rw [ha] at h
    obtain rfl := Number.int.inj h
    exact nonneg_of_atLeastZero ha
  | float x =>
    have hx : Number.lt (.float x) 0 = false := by
      unfold atLeastZero at ha
      split at ha
      · cases ha
      · rename_i hn
        rw [← ha]
        exact Bool.eq_false_iff.2 hn
    rw [ha, whole] at h
    split at h
    · obtain rfl := Number.int.inj h
      cases ht : Double.truncate? x with
      | none => exact Int.le_refl 0
      | some m => exact truncate?_nonneg hx ht
    · cases h

/-- Every stat that cleaning keeps is sound. -/
theorem soundStat_of_clean? {name : String} {v : Json} {n : Number}
    (h : clean? name v = some n) : SoundStat name n := by
  unfold clean? at h
  split at h
  · rename_i hname
    split at h
    · rename_i m
      obtain rfl := Option.some.inj h
      refine ⟨hname, fun k hk => ?_, fun hf => ?_⟩
      · split at hk
        · exact nonneg_of_atLeastZero hk
        · exact nonneg_of_whole hk
      · rw [if_pos hf]
        exact atLeastZero_atLeastZero m
    · cases h
  · cases h

/-- Sound stats that are integers, or may have a fraction, are kept by cleaning. -/
theorem clean?_of_soundStat {name : String} {n : Number} (h : SoundStat name n)
    (hn : name ∈ fractional ∨ ∃ k, n = .int k) : clean? name (.num n) = some n := by
  obtain ⟨hname, hint, hfrac⟩ := h
  rw [clean?, if_pos hname]
  by_cases hf : name ∈ fractional
  · simp only [if_pos hf, hfrac hf]
  · obtain ⟨k, rfl⟩ := hn.resolve_left hf
    simp only [if_neg hf, atLeastZero_int_of_nonneg (hint k rfl), whole]

/-! ## Sound records -/

theorem sound_ofEntries (entries : List (String × Json)) : (ofEntries entries).Sound := by
  intro e he
  obtain ⟨x, -, hx⟩ := List.mem_filterMap.1 (Dict.mem_entries_ofList he)
  obtain ⟨n, hn, rfl⟩ := Option.map_eq_some_iff.1 hx
  exact soundStat_of_clean? hn

/-- A record from outside is sound once it is cleaned. -/
theorem sound_ofJson (v : Json) : (ofJson v).Sound := by
  cases v with
  | obj members => exact sound_ofEntries members
  | _ => exact fun e he => nomatch he

variable {r more : StatRecord}

theorem Sound.insert (h : r.Sound) {name : String} {n : Number} (hn : SoundStat name n) :
    Sound (Dict.insert r name n) := by
  intro e he
  rcases Dict.mem_entries_insert he with rfl | he
  · exact hn
  · exact h e he

theorem Sound.insertAll (h : r.Sound) (h' : more.Sound) :
    Sound (Dict.insertAll r more.entries) := by
  intro e he
  rcases Dict.mem_entries_insertAll he with he | he
  · exact h' e he
  · exact h e he

/-- A stat that is looked up is sound, also where zero stands for none. -/
theorem Sound.stat (h : r.Sound) {name : String} (hn : name ∈ fields) :
    SoundStat name ((Dict.get? r name).getD 0) := by
  cases hg : Dict.get? r name with
  | some n => exact h (name, n) (Dict.mem_entries_of_get? hg)
  | none =>
    refine ⟨hn, fun k hk => ?_, fun _ => rfl⟩
    obtain rfl := Number.int.inj hk
    exact Int.le_refl 0

/-- The stats that a player starts with are sound. -/
theorem sound_startRecord {g : Game} (hg : g ∈ Game.registry) :
    Sound (Document.startRecord g) := by
  have hall : ∀ g ∈ Game.registry, ∀ e ∈ g.defaults, e.1 ∈ fields ∧ 0 ≤ e.2 := by decide
  intro e he
  obtain ⟨x, hx, rfl⟩ := List.mem_map.1 (Dict.mem_entries_ofList he)
  obtain ⟨hname, hpos⟩ := hall g hg x hx
  exact ⟨hname, fun k hk => Number.int.inj hk ▸ hpos, fun _ => atLeastZero_int_of_nonneg hpos⟩

end StatRecord

/-! ## Sound documents -/

namespace Document

open StatRecord

/-- A document with sound stats, all badges of the catalog and all registered games. -/
structure Sound (d : Document) : Prop where
  records : ∀ e ∈ d.progress.entries, StatRecord.Sound e.2
  badges : ∀ b ∈ Badge.fresh, b.id ∈ d.badges.map Badge.id
  games : ∀ g ∈ Game.registry, g.id ∈ d.progress.names

/-- Whether all counters are integers. -/
def WholeStats (d : Document) : Prop :=
  ∀ e ∈ d.progress.entries, ∀ f ∈ Dict.entries e.2, f.1 ∈ fractional ∨ ∃ k, f.2 = .int k

instance (n : Number) : Decidable (∃ k, n = .int k) :=
  match n with
  | .int k => .isTrue ⟨k, rfl⟩
  | .float _ => .isFalse nofun

instance (d : Document) : Decidable d.WholeStats :=
  inferInstanceAs (Decidable (∀ e ∈ d.progress.entries, ∀ f ∈ Dict.entries e.2, _))

/-- A sound document whose counters are integers is read back as it is. -/
theorem Sound.ofJson_toJson {d : Document} (h : d.Sound) (hw : d.WholeStats) :
    ofJson d.toJson = .ok d :=
  Document.ofJson_toJson fun e he f hf =>
    clean?_of_soundStat (h.records e he f hf) (hw e he f hf)

/-! ### Adding what is missing -/

/-- The records with those of some games that are missing. -/
def addGames (gs : List Game) (progress : Dict StatRecord) : Dict StatRecord :=
  gs.foldl (fun progress g => progress.insertNew g.id (startRecord g)) progress

theorem addGames_eq_self {gs : List Game} {progress : Dict StatRecord}
    (h : ∀ g ∈ gs, g.id ∈ progress.names) : addGames gs progress = progress := by
  induction gs with
  | nil => rfl
  | cons g rest ih =>
    rw [addGames, List.foldl_cons, Dict.insertNew_of_mem (h g List.mem_cons_self)]
    exact ih fun x hx => h x (List.mem_cons_of_mem g hx)

theorem mem_names_addGames {gs : List Game} {progress : Dict StatRecord} {name : String} :
    name ∈ (addGames gs progress).names ↔ name ∈ progress.names ∨ name ∈ gs.map Game.id := by
  induction gs generalizing progress with
  | nil => exact ⟨.inl, fun h => h.resolve_right (fun h => nomatch h)⟩
  | cons g rest ih =>
    rw [addGames, List.foldl_cons, ← addGames, ih, Dict.names_insertNew, List.map_cons,
      List.mem_cons, or_assoc, or_left_comm]

theorem mem_entries_addGames {gs : List Game} {progress : Dict StatRecord}
    {e : String × StatRecord} (h : e ∈ (addGames gs progress).entries) :
    e ∈ progress.entries ∨ ∃ g ∈ gs, e = (g.id, startRecord g) := by
  induction gs generalizing progress with
  | nil => exact .inl h
  | cons g rest ih =>
    rcases ih h with h | ⟨x, hx, rfl⟩
    · rcases Dict.mem_entries_insertNew h with rfl | h
      · exact .inr ⟨g, List.mem_cons_self, rfl⟩
      · exact .inl h
    · exact .inr ⟨x, List.mem_cons_of_mem g hx, rfl⟩

theorem sound_addGames {progress : Dict StatRecord}
    (h : ∀ e ∈ progress.entries, StatRecord.Sound e.2) :
    ∀ e ∈ (addGames Game.registry progress).entries, StatRecord.Sound e.2 := by
  intro e he
  rcases mem_entries_addGames he with he | ⟨g, hg, rfl⟩
  · exact h e he
  · exact sound_startRecord hg

/-- The badges of the catalog that a list lacks. -/
def lackedBadges (badges : List Badge) : List Badge :=
  Badge.fresh.filter fun b => b.id ∉ badges.map Badge.id

theorem mem_lackedBadges {badges : List Badge} {b : Badge} :
    b ∈ lackedBadges badges ↔ b ∈ Badge.fresh ∧ b.id ∉ badges.map Badge.id := by
  rw [lackedBadges, List.mem_filter, decide_eq_true_iff]

theorem withCatalog_eq (d : Document) : d.withCatalog =
    { d with
      badges := d.badges ++ lackedBadges d.badges
      progress := addGames Game.registry d.progress } := by
  unfold withCatalog lackedBadges addGames
  rfl

/-- A document with sound records is sound with what it lacks. -/
theorem sound_withCatalog {d : Document} (h : ∀ e ∈ d.progress.entries, StatRecord.Sound e.2) :
    d.withCatalog.Sound := by
  rw [withCatalog_eq]
  refine ⟨fun e he => ?_, fun b hb => ?_, fun g hg => ?_⟩
  · exact sound_addGames h e he
  · rw [List.map_append, List.mem_append]
    by_cases hd : b.id ∈ d.badges.map Badge.id
    · exact .inl hd
    · exact .inr (List.mem_map_of_mem (mem_lackedBadges.2 ⟨hb, hd⟩))
  · dsimp only
    rw [mem_names_addGames]
    exact .inr (List.mem_map_of_mem hg)

/-- Nothing is added to a sound document. -/
theorem Sound.withCatalog_eq {d : Document} (h : d.Sound) : d.withCatalog = d := by
  have hnone : lackedBadges d.badges = [] := by
    refine List.eq_nil_iff_forall_not_mem.2 fun b hb => ?_
    obtain ⟨hfresh, hd⟩ := mem_lackedBadges.1 hb
    exact hd (h.badges b hfresh)
  rw [Document.withCatalog_eq, hnone, List.append_nil, addGames_eq_self h.games]

end Document

end Arcade
