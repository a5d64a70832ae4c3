import Arcade.Proofs.Json.Showing
import Arcade.Proofs.Progress.Decoding

/-!
# Documents are legible

What is read from a legible value is written as a legible value. What was kept of the value stays as
deep inside as it was. Names are kept or are those of a record, a count has no more digits than the
number or the text which it was read from, and a double without its fraction is far from the limit.
-/

namespace Arcade

open Json

/-! ## Numbers -/

namespace Json

/-- A double without its fraction has few digits. -/
theorem isShort_of_truncate? {x : Float} {k : Int} (h : Double.truncate? x = some k) :
    IsShort k.natAbs := by
  unfold Double.truncate? at h
  cases hm : Double.meaning x with
  | nan => rw [hm] at h; cases h
  | infinite negative => rw [hm] at h; cases h
  | finite negative mantissa exponent =>
    rw [hm] at h
    obtain rfl := Option.some.inj h
    have hn := (Double.of_meaning_finite hm).1
    have hsize : (Double.scaleByTwo mantissa 1 exponent).1 ≤ mantissa * 2 ^ exponent.toNat := by
      unfold Double.scaleByTwo
      split
      · exact Nat.le_refl _
      · exact Nat.le_mul_of_pos_right _ (Nat.pow_pos (by decide))
    have hlimit : 53 + exponent.toNat ≤ Number.digitLimit := by
      have := hn.exponent_le
      unfold Number.digitLimit
      omega
    rw [natAbs_signed, isShort_iff]
    calc _ ≤ (Double.scaleByTwo mantissa 1 exponent).1 := Nat.div_le_self _ _
      _ ≤ mantissa * 2 ^ exponent.toNat := hsize
      _ < 2 ^ 53 * 2 ^ exponent.toNat :=
        Nat.mul_lt_mul_of_pos_right hn.mantissa_lt (Nat.pow_pos (by decide))
      _ = 2 ^ (53 + exponent.toNat) := (Nat.pow_add 2 53 _).symm
      _ ≤ 10 ^ (53 + exponent.toNat) := Nat.pow_le_pow_left (by decide) _
      _ ≤ 10 ^ Number.digitLimit := Nat.pow_le_pow_right (by decide) hlimit

theorem isShort_of_readInt {s : String} {n : Int} (h : Number.readInt s = .ok n) :
    IsShort n.natAbs := by
  unfold Number.readInt at h
  split at h
  · cases h
  · dsimp only at h
    split at h
    · rename_i hdigits
      cases h
      rw [natAbs_signed]
      exact (length_toDigits_le hdigits.1 (List.all_eq_true.1 hdigits.2.1)).trans hdigits.2.2
    · cases h

theorem isShort_of_legible {room : Nat} {n : Int} (h : Legible room (.num (.int n))) :
    IsShort n.natAbs := by
  cases h
  assumption

theorem isShort_zero : IsShort 0 := isShort_iff.2 (Nat.pow_pos (by decide))

/-- The integer that a legible value stands for has no more digits than are read. -/
theorem isShort_of_toInt {room : Nat} {v : Json} {n : Int} (hv : Legible room v)
    (h : v.toInt = .ok n) : IsShort n.natAbs := by
  cases hv with
  | null => cases h
  | arr => cases h
  | obj => cases h
  | bool b =>
    have hone : IsShort 1 := isShort_iff.2 (Nat.one_lt_pow (by decide) (by decide))
    cases b <;> cases h
    · exact isShort_zero
    · exact hone
  | int hs =>
    cases h
    exact hs
  | str _ => exact isShort_of_readInt h
  | float x =>
    change Number.toInt (.float x) = .ok n at h
    simp only [Number.toInt] at h
    split at h
    · cases h
    · cases h
    · cases h
      cases ht : Double.truncate? x with
      | none => exact isShort_zero
      | some k => exact isShort_of_truncate? ht

theorem legible_of_mem {room : Nat} {members : List (String × Json)}
    (h : Legible (room + 1) (.obj members)) {e : String × Json} (he : e ∈ members) :
    Text.rejoined e.1 = e.1 ∧ Legible room e.2 := by
  cases h with
  | obj hn hall => exact ⟨hn.plain e he, hall e he⟩

theorem legible_valueAt? {room : Nat} {members : List (String × Json)}
    (h : Legible (room + 1) (.obj members)) {name : String} {x : Json}
    (hx : valueAt? name members = some x) : Legible room x :=
  (legible_of_mem h (mem_of_valueAt? hx)).2

theorem legible_getD {room : Nat} {members : List (String × Json)}
    (h : Legible (room + 1) (.obj members)) (name : String) {x : Json} (hx : Legible room x) :
    Legible room ((valueAt? name members).getD x) := by
  cases hv : valueAt? name members with
  | none => exact hx
  | some y => exact legible_valueAt? h hv

/-- An object with the names of a dictionary. -/
theorem legible_dict {α : Type} {room : Nat} {d : Dict α} {f : α → Json}
    (hn : ∀ e ∈ d.entries, Text.rejoined e.1 = e.1) (h : ∀ e ∈ d.entries, Legible room (f e.2)) :
    Legible (room + 1) (.obj (d.entries.map fun e => (e.1, f e.2))) := by
  refine .obj ⟨fun e he => ?_, ?_⟩ fun e he => ?_
  · obtain ⟨x, hx, rfl⟩ := List.mem_map.1 he
    exact hn x hx
  · rw [List.map_map]
    exact d.distinct
  · obtain ⟨x, hx, rfl⟩ := List.mem_map.1 he
    exact h x hx

end Json

/-! ## Stat records -/

namespace StatRecord

theorem isShort_of_atLeastZero {n : Number} {k : Int} (h : atLeastZero n = .int k)
    (hn : ∀ i, n = .int i → IsShort i.natAbs) : IsShort k.natAbs := by
  unfold atLeastZero at h
  split at h
  · cases h
    exact isShort_zero
  · exact hn k h

/-- A stat that is kept has no more digits than are read. -/
theorem isShort_of_clean? {room : Nat} {name : String} {v : Json} {k : Int} (hv : Legible room v)
    (h : clean? name v = some (.int k)) : IsShort k.natAbs := by
  unfold clean? at h
  split at h
  · split at h
    · rename_i n
      have hn : ∀ i, n = .int i → IsShort i.natAbs := fun i hi => isShort_of_legible (hi ▸ hv)
      have h := Option.some.inj h
      split at h
      · exact isShort_of_atLeastZero h hn
      · unfold whole at h
        split at h
        · rename_i i hi
          cases h
          exact isShort_of_atLeastZero hi hn
        · rename_i x hx
          split at h
          · cases h
            cases ht : Double.truncate? x with
            | none => exact isShort_zero
            | some i => exact isShort_of_truncate? ht
          · cases h
    · cases h
  · cases h

theorem mem_fields_of_clean? {name : String} {v : Json} {n : Number} (h : clean? name v = some n) :
    name ∈ fields := by
  unfold clean? at h
  split at h
  · assumption
  · cases h

theorem rejoined_field {name : String} (h : name ∈ fields) : Text.rejoined name = name := by
  have hplain : fields.all Text.isPlain = true := by decide
  exact Text.rejoined_of_isPlain (List.all_eq_true.1 hplain name h)

/-- What a record keeps of a legible value is written as a legible value. -/
theorem legible_toJson {room k : Nat} {v : Json} (h : Legible (room + 1) v) :
    Legible (k + 1) (ofJson v).toJson := by
  cases v with
  | obj members =>
    have hkept : ∀ e ∈ (ofEntries members).entries,
        ∃ x, Legible room x ∧ clean? e.1 x = some e.2 := by
      intro e he
      obtain ⟨x, hx, hkept⟩ := List.mem_filterMap.1 (Dict.mem_entries_ofList he)
      obtain ⟨n, hn, rfl⟩ := Option.map_eq_some_iff.1 hkept
      exact ⟨x.2, (legible_of_mem h hx).2, hn⟩
    refine legible_dict (f := Json.num) (fun e he => ?_) fun e he => ?_
    · obtain ⟨x, -, hx⟩ := hkept e he
      exact rejoined_field (mem_fields_of_clean? hx)
    · obtain ⟨x, hl, hx⟩ := hkept e he
      cases hn : e.2 with
      | int i => exact .int (isShort_of_clean? hl (hn ▸ hx))
      | float y => exact .float y
  | _ => exact legible_dict (f := Json.num) (List.forall_mem_nil _) (List.forall_mem_nil _)

end StatRecord

/-! ## Tallies -/

namespace Tally

theorem isShort_of_count {room n : Nat} {v : Json} {name : String} (hv : Legible (room + 1) v)
    (h : count v name = .ok n) : IsShort n := by
  cases v with
  | obj members =>
    unfold count at h
    simp only [Json.member?] at h
    obtain ⟨found, hfound, h⟩ := bind_eq_ok.1 h
    obtain rfl := Except.ok.inj hfound
    split at h
    · cases h
      exact isShort_zero
    · cases h
      exact isShort_zero
    · rename_i value _ hvalue
      split at h
      · rename_i i hi
        cases h
        refine (isShort_of_toInt (legible_valueAt? hv hvalue) hi).mono ?_
        omega
      · cases h
      · cases h
        exact isShort_zero
  | _ => cases h

end Tally

/-- The names with which a day is written. -/
theorem DayLog.named_toJson (l : DayLog) : Named [("gamesPlayed", .int l.gamesPlayed),
    ("timeSpent", .int l.timeSpent), ("coinsEarned", .int l.coinsEarned)] :=
  named_of_isPlain ["gamesPlayed", "timeSpent", "coinsEarned"] rfl (by decide) (by decide)

theorem DayLog.legible_toJson {room k : Nat} {v : Json} {l : DayLog} (hv : Legible (room + 1) v)
    (h : ofJson v = .ok l) : Legible (k + 1) l.toJson := by
  obtain ⟨played, hplayed, h⟩ := bind_eq_ok.1 h
  obtain ⟨time, htime, h⟩ := bind_eq_ok.1 h
  obtain ⟨coins, hcoins, h⟩ := bind_eq_ok.1 h
  obtain rfl := Except.ok.inj h
  refine .obj (DayLog.named_toJson _) fun e he => ?_
  simp only [List.mem_cons, List.not_mem_nil, or_false] at he
  rcases he with rfl | rfl | rfl
  · exact .int (Tally.isShort_of_count hv hplayed)
  · exact .int (Tally.isShort_of_count hv htime)
  · exact .int (Tally.isShort_of_count hv hcoins)

namespace Tally

/-- Each day that is kept was a member with a legible object. -/
theorem exists_of_mem_daysOfJson {members : List (String × Json)} {days : List (String × DayLog)}
    (h : daysOfJson members = .ok days) {e : String × DayLog} (he : e ∈ days) :
    ∃ x, (e.1, x) ∈ members ∧ DayLog.ofJson x = .ok e.2 := by
  induction members generalizing days with
  | nil =>
    cases h
    cases he
  | cons m rest ih =>
    obtain ⟨day, x⟩ := m
    cases x with
    | obj entries =>
      rw [daysOfJson] at h
      obtain ⟨log, hlog, h⟩ := bind_eq_ok.1 h
      obtain ⟨logs, hlogs, h⟩ := bind_eq_ok.1 h
      cases h
      rcases List.mem_cons.1 he with rfl | he
      · exact ⟨_, List.mem_cons_self, hlog⟩
      · obtain ⟨y, hy, hl⟩ := ih hlogs he
        exact ⟨y, List.mem_cons_of_mem _ hy, hl⟩
    | _ =>
      obtain ⟨y, hy, hl⟩ := ih h he
      exact ⟨y, List.mem_cons_of_mem _ hy, hl⟩

/-- The names with which a tally is written. -/
theorem named_toJson (t : Tally) : Named [("totalPlays", .int t.totalPlays),
    ("totalTime", .int t.totalTime), ("badgesUnlocked", .int t.badgesUnlocked),
    ("challengesCompleted", .int t.challengesCompleted), ("totalCoins", .int t.totalCoins),
    ("dailyLogs", .obj (t.days.entries.map fun e => (e.1, e.2.toJson)))] :=
  named_of_isPlain ["totalPlays", "totalTime", "badgesUnlocked", "challengesCompleted",
    "totalCoins", "dailyLogs"] rfl (by decide) (by decide)

theorem legible_toJson {room k : Nat} {v : Json} {t : Tally} (hv : Legible (room + 3) v)
    (h : ofJson v = .ok t) : Legible (k + 3) t.toJson := by
  obtain ⟨members, hm, h⟩ : ∃ members, Legible (room + 3) (.obj members) ∧
      ofJson (.obj members) = .ok t := by
    cases v with
    | obj members => exact ⟨members, hv, h⟩
    | _ => exact ⟨[], .obj .nil (List.forall_mem_nil _), h⟩
  rw [ofJson] at h
  obtain ⟨found, hfound, h⟩ := bind_eq_ok.1 h
  obtain rfl := Except.ok.inj hfound
  obtain ⟨plays, hplays, h⟩ := bind_eq_ok.1 h
  obtain ⟨time, htime, h⟩ := bind_eq_ok.1 h
  obtain ⟨unlocked, hunlocked, h⟩ := bind_eq_ok.1 h
  obtain ⟨completed, hcompleted, h⟩ := bind_eq_ok.1 h
  obtain ⟨coins, hcoins, h⟩ := bind_eq_ok.1 h
  obtain ⟨days, hdays, h⟩ := bind_eq_ok.1 h
  obtain rfl := Except.ok.inj h
  have hlogs : ∀ e ∈ (Dict.ofList days).entries, Text.rejoined e.1 = e.1 ∧
      Legible (k + 1) e.2.toJson := by
    intro e he
    obtain ⟨x, hx, hl⟩ := exists_of_mem_daysOfJson hdays (Dict.mem_entries_ofList he)
    split at hx
    · rename_i logs hlogs
      obtain ⟨hname, hlegible⟩ := legible_of_mem (legible_valueAt? hm hlogs) hx
      exact ⟨hname, DayLog.legible_toJson hlegible hl⟩
    · cases hx
  refine .obj (Tally.named_toJson _) fun e he => ?_
  simp only [List.mem_cons, List.not_mem_nil, or_false] at he
  rcases he with rfl | rfl | rfl | rfl | rfl | rfl
  · exact .int (isShort_of_count hm hplays)
  · exact .int (isShort_of_count hm htime)
  · exact .int (isShort_of_count hm hunlocked)
  · exact .int (isShort_of_count hm hcompleted)
  · exact .int (isShort_of_count hm hcoins)
  · exact legible_dict (fun e he => (hlogs e he).1) fun e he => (hlogs e he).2

end Tally

/-! ## Badges and challenges -/

/-- The names with which a badge is written. -/
theorem Badge.named_toJson (b : Badge) : Named ([("id", .str b.id), ("title", b.title),
    ("description", b.description), ("game", b.game), ("requirement", b.requirement),
    ("unlocked", .bool b.unlocked), ("icon", b.icon)] ++
    (if b.unlockedAt = .null then [] else [("unlockedAt", b.unlockedAt)])) := by
  by_cases hu : b.unlockedAt = .null
  · rw [if_pos hu]
    exact named_of_isPlain ["id", "title", "description", "game", "requirement", "unlocked",
      "icon"] rfl (by decide) (by decide)
  · rw [if_neg hu]
    exact named_of_isPlain ["id", "title", "description", "game", "requirement", "unlocked",
      "icon", "unlockedAt"] rfl (by decide) (by decide)

/-- The names with which a challenge is written. -/
theorem Challenge.named_toJson (c : Challenge) : Named ([("id", .str c.id), ("title", c.title),
    ("description", c.description), ("game", c.game), ("requirement", c.requirement),
    ("rewardCoins", .int c.rewardCoins), ("completed", .bool c.completed)] ++
    (if c.completedAt = .null then [] else [("completedAt", c.completedAt)]) ++
    [("expiresAt", .str c.expiresAt)]) := by
  by_cases hu : c.completedAt = .null
  · rw [if_pos hu]
    exact named_of_isPlain ["id", "title", "description", "game", "requirement", "rewardCoins",
      "completed", "expiresAt"] rfl (by decide) (by decide)
  · rw [if_neg hu]
    exact named_of_isPlain ["id", "title", "description", "game", "requirement", "rewardCoins",
      "completed", "completedAt", "expiresAt"] rfl (by decide) (by decide)

theorem legible_of_required {room : Nat} {members : List (String × Json)} {name : String} {x : Json}
    (hm : Legible (room + 1) (.obj members)) (h : Json.required (.obj members) name = .ok x) :
    Legible room x := by
  unfold Json.required at h
  dsimp only at h
  split at h
  · rename_i y hy
    cases h
    exact legible_valueAt? hm hy
  · cases h

theorem legible_textMember {room : Nat} {members : List (String × Json)}
    (hm : Legible (room + 1) (.obj members)) (name : String) :
    Legible room (Badge.textMember members name) :=
  legible_getD hm name (.str (Text.rejoined_of_isPlain (by decide)))

/-- A member that is left out where it is null. -/
theorem forall_optional {p : String × Json → Prop} {name : String} {x : Json} (h : p (name, x)) :
    ∀ e ∈ (if x = .null then [] else [(name, x)]), p e := by
  split
  · exact List.forall_mem_nil _
  · exact List.forall_mem_singleton.2 h

theorem Badge.legible_toJson {room : Nat} {v : Json} {b : Badge} (hv : Legible (room + 1) v)
    (h : ofJson v = .ok b) : Legible (room + 1) b.toJson := by
  cases v with
  | obj members =>
    obtain ⟨id, hid, h⟩ := bind_eq_ok.1 h
    obtain rfl := Except.ok.inj h
    refine .obj (Badge.named_toJson _) (List.forall_mem_append.2 ⟨fun e he => ?_,
      forall_optional (legible_getD hv "unlockedAt" .null)⟩)
    simp only [List.mem_cons, List.not_mem_nil, or_false] at he
    rcases he with rfl | rfl | rfl | rfl | rfl | rfl | rfl
    · exact .str (rejoined_text (legible_of_required hv hid))
    · exact legible_textMember hv "title"
    · exact legible_textMember hv "description"
    · exact legible_textMember hv "game"
    · exact legible_textMember hv "requirement"
    · exact .bool _
    · exact legible_textMember hv "icon"
  | _ => cases h

theorem Challenge.legible_toJson {room : Nat} {v : Json} {c : Challenge} (hv : Legible (room + 1) v)
    (h : ofJson v = .ok c) : Legible (room + 1) c.toJson := by
  cases v with
  | obj members =>
    rw [ofJson] at h
    obtain ⟨found, hfound, h⟩ := bind_eq_ok.1 h
    obtain rfl := Except.ok.inj hfound
    obtain ⟨reward, hreward, h⟩ := bind_eq_ok.1 h
    dsimp only at h
    split at h
    · cases h
    · obtain ⟨id, hid, h⟩ := bind_eq_ok.1 h
      obtain ⟨expires, hexpires, h⟩ := bind_eq_ok.1 h
      obtain rfl := Except.ok.inj h
      have hshort : IsShort reward.toNat := (isShort_of_toInt
        (legible_getD hv "rewardCoins" (show Legible room (.int 0) from .int isShort_zero))
        hreward).mono (by omega)
      refine .obj (Challenge.named_toJson _) (List.forall_mem_append.2 ⟨List.forall_mem_append.2
        ⟨fun e he => ?_, forall_optional (legible_getD hv "completedAt" .null)⟩,
        List.forall_mem_singleton.2 (.str (rejoined_text (legible_of_required hv hexpires)))⟩)
      simp only [List.mem_cons, List.not_mem_nil, or_false] at he
      rcases he with rfl | rfl | rfl | rfl | rfl | rfl | rfl
      · exact .str (rejoined_text (legible_of_required hv hid))
      · exact legible_textMember hv "title"
      · exact legible_textMember hv "description"
      · exact legible_textMember hv "game"
      · exact legible_textMember hv "requirement"
      · exact .int hshort
      · exact .bool _
  | _ => cases h

/-! ## Documents -/

namespace Document

/-- Each challenge that is kept was read from an item of the list. -/
theorem exists_of_mem_mapM {entries : List Json} {challenges : List Challenge}
    (h : entries.mapM Challenge.ofJson = .ok challenges) {c : Challenge} (hc : c ∈ challenges) :
    ∃ e ∈ entries, Challenge.ofJson e = .ok c := by
  have hread := mapM_eq_ok.1 h
  obtain ⟨i, hi, rfl⟩ := List.getElem_of_mem hc
  have hi' : i < entries.length := hread.length_eq ▸ hi
  exact ⟨entries[i], List.getElem_mem hi', hread.get hi' hi⟩

theorem legible_challenges {room : Nat} {v : Json} {challenges : List Challenge}
    (hv : Legible (room + 2) v) (h : challengesOfJson v = .ok challenges) :
    ∀ c ∈ challenges, Legible (room + 1) c.toJson := by
  intro c hc
  cases v with
  | arr entries =>
    unfold challengesOfJson at h
    dsimp only at h
    split at h
    · rename_i kept hkept
      cases h
      obtain ⟨e, he, hce⟩ := exists_of_mem_mapM hkept hc
      cases hv with
      | arr hall => exact Challenge.legible_toJson (hall e he) hce
    · cases h
    · cases h
      cases hc
  | _ =>
    cases h
    cases hc

/-- The names with which a document is written. -/
theorem named_toJson (d : Document) : Named [
    ("gameProgress", .obj (d.progress.entries.map fun e => (e.1, e.2.toJson))),
    ("badges", .arr (d.badges.map Badge.toJson)),
    ("challenges", .arr (d.challenges.map Challenge.toJson)), ("sessionStats", d.tally.toJson)] :=
  named_of_isPlain ["gameProgress", "badges", "challenges", "sessionStats"] rfl (by decide)
    (by decide)

/-- A document whose parts are written as legible values. -/
theorem legible_of_parts {room : Nat} {d : Document}
    (hrecords : ∀ e ∈ d.progress.entries, Text.rejoined e.1 = e.1 ∧ Legible (room + 2) e.2.toJson)
    (hbadges : ∀ b ∈ d.badges, Legible (room + 2) b.toJson)
    (hchallenges : ∀ c ∈ d.challenges, Legible (room + 2) c.toJson)
    (htally : Legible (room + 3) d.tally.toJson) : Legible (room + 4) d.toJson := by
  refine .obj (named_toJson d) fun e he => ?_
  simp only [List.mem_cons, List.not_mem_nil, or_false] at he
  rcases he with rfl | rfl | rfl | rfl
  · exact legible_dict (fun e he => (hrecords e he).1) fun e he => (hrecords e he).2
  · exact .arr (List.forall_mem_map.2 hbadges)
  · exact .arr (List.forall_mem_map.2 hchallenges)
  · exact htally

/-- What a legible value is read as is written as a legible value. -/
theorem legible_toJson {room : Nat} {v : Json} {d : Document} (hv : Legible (room + 4) v)
    (h : ofJson v = .ok d) : Legible (room + 4) d.toJson := by
  obtain ⟨members, games, badges, hs, -⟩ := exists_shape_of_ofJson h
  rw [ofJson_of_shape hs] at h
  obtain ⟨rfl, hgames, hbadges⟩ := hs
  obtain ⟨challenges, hchallenges, h⟩ := bind_eq_ok.1 h
  obtain ⟨tally, htally, h⟩ := bind_eq_ok.1 h
  obtain rfl := Except.ok.inj h
  apply legible_of_parts
  · intro e he
    obtain ⟨x, hx, rfl⟩ := List.mem_map.1 (Dict.mem_entries_ofList he)
    obtain ⟨hname, hlegible⟩ := legible_of_mem (legible_valueAt? hv hgames) hx
    exact ⟨hname, StatRecord.legible_toJson hlegible⟩
  · intro b hb
    obtain ⟨e, he, hbe⟩ := List.mem_filterMap.1 hb
    have hall := legible_valueAt? hv hbadges
    cases hr : Badge.ofJson e with
    | error f =>
      rw [hr] at hbe
      cases hbe
    | ok b' =>
      rw [hr] at hbe
      cases hbe
      cases hall with
      | arr hall => exact Badge.legible_toJson (hall e he) hr
  · exact legible_challenges (legible_getD hv "challenges" (.arr (List.forall_mem_nil _)))
      hchallenges
  · exact Tally.legible_toJson
      (legible_getD hv "sessionStats" (.obj .nil (List.forall_mem_nil _))) htally

end Document

end Arcade
