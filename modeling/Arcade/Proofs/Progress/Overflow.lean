import Arcade.Proofs.Progress.Decoding

/-!
# Documents that cannot be read

A stored value is refused if its outer shape is wrong. What is wrong inside is dropped or counts as
zero, with one exception: an infinite number where an integer is kept raises a fault. It does so as
a count of the tally or of a day, and as the reward of a challenge if all challenges before it can
be read.
-/

namespace Arcade

/-! ## Results that are out of range -/

/-- A result is out of range if something is so, and else there is one. -/
def Overflows {α : Type} (r : Except Fault α) (P : Prop) : Prop :=
  r = .error .outOfRange ∧ P ∨ (∃ x, r = .ok x) ∧ ¬ P

section Results

variable {α β : Type} {r : Except Fault α} {P Q : Prop}

theorem overflows_ok (x : α) : Overflows (.ok x : Except Fault α) False :=
  .inr ⟨⟨x, rfl⟩, id⟩

theorem Overflows.congr (h : Overflows r P) (hPQ : P ↔ Q) : Overflows r Q := by
  unfold Overflows at h ⊢
  rwa [← hPQ]

theorem Overflows.bind {f : α → Except Fault β} (h : Overflows r P)
    (hf : ∀ x, r = .ok x → Overflows (f x) Q) : Overflows (r >>= f) (P ∨ Q) := by
  rcases h with ⟨rfl, hP⟩ | ⟨⟨x, rfl⟩, hP⟩
  · exact .inl ⟨rfl, .inl hP⟩
  · rcases hf x rfl with ⟨hx, hQ⟩ | ⟨⟨y, hy⟩, hQ⟩
    · exact .inl ⟨hx, .inr hQ⟩
    · exact .inr ⟨⟨y, hy⟩, not_or.2 ⟨hP, hQ⟩⟩

theorem Overflows.map {f : α → β} (h : Overflows r P) :
    Overflows (r >>= fun x => pure (f x)) P :=
  (h.bind fun x _ => overflows_ok (f x)).congr (or_iff_left id)

theorem Overflows.ok_iff (h : Overflows r P) : (∃ x, r = .ok x) ↔ ¬ P := by
  rcases h with ⟨rfl, hP⟩ | ⟨hr, hP⟩
  · exact ⟨fun ⟨_, hx⟩ => (nomatch hx), fun hn => absurd hP hn⟩
  · exact ⟨fun _ => hP, fun _ => hr⟩

end Results

/-- A list that is read item by item cannot be read because of the first item that cannot. -/
theorem mapM_eq_error {α β : Type} {f : α → Except Fault β} {e : Fault} {l : List α} :
    l.mapM f = .error e ↔ ∃ before x after, l = before ++ x :: after ∧
      (∀ y ∈ before, ∃ z, f y = .ok z) ∧ f x = .error e := by
  induction l with
  | nil =>
    constructor
    · exact nofun
    · rintro ⟨before, x, after, h, -⟩
      cases before <;> cases h
  | cons x rest ih =>
    rw [List.mapM_cons]
    constructor
    · intro h
      rcases bind_eq_error.1 h with hx | ⟨z, hz, h⟩
      · exact ⟨[], x, rest, rfl, nofun, hx⟩
      · rcases bind_eq_error.1 h with hrest | ⟨zs, -, h⟩
        · obtain ⟨before, y, after, rfl, hbefore, hy⟩ := ih.1 hrest
          refine ⟨x :: before, y, after, rfl, fun w hw => ?_, hy⟩
          rcases List.mem_cons.1 hw with rfl | hw
          · exact ⟨z, hz⟩
          · exact hbefore w hw
        · cases h
    · rintro ⟨before, y, after, hl, hbefore, hy⟩
      cases before with
      | nil =>
        obtain ⟨rfl, -⟩ := List.cons.inj hl
        exact bind_eq_error.2 (.inl hy)
      | cons w before =>
        obtain ⟨rfl, hrest⟩ := List.cons.inj hl
        obtain ⟨z, hz⟩ := hbefore x List.mem_cons_self
        exact bind_eq_error.2 (.inr ⟨z, hz, bind_eq_error.2 (.inl (ih.2
          ⟨before, y, after, hrest, fun v hv => hbefore v (List.mem_cons_of_mem x hv), hy⟩))⟩)

/-! ## Infinite numbers -/

namespace Json

/-- A number beyond all integers. -/
def Infinite (v : Json) : Prop := ∃ x negative, v = .num (.float x) ∧
  Double.meaning x = .infinite negative

/-- A member with a number beyond all integers. -/
def InfiniteAt (members : List (String × Json)) (name : String) : Prop :=
  ∃ x, valueAt? name members = some x ∧ x.Infinite

/-- Only infinite numbers are out of the range of integers. -/
theorem toInt_eq_outOfRange {v : Json} : v.toInt = .error .outOfRange ↔ v.Infinite := by
  constructor
  · intro h
    cases v with
    | null => cases h
    | bool b => cases h
    | str s => cases Number.readInt_error h
    | arr items => cases h
    | obj members => cases h
    | num n =>
      cases n with
      | int n => cases h
      | float x =>
        change Number.toInt (.float x) = _ at h
        rw [Number.toInt] at h
        cases hm : Double.meaning x with
        | nan =>
          rw [hm] at h
          cases h
        | infinite negative => exact ⟨x, negative, rfl, hm⟩
        | finite negative mantissa exponent =>
          rw [hm] at h
          cases h
  · rintro ⟨x, negative, rfl, hm⟩
    change Number.toInt (.float x) = _
    rw [Number.toInt, hm]

end Json

open Json

/-! ## Tallies -/

namespace Tally

/-- The count for the result of reading an integer. -/
def counted : Except Fault Int → Except Fault Nat
  | .ok n => .ok n.toNat
  | .error e => if e = .outOfRange then .error .outOfRange else .ok 0

/-- A stored count that is not null is read as an integer. -/
theorem count_eq {members : List (String × Json)} {name : String} {v : Json}
    (hv : valueAt? name members = some v) (hn : v ≠ .null) :
    count (.obj members) name = counted v.toInt := by
  rw [count, Json.member?, hv]
  cases v with
  | null => exact absurd rfl hn
  | _ =>
    dsimp only [bind, Except.bind]
    generalize Json.toInt _ = r
    cases r with
    | ok n => rfl
    | error e => cases e <;> rfl

theorem overflows_count (members : List (String × Json)) (name : String) :
    Overflows (count (.obj members) name) (InfiniteAt members name) := by
  cases hv : valueAt? name members with
  | none =>
    refine .inr ⟨⟨0, by rw [count, Json.member?, hv]; rfl⟩, ?_⟩
    rintro ⟨x, hx, -⟩
    rw [hv] at hx
    cases hx
  | some v =>
    have hat : v.Infinite ↔ InfiniteAt members name := by
      refine ⟨fun h => ⟨v, hv, h⟩, ?_⟩
      rintro ⟨x, hx, h⟩
      rwa [Option.some.inj (hv.symm.trans hx)]
    refine Overflows.congr ?_ hat
    by_cases hn : v = .null
    · subst hn
      refine .inr ⟨⟨0, by rw [count, Json.member?, hv]; rfl⟩, ?_⟩
      rintro ⟨_, _, h, _⟩
      cases h
    · by_cases hinf : v.Infinite
      · rw [count_eq hv hn, toInt_eq_outOfRange.2 hinf]
        exact .inl ⟨rfl, hinf⟩
      · refine .inr ⟨?_, hinf⟩
        rw [count_eq hv hn]
        cases hr : v.toInt with
        | ok n => exact ⟨n.toNat, rfl⟩
        | error e =>
          have he : e ≠ .outOfRange := fun he => hinf (toInt_eq_outOfRange.1 (he ▸ hr))
          exact ⟨0, if_neg he⟩

end Tally

/-- A day with a number beyond all integers. -/
def DayLog.Infinite (members : List (String × Json)) : Prop :=
  InfiniteAt members "gamesPlayed" ∨ InfiniteAt members "timeSpent" ∨
    InfiniteAt members "coinsEarned"

theorem DayLog.overflows_ofJson (members : List (String × Json)) :
    Overflows (DayLog.ofJson (.obj members)) (DayLog.Infinite members) :=
  (Tally.overflows_count members _).bind fun _ _ =>
    (Tally.overflows_count members _).bind fun _ _ => (Tally.overflows_count members _).map

namespace Tally

theorem overflows_daysOfJson (days : List (String × Json)) : Overflows (daysOfJson days)
    (∃ day members, (day, .obj members) ∈ days ∧ DayLog.Infinite members) := by
  induction days with
  | nil => exact (overflows_ok []).congr ⟨nofun, fun ⟨_, _, h, _⟩ => (nomatch h)⟩
  | cons e rest ih =>
    obtain ⟨day, v⟩ := e
    cases v with
    | obj members =>
      refine ((DayLog.overflows_ofJson members).bind fun _ _ => ih.map).congr ?_
      constructor
      · rintro (h | ⟨other, ms, hmem, h⟩)
        · exact ⟨day, members, List.mem_cons_self, h⟩
        · exact ⟨other, ms, List.mem_cons_of_mem _ hmem, h⟩
      · rintro ⟨other, ms, hmem, h⟩
        rcases List.mem_cons.1 hmem with heq | hmem
        · cases heq
          exact .inl h
        · exact .inr ⟨other, ms, hmem, h⟩
    | _ =>
      refine ih.congr ⟨fun ⟨other, ms, hmem, h⟩ => ⟨other, ms, List.mem_cons_of_mem _ hmem, h⟩, ?_⟩
      rintro ⟨other, ms, hmem, h⟩
      rcases List.mem_cons.1 hmem with heq | hmem
      · cases heq
      · exact ⟨other, ms, hmem, h⟩

/-- The days of a tally with a number beyond all integers in one of them. -/
def InfiniteDays (members : List (String × Json)) : Prop :=
  ∃ days, valueAt? "dailyLogs" members = some (.obj days) ∧
    ∃ day log, (day, .obj log) ∈ days ∧ DayLog.Infinite log

/-- A tally with a number beyond all integers, in a total or in a day. -/
def Infinite (v : Json) : Prop :=
  ∃ members, v = .obj members ∧
    (InfiniteAt members "totalPlays" ∨ InfiniteAt members "totalTime" ∨
      InfiniteAt members "badgesUnlocked" ∨ InfiniteAt members "challengesCompleted" ∨
      InfiniteAt members "totalCoins" ∨ InfiniteDays members)

theorem overflows_ofJson_obj (members : List (String × Json)) :
    Overflows (ofJson (.obj members)) (Infinite (.obj members)) := by
  have hiff : (InfiniteAt members "totalPlays" ∨ InfiniteAt members "totalTime" ∨
      InfiniteAt members "badgesUnlocked" ∨ InfiniteAt members "challengesCompleted" ∨
      InfiniteAt members "totalCoins" ∨ InfiniteDays members) ↔ Infinite (.obj members) := by
    refine ⟨fun h => ⟨members, rfl, h⟩, ?_⟩
    rintro ⟨_, hm, h⟩
    rwa [Json.obj.inj hm]
  refine Overflows.congr ?_ hiff
  -- The counts are read one after the other, and each may fail.
  refine (overflows_count members _).bind fun _ _ =>
    (overflows_count members _).bind fun _ _ =>
      (overflows_count members _).bind fun _ _ =>
        (overflows_count members _).bind fun _ _ =>
          (overflows_count members _).bind fun _ _ => Overflows.map ?_
  refine (overflows_daysOfJson _).congr ?_
  constructor
  · intro h
    cases hv : valueAt? "dailyLogs" members with
    | none =>
      rw [hv] at h
      obtain ⟨_, _, hmem, -⟩ := h
      cases hmem
    | some v =>
      rw [hv] at h
      cases v with
      | obj days => exact ⟨days, hv, h⟩
      | _ =>
        obtain ⟨_, _, hmem, -⟩ := h
        cases hmem
  · rintro ⟨days, hv, h⟩
    rw [hv]
    exact h

theorem overflows_ofJson (v : Json) : Overflows (ofJson v) (Infinite v) := by
  cases v with
  | obj members => exact overflows_ofJson_obj members
  | _ => exact .inr ⟨⟨_, rfl⟩, fun ⟨_, h, _⟩ => (nomatch h)⟩

theorem not_infinite_empty : ¬ Infinite (.obj []) := by
  rintro ⟨members, hm, h⟩
  obtain rfl := Json.obj.inj hm
  rcases h with ⟨_, h, _⟩ | ⟨_, h, _⟩ | ⟨_, h, _⟩ | ⟨_, h, _⟩ | ⟨_, h, _⟩ | ⟨_, h, _⟩ <;> cases h

end Tally

/-! ## Challenges -/

namespace Challenge

theorem required_ne_outOfRange {members : List (String × Json)} {name : String} :
    (Json.obj members).required name ≠ .error .outOfRange := by
  rw [Json.required]
  intro he
  cases hv : valueAt? name members <;> rw [hv] at he <;> cases he

/-- Once the reward is read, whatever else is wrong with a challenge is not out of range. -/
theorem ne_outOfRange_of_reward {members : List (String × Json)} {reward : Int}
    (h : ((valueAt? "rewardCoins" members).getD (.int 0)).toInt = .ok reward) :
    ofJson (.obj members) ≠ .error .outOfRange := by
  intro he
  rcases bind_eq_error.1 he with he | ⟨x, hx, he⟩
  · cases he
  obtain rfl := Except.ok.inj hx
  rcases bind_eq_error.1 he with he | ⟨n, -, he⟩
  · rw [h] at he
    cases he
  dsimp only at he
  split at he
  · cases he
  · rcases bind_eq_error.1 he with he | ⟨id, -, he⟩
    · exact required_ne_outOfRange he
    · rcases bind_eq_error.1 he with he | ⟨expiresAt, -, he⟩
      · exact required_ne_outOfRange he
      · cases he

/-- A challenge is out of range exactly if its reward is an infinite number. -/
theorem ofJson_eq_outOfRange {v : Json} : ofJson v = .error .outOfRange ↔
    ∃ members, v = .obj members ∧ InfiniteAt members "rewardCoins" := by
  constructor
  · intro h
    cases v with
    | obj members =>
      refine ⟨members, rfl, ?_⟩
      cases hr : ((valueAt? "rewardCoins" members).getD (.int 0)).toInt with
      | ok reward => exact absurd h (ne_outOfRange_of_reward hr)
      | error e =>
        have he : ofJson (.obj members) = .error e :=
          bind_eq_error.2 (.inr ⟨_, rfl, bind_eq_error.2 (.inl hr)⟩)
        obtain rfl : e = .outOfRange := Except.error.inj (he.symm.trans h)
        cases hv : valueAt? "rewardCoins" members with
        | none =>
          rw [hv] at hr
          cases hr
        | some x =>
          rw [hv] at hr
          exact ⟨x, hv, toInt_eq_outOfRange.1 hr⟩
    | _ => cases h
  · rintro ⟨members, rfl, x, hx, hinf⟩
    refine bind_eq_error.2 (.inr ⟨_, rfl, bind_eq_error.2 (.inl ?_)⟩)
    rw [hx]
    exact toInt_eq_outOfRange.2 hinf

/-- A list of challenges with an infinite reward before anything that cannot be read. -/
def InfiniteIn (v : Json) : Prop :=
  ∃ before members after, v = .arr (before ++ .obj members :: after) ∧
    (∀ x ∈ before, ∃ c, ofJson x = .ok c) ∧ InfiniteAt members "rewardCoins"

end Challenge

namespace Document

theorem overflows_challengesOfJson (v : Json) :
    Overflows (challengesOfJson v) (Challenge.InfiniteIn v) := by
  cases v with
  | arr entries =>
    have hiff : entries.mapM Challenge.ofJson = .error .outOfRange ↔
        Challenge.InfiniteIn (.arr entries) := by
      rw [mapM_eq_error]
      constructor
      · rintro ⟨before, x, after, rfl, hbefore, hx⟩
        obtain ⟨members, rfl, hinf⟩ := Challenge.ofJson_eq_outOfRange.1 hx
        exact ⟨before, members, after, rfl, hbefore, hinf⟩
      · rintro ⟨before, members, after, he, hbefore, hinf⟩
        exact ⟨before, .obj members, after, Json.arr.inj he, hbefore,
          Challenge.ofJson_eq_outOfRange.2 ⟨members, rfl, hinf⟩⟩
    refine Overflows.congr ?_ hiff
    cases hr : entries.mapM Challenge.ofJson with
    | ok challenges =>
      refine .inr ⟨⟨challenges, by rw [challengesOfJson, hr]⟩, fun he => ?_⟩
      cases he
    | error e =>
      cases e with
      | outOfRange => exact .inl ⟨by rw [challengesOfJson, hr], rfl⟩
      | _ =>
        refine .inr ⟨⟨[], by rw [challengesOfJson, hr]⟩, fun he => ?_⟩
        cases he
  | _ =>
    refine .inr ⟨⟨[], rfl⟩, ?_⟩
    rintro ⟨_, _, _, h, _⟩
    cases h

/-- A document with an infinite number in its challenges or in its tally. -/
def Infinite (v : Json) : Prop :=
  ∃ members, v = .obj members ∧
    ((∃ challenges, valueAt? "challenges" members = some challenges ∧
        Challenge.InfiniteIn challenges) ∨
      ∃ tally, valueAt? "sessionStats" members = some tally ∧ Tally.Infinite tally)

theorem overflows_ofJson {v : Json} {members games : List (String × Json)} {badges : List Json}
    (h : Shape v members games badges) : Overflows (ofJson v) (Infinite v) := by
  have hchallenges : Overflows
      (challengesOfJson ((valueAt? "challenges" members).getD (.arr [])))
      (∃ challenges, valueAt? "challenges" members = some challenges ∧
        Challenge.InfiniteIn challenges) := by
    refine (overflows_challengesOfJson _).congr ?_
    cases hv : valueAt? "challenges" members with
    | none =>
      refine ⟨?_, nofun⟩
      rintro ⟨before, _, _, he, -⟩
      cases before <;> cases he
    | some challenges =>
      exact ⟨fun hinf => ⟨challenges, rfl, hinf⟩, fun ⟨_, he, hinf⟩ => Option.some.inj he ▸ hinf⟩
  have htally : Overflows (Tally.ofJson ((valueAt? "sessionStats" members).getD (.obj [])))
      (∃ tally, valueAt? "sessionStats" members = some tally ∧ Tally.Infinite tally) := by
    refine (Tally.overflows_ofJson _).congr ?_
    cases hv : valueAt? "sessionStats" members with
    | none => exact ⟨fun hinf => absurd hinf Tally.not_infinite_empty, nofun⟩
    | some tally =>
      exact ⟨fun hinf => ⟨tally, rfl, hinf⟩, fun ⟨_, he, hinf⟩ => Option.some.inj he ▸ hinf⟩
  rw [ofJson_of_shape h]
  refine (hchallenges.bind fun _ _ => htally.map).congr ?_
  exact ⟨fun hinf => ⟨members, h.isObject, hinf⟩,
    fun ⟨_, he, hinf⟩ => Json.obj.inj (he.symm.trans h.isObject) ▸ hinf⟩

/-- A value is read as a document exactly if its outer shape is right and no number in its
challenges or its tally is infinite. -/
theorem exists_ofJson_iff (v : Json) : (∃ d, ofJson v = .ok d) ↔
    (∃ members games badges, Shape v members games badges) ∧ ¬ Infinite v := by
  constructor
  · rintro ⟨d, hd⟩
    obtain ⟨members, games, badges, hs, -⟩ := exists_shape_of_ofJson hd
    exact ⟨⟨members, games, badges, hs⟩, (overflows_ofJson hs).ok_iff.1 ⟨d, hd⟩⟩
  · rintro ⟨⟨members, games, badges, hs⟩, hinf⟩
    exact (overflows_ofJson hs).ok_iff.2 hinf

end Document

end Arcade
