import Mathlib.Data.List.Forall2
import Arcade.Proofs.Progress.Legible

/-!
# What a stored document keeps

The text of a document may be read back as another document: texts with halves of pairs may differ,
and games with names that become the same. What is counted does not. If the text can be read at all,
it stands for a document with the same tally, the same badges unlocked and the same challenges
completed, for the same rewards.
-/

namespace Arcade

namespace Json

/-! ## Echoes of lists and objects -/

theorem exists_echo_arr {room : Nat} {items : List Json} {w : Json}
    (h : echo room (.arr items) = .ok w) :
    ∃ ys, echoItems (room - 1) items = .ok ys ∧ w = .arr ys := by
  rw [echo] at h
  split at h
  · cases h
  · cases hy : echoItems (room - 1) items with
    | error e =>
      rw [hy] at h
      cases h
    | ok ys =>
      rw [hy] at h
      exact ⟨ys, rfl, (Except.ok.inj h).symm⟩

theorem exists_echo_obj {room : Nat} {members : List (String × Json)} {w : Json}
    (h : echo room (.obj members) = .ok w) :
    ∃ ys, echoMembers (room - 1) [] members = .ok ys ∧ w = .obj ys := by
  rw [echo] at h
  split at h
  · cases h
  · cases hy : echoMembers (room - 1) [] members with
    | error e =>
      rw [hy] at h
      cases h
    | ok ys =>
      rw [hy] at h
      exact ⟨ys, rfl, (Except.ok.inj h).symm⟩

/-- The echo of a list has the echoes of the items. -/
theorem forall₂_of_echoItems {room : Nat} {xs ys : List Json} (h : echoItems room xs = .ok ys) :
    List.Forall₂ (fun x y => echo room x = .ok y) xs ys := by
  induction xs generalizing ys with
  | nil =>
    obtain rfl := Except.ok.inj h
    exact .nil
  | cons x rest ih =>
    rw [echoItems] at h
    cases hx : echo room x with
    | error e =>
      rw [hx] at h
      cases h
    | ok y =>
      cases hr : echoItems room rest with
      | error e =>
        rw [hx, hr] at h
        cases h
      | ok zs =>
        rw [hx, hr] at h
        obtain rfl := Except.ok.inj h
        exact .cons hx (ih hr)

/-- The echo of an object with names that are read back has the echoes of the members under the same
names. -/
theorem forall₂_of_echoMembers {room : Nat} {xs done ms : List (String × Json)} (hn : Named xs)
    (hd : ∀ e ∈ xs, e.1 ∉ done.map Prod.fst) (h : echoMembers room done xs = .ok ms) :
    ∃ ys, ms = done ++ ys ∧
      List.Forall₂ (fun x y => y.1 = x.1 ∧ echo room x.2 = .ok y.2) xs ys := by
  induction xs generalizing done with
  | nil =>
    obtain rfl := Except.ok.inj h
    exact ⟨[], (List.append_nil _).symm, .nil⟩
  | cons e rest ih =>
    obtain ⟨k, x⟩ := e
    rw [echoMembers, hn.plain (k, x) List.mem_cons_self] at h
    cases hx : echo room x with
    | error f =>
      rw [hx] at h
      cases h
    | ok y =>
      rw [hx] at h
      change echoMembers room (putEntry k y done) rest = .ok ms at h
      rw [putEntry_of_not_mem (hd (k, x) List.mem_cons_self)] at h
      obtain ⟨ys, rfl, hys⟩ := ih hn.tail (hn.not_mem_concat hd y) h
      exact ⟨(k, y) :: ys, by rw [List.append_assoc]; rfl, .cons ⟨rfl, hx⟩ hys⟩

/-- What is found under a name in the echo of an object. -/
theorem valueAt?_of_forall₂ {room : Nat} {xs ys : List (String × Json)} {name : String}
    (h : List.Forall₂ (fun x y => y.1 = x.1 ∧ echo room x.2 = .ok y.2) xs ys) {x : Json}
    (hx : valueAt? name xs = some x) : ∃ y, valueAt? name ys = some y ∧ echo room x = .ok y := by
  induction h with
  | nil => cases hx
  | @cons a b as bs hab _ ih =>
    rw [valueAt?] at hx ⊢
    rw [hab.1]
    split at hx
    · rename_i ha
      obtain rfl := Option.some.inj hx
      exact ⟨b.2, if_pos ha, hab.2⟩
    · rename_i ha
      rw [if_neg ha]
      exact ih hx

/-- A member of an object is found in its echo. -/
theorem exists_member_of_echo {room : Nat} {members : List (String × Json)} {w : Json}
    (hn : Named members) (h : echo room (.obj members) = .ok w) :
    ∃ ys, w = .obj ys ∧ ∀ name x, valueAt? name members = some x →
      ∃ y, valueAt? name ys = some y ∧ echo (room - 1) x = .ok y := by
  obtain ⟨ms, hm, rfl⟩ := exists_echo_obj h
  obtain ⟨ys, rfl, hys⟩ := forall₂_of_echoMembers hn (fun _ _ => List.not_mem_nil) hm
  exact ⟨ms, rfl, fun name x hx => valueAt?_of_forall₂ hys hx⟩

/-! ## Values that come back as they are -/

/-- Whether a value is read back as it is, if it is read back at all. -/
def Firm (v : Json) : Prop := ∀ room w, echo room v = .ok w → w = v

theorem firm_bool (b : Bool) : Firm (.bool b) := fun _ _ h => (Except.ok.inj h).symm

theorem firm_int (n : Int) : Firm (.int n) := by
  intro room w h
  change (echoNumber (.int n)).map Json.num = .ok w at h
  rw [echoNumber] at h
  split at h
  · exact (Except.ok.inj h).symm
  · cases h

theorem firm_obj {members : List (String × Json)} (hn : Named members)
    (hf : ∀ e ∈ members, Firm e.2) : Firm (.obj members) := by
  intro room w h
  obtain ⟨ms, hm, rfl⟩ := exists_echo_obj h
  obtain ⟨ys, rfl, hys⟩ := forall₂_of_echoMembers hn (fun _ _ => List.not_mem_nil) hm
  have heq : ms = members := by
    clear hm h hn
    induction hys with
    | nil => rfl
    | @cons a b as bs hab _ ih =>
      have hb : b = a := Prod.ext hab.1 (hf a List.mem_cons_self _ _ hab.2)
      rw [hb, ih fun e he => hf e (List.mem_cons_of_mem _ he)]
  rw [heq]

end Json

open Json

/-! ## Tallies -/

theorem DayLog.firm_toJson (l : DayLog) : Firm l.toJson := by
  refine firm_obj l.named_toJson fun e he => ?_
  simp only [List.mem_cons, List.not_mem_nil, or_false] at he
  rcases he with rfl | rfl | rfl <;> exact firm_int _

/-- The names of the days of a tally are read back. -/
def Tally.PlainDays (t : Tally) : Prop := ∀ day ∈ t.days.names, Text.rejoined day = day

theorem Tally.firm_toJson {t : Tally} (h : t.PlainDays) : Firm t.toJson := by
  have hdays : Firm (.obj (t.days.entries.map fun e => (e.1, e.2.toJson))) := by
    refine firm_obj ⟨fun e he => ?_, ?_⟩ fun e he => ?_
    · obtain ⟨x, hx, rfl⟩ := List.mem_map.1 he
      exact h x.1 (List.mem_map_of_mem hx)
    · rw [List.map_map]
      exact t.days.distinct
    · obtain ⟨x, -, rfl⟩ := List.mem_map.1 he
      exact DayLog.firm_toJson x.2
  refine firm_obj t.named_toJson fun e he => ?_
  simp only [List.mem_cons, List.not_mem_nil, or_false] at he
  rcases he with rfl | rfl | rfl | rfl | rfl | rfl
  · exact firm_int _
  · exact firm_int _
  · exact firm_int _
  · exact firm_int _
  · exact firm_int _
  · exact hdays

/-! ## Badges and challenges -/

/-- A badge is read back as locked or unlocked as it was. -/
theorem Badge.exists_ofJson_of_echo {b : Badge} {room : Nat} {w : Json}
    (h : echo room b.toJson = .ok w) :
    ∃ b', Badge.ofJson w = .ok b' ∧ b'.unlocked = b.unlocked := by
  obtain ⟨ys, rfl, hys⟩ := exists_member_of_echo b.named_toJson h
  obtain ⟨id, hid, -⟩ := hys "id" _ rfl
  obtain ⟨unlocked, hunlocked, he⟩ := hys "unlocked" _ rfl
  obtain rfl := firm_bool _ _ _ he
  rw [Badge.ofJson, Json.required, hid]
  refine ⟨_, rfl, ?_⟩
  dsimp only
  rw [hunlocked]
  rfl

/-- A challenge is read back with its reward, and as open or completed as it was. -/
theorem Challenge.exists_ofJson_of_echo {c : Challenge} {room : Nat} {w : Json}
    (h : echo room c.toJson = .ok w) : ∃ c', Challenge.ofJson w = .ok c' ∧
      c'.rewardCoins = c.rewardCoins ∧ c'.completed = c.completed := by
  obtain ⟨ys, rfl, hys⟩ := exists_member_of_echo c.named_toJson h
  obtain ⟨id, hid, -⟩ := hys "id" _ rfl
  obtain ⟨reward, hreward, he⟩ := hys "rewardCoins" _ rfl
  obtain rfl := firm_int _ _ _ he
  obtain ⟨completed, hcompleted, he⟩ := hys "completed" _ rfl
  obtain rfl := firm_bool _ _ _ he
  obtain ⟨expires, hexpires, -⟩ := hys "expiresAt" (.str c.expiresAt) (by
    by_cases hu : c.completedAt = .null
    · rw [if_pos hu]
      rfl
    · rw [if_neg hu]
      rfl)
  have hnonneg : ¬ (c.rewardCoins : Int) < 0 := Int.not_lt.2 (Int.natCast_nonneg _)
  have hstep : Challenge.ofJson (.obj ys) = (do
      if (c.rewardCoins : Int) < 0 then
        throw (.negativeReward ((← (Json.obj ys).member? "id").getD .null).text)
      return ⟨id.text, Badge.textMember ys "title", Badge.textMember ys "description",
        Badge.textMember ys "game", Badge.textMember ys "requirement", c.rewardCoins,
        expires.text, c.completed, (valueAt? "completedAt" ys).getD .null⟩) := by
    simp only [Challenge.ofJson, Json.member?, Json.required, hid, hreward, hcompleted, hexpires]
    rfl
  refine ⟨⟨id.text, Badge.textMember ys "title", Badge.textMember ys "description",
    Badge.textMember ys "game", Badge.textMember ys "requirement", c.rewardCoins, expires.text,
    c.completed, (valueAt? "completedAt" ys).getD .null⟩, ?_, rfl, rfl⟩
  rw [hstep, if_neg hnonneg]
  rfl

theorem Badge.map_unlocked_of_echoItems {badges : List Badge} {room : Nat} {ys : List Json}
    (h : echoItems room (badges.map Badge.toJson) = .ok ys) :
    (ys.filterMap fun e => (Badge.ofJson e).toOption).map Badge.unlocked =
      badges.map Badge.unlocked := by
  have hall := forall₂_of_echoItems h
  clear h
  induction badges generalizing ys with
  | nil =>
    cases hall
    rfl
  | cons b rest ih =>
    obtain _ | ⟨hb, hrest⟩ := hall
    obtain ⟨b', hb', hu⟩ := exists_ofJson_of_echo hb
    rw [List.filterMap_cons, hb', Except.toOption, List.map_cons, List.map_cons, hu, ih hrest]

/-- What counts of a challenge: its reward and whether it is completed. -/
def Challenge.score (c : Challenge) : Nat × Bool := (c.rewardCoins, c.completed)

theorem Challenge.exists_mapM_of_echoItems {challenges : List Challenge} {room : Nat}
    {ys : List Json} (h : echoItems room (challenges.map Challenge.toJson) = .ok ys) :
    ∃ cs, ys.mapM Challenge.ofJson = .ok cs ∧ cs.map score = challenges.map score := by
  have hall := forall₂_of_echoItems h
  clear h
  induction challenges generalizing ys with
  | nil =>
    cases hall
    exact ⟨[], rfl, rfl⟩
  | cons c rest ih =>
    obtain _ | ⟨hc, hrest⟩ := hall
    obtain ⟨c', hc', hreward, hcompleted⟩ := exists_ofJson_of_echo hc
    obtain ⟨cs, hcs, hscores⟩ := ih hrest
    refine ⟨c' :: cs, ?_, ?_⟩
    · rw [List.mapM_cons, hc', hcs]
      rfl
    · rw [List.map_cons, List.map_cons, hscores, score, score, hreward, hcompleted]

/-! ## Documents -/

namespace Document

/-- If the text of a document is read back at all, it stands for a document in which the same is
counted. -/
theorem exists_ofJson_of_echo {d : Document} (hdays : d.tally.PlainDays) {room : Nat} {w : Json}
    (h : echo room d.toJson = .ok w) : ∃ d', ofJson w = .ok d' ∧ d'.tally = d.tally ∧
      d'.badges.map Badge.unlocked = d.badges.map Badge.unlocked ∧
      d'.challenges.map Challenge.score = d.challenges.map Challenge.score := by
  obtain ⟨ys, rfl, hys⟩ := exists_member_of_echo d.named_toJson h
  obtain ⟨progress, hprogress, he⟩ := hys "gameProgress" _ rfl
  obtain ⟨games, -, rfl⟩ := exists_echo_obj he
  obtain ⟨badges, hbadges, he⟩ := hys "badges" _ rfl
  obtain ⟨bs, hbs, rfl⟩ := exists_echo_arr he
  obtain ⟨challenges, hchallenges, he⟩ := hys "challenges" _ rfl
  obtain ⟨cs, hcs, rfl⟩ := exists_echo_arr he
  obtain ⟨tally, htally, he⟩ := hys "sessionStats" _ rfl
  obtain rfl := Tally.firm_toJson hdays _ _ he
  obtain ⟨made, hmade, hscores⟩ := Challenge.exists_mapM_of_echoItems hcs
  have hread : challengesOfJson (.arr cs) = .ok made := by rw [challengesOfJson, hmade]
  rw [ofJson_of_shape ⟨rfl, hprogress, hbadges⟩, hchallenges, htally, Option.getD_some,
    Option.getD_some, hread, Tally.ofJson_toJson]
  exact ⟨_, rfl, rfl, Badge.map_unlocked_of_echoItems hbs, hscores⟩

end Document

end Arcade
