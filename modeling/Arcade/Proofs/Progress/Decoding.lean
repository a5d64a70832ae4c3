import Arcade.Progress.Document
import Mathlib.Data.List.Forall2

/-!
# Documents that are read back

What a document is written as stands for that document again. Badges, challenges and tallies are
written without loss. A stat record is cleaned when it is read, so that it comes back only if
cleaning keeps all of its stats.
-/

namespace Arcade

/-! ## Lists -/

/-- Reading all items succeeds exactly if reading each item does. -/
theorem mapM_eq_ok {α β : Type} {f : α → Except Fault β} {l : List α} {l' : List β} :
    l.mapM f = .ok l' ↔ List.Forall₂ (fun x y => f x = .ok y) l l' := by
  induction l generalizing l' with
  | nil =>
    constructor
    · intro h
      cases h
      exact .nil
    · intro h
      cases h
      rfl
  | cons x rest ih =>
    rw [List.mapM_cons]
    constructor
    · intro h
      obtain ⟨y, hy, h⟩ := bind_eq_ok.1 h
      obtain ⟨ys, hys, h⟩ := bind_eq_ok.1 h
      cases h
      exact .cons hy (ih.1 hys)
    · intro h
      cases h with
      | cons hy hys => exact bind_eq_ok.2 ⟨_, hy, bind_eq_ok.2 ⟨_, ih.2 hys, rfl⟩⟩

theorem filterMap_map_eq_self {α β : Type} {f : α → Option β} {g : β → α} {l : List β}
    (h : ∀ x ∈ l, f (g x) = some x) : (l.map g).filterMap f = l := by
  induction l with
  | nil => rfl
  | cons x rest ih =>
    rw [List.map_cons, List.filterMap_cons_some (h x List.mem_cons_self),
      ih fun y hy => h y (List.mem_cons_of_mem x hy)]

/-! ## Badges and challenges -/

theorem Badge.ofJson_toJson (b : Badge) : Badge.ofJson b.toJson = .ok b := by
  obtain ⟨id, title, description, game, requirement, icon, unlocked, unlockedAt⟩ := b
  by_cases h : unlockedAt = .null
  · subst h
    rfl
  · simp only [toJson, if_neg h]
    rfl

theorem Challenge.ofJson_toJson (c : Challenge) : Challenge.ofJson c.toJson = .ok c := by
  obtain ⟨id, title, description, game, requirement, rewardCoins, expiresAt, completed,
    completedAt⟩ := c
  have hn : ¬ (rewardCoins : Int) < 0 := Int.not_lt.2 (Int.natCast_nonneg _)
  have step {x : Except Fault Challenge} :
      (if (rewardCoins : Int) < 0 then .error (.negativeReward id) else x) = x := if_neg hn
  by_cases h : completedAt = .null
  · subst h
    exact step
  · simp only [toJson, if_neg h]
    exact step

/-! ## Tallies -/

theorem DayLog.ofJson_toJson (l : DayLog) : DayLog.ofJson l.toJson = .ok l := rfl

theorem Tally.daysOfJson_toJson (days : List (String × DayLog)) :
    Tally.daysOfJson (days.map fun e => (e.1, e.2.toJson)) = .ok days := by
  induction days with
  | nil => rfl
  | cons e rest ih =>
    obtain ⟨day, log⟩ := e
    rw [List.map_cons, DayLog.toJson, daysOfJson, ih]
    rfl

theorem Tally.ofJson_toJson (t : Tally) : Tally.ofJson t.toJson = .ok t := by
  have h := daysOfJson_toJson t.days.entries
  obtain ⟨totalPlays, totalTime, badgesUnlocked, challengesCompleted, totalCoins, days⟩ := t
  change (do
    let logs ← daysOfJson (days.entries.map fun e : String × DayLog => (e.1, e.2.toJson))
    return (⟨totalPlays, totalTime, badgesUnlocked, challengesCompleted, totalCoins,
      Dict.ofList logs⟩ : Tally)) = _
  rw [h]
  exact congrArg (fun d => Except.ok (Tally.mk _ _ _ _ _ d)) (Dict.ofList_entries days)

/-! ## Stat records -/

namespace StatRecord

/-- Whether cleaning keeps all stats of a record. -/
def Clean (r : StatRecord) : Prop := ∀ e ∈ r.entries, clean? e.1 (.num e.2) = some e.2

theorem ofJson_toJson {r : StatRecord} (h : r.Clean) : ofJson r.toJson = r := by
  have hentries : (r.entries.map fun e => (e.1, Json.num e.2)).filterMap
      (fun e : String × Json => (clean? e.1 e.2).map fun n => (e.1, n)) = r.entries :=
    filterMap_map_eq_self fun e he => by simp [h e he]
  rw [toJson, ofJson, ofEntries, hentries, Dict.ofList_entries]

end StatRecord

/-! ## Documents -/

namespace Document

theorem badgesOfJson_toJson (badges : List Badge) :
    badgesOfJson (.arr (badges.map Badge.toJson)) = .ok badges := by
  rw [badgesOfJson, filterMap_map_eq_self fun b _ => by rw [Badge.ofJson_toJson]; rfl]

theorem mapM_challenge_toJson (challenges : List Challenge) :
    (challenges.map Challenge.toJson).mapM Challenge.ofJson = .ok challenges := by
  rw [mapM_eq_ok, List.forall₂_map_left_iff, List.forall₂_same]
  exact fun c _ => c.ofJson_toJson

theorem challengesOfJson_toJson (challenges : List Challenge) :
    challengesOfJson (.arr (challenges.map Challenge.toJson)) = .ok challenges := by
  rw [challengesOfJson, mapM_challenge_toJson]

/-- A document with clean stats is read back from what it is written as. -/
theorem ofJson_toJson {d : Document} (h : ∀ e ∈ d.progress.entries, StatRecord.Clean e.2) :
    ofJson d.toJson = .ok d := by
  obtain ⟨progress, badges, challenges, tally⟩ := d
  have hmap : progress.entries.map ((fun e : String × Json => (e.1, StatRecord.ofJson e.2)) ∘
      fun e : String × StatRecord => (e.1, e.2.toJson)) = progress.entries :=
    (List.map_congr_left fun e he => by simp [StatRecord.ofJson_toJson (h e he)]).trans
      (List.map_id _)
  change (do
    let badges ← badgesOfJson (.arr (badges.map Badge.toJson))
    let challenges ← challengesOfJson (.arr (challenges.map Challenge.toJson))
    let tally ← Tally.ofJson tally.toJson
    return Document.mk (Dict.ofList ((progress.entries.map fun e : String × StatRecord =>
      (e.1, e.2.toJson)).map fun e : String × Json => (e.1, StatRecord.ofJson e.2)))
      badges challenges tally) = _
  rw [badgesOfJson_toJson, challengesOfJson_toJson, Tally.ofJson_toJson, List.map_map, hmap,
    Dict.ofList_entries]
  rfl

/-- The outer shape of a stored document: an object with an object of records and a list of
badges. -/
structure Shape (v : Json) (members games : List (String × Json)) (badges : List Json) : Prop where
  isObject : v = .obj members
  hasProgress : valueAt? "gameProgress" members = some (.obj games)
  hasBadges : valueAt? "badges" members = some (.arr badges)

/-- Within the outer shape only challenges and the tally can raise a fault. -/
theorem ofJson_of_shape {v : Json} {members games : List (String × Json)} {badges : List Json}
    (h : Shape v members games badges) : ofJson v = (do
      let challenges ← challengesOfJson ((valueAt? "challenges" members).getD (.arr []))
      let tally ← Tally.ofJson ((valueAt? "sessionStats" members).getD (.obj []))
      return ⟨Dict.ofList (games.map fun e => (e.1, StatRecord.ofJson e.2)),
        badges.filterMap fun e => (Badge.ofJson e).toOption, challenges, tally⟩) := by
  obtain ⟨rfl, hgames, hbadges⟩ := h
  rw [ofJson]
  simp only [Json.required, hgames, hbadges]
  rfl

/-- Without the outer shape a value is refused, and the fault says what is wrong with it. -/
theorem ofJson_of_not_shape {v : Json}
    (h : ∀ members games badges, ¬ Shape v members games badges) :
    ∃ e, ofJson v = .error e ∧ (e = .documentNotObject ∨ e = .missingKey "gameProgress" ∨
      e = .missingKey "badges" ∨ e = .progressNotObject ∨ e = .badgesNotList) := by
  cases v with
  | obj members =>
    rw [ofJson]
    simp only [Json.required]
    cases hp : valueAt? "gameProgress" members with
    | none => exact ⟨_, rfl, .inr (.inl rfl)⟩
    | some progress =>
      cases progress with
      | obj games =>
        cases hb : valueAt? "badges" members with
        | none => exact ⟨_, rfl, .inr (.inr (.inl rfl))⟩
        | some badges =>
          cases badges with
          | arr entries => exact absurd ⟨rfl, hp, hb⟩ (h members games entries)
          | _ => exact ⟨_, rfl, .inr (.inr (.inr (.inr rfl)))⟩
      | _ => exact ⟨_, rfl, .inr (.inr (.inr (.inl rfl)))⟩
  | _ => exact ⟨_, rfl, .inl rfl⟩

/-- What a document that was read is made of. -/
theorem exists_shape_of_ofJson {v : Json} {d : Document} (h : ofJson v = .ok d) :
    ∃ members games badges, Shape v members games badges ∧
      d.progress = Dict.ofList (games.map fun e => (e.1, StatRecord.ofJson e.2)) ∧
      d.badges = badges.filterMap fun e => (Badge.ofJson e).toOption := by
  by_cases hs : ∃ members games badges, Shape v members games badges
  · obtain ⟨members, games, badges, hs⟩ := hs
    rw [ofJson_of_shape hs] at h
    obtain ⟨challenges, -, h⟩ := bind_eq_ok.1 h
    obtain ⟨tally, -, h⟩ := bind_eq_ok.1 h
    obtain rfl := Except.ok.inj h
    exact ⟨members, games, badges, hs, rfl, rfl⟩
  · obtain ⟨e, he, -⟩ := ofJson_of_not_shape fun m g b hs' => hs ⟨m, g, b, hs'⟩
    rw [he] at h
    cases h

end Document

end Arcade
