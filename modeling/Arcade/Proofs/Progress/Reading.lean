import Arcade.Proofs.Json.Distinct
import Arcade.Proofs.Progress.Decoding

/-!
# What is kept of a stored document

Each part of a stored document is read on its own: one that is damaged is left out or emptied, and
costs no other part anything. Badges without an identifier, days that are no objects and stats that
are no numbers are left out, and counts that cannot be read are zero. Only the challenges are kept
together or not at all.
-/

namespace Arcade

open List (Forall₂)

/-- What is kept of each item of a list that is kept at all. -/
theorem forall₂_filterMap {α β : Type} {p : α → Bool} {f : α → Option β}
    (h : ∀ x, p x = (f x).isSome) (l : List α) :
    Forall₂ (fun x y => f x = some y) (l.filter p) (l.filterMap f) := by
  induction l with
  | nil => exact .nil
  | cons x rest ih =>
    cases hx : f x with
    | none =>
      rw [List.filter_cons_of_neg (by rw [h, hx]; exact Bool.false_ne_true),
        List.filterMap_cons_none hx]
      exact ih
    | some y =>
      rw [List.filter_cons_of_pos (by rw [h, hx]; rfl), List.filterMap_cons_some hx]
      exact .cons hx ih

/-- What stands under each name keeps its name. -/
theorem map_fst_of_forall₂ {α β : Type} {R : String × α → String × β → Prop}
    (hR : ∀ x y, R x y → y.1 = x.1) {l : List (String × α)} {l' : List (String × β)}
    (h : Forall₂ R l l') : l'.map Prod.fst = l.map Prod.fst := by
  induction h with
  | nil => rfl
  | cons hxy _ ih => rw [List.map_cons, List.map_cons, hR _ _ hxy, ih]

theorem Json.required_eq_ok {members : List (String × Json)} {name : String} {x : Json} :
    (Json.obj members).required name = .ok x ↔ valueAt? name members = some x := by
  unfold Json.required
  dsimp only
  cases valueAt? name members with
  | none => exact ⟨nofun, nofun⟩
  | some y => rw [Except.ok.injEq, Option.some.injEq]

/-! ## Badges -/

namespace Badge

/-- Whether a stored badge can be read: it is an object with an identifier. -/
def isReadable : Json → Bool
  | .obj members => (valueAt? "id" members).isSome
  | _ => false

/-- Whether a badge is what a stored one says, whatever that is. -/
def Reads (v : Json) (b : Badge) : Prop :=
  ∃ members id, v = .obj members ∧ valueAt? "id" members = some id ∧
    b = {
      id := id.text
      title := textMember members "title"
      description := textMember members "description"
      game := textMember members "game"
      requirement := textMember members "requirement"
      icon := textMember members "icon"
      unlocked := ((valueAt? "unlocked" members).getD (.bool false)).truthy
      unlockedAt := (valueAt? "unlockedAt" members).getD .null }

theorem ofJson_eq_ok {v : Json} {b : Badge} : ofJson v = .ok b ↔ Reads v b := by
  constructor
  · intro h
    cases v with
    | obj members =>
      obtain ⟨id, hid, h⟩ := bind_eq_ok.1 h
      cases h
      exact ⟨members, id, rfl, Json.required_eq_ok.1 hid, rfl⟩
    | _ => cases h
  · rintro ⟨members, id, rfl, hid, rfl⟩
    exact bind_eq_ok.2 ⟨id, Json.required_eq_ok.2 hid, rfl⟩

theorem isReadable_eq (v : Json) : isReadable v = (ofJson v).toOption.isSome := by
  cases v with
  | obj members =>
    unfold isReadable ofJson Json.required
    dsimp only
    cases valueAt? "id" members <;> rfl
  | _ => rfl

/-- Of a stored list all badges are kept that can be read. -/
theorem forall₂_reads (entries : List Json) :
    Forall₂ Reads (entries.filter isReadable)
      (entries.filterMap fun e => (ofJson e).toOption) := by
  refine (forall₂_filterMap isReadable_eq entries).imp fun v b h => ofJson_eq_ok.1 ?_
  cases hv : ofJson v with
  | error e =>
    rw [hv] at h
    cases h
  | ok c =>
    rw [hv] at h
    cases h
    rfl

end Badge

/-! ## Challenges -/

namespace Challenge

/-- Whether a challenge is what a stored one says: an object with an identifier, an end and a reward
that is a number of coins. -/
def Reads (v : Json) (c : Challenge) : Prop :=
  ∃ (members : List (String × Json)) (id expiresAt : Json) (reward : Nat), v = .obj members ∧
    valueAt? "id" members = some id ∧ valueAt? "expiresAt" members = some expiresAt ∧
    ((valueAt? "rewardCoins" members).getD (.int 0)).toInt = .ok (reward : Int) ∧
    c = {
      id := id.text
      title := Badge.textMember members "title"
      description := Badge.textMember members "description"
      game := Badge.textMember members "game"
      requirement := Badge.textMember members "requirement"
      rewardCoins := reward
      expiresAt := expiresAt.text
      completed := ((valueAt? "completed" members).getD (.bool false)).truthy
      completedAt := (valueAt? "completedAt" members).getD .null }

theorem ofJson_eq_ok {v : Json} {c : Challenge} : ofJson v = .ok c ↔ Reads v c := by
  constructor
  · intro h
    cases v with
    | obj members =>
      obtain ⟨found, hfound, h⟩ := bind_eq_ok.1 h
      cases hfound
      obtain ⟨reward, hreward, h⟩ := bind_eq_ok.1 h
      dsimp only at h
      split at h
      · cases h
      · rename_i hnonneg
        obtain ⟨id, hid, h⟩ := bind_eq_ok.1 h
        obtain ⟨expiresAt, hexpires, h⟩ := bind_eq_ok.1 h
        cases h
        refine ⟨members, id, expiresAt, reward.toNat, rfl, Json.required_eq_ok.1 hid,
          Json.required_eq_ok.1 hexpires, ?_, rfl⟩
        rw [hreward, Int.toNat_of_nonneg (Int.not_lt.mp hnonneg)]
    | _ => cases h
  · rintro ⟨members, id, expiresAt, reward, rfl, hid, hexpires, hreward, rfl⟩
    refine bind_eq_ok.2 ⟨_, rfl, bind_eq_ok.2 ⟨_, hreward, ?_⟩⟩
    dsimp only
    rw [if_neg (Int.not_lt.mpr (Int.natCast_nonneg reward))]
    exact bind_eq_ok.2 ⟨id, Json.required_eq_ok.2 hid,
      bind_eq_ok.2 ⟨expiresAt, Json.required_eq_ok.2 hexpires, rfl⟩⟩

end Challenge

/-! ## Stat records -/

/-- Members that are changed one by one, or left out, are found by their names as before. -/
theorem valueAt?_filterMap {α β : Type} {f : String → α → Option β} {members : List (String × α)}
    (hn : (members.map Prod.fst).Nodup) (name : String) :
    valueAt? name (members.filterMap fun e => (f e.1 e.2).map fun y => (e.1, y)) =
      (valueAt? name members).bind (f name) := by
  induction members with
  | nil => rfl
  | cons e rest ih =>
    rw [List.map_cons, List.nodup_cons] at hn
    by_cases he : e.1 = name
    · subst he
      have hrest : valueAt? e.1 rest = none :=
        Option.not_isSome_iff_eq_none.1 fun h => hn.1 (valueAt?_isSome_iff.1 h)
      rw [valueAt?, if_pos rfl, Option.bind_some]
      cases hf : f e.1 e.2 with
      | none =>
        rw [List.filterMap_cons_none (by rw [hf]; rfl), ih hn.2, hrest]
        rfl
      | some y =>
        rw [List.filterMap_cons_some (by rw [hf]; rfl), valueAt?, if_pos rfl]
    · rw [valueAt?, if_neg he, ← ih hn.2]
      cases hf : f e.1 e.2 with
      | none => rw [List.filterMap_cons_none (by rw [hf]; rfl)]
      | some y => rw [List.filterMap_cons_some (by rw [hf]; rfl), valueAt?, if_neg he]

theorem names_filterMap_sublist {α β : Type} {f : String → α → Option β}
    (members : List (String × α)) :
    ((members.filterMap fun e => (f e.1 e.2).map fun y => (e.1, y)).map Prod.fst).Sublist
      (members.map Prod.fst) := by
  induction members with
  | nil => exact .slnil
  | cons e rest ih =>
    cases hf : f e.1 e.2 with
    | none =>
      rw [List.filterMap_cons_none (by rw [hf]; rfl)]
      exact ih.cons _
    | some y =>
      rw [List.filterMap_cons_some (by rw [hf]; rfl)]
      exact ih.cons_cons _

namespace StatRecord

/-- The number that a field is kept as, of what is stored for a game. -/
def validated? (v : Json) (field : String) : Option Number :=
  match v with
  | .obj members => (valueAt? field members).bind (clean? field)
  | _ => none

theorem get?_ofJson {v : Json} (hv : v.Distinct) (field : String) :
    (ofJson v).get? field = validated? v field := by
  cases v with
  | obj members =>
    have hnames : ((members.filterMap fun e =>
        (clean? e.1 e.2).map fun n => (e.1, n)).map Prod.fst).Nodup :=
      (names_filterMap_sublist members).nodup hv.nodup
    show valueAt? field (Dict.ofList _).entries = _
    rw [Dict.entries_ofList hnames, valueAt?_filterMap hv.nodup]
    rfl
  | _ => rfl

end StatRecord

/-! ## Days -/

namespace Tally

/-- A stored count, zero if it is missing or cannot be read. -/
def counter (members : List (String × Json)) (name : String) : Nat :=
  match (valueAt? name members).map Json.toInt with
  | some (.ok n) => n.toNat
  | _ => 0

theorem eq_counter_of_count {members : List (String × Json)} {name : String} {n : Nat}
    (h : count (.obj members) name = .ok n) : n = counter members name := by
  obtain ⟨found, hfound, h⟩ := bind_eq_ok.1 h
  cases hfound
  unfold counter
  cases hv : valueAt? name members with
  | none =>
    rw [hv] at h
    cases h
    rfl
  | some v =>
    rw [hv] at h
    rw [Option.map_some]
    cases v with
    | null =>
      cases h
      rfl
    | _ =>
      dsimp only at h
      generalize Json.toInt _ = r at h ⊢
      cases r with
      | ok k =>
        cases h
        rfl
      | error e => cases e <;> cases h <;> rfl

end Tally

/-- A log that is read counts what its members say. -/
theorem DayLog.eq_of_ofJson {members : List (String × Json)} {log : DayLog}
    (h : ofJson (.obj members) = .ok log) : log = {
      gamesPlayed := Tally.counter members "gamesPlayed"
      timeSpent := Tally.counter members "timeSpent"
      coinsEarned := Tally.counter members "coinsEarned" } := by
  obtain ⟨played, hplayed, h⟩ := bind_eq_ok.1 h
  obtain ⟨spent, hspent, h⟩ := bind_eq_ok.1 h
  obtain ⟨earned, hearned, h⟩ := bind_eq_ok.1 h
  cases h
  rw [Tally.eq_counter_of_count hplayed, Tally.eq_counter_of_count hspent,
    Tally.eq_counter_of_count hearned]

def Json.isObject : Json → Bool
  | .obj _ => true
  | _ => false

/-- Whether a log is what is stored for a day. -/
def DayLog.Reads (e : String × Json) (f : String × DayLog) : Prop :=
  f.1 = e.1 ∧ ∃ members, e.2 = .obj members ∧ f.2 = {
    gamesPlayed := Tally.counter members "gamesPlayed"
    timeSpent := Tally.counter members "timeSpent"
    coinsEarned := Tally.counter members "coinsEarned" }

/-- What is stored for each day in a tally. -/
def Tally.storedDays (stats : List (String × Json)) : List (String × Json) :=
  match valueAt? "dailyLogs" stats with
  | some (.obj days) => days
  | _ => []

/-- All days are kept that are stored as objects. -/
theorem Tally.forall₂_reads {logs : List (String × Json)} {days : List (String × DayLog)}
    (h : daysOfJson logs = .ok days) :
    Forall₂ DayLog.Reads (logs.filter fun e => e.2.isObject) days := by
  induction logs generalizing days with
  | nil =>
    cases h
    exact .nil
  | cons e rest ih =>
    obtain ⟨day, v⟩ := e
    cases v with
    | obj members =>
      obtain ⟨log, hlog, h⟩ := bind_eq_ok.1 h
      obtain ⟨more, hmore, h⟩ := bind_eq_ok.1 h
      cases h
      exact .cons ⟨rfl, members, rfl, DayLog.eq_of_ofJson hlog⟩ (ih hmore)
    | _ => exact ih h

theorem Tally.forall₂_days {stats : List (String × Json)} (hs : (Json.obj stats).Distinct)
    {t : Tally} (h : ofJson (.obj stats) = .ok t) :
    Forall₂ DayLog.Reads ((storedDays stats).filter fun e => e.2.isObject) t.days.entries := by
  obtain ⟨found, hfound, h⟩ := bind_eq_ok.1 h
  cases hfound
  obtain ⟨_, -, h⟩ := bind_eq_ok.1 h
  obtain ⟨_, -, h⟩ := bind_eq_ok.1 h
  obtain ⟨_, -, h⟩ := bind_eq_ok.1 h
  obtain ⟨_, -, h⟩ := bind_eq_ok.1 h
  obtain ⟨_, -, h⟩ := bind_eq_ok.1 h
  obtain ⟨days, hdays, h⟩ := bind_eq_ok.1 h
  cases h
  have hnames : ((storedDays stats).map Prod.fst).Nodup := by
    unfold storedDays
    split
    · exact (hs.of_valueAt? ‹_›).nodup
    · exact List.nodup_nil
  have hreads : Forall₂ DayLog.Reads ((storedDays stats).filter fun e => e.2.isObject) days :=
    forall₂_reads hdays
  rw [Dict.entries_ofList]
  · exact hreads
  · rw [map_fst_of_forall₂ (fun _ _ h => h.1) hreads]
    exact (List.filter_sublist.map Prod.fst).nodup hnames

/-! ## Documents -/

/-- Whether a record has the fields of what is stored for a game. -/
def StatRecord.Reads (g : String × Json) (r : String × StatRecord) : Prop :=
  r.1 = g.1 ∧ ∀ field, r.2.get? field = validated? g.2 field

namespace Document

/-- The challenges in an object, as they are stored; what is not a list has none. -/
def storedChallenges (members : List (String × Json)) : List Json :=
  match valueAt? "challenges" members with
  | some (.arr entries) => entries
  | _ => []

/-- What is stored for each day in an object. -/
def storedDays (members : List (String × Json)) : List (String × Json) :=
  match valueAt? "sessionStats" members with
  | some (.obj stats) => Tally.storedDays stats
  | _ => []

/-- What a document is that was read from an object with some games and badges. -/
structure Decoded (members games : List (String × Json)) (badges : List Json) (d : Document) :
    Prop where
  progress : Forall₂ StatRecord.Reads games d.progress.entries
  badges : Forall₂ Badge.Reads (badges.filter Badge.isReadable) d.badges
  /-- One challenge that cannot be read costs the others. -/
  challenges : Forall₂ Challenge.Reads (storedChallenges members) d.challenges ∨
    d.challenges = [] ∧ ¬∃ cs, Forall₂ Challenge.Reads (storedChallenges members) cs
  days : Forall₂ DayLog.Reads ((storedDays members).filter fun e => e.2.isObject)
    d.tally.days.entries

theorem forall₂_progress {games : List (String × Json)} (hn : (games.map Prod.fst).Nodup)
    (hv : ∀ g ∈ games, g.2.Distinct) :
    Forall₂ StatRecord.Reads games
      (Dict.ofList (games.map fun g => (g.1, StatRecord.ofJson g.2))).entries := by
  rw [Dict.entries_ofList (by rwa [List.map_map]), List.forall₂_map_right_iff, List.forall₂_same]
  exact fun g hg => ⟨rfl, StatRecord.get?_ofJson (hv g hg)⟩

theorem challenges_of_challengesOfJson {members : List (String × Json)} {cs : List Challenge}
    (h : challengesOfJson ((valueAt? "challenges" members).getD (.arr [])) = .ok cs) :
    Forall₂ Challenge.Reads (storedChallenges members) cs ∨
      cs = [] ∧ ¬∃ cs, Forall₂ Challenge.Reads (storedChallenges members) cs := by
  have hreads {entries : List Json} {cs : List Challenge} :
      Forall₂ Challenge.Reads entries cs ↔ entries.mapM Challenge.ofJson = .ok cs := by
    rw [mapM_eq_ok]
    exact ⟨fun h => h.imp fun _ _ => Challenge.ofJson_eq_ok.2,
      fun h => h.imp fun _ _ => Challenge.ofJson_eq_ok.1⟩
  unfold storedChallenges
  cases hc : valueAt? "challenges" members with
  | none =>
    rw [hc] at h
    cases h
    exact .inl .nil
  | some v =>
    rw [hc] at h
    cases v with
    | arr entries =>
      dsimp only [Option.getD_some, challengesOfJson] at h ⊢
      cases hr : entries.mapM Challenge.ofJson with
      | ok found =>
        rw [hr] at h
        cases h
        exact .inl (hreads.2 hr)
      | error e =>
        -- One that cannot be read discards them all.
        have hnone : ¬∃ cs, Forall₂ Challenge.Reads entries cs := by
          rintro ⟨cs, hcs⟩
          rw [hreads.1 hcs] at hr
          cases hr
        rw [hr] at h
        cases e <;> cases h <;> exact .inr ⟨rfl, hnone⟩
    | _ =>
      cases h
      exact .inl .nil

theorem forall₂_days {members : List (String × Json)} (hm : (Json.obj members).Distinct)
    {t : Tally} (h : Tally.ofJson ((valueAt? "sessionStats" members).getD (.obj [])) = .ok t) :
    Forall₂ DayLog.Reads ((storedDays members).filter fun e => e.2.isObject) t.days.entries := by
  unfold storedDays
  cases hs : valueAt? "sessionStats" members with
  | none =>
    rw [hs] at h
    exact Tally.forall₂_days .noMembers h
  | some v =>
    rw [hs] at h
    cases v with
    | obj stats => exact Tally.forall₂_days (hm.of_valueAt? hs) h
    | _ => exact Tally.forall₂_days .noMembers h

/-- A document that is read from a value without repeated names keeps of each part what can be
kept. -/
theorem decoded_of_ofJson {v : Json} (hv : v.Distinct) {d : Document} (h : ofJson v = .ok d) :
    ∃ members games badges, Shape v members games badges ∧ Decoded members games badges d := by
  obtain ⟨members, games, badges, hs, -⟩ := exists_shape_of_ofJson h
  rw [ofJson_of_shape hs] at h
  obtain ⟨challenges, hchallenges, h⟩ := bind_eq_ok.1 h
  obtain ⟨tally, htally, h⟩ := bind_eq_ok.1 h
  cases h
  have hm : (Json.obj members).Distinct := hs.isObject ▸ hv
  have hgames := hm.of_valueAt? hs.hasProgress
  exact ⟨members, games, badges, hs, {
    progress := forall₂_progress hgames.nodup fun g hg => hgames.of_mem hg
    badges := Badge.forall₂_reads badges
    challenges := challenges_of_challengesOfJson hchallenges
    days := forall₂_days hm htally }⟩

end Document

end Arcade
