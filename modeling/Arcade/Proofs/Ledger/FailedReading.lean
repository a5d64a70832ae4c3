import Arcade.Proofs.Ledger.NewPlayers
import Arcade.Proofs.Ledger.OldStreak

/-!
# Failed readings

When the stored document cannot be looked up, loading starts from that of a new player, and writes
it in the place of the one that it could not look up. What is stored then outlives the failure only
if that write fails too: otherwise whoever loads later, with whatever storage that works again,
starts from the document of the new player.
-/

namespace Arcade

namespace Storage

/-- Whether no write can fail: none is refused, and there is room for any text. -/
structure TakesWrites (s : Storage) : Prop where
  sound : s.sound = true
  willing : ∀ n, s.refuses n .set = false
  roomy : s.limit = none

namespace TakesWrites

variable {s : Storage}

theorem get (h : s.TakesWrites) (key : Json) : (s.get key).2.TakesWrites := by
  obtain ⟨hsound, hwilling, hroomy⟩ := h
  constructor <;> simpa

theorem remove (h : s.TakesWrites) (key : Json) : (s.remove key).2.TakesWrites := by
  obtain ⟨hsound, hwilling, hroomy⟩ := h
  constructor <;> simpa

theorem set_str (h : s.TakesWrites) (k : String) (value : Json) :
    (s.set (.str k) value).1 = .ok () := by
  have hpermits : s.permits 0 .set = true := by simp [permits, h.sound, h.willing]
  rw [Storage.set, outage?_eq_none_iff.mpr hpermits, checkRoom, h.roomy]
  rfl

end TakesWrites

end Storage

namespace Document

variable {d e : Document} {n? : Option Nat} {now later : Instant}

/-- Bringing a sound document up to date leaves its badges alone. -/
theorem badges_broughtUp (hd : d.Sound) (h : d.broughtUp now = .ok e) : e.badges = d.badges := by
  obtain ⟨challenges, -, rfl⟩ := exists_refreshed_of_broughtUp hd h
  rfl

/-- The document of a new player keeps its locked badges when it is brought up to date later. -/
theorem badges_broughtUp_newPlayer (hd : freshOn now = .ok d)
    (h : ((d.withOldStreak n?).withDay now).broughtUp later = .ok e) : e.badges = Badge.fresh := by
  have hsound := ((sound_freshOn hd).withOldStreak n?).withDay now
  obtain ⟨m, rfl⟩ := exists_of_freshOn hd
  rw [badges_broughtUp hsound h]
  exact badges_withOldStreak _ n?

end Document

namespace Shelf

variable {k l : String} {s u : Shelf} {d : Document} {n? : Option Nat} {now : Instant}

theorem takesWrites_prepared (h : s.storage.TakesWrites) (d : Document) (n? : Option Nat)
    (now : Instant) : (s.prepared d n? now).storage.TakesWrites :=
  prepared_preserve (fun _ key ht => ht.get key) (fun _ ht => ht.remove _) h d n? now

/-- An old streak that is found has no more digits than are read. -/
theorem Orderly.exists_oldStreak? (h : Orderly k s) (hl : s.ledger.streakKey = .str l) :
    ∃ n?, s.oldStreak? = .ok n? ∧ ∀ n, n? = some n → Json.IsShort n := by
  rcases h.oldStreak?_result hl with hold | ⟨t, n, hn, hold⟩
  · exact ⟨none, hold, nofun⟩
  · refine ⟨some n, hold, fun m hm => ?_⟩
    obtain rfl := Option.some.inj hm
    rw [oldStreak, Json.toInt] at hn
    cases hr : Number.readInt t with
    | ok i =>
      rw [hr] at hn
      rw [← Except.ok.inj hn]
      exact (Json.isShort_of_readInt hr).mono (by omega)
    | error e =>
      obtain rfl := Number.readInt_error hr
      rw [hr] at hn
      rw [← Except.ok.inj hn]
      exact Json.isShort_zero

/-! ## When the document cannot be looked up -/

/-- The shelf with a storage that refuses nothing. -/
def mended (s : Shelf) : Shelf :=
  { s with storage := { s.storage with refuses := fun _ _ => false, sound := true } }

/-- Loading starts from the document of a new player if none can be looked up. -/
theorem taken_of_not_permits (hk : s.ledger.dataKey = .str k)
    (hget : s.storage.permits 0 .get = false) (now : Instant) :
    s.taken now = Document.freshOn now := by
  obtain ⟨f, hf⟩ := Storage.get_str_of_not_permits hget k
  unfold taken stored?
  rw [hk, hf]
  rfl

/-- What loading starts from depends on the text under the key of the document alone. -/
theorem taken_congr (hs : s.ledger.dataKey = .str k) (hu : u.ledger.dataKey = .str k)
    (hsget : s.storage.permits 0 .get = true) (huget : u.storage.permits 0 .get = true)
    (hpeek : u.storage.peek (.str k) = s.storage.peek (.str k)) (now : Instant) :
    u.taken now = s.taken now := by
  unfold taken stored?
  rw [hs, hu, Storage.get_str_of_permits hsget, Storage.get_str_of_permits huget, hpeek]

/-- Whoever finds what a new player's ledger left starts from its document if that was written, and
from what was there before if it was not. -/
theorem Orderly.taken_later (h : Orderly k s) (hl : s.ledger.streakKey = .str l) (hkl : l ≠ k)
    (hd : Document.freshOn now = .ok d) (hn : ∀ n, n? = some n → Json.IsShort n)
    (hu : u.ledger.dataKey = .str k) (hget : u.storage.permits 0 .get = true)
    (hpeek : u.storage.peek (.str k) =
      (Shelf.save.outcome (s.prepared d n? now)).2.storage.peek (.str k)) (later : Instant) :
    u.taken later =
      if (Shelf.save.outcome (s.prepared d n? now)).2.ledger.persisted then
        ((d.withOldStreak n?).withDay now).broughtUp later
      else s.mended.taken later := by
  rw [h.peek_load hl hkl] at hpeek
  by_cases hp : (Shelf.save.outcome (s.prepared d n? now)).2.ledger.persisted = true
  · rw [if_pos hp] at hpeek ⊢
    unfold taken
    rw [stored?_of_permits hu hget hpeek (Document.read_newPlayer hd hn).2]
    rfl
  · rw [if_neg hp] at hpeek ⊢
    exact taken_congr (s := s.mended) h.dataKey hu rfl hget hpeek later

/-- Let a ledger with two different texts for keys be loaded from a storage of texts that refuses to
look the document up. If there can be no new player at that instant, loading leaves the fault of it.
Otherwise it returns the document of a new player, with the old streak that is found, and tries to
write it over the stored one, which succeeds on any storage that takes writes. Then whoever loads
later from a storage that works again starts from the document of the new player. What was stored
before is started from only if the write failed. -/
theorem failed_reading (h : Orderly k s) (hl : s.ledger.streakKey = .str l) (hkl : l ≠ k)
    (hget : s.storage.permits 0 .get = false) (now : Instant) :
    (∀ f, Document.freshOn now = .error f →
      (load now).outcome s = (.error f, s.lookedUp s.ledger.dataKey)) ∧
    ∀ d, Document.freshOn now = .ok d → ∃ n? t,
      (s.lookedUp s.ledger.dataKey).oldStreak? = .ok n? ∧
      let e := (d.withOldStreak n?).withDay now
      (load now).outcome s = (.ok e, t) ∧
      t.storage.peek (.str k) =
        (if t.ledger.persisted then some (.str e.toJson.write) else s.storage.peek (.str k)) ∧
      (s.storage.TakesWrites → t.ledger.persisted = true) ∧
      ∀ u, Orderly k u → u.ledger.streakKey = .str l → u.storage.permits 0 .get = true →
        u.storage.peek (.str k) = t.storage.peek (.str k) → ∀ later, ∃ m?,
          (u.lookedUp u.ledger.dataKey).oldStreak? = .ok m? ∧
          ((load later).outcome u).1 =
            (if t.ledger.persisted then e.broughtUp later else s.mended.taken later).map
              fun f => (f.withOldStreak m?).withDay later := by
  obtain ⟨n?, hold, hn⟩ := (h.lookedUp s.ledger.dataKey).exists_oldStreak? hl
  have hload := h.outcome_load hold now
  rw [taken_of_not_permits h.dataKey hget] at hload
  refine ⟨fun f hf => by rw [hload, hf], fun d hd => ?_⟩
  rw [hd] at hload
  refine ⟨n?, _, hold, hload, h.peek_load hl hkl d n? now, fun hwrites => ?_, ?_⟩
  · show persistedAfter _ (Storage.set _ (s.prepared d n? now).ledger.dataKey _).1 = true
    rw [(h.prepared d n? now).dataKey, (takesWrites_prepared hwrites d n? now).set_str]
    rfl
  · intro u hu hul huget hpeek later
    obtain ⟨m?, hm, -⟩ := (hu.lookedUp u.ledger.dataKey).exists_oldStreak? hul
    refine ⟨m?, hm, ?_⟩
    rw [hu.outcome_load hm, ← h.taken_later hl hkl hd hn hu.dataKey huget hpeek later]
    cases u.taken later <;> rfl

/-- A stored document with three wins and an unlocked badge. -/
def veteran : Json :=
  .obj [
    ("gameProgress", .obj [("rock-paper-scissors", .obj [("wins", .int 3)])]),
    ("badges", .arr [.obj [("id", .str "rps_novice"), ("unlocked", .bool true)]])]

/-- A new ledger on a storage that has the text of that document and refuses its first look-up. -/
def mislaid : Shelf where
  ledger := (blank "gameverse-data" "rps-streak").ledger
  storage := {
    entries := Dict.ofList [(.str "gameverse-data", .str veteran.write)]
    refuses := fun before call => decide (before = 0 ∧ call = .get)
  }

/-- The stored document has an unlocked badge. Once looking it up was refused, no later loading has
one. -/
theorem failed_reading_veteran :
    (∃ d, mislaid.mended.taken noon = .ok d ∧ ∃ b ∈ d.badges, b.unlocked = true) ∧
    ∃ e t, (load noon).outcome mislaid = (.ok e, t) ∧
      ∀ u, Orderly "gameverse-data" u → u.ledger.streakKey = .str "rps-streak" →
        u.storage.permits 0 .get = true →
        u.storage.peek (.str "gameverse-data") = t.storage.peek (.str "gameverse-data") →
        ∀ later f, ((load later).outcome u).1 = .ok f → ∀ b ∈ f.badges, b.unlocked = false := by
  have horderly : Orderly "gameverse-data" mislaid := by
    refine ⟨rfl, fun e he => ?_⟩
    rw [List.mem_singleton.mp he]
    exact ⟨⟨"gameverse-data", rfl⟩, _, rfl⟩
  have hwrites : mislaid.storage.TakesWrites := ⟨rfl, fun n => by simp [mislaid], rfl⟩
  have hunlocked : (mislaid.mended.taken noon).toOption.any
      (fun d => d.badges.any Badge.unlocked) = true := by decide +kernel
  obtain ⟨n?, t, -, hload, -, hpersisted, hlater⟩ :=
    (failed_reading horderly (l := "rps-streak") rfl (by decide) rfl noon).2 _ freshOn_noon
  rw [hpersisted hwrites] at hlater
  refine ⟨?_, _, t, hload, fun u hu hul hget hpeek later f hf b hb => ?_⟩
  · cases htaken : mislaid.mended.taken noon with
    | error e =>
      rw [htaken] at hunlocked
      cases hunlocked
    | ok d =>
      rw [htaken] at hunlocked
      exact ⟨d, rfl, List.any_eq_true.mp hunlocked⟩
  · obtain ⟨m?, -, hresult⟩ := hlater u hu hul hget hpeek later
    rw [hf, if_pos rfl] at hresult
    have hlocked : ∀ b ∈ Badge.fresh, b.unlocked = false := by decide
    cases hg : ((newcomer.withOldStreak n?).withDay noon).broughtUp later with
    | error e =>
      rw [hg] at hresult
      cases hresult
    | ok g =>
      rw [hg] at hresult
      have hbadges : f.badges = Badge.fresh := by
        calc f.badges = (g.withOldStreak m?).badges := by rw [Except.ok.inj hresult]; rfl
          _ = g.badges := Document.badges_withOldStreak g m?
          _ = Badge.fresh := Document.badges_broughtUp_newPlayer freshOn_noon hg
      exact hlocked b (hbadges ▸ hb)

end Shelf

end Arcade
