import Arcade.Proofs.Challenge.Generations
import Arcade.Proofs.Json.Plain
import Arcade.Proofs.Ledger.Loading
import Arcade.Proofs.Ledger.Upkeep
import Arcade.Proofs.Progress.Legible

/-!
# Documents of new players

A ledger that finds no document starts with that of a new player, into which an old streak may be
folded, and which gains a log for the day. Whatever the day and the streak are, the text of such a
document is read back as the document.
-/

namespace Arcade

open Json

/-- Whether the text of a document is read back as what was written. -/
def Document.Readable (d : Document) : Prop := Json.read d.toJson.write = .ok d.toJson

/-- The text of a sound document with integers for counters stands for the document. -/
theorem Document.read_of_readable {d : Document} (h : d.Sound) (hw : d.WholeStats)
    (hr : d.Readable) : Document.read (.str d.toJson.write) = .ok d := by
  change (do Document.ofJson (← Json.read d.toJson.write)) = _
  rw [hr]
  exact h.ofJson_toJson hw

variable {now : Instant}

namespace StatRecord

variable {r : StatRecord} {name : String} {m n : Number}

/-- Whether a number is an integer of a length that is read. -/
def IsCount (n : Number) : Prop := ∃ i : Int, n = .int i ∧ IsShort i.natAbs

/-- A record with counts only, under names that are read back. -/
def Countable (r : StatRecord) : Prop := ∀ e ∈ r.entries, Text.rejoined e.1 = e.1 ∧ IsCount e.2

theorem isCount_zero : IsCount 0 := ⟨0, rfl, isShort_zero⟩

theorem IsCount.max (hm : IsCount m) (hn : IsCount n) : IsCount (m.max n) := by
  unfold Number.max
  split
  · exact hn
  · exact hm

theorem Countable.getD (h : r.Countable) (name : String) : IsCount ((Dict.get? r name).getD 0) := by
  cases hr : Dict.get? r name with
  | none => exact isCount_zero
  | some n => exact (h (name, n) (Dict.mem_entries_of_get? hr)).2

theorem Countable.insert (h : r.Countable) (hname : name ∈ fields) (hn : IsCount n) :
    Countable (Dict.insert r name n) := by
  intro e he
  rcases Dict.mem_entries_insert he with rfl | he
  · exact ⟨rejoined_field hname, hn⟩
  · exact h e he

theorem Countable.legible (h : r.Countable) (room : Nat) : Legible (room + 1) r.toJson := by
  refine legible_dict (f := Json.num) (fun e he => (h e he).1) fun e he => ?_
  obtain ⟨i, hi, hshort⟩ := (h e he).2
  rw [hi]
  exact .int hshort

theorem countable_startRecord {g : Game} (hg : g ∈ Game.registry) :
    Countable (Document.startRecord g) := by
  have hall : ∀ g ∈ Game.registry, ∀ e ∈ g.defaults, e.1 ∈ fields ∧ e.2.natAbs < 10 := by decide
  intro e he
  obtain ⟨x, hx, rfl⟩ := List.mem_map.1 (Dict.mem_entries_ofList he)
  obtain ⟨hname, hsmall⟩ := hall g hg x hx
  have hlimit : 10 ≤ 10 ^ Number.digitLimit := Nat.le_self_pow (by decide) 10
  exact ⟨rejoined_field hname, _, rfl, isShort_iff.2 (Nat.lt_of_lt_of_le hsmall hlimit)⟩

end StatRecord

namespace Document

open StatRecord

variable {d : Document} {n : Nat}

theorem Sound.withOldStreak (h : d.Sound) (n? : Option Nat) : (d.withOldStreak n?).Sound := by
  cases n? with
  | none => exact h
  | some n => exact h.withStreak n

/-- A document with countable records under names that are read back. -/
def Countable (d : Document) : Prop :=
  ∀ e ∈ d.progress.entries, Text.rejoined e.1 = e.1 ∧ StatRecord.Countable e.2

theorem Countable.record (h : d.Countable) (game : String) :
    StatRecord.Countable (d.record game) := by
  unfold Document.record
  cases hg : d.progress.get? game with
  | none => exact List.forall_mem_nil _
  | some r => exact (h (game, r) (Dict.mem_entries_of_get? hg)).2

theorem Countable.withStreak (h : d.Countable) (hn : IsShort n) : (d.withStreak n).Countable := by
  have hrecord := h.record streakGame
  have hcount : IsCount (.int n) := ⟨n, rfl, by simpa using hn⟩
  have hname : Text.rejoined streakGame = streakGame := Text.rejoined_of_isPlain (by decide)
  intro e he
  rcases Dict.mem_entries_insert he with rfl | he
  · refine ⟨hname, ?_⟩
    exact (hrecord.insert (by decide) ((hrecord.getD _).max hcount)).insert (by decide)
      ((hrecord.getD _).max hcount)
  · exact h e he

theorem Countable.withOldStreak (h : d.Countable) {n? : Option Nat}
    (hn : ∀ n, n? = some n → IsShort n) : (d.withOldStreak n?).Countable := by
  cases n? with
  | none => exact h
  | some n => exact h.withStreak (hn n rfl)

theorem countable_fresh (challenges : List Challenge) : (fresh challenges).Countable := by
  have hnames : ∀ g ∈ Game.registry, Text.isPlain g.id = true := by decide
  intro e he
  obtain ⟨g, hg, rfl⟩ := List.mem_map.1 (Dict.mem_entries_ofList he)
  exact ⟨Text.rejoined_of_isPlain (hnames g hg), countable_startRecord hg⟩

theorem Countable.wholeStats (h : d.Countable) : d.WholeStats := by
  intro e he f hf
  obtain ⟨i, hi, -⟩ := ((h e he).2 f hf).2
  exact .inr ⟨i, hi⟩

/-! ## The whole document -/

theorem legible_freshBadge {b : Badge} (hb : b ∈ Badge.fresh) : Legible 1 b.toJson := by
  have hall : ∀ d ∈ Badge.catalog, Json.isPlain 1 (Badge.ofDesign d).toJson = true := by
    -- Game by game, since the whole catalog is much to evaluate at once.
    simp only [Badge.catalog, List.forall_mem_append]
    and_intros <;> decide +kernel
  obtain ⟨d, hd, rfl⟩ := List.mem_map.1 hb
  exact legible_of_isPlain 1 _ (hall d hd)

/-- A challenge of the catalog with an end that is read back. -/
theorem legible_ofDesign {design : Challenge.Design} (hd : design ∈ Challenge.catalog)
    {ending : String} (hending : Text.rejoined ending = ending) :
    Legible 1 (Challenge.ofDesign design ending).toJson := by
  have hall : ∀ d ∈ Challenge.catalog, Json.isPlain 1 (Challenge.ofDesign d "").toJson = true := by
    decide
  have hplain := legible_of_isPlain 1 _ (hall design hd)
  cases hplain with
  | obj hn hmembers =>
    refine .obj (Challenge.named_toJson _) fun e he => ?_
    rcases List.mem_append.1 he with he | he
    · exact hmembers e (List.mem_append_left _ he)
    · rw [List.mem_singleton.1 he]
      exact .str hending

theorem rejoined_timestamp (i : Instant) : Text.rejoined i.timestamp = i.timestamp :=
  Text.rejoined_of_ascii fun _ hc => Timestamp.toNat_lt_of_mem_timestamp hc

/-- The tally of a new player with a log for the day. -/
theorem legible_newTally (now : Instant) :
    Legible 3 (Tally.toJson { days := Dict.empty.insertNew now.dayKey {} }) := by
  have hlog : Legible 1 (DayLog.toJson {}) := legible_of_isPlain 1 _ (by decide)
  have hday : ∀ e ∈ ((Dict.empty : Dict DayLog).insertNew now.dayKey {}).entries,
      Text.rejoined e.1 = e.1 ∧ Legible 1 e.2.toJson := by
    intro e he
    rcases Dict.mem_entries_insertNew he with rfl | he
    · exact ⟨Text.rejoined_of_ascii fun _ hc => Timestamp.toNat_lt_of_mem_dateText hc, hlog⟩
    · cases he
  refine .obj (Tally.named_toJson _) fun e he => ?_
  simp only [List.mem_cons, List.not_mem_nil, or_false] at he
  rcases he with rfl | rfl | rfl | rfl | rfl | rfl
  iterate 5 exact .int isShort_zero
  exact legible_dict (fun e he => (hday e he).1) fun e he => (hday e he).2

theorem exists_of_freshOn (h : freshOn now = .ok d) :
    ∃ m : Instant, d = fresh (Challenge.catalog.map (Challenge.ofDesign · m.timestamp)) := by
  obtain ⟨challenges, hchallenges, hd⟩ := bind_eq_ok.1 h
  obtain ⟨m, -, rfl⟩ := Challenge.generation_eq_ok.1 hchallenges
  exact ⟨m, (Except.ok.inj hd).symm⟩

variable {n? : Option Nat}

/-- The document of a new player with an old streak is written as a legible value. -/
theorem legible_newPlayer (h : freshOn now = .ok d) (hn : ∀ n, n? = some n → IsShort n) :
    Legible 4 ((d.withOldStreak n?).withDay now).toJson := by
  obtain ⟨m, rfl⟩ := exists_of_freshOn h
  have hcountable := (countable_fresh
    (Challenge.catalog.map (Challenge.ofDesign · m.timestamp))).withOldStreak hn
  apply legible_of_parts
  · exact fun e he => ⟨(hcountable e he).1, (hcountable e he).2.legible 1⟩
  · intro b hb
    rw [withDay, badges_withOldStreak] at hb
    exact (legible_freshBadge hb).mono (by decide)
  · intro c hc
    rw [withDay, challenges_withOldStreak] at hc
    obtain ⟨design, hdesign, rfl⟩ := List.mem_map.1 hc
    exact (legible_ofDesign hdesign (rejoined_timestamp m)).mono (by decide)
  · rw [withDay, tally_withOldStreak]
    exact legible_newTally now

/-- The document with which a ledger starts that finds none is sound and read back, with whatever
old streak. -/
theorem read_newPlayer (h : freshOn now = .ok d) (hn : ∀ n, n? = some n → IsShort n) :
    let e := (d.withOldStreak n?).withDay now
    e.Sound ∧ Document.read (.str e.toJson.write) = .ok e := by
  have hsound := ((sound_freshOn h).withOldStreak n?).withDay now
  have hcountable : (d.withOldStreak n?).Countable := by
    obtain ⟨m, rfl⟩ := exists_of_freshOn h
    exact (countable_fresh _).withOldStreak hn
  exact ⟨hsound, read_of_readable hsound (Countable.wholeStats hcountable)
    (read_write_of_legible ((legible_newPlayer h hn).mono (by decide)))⟩

end Document

end Arcade
