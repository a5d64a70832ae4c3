import Arcade.Ledger.Export
import Arcade.Proofs.Progress.Legible
import Arcade.Proofs.Progress.Sound

/-!
# Reading normalises once

Whatever a document is read from, it is read again from what it is written as. Reading drops,
clamps and fills in, but it does so only once: a stat that was cleaned is clean, and everything
else is written without loss. The documents that can be read at all are therefore those with clean
stats, and on them writing is a right inverse of reading. What a text was read as is legible, and so
is the document that is read from it: its export is always read as it was written.
-/

namespace Arcade

namespace StatRecord

/-! ## Clean stats -/

/-- What is a double after rounding to a whole number was that double before. -/
theorem eq_float_of_whole {n : Number} {x : Float} (h : whole n = .float x) : n = .float x := by
  cases n with
  | int k => cases h
  | float y =>
    rw [whole] at h
    split at h
    · cases h
    · exact h

theorem whole_atLeastZero_twice (n : Number) :
    whole (atLeastZero (whole (atLeastZero n))) = whole (atLeastZero n) := by
  cases h : whole (atLeastZero n) with
  | int k => rw [atLeastZero_int_of_nonneg (nonneg_of_whole h), whole]
  | float x =>
    have hx := eq_float_of_whole h
    have hzero : atLeastZero (.float x) = .float x := by
      rw [← hx]
      exact atLeastZero_atLeastZero n
    rw [hzero, ← hx, h, hx]

/-- A stat that was cleaned is kept when it is cleaned again. -/
theorem clean?_of_clean? {name : String} {v : Json} {n : Number} (h : clean? name v = some n) :
    clean? name (.num n) = some n := by
  unfold clean? at h
  split at h
  · rename_i hname
    split at h
    · rename_i m
      obtain rfl := Option.some.inj h
      rw [clean?, if_pos hname]
      by_cases hf : name ∈ fractional
      · simp only [if_pos hf, atLeastZero_atLeastZero]
      · simp only [if_neg hf, whole_atLeastZero_twice]
    · cases h
  · cases h

theorem clean_ofJson (v : Json) : (ofJson v).Clean := by
  cases v with
  | obj members =>
    intro e he
    obtain ⟨x, -, hx⟩ := List.mem_filterMap.1 (Dict.mem_entries_ofList he)
    obtain ⟨n, hn, rfl⟩ := Option.map_eq_some_iff.1 hx
    exact clean?_of_clean? hn
  | _ => exact fun e he => nomatch he

/-- Whatever a record is read from, it is read again from what it is written as. -/
theorem ofJson_toJson_ofJson (v : Json) : ofJson (ofJson v).toJson = ofJson v :=
  ofJson_toJson (clean_ofJson v)

end StatRecord

/-! ## Documents -/

namespace Document

theorem clean_of_ofJson {v : Json} {d : Document} (h : ofJson v = .ok d) :
    ∀ e ∈ d.progress.entries, StatRecord.Clean e.2 := by
  obtain ⟨members, games, badges, -, hprogress, -⟩ := exists_shape_of_ofJson h
  rw [hprogress]
  intro e he
  obtain ⟨x, -, rfl⟩ := List.mem_map.1 (Dict.mem_entries_ofList he)
  exact StatRecord.clean_ofJson x.2

/-- The stats of a document are clean exactly if it can be read from something. -/
theorem clean_iff_exists_ofJson {d : Document} :
    (∀ e ∈ d.progress.entries, StatRecord.Clean e.2) ↔ ∃ v, ofJson v = .ok d := by
  constructor
  · intro h
    exact ⟨d.toJson, ofJson_toJson h⟩
  · rintro ⟨v, h⟩
    exact clean_of_ofJson h

/-- An exported document whose text is read as the value that was written is read as that
document. -/
theorem read_exported {v : Json} {d : Document} (h : ofJson v = .ok d)
    (ht : Json.read d.exported = .ok d.toJson) : read (.str d.exported) = .ok d := by
  change (do ofJson (← Json.read d.exported)) = _
  rw [ht]
  exact ofJson_toJson (clean_of_ofJson h)

/-- The export of a document from a legible value is read as the value that was written. -/
theorem read_exported_of_legible {v : Json} {d : Document} (hv : Json.Legible Json.depthLimit v)
    (h : ofJson v = .ok d) : Json.read d.exported = .ok d.toJson :=
  Json.read_writeIndented_of_legible
    (Document.legible_toJson (show Json.Legible (986 + 4) v from hv) h)

end Document

/-- Importing depends on the text only by the document that it is read as. -/
theorem Shelf.importText_congr {u v : Json} (h : Document.read u = Document.read v)
    (now : Instant) : importText u now = importText v now := by
  rw [importText, importText, h]

/-! ## Reading twice -/

namespace Document

/-- A stored value with much to put right: a negative score, stats with an unknown name and without
a number, a badge without texts and one without an identifier, challenges of which one has a
negative reward, counts that are negative or texts, and a day that is no object. -/
def untidy : Json :=
  .obj [
    ("sessionStats", .obj [
      ("totalPlays", .str " 7 "), ("totalTime", .int (-3)), ("totalCoins", .bool true),
      ("dailyLogs", .obj [("2024-01-02", .obj [("gamesPlayed", .int 2)]), ("today", .int 1)])]),
    ("gameProgress", .obj [
      ("chess", .obj [("score", .int (-5)), ("lives", .int 3), ("wins", .str "4"),
        ("plays", .int 6)]),
      ("ludo", .null)]),
    ("badges", .arr [.obj [("id", .int 9), ("unlocked", .int 1)], .obj [("title", .str "none")]]),
    ("challenges", .arr [.obj [("id", .str "c"), ("rewardCoins", .int (-1)),
      ("expiresAt", .str "")]])]

/-- What is left of it. -/
def tidied : Document where
  progress := Dict.ofList [("chess", Dict.ofList [("score", .int 0), ("plays", .int 6)]),
    ("ludo", Dict.empty)]
  badges := [⟨"9", .str "", .str "", .str "", .str "", .str "", true, .null⟩]
  challenges := []
  tally := {
    totalPlays := 7
    totalCoins := 1
    days := Dict.ofList [("2024-01-02", { gamesPlayed := 2 })] }

end Document

end Arcade
