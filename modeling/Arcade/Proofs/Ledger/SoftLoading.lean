import Arcade.Proofs.Challenge.Lifetime
import Arcade.Proofs.Json.Plain
import Arcade.Proofs.Ledger.Orderly
import Arcade.Proofs.Progress.Overflow

/-!
# When loading fails

Before the last year of the calendar, loading fails on three kinds of stored texts only, and on the
same three an import is neither carried out nor refused: a text with too many lists and objects
inside each other, a document with an infinite number where an integer is kept, and a document whose
first challenge ends at a time that has no date at the offset zero.
-/

namespace Arcade

namespace Document

/-- Whether the first challenge of a document ends at a time that is out of range. -/
def EndsOutOfRange (d : Document) : Prop :=
  ∃ c rest, d.challenges = c :: rest ∧ Timestamp.read c.expiresAt = .error .outOfRange

/-- The stored values that loading does not get past. -/
inductive Leaks (v : Json) : Prop
  /-- The text is nested too deep. -/
  | deep (h : v.reread = .error .tooDeep)
  /-- A number is infinite. -/
  | infinite {w : Json} {members games : List (String × Json)} {badges : List Json}
      (h : v.reread = .ok w) (hs : Shape w members games badges) (hi : Infinite w)
  /-- The end of the first challenge is out of range. -/
  | ends {d : Document} (h : Document.read v = .ok d) (he : d.EndsOutOfRange)

/-- A value that is no text of a value is nested too deep, or the fault tells that it is
unreadable. -/
theorem isUnreadable_of_reread {v : Json} {e : Fault} (h : v.reread = .error e) :
    e.isUnreadable = true ∨ e = .tooDeep := by
  cases v with
  | str s =>
    change Json.read s = .error e at h
    unfold Json.read at h
    cases hr : Json.readAll s.toList with
    | ok w =>
      rw [hr] at h
      cases h
    | error f =>
      rw [hr] at h
      obtain rfl := Except.error.inj h
      cases f with
      | flaw kind left => exact .inl rfl
      | tooManyDigits digits => exact .inl rfl
      | tooDeep => exact .inr rfl
  | _ =>
    obtain rfl := Except.error.inj h
    exact .inl rfl

/-- What reading a stored value ends with. -/
theorem read_cases (v : Json) : (∃ d, Document.read v = .ok d) ∨
    (∃ e, Document.read v = .error e ∧ e.isUnreadable = true ∧ ¬ Leaks v) ∨
    ∃ e, Document.read v = .error e ∧ (e = .tooDeep ∨ e = .outOfRange) ∧ Leaks v := by
  cases hv : v.reread with
  | error e =>
    have hread : Document.read v = .error e := bind_eq_error.2 (.inl hv)
    rcases isUnreadable_of_reread hv with he | rfl
    · refine .inr (.inl ⟨e, hread, he, ?_⟩)
      rintro (h | ⟨h, -, -⟩ | ⟨h, -⟩)
      · rw [hv] at h
        obtain rfl := Except.error.inj h
        cases he
      · rw [hv] at h
        cases h
      · rw [hread] at h
        cases h
    · exact .inr (.inr ⟨_, hread, .inl rfl, .deep hv⟩)
  | ok w =>
    have hread : Document.read v = ofJson w := by
      unfold Document.read
      rw [hv]
      rfl
    -- With the parts that a document has, only an infinite count can fail.
    by_cases hs : ∃ members games badges, Shape w members games badges
    · obtain ⟨members, games, badges, hs⟩ := hs
      rcases overflows_ofJson hs with ⟨he, hi⟩ | ⟨⟨d, hd⟩, -⟩
      · exact .inr (.inr ⟨_, hread.trans he, .inr rfl, .infinite hv hs hi⟩)
      · exact .inl ⟨d, hread.trans hd⟩
    · obtain ⟨e, he, hkind⟩ := ofJson_of_not_shape fun m g b h => hs ⟨m, g, b, h⟩
      refine .inr (.inl ⟨e, hread.trans he, ?_, ?_⟩)
      · rcases hkind with rfl | rfl | rfl | rfl | rfl <;> rfl
      · rintro (h | ⟨h, hs', -⟩ | ⟨h, -⟩)
        · rw [hv] at h
          cases h
        · rw [hv] at h
          obtain rfl := Except.ok.inj h
          exact hs ⟨_, _, _, hs'⟩
        · rw [hread, he] at h
          cases h

/-- A value that is told to be unreadable does not leak. -/
theorem not_leaks_of_isUnreadable {v : Json} {e : Fault} (h : Document.read v = .error e)
    (he : e.isUnreadable = true) : ¬ Leaks v := by
  rcases read_cases v with ⟨d, hd⟩ | ⟨_, _, _, hleaks⟩ | ⟨f, hf, hkind, _⟩
  · rw [h] at hd
    cases hd
  · exact hleaks
  · rw [h] at hf
    obtain rfl := Except.error.inj hf
    rcases hkind with rfl | rfl <;> cases he

/-- The empty text is no value. -/
theorem not_leaks_empty : ¬ Leaks (.str "") := by
  have hread : ∃ e, (Json.str "").reread = .error e ∧ e.isUnreadable = true := ⟨_, rfl, rfl⟩
  obtain ⟨e, he, hu⟩ := hread
  exact not_leaks_of_isUnreadable (bind_eq_error.2 (.inl he)) hu

/-- A value that is read as a document leaks only by the end of its first challenge. -/
theorem leaks_of_read {v : Json} {d : Document} (h : Document.read v = .ok d) :
    Leaks v ↔ d.EndsOutOfRange := by
  constructor
  · rintro (h' | ⟨h', hs, hi⟩ | ⟨h', he⟩)
    · rw [Document.read, h'] at h
      cases h
    · rw [Document.read, h'] at h
      exact absurd hi ((overflows_ofJson hs).ok_iff.1 ⟨d, h⟩)
    · rw [h] at h'
      obtain rfl := Except.ok.inj h'
      exact he
  · exact fun he => .ends h he

end Document

/-! ## Bringing a document up to date -/

theorem Document.overflows_needsRefresh (d : Document) (now : Instant) :
    Overflows (Challenge.needsRefresh d.challenges now) d.EndsOutOfRange := by
  unfold EndsOutOfRange
  cases d.challenges with
  | nil => exact (overflows_ok true).congr ⟨nofun, fun ⟨_, _, h, _⟩ => (nomatch h)⟩
  | cons c rest =>
    rw [Challenge.needsRefresh]
    cases hr : Timestamp.read c.expiresAt with
    | error e =>
      obtain rfl := Timestamp.read_error hr
      exact .inl ⟨rfl, c, rest, rfl, hr⟩
    | ok i =>
      refine .inr ⟨?_, ?_⟩
      · cases i with
        | none => exact ⟨true, rfl⟩
        | some i => exact ⟨decide (i ≤ now.startOfDay), rfl⟩
      · rintro ⟨c', rest', hc, he⟩
        obtain ⟨rfl, -⟩ := List.cons.inj hc
        rw [hr] at he
        cases he

/-- A document can be brought up to date unless its first challenge ends out of range. -/
theorem Document.overflows_broughtUp {now : Instant} (h : now.date.year < Calendar.lastYear)
    (d : Document) : Overflows (d.broughtUp now) d.EndsOutOfRange := by
  obtain ⟨g, hg⟩ := Challenge.exists_generation (Date.ordinal_lt_last h)
  have hsame : d.withCatalog.challenges = d.challenges := by
    unfold withCatalog
    rfl
  have hreplacement : Overflows (Challenge.replacement? d.challenges now) d.EndsOutOfRange := by
    refine ((d.overflows_needsRefresh now).bind fun due _ => ?_).congr (or_iff_left id)
    cases due with
    | false => exact overflows_ok none
    | true =>
      rw [hg]
      exact overflows_ok (some g)
  rw [← hsame] at hreplacement
  exact hreplacement.map.map

namespace Shelf

variable {k l : String} {s : Shelf} {now : Instant}

/-! ## Loading -/

/-- A document to start from is found unless the stored text leaks. -/
theorem Orderly.exists_taken_iff (h : Orderly k s) (hy : now.date.year < Calendar.lastYear) :
    (∃ d, s.taken now = .ok d) ↔
      ∀ v, (s.storage.get s.ledger.dataKey).1 = .ok (some v) → ¬ Document.Leaks v := by
  have hfresh : ∃ d, Document.freshOn now = .ok d := by
    obtain ⟨g, hg⟩ := Challenge.exists_generation (Date.ordinal_lt_last hy)
    exact ⟨_, bind_eq_ok.2 ⟨g, hg, rfl⟩⟩
  unfold taken stored?
  rw [h.dataKey]
  rcases s.storage.get_str k with hr | ⟨f, hr⟩
  · rw [hr]
    cases hv : s.storage.peek (.str k) with
    | none =>
      refine ⟨fun _ v hv => ?_, fun _ => hfresh⟩
      cases hv
    | some v =>
      -- What is stored is one text.
      have hall : (∀ w, Except.ok (some v) = (.ok (some w) : Except Fault (Option Json)) →
          ¬ Document.Leaks w) ↔ ¬ Document.Leaks v :=
        ⟨fun hw => hw v rfl, fun hv w hw => Option.some.inj (Except.ok.inj hw) ▸ hv⟩
      rw [hall]
      obtain ⟨t, rfl⟩ := h.textual.peek hv
      dsimp only
      cases ht : (Json.str t).truthy with
      | false =>
        obtain rfl : t = "" := by simpa [Json.truthy] using ht
        exact ⟨fun _ => Document.not_leaks_empty, fun _ => hfresh⟩
      | true =>
        rw [if_pos rfl]
        rcases Document.read_cases (.str t) with ⟨d, hd⟩ | ⟨e, he, hu, hleaks⟩ |
          ⟨e, he, hu, hleaks⟩
        · rw [hd, Document.leaks_of_read hd]
          exact (Document.overflows_broughtUp hy d).ok_iff
        · rw [he]
          dsimp only
          rw [hu]
          exact ⟨fun _ => hleaks, fun _ => hfresh⟩
        · rw [he]
          refine ⟨?_, fun hn => absurd hleaks hn⟩
          rintro ⟨_, hr⟩
          rcases hu with rfl | rfl <;> cases hr
  · rw [hr]
    refine ⟨fun _ v hv => ?_, fun _ => hfresh⟩
    cases hv

/-! ## Importing -/

/-- Before the last year of the calendar, an import is carried out or refused unless its text
leaks. -/
theorem Orderly.importText_iff_not_leaks (h : Orderly k s)
    (hy : now.date.year < Calendar.lastYear) (v : Json) :
    ((∃ d, ((importText v now).outcome s).1 = .ok d) ∨
      ∃ e, ((importText v now).outcome s).1 = .error (.rejectedImport e)) ↔
      ¬ Document.Leaks v := by
  unfold importText
  rcases Document.read_cases v with ⟨d, hd⟩ | ⟨e, he, hu, hleaks⟩ | ⟨e, he, hu, hleaks⟩
  · rw [hd, Document.leaks_of_read hd]
    dsimp only
    rw [Act.outcome_bind, Act.outcome_lift]
    rcases Document.overflows_broughtUp hy d with ⟨hb, hends⟩ | ⟨⟨f, hb⟩, hends⟩
    · rw [hb]
      refine ⟨?_, fun hn => absurd hends hn⟩
      rintro (⟨_, hr⟩ | ⟨_, hr⟩) <;> cases hr
    · rw [hb]
      dsimp only
      rw [h.outcome_keep_bind]
      exact ⟨fun _ => hends, fun _ => .inl ⟨_, rfl⟩⟩
  · rw [he]
    dsimp only
    rw [hu]
    exact ⟨fun _ => hleaks, fun _ => .inr ⟨e, rfl⟩⟩
  · rw [he]
    refine ⟨?_, fun hn => absurd hleaks hn⟩
    rcases hu with rfl | rfl <;> rintro (⟨_, hr⟩ | ⟨_, hr⟩) <;> cases hr

/-- A document whose only challenge ends before the first day of the calendar at the offset zero. -/
def tooEarly : Document where
  progress := Dict.empty
  badges := []
  challenges := [{
    id := "rps_daily_win_3"
    title := .null
    description := .null
    game := .null
    requirement := .null
    rewardCoins := 50
    expiresAt := "0001-01-01T00:00:00+14:00"
  }]
  tally := {}

/-- A ledger that was not loaded yet, on a storage with a document. -/
def stocked (d : Document) : Shelf where
  ledger := {
    dataKey := .str "gameverse-data"
    streakKey := .str "rps-streak"
    document := d
  }
  storage := { entries := Dict.ofList [(.str "gameverse-data", .str d.toJson.write)] }

end Shelf

end Arcade
