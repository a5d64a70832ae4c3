import Arcade.Ledger.Opening

/-!
# What loading and importing do

Loading is described as a function of the shelf: which document it takes, which old streak it folds
in, and how the shelf looks in the end. Importing either refuses a text, or takes its document and
tells the listeners.
-/

namespace Arcade

namespace Document

/-- The document with an old streak, if there is one. -/
def withOldStreak (d : Document) : Option Nat → Document
  | none => d
  | some n => d.withStreak n

@[simp] theorem badges_withOldStreak (d : Document) (n? : Option Nat) :
    (d.withOldStreak n?).badges = d.badges := by
  cases n? <;> rfl

@[simp] theorem challenges_withOldStreak (d : Document) (n? : Option Nat) :
    (d.withOldStreak n?).challenges = d.challenges := by
  cases n? <;> rfl

@[simp] theorem tally_withOldStreak (d : Document) (n? : Option Nat) :
    (d.withOldStreak n?).tally = d.tally := by
  cases n? <;> rfl

end Document

namespace Shelf

/-- The shelf after a value was looked up. -/
def lookedUp (s : Shelf) (key : Json) : Shelf :=
  { s with storage := (s.storage.get key).2 }

/-- The stored document, if there is one and it can be read. -/
def stored? (s : Shelf) : Except Fault (Option Document) :=
  match (s.storage.get s.ledger.dataKey).1 with
  | .ok (some v) =>
    if v.truthy then
      match Document.read v with
      | .ok d => .ok (some d)
      | .error e => if e.isUnreadable then .ok none else .error e
    else .ok none
  | _ => .ok none

/-- The document that loading starts from. -/
def taken (s : Shelf) (now : Instant) : Except Fault Document := do
  match ← s.stored? with
  | some d => d.broughtUp now
  | none => Document.freshOn now

/-- The streak that is kept apart, if there is one. -/
def oldStreak? (s : Shelf) : Except Fault (Option Nat) :=
  match (s.storage.get s.ledger.streakKey).1 with
  | .error (.storage _) | .ok none | .ok (some .null) => .ok none
  | .error e => .error e
  | .ok (some v) => (oldStreak v).map some

/-- The shelf with a streak that was kept apart in the document, and its key removed. -/
def folded (s : Shelf) (n : Nat) : Shelf :=
  let s := s.withDocument (s.ledger.document.withStreak n)
  { s with storage := (s.storage.remove s.ledger.streakKey).2 }

theorem outcome_readStored (s : Shelf) :
    readStored.outcome s = (s.stored?, s.lookedUp s.ledger.dataKey) := by
  unfold readStored stored? lookedUp
  rw [Act.outcome_bind, Act.outcome_get]
  dsimp only
  rw [Act.outcome_bind, Act.outcome_set]
  dsimp only
  cases (s.storage.get s.ledger.dataKey).1 with
  | error e => rfl
  | ok found =>
    cases found with
    | none => rfl
    | some v =>
      dsimp only
      cases hv : v.truthy with
      | false => rfl
      | true =>
        cases hd : Document.read v with
        | ok d => rfl
        | error e => cases he : e.isUnreadable <;> simp [he]

theorem outcome_foldStreak (s : Shelf) :
    foldStreak.outcome s =
      match s.oldStreak? with
      | .ok none => (.ok (), s.lookedUp s.ledger.streakKey)
      | .ok (some n) => (.ok (), (s.lookedUp s.ledger.streakKey).folded n)
      | .error e => (.error e, s.lookedUp s.ledger.streakKey) := by
  unfold foldStreak oldStreak? lookedUp
  rw [Act.outcome_bind, Act.outcome_get]
  dsimp only
  rw [Act.outcome_bind, Act.outcome_set]
  dsimp only
  cases (s.storage.get s.ledger.streakKey).1 with
  | error e => cases e <;> rfl
  | ok found =>
    cases found with
    | none => rfl
    | some v =>
      cases v with
      | null => rfl
      | _ =>
        dsimp only
        rw [Act.outcome_bind, Act.outcome_lift]
        cases oldStreak _ <;> rfl

theorem outcome_findDocument (s : Shelf) (now : Instant) :
    (findDocument now).outcome s = (s.taken now, s.lookedUp s.ledger.dataKey) := by
  unfold findDocument taken
  rw [Act.outcome_bind, outcome_readStored]
  cases s.stored? with
  | error e => rfl
  | ok found => cases found <;> rfl

theorem outcome_take (d : Document) (s : Shelf) (now : Instant) :
    (take d now).outcome s =
      match foldStreak.outcome (s.withDocument d) with
      | (.error e, t) => (.error e, t)
      | (.ok (), t) =>
        ((save.outcome (t.opened now)).1.map fun _ => (t.opened now).ledger.document,
          (save.outcome (t.opened now)).2) := by
  unfold take
  rw [Act.outcome_bind, Act.outcome_modify]
  dsimp only
  rw [Act.outcome_bind]
  cases foldStreak.outcome (s.withDocument d) with
  | mk r t =>
    cases r with
    | error e => rfl
    | ok x =>
      dsimp only
      rw [Act.outcome_bind, Act.outcome_modify]
      dsimp only
      have hd := save_document (t.opened now)
      rw [Act.outcome_bind]
      cases h : save.outcome (t.opened now) with
      | mk r u =>
        rw [h] at hd
        cases r with
        | error e => rfl
        | ok y =>
          dsimp only at hd ⊢
          rw [Act.outcome_bind, Act.outcome_get]
          exact congrArg (fun d => (Except.ok d, u)) hd

/-- Loading takes the document that it finds, and changes nothing if that raises a fault. -/
theorem outcome_load (s : Shelf) (now : Instant) :
    (load now).outcome s =
      match s.taken now with
      | .error e => (.error e, s.lookedUp s.ledger.dataKey)
      | .ok d => (take d now).outcome (s.lookedUp s.ledger.dataKey) := by
  unfold load
  rw [Act.outcome_bind, outcome_findDocument]
  cases s.taken now <;> rfl

/-- The shelf with an old streak folded in, if there is one. -/
def foldedIn (s : Shelf) : Option Nat → Shelf
  | none => s
  | some n => s.folded n

/-- The shelf whose document is written at the end of loading. -/
def prepared (s : Shelf) (d : Document) (n? : Option Nat) (now : Instant) : Shelf :=
  ((((s.lookedUp s.ledger.dataKey).withDocument d).lookedUp s.ledger.streakKey).foldedIn n?).opened
    now

theorem prepared_document (s : Shelf) (d : Document) (n? : Option Nat) (now : Instant) :
    (s.prepared d n? now).ledger.document = (d.withOldStreak n?).withDay now := by
  cases n? <;> rfl

/-- Every step before the write only looks up and removes. -/
theorem prepared_preserve {P : Storage → Prop} {s : Shelf}
    (hget : ∀ t key, P t → P (t.get key).2)
    (hremove : ∀ t, P t → P (t.remove s.ledger.streakKey).2) (h : P s.storage) (d : Document)
    (n? : Option Nat) (now : Instant) : P (s.prepared d n? now).storage := by
  have hkeys : P ((s.storage.get s.ledger.dataKey).2.get s.ledger.streakKey).2 :=
    hget _ _ (hget _ _ h)
  cases n? with
  | none => exact hkeys
  | some n => exact hremove _ hkeys

/-- Loading adds the old streak that is found and the log of the day to what it starts from, and
writes that. -/
theorem outcome_load_of_oldStreak? {s : Shelf} {n? : Option Nat}
    (hold : (s.lookedUp s.ledger.dataKey).oldStreak? = .ok n?) (now : Instant) :
    (load now).outcome s =
      match s.taken now with
      | .error e => (.error e, s.lookedUp s.ledger.dataKey)
      | .ok d => ((save.outcome (s.prepared d n? now)).1.map
          fun _ => (d.withOldStreak n?).withDay now, (save.outcome (s.prepared d n? now)).2) := by
  rw [outcome_load]
  cases s.taken now with
  | error e => rfl
  | ok d =>
    have hfold : foldStreak.outcome ((s.lookedUp s.ledger.dataKey).withDocument d) =
        (.ok (), (((s.lookedUp s.ledger.dataKey).withDocument d).lookedUp
          s.ledger.streakKey).foldedIn n?) := by
      have hold : ((s.lookedUp s.ledger.dataKey).withDocument d).oldStreak? = .ok n? := hold
      rw [outcome_foldStreak, hold]
      cases n? <;> rfl
    dsimp only
    rw [outcome_take, hfold, ← prepared_document]
    rfl

/-- What every step of loading keeps is kept by loading, also if it ends with a fault. -/
theorem load_preserve {P : Shelf → Prop} (hlooked : ∀ s key, P s → P (s.lookedUp key))
    (hdocument : ∀ s d, P s → P (s.withDocument d)) (hfolded : ∀ s n, P s → P (s.folded n))
    (hopened : ∀ s now, P s → P (s.opened now)) (hsave : ∀ s, P s → P (save.outcome s).2)
    {s : Shelf} (h : P s) (now : Instant) : P ((load now).outcome s).2 := by
  have hfold (t : Shelf) (ht : P t) : P (foldStreak.outcome t).2 := by
    have hkey := hlooked t t.ledger.streakKey ht
    rw [outcome_foldStreak]
    rcases t.oldStreak? with e | _ | n
    · exact hkey
    · exact hkey
    · exact hfolded _ n hkey
  have hkey := hlooked s s.ledger.dataKey h
  rw [outcome_load]
  cases s.taken now with
  | error e => exact hkey
  | ok d =>
    have ht := hfold _ (hdocument _ d hkey)
    dsimp only
    rw [outcome_take]
    rcases hf : foldStreak.outcome ((s.lookedUp s.ledger.dataKey).withDocument d) with
      ⟨e | ⟨⟩, t⟩
    · rwa [hf] at ht
    · rw [hf] at ht
      exact hsave _ (hopened _ now ht)

end Shelf

end Arcade
