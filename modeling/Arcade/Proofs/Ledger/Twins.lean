import Arcade.Proofs.Ledger.Errand
import Arcade.Proofs.Ledger.Loading

/-!
# Ledgers that share their storage

A ledger may share its storage with somebody who keeps something under a key of its own. Two ledgers
that are the same, on storages that never fail and that differ under that key only, are twins:
whatever they are asked, they answer alike and stay twins, and what is under that key stays
(`Dealing.impartial`).
-/

namespace Arcade

open Act

namespace Storage

/-- No call ever fails: none is refused, and there is always room. -/
structure Unfailing (s : Storage) : Prop where
  willing : s.Willing
  limit : s.limit = none

namespace Unfailing

variable {s : Storage} (h : s.Unfailing)

include h

theorem get (key : Json) : (s.get key).2.Unfailing :=
  ⟨h.willing.get key, (get_limit s key).trans h.limit⟩

theorem set (key value : Json) : (s.set key value).2.Unfailing :=
  ⟨h.willing.set key value, (set_limit s key value).trans h.limit⟩

theorem remove (key : Json) : (s.remove key).2.Unfailing :=
  ⟨h.willing.remove key, (remove_limit s key).trans h.limit⟩

theorem set_str (k : String) (value : Json) : (s.set (.str k) value).1 = .ok () := by
  rw [Storage.set, h.willing.outage?_eq_none, checkRoom, h.limit]
  rfl

theorem peek_set (k l : String) (value : Json) :
    (s.set (.str k) value).2.peek (.str l) = if l = k then some value else s.peek (.str l) :=
  peek_set_of_ok (h.set_str k value)

theorem peek_remove (k l : String) :
    (s.remove (.str k)).2.peek (.str l) = if l = k then none else s.peek (.str l) := by
  split
  · rename_i hl
    rw [hl]
    exact h.willing.peek_remove_self k
  · rename_i hl
    exact peek_remove_of_ne hl

end Unfailing

/-- Two storages that never fail and that have the same under every text but one. -/
structure AlikeBut (p : String) (s t : Storage) : Prop where
  left : s.Unfailing
  right : t.Unfailing
  peek : ∀ k, k ≠ p → t.peek (.str k) = s.peek (.str k)

namespace AlikeBut

variable {p : String} {s t : Storage} (h : AlikeBut p s t)

include h

theorem get (key : Json) : AlikeBut p (s.get key).2 (t.get key).2 where
  left := h.left.get key
  right := h.right.get key
  peek k hk := by rw [peek_get, peek_get, h.peek k hk]

theorem set (k : String) (value : Json) :
    AlikeBut p (s.set (.str k) value).2 (t.set (.str k) value).2 where
  left := h.left.set _ value
  right := h.right.set _ value
  peek l hl := by rw [h.left.peek_set, h.right.peek_set, h.peek l hl]

theorem remove (k : String) : AlikeBut p (s.remove (.str k)).2 (t.remove (.str k)).2 where
  left := h.left.remove _
  right := h.right.remove _
  peek l hl := by rw [h.left.peek_remove, h.right.peek_remove, h.peek l hl]

theorem symm : AlikeBut p t s where
  left := h.right
  right := h.left
  peek k hk := (h.peek k hk).symm

theorem trans {u : Storage} (h' : AlikeBut p t u) : AlikeBut p s u where
  left := h.left
  right := h'.right
  peek k hk := (h'.peek k hk).trans (h.peek k hk)

theorem get_str {k : String} (hk : k ≠ p) : (t.get (.str k)).1 = (s.get (.str k)).1 := by
  rw [h.left.willing.get_str, h.right.willing.get_str, h.peek k hk]

end AlikeBut

namespace Unfailing

variable {s : Storage} (h : s.Unfailing) (p : String)

include h

theorem alikeBut_get (key : Json) : AlikeBut p s (s.get key).2 where
  left := h
  right := h.get key
  peek k _ := peek_get s key k

theorem alikeBut_set (value : Json) : AlikeBut p s (s.set (.str p) value).2 where
  left := h
  right := h.set _ value
  peek k hk := by rw [h.peek_set, if_neg hk]

theorem alikeBut_remove : AlikeBut p s (s.remove (.str p)).2 where
  left := h
  right := h.remove _
  peek k hk := by rw [h.peek_remove, if_neg hk]

end Unfailing

end Storage

namespace Shelf

/-- The same ledger twice, on storages that never fail and that differ only under a text that the
ledger does not use. -/
structure Twins (p : String) (s t : Shelf) : Prop where
  ledger : t.ledger = s.ledger
  storage : s.storage.AlikeBut p t.storage
  dataKey : ∃ k, k ≠ p ∧ s.ledger.dataKey = .str k
  streakKey : ∃ k, k ≠ p ∧ s.ledger.streakKey = .str k

namespace Twins

variable {p : String} {s t : Shelf} (h : Twins p s t)

include h

/-- A ledger does not know under which key the storages differ. -/
theorem refl : Twins p s s where
  ledger := rfl
  storage := ⟨h.storage.left, h.storage.left, fun _ _ => rfl⟩
  dataKey := h.dataKey
  streakKey := h.streakKey

theorem symm : Twins p t s where
  ledger := h.ledger.symm
  storage := h.storage.symm
  dataKey := h.ledger ▸ h.dataKey
  streakKey := h.ledger ▸ h.streakKey

theorem writable : s.Writable := by
  obtain ⟨k, -, hkey⟩ := h.dataKey
  rw [Writable, hkey]
  exact (h.storage.left.willing.accepting h.storage.left.limit k).obliging

/-- Twins may change in what their ledgers hold besides the keys. -/
theorem change {f : Ledger → Ledger} (hdata : (f s.ledger).dataKey = s.ledger.dataKey)
    (hstreak : (f s.ledger).streakKey = s.ledger.streakKey) :
    Twins p { s with ledger := f s.ledger } { t with ledger := f t.ledger } where
  ledger := congrArg f h.ledger
  storage := h.storage
  dataKey := hdata ▸ h.dataKey
  streakKey := hstreak ▸ h.streakKey

/-! ### Strokes -/

theorem stroke (x : Stroke) : Twins p (s.stroke x) (t.stroke x) := by
  cases x with
  | tell e =>
    rw [stroke_tell, stroke_tell]
    exact h.change (f := fun l =>
      { l with deliveries := l.deliveries ++ l.listeners.map fun x => (x, e) }) rfl rfl
  | write d =>
    obtain ⟨k, -, hkey⟩ := h.dataKey
    rw [stroke_write, stroke_write, h.ledger, hkey, h.storage.left.set_str,
      h.storage.right.set_str]
    exact ⟨rfl, h.storage.set k _, hkey ▸ h.dataKey, h.streakKey⟩

theorem peek_stroke (x : Stroke) :
    (s.stroke x).storage.peek (.str p) = s.storage.peek (.str p) := by
  cases x with
  | tell e => rw [stroke_tell]
  | write d =>
    obtain ⟨k, hk, hkey⟩ := h.dataKey
    rw [stroke_write, hkey]
    exact Storage.peek_set_of_ne (Ne.symm hk)

theorem play (script : List Stroke) : Twins p (s.play script) (t.play script) ∧
    (s.play script).storage.peek (.str p) = s.storage.peek (.str p) := by
  induction script generalizing s t with
  | nil => exact ⟨h, rfl⟩
  | cons x rest ih =>
    obtain ⟨htwins, hpeek⟩ := ih (h.stroke x)
    exact ⟨htwins, hpeek.trans (h.peek_stroke x)⟩

/-! ### Loading -/

theorem lookedUp (key : Json) : Twins p (s.lookedUp key) (t.lookedUp key) :=
  ⟨h.ledger, h.storage.get key, h.dataKey, h.streakKey⟩

theorem stored? : t.stored? = s.stored? := by
  obtain ⟨k, hk, hkey⟩ := h.dataKey
  unfold Shelf.stored?
  rw [h.ledger, hkey, h.storage.get_str hk]

theorem taken (now : Instant) : t.taken now = s.taken now := by
  unfold Shelf.taken
  rw [h.stored?]

theorem oldStreak? : t.oldStreak? = s.oldStreak? := by
  obtain ⟨k, hk, hkey⟩ := h.streakKey
  unfold Shelf.oldStreak?
  rw [h.ledger, hkey, h.storage.get_str hk]

theorem folded (n : Nat) : Twins p (s.folded n) (t.folded n) ∧
    (s.folded n).storage.peek (.str p) = s.storage.peek (.str p) := by
  obtain ⟨k, hk, hkey⟩ := h.streakKey
  have hremoved : s.storage.remove s.ledger.streakKey = s.storage.remove (.str k) := by rw [hkey]
  have hremoved' : t.storage.remove t.ledger.streakKey = t.storage.remove (.str k) := by
    rw [h.ledger, hkey]
  constructor
  · refine ⟨?_, ?_, h.dataKey, h.streakKey⟩
    · show { t.ledger with document := t.ledger.document.withStreak n } = _
      rw [h.ledger]
      rfl
    · show (s.storage.remove s.ledger.streakKey).2.AlikeBut p
        (t.storage.remove t.ledger.streakKey).2
      rw [hremoved, hremoved']
      exact h.storage.remove k
  · show (s.storage.remove s.ledger.streakKey).2.peek (.str p) = _
    rw [hremoved]
    exact Storage.peek_remove_of_ne (Ne.symm hk)

end Twins

/-! ## Acts that do the same to twins -/

variable {α β : Type} {p : String}

/-- An act ends alike from twins and leaves twins, and what is under the text that their ledgers do
not use stays. -/
def Impartial (p : String) (a : Act Shelf α) : Prop :=
  ∀ s t, Twins p s t → (a.outcome t).1 = (a.outcome s).1 ∧
    Twins p (a.outcome s).2 (a.outcome t).2 ∧
    (a.outcome s).2.storage.peek (.str p) = s.storage.peek (.str p)

theorem Impartial.bind {a : Act Shelf α} {f : α → Act Shelf β} (ha : Impartial p a)
    (hf : ∀ x, Impartial p (f x)) : Impartial p (a >>= f) := by
  intro s t h
  obtain ⟨hresult, htwins, hpeek⟩ := ha s t h
  rw [outcome_bind, outcome_bind]
  rcases hs : a.outcome s with ⟨r, s'⟩
  rcases ht : a.outcome t with ⟨r', t'⟩
  rw [hs, ht] at hresult htwins
  rw [hs] at hpeek
  cases hresult
  cases r with
  | error e => exact ⟨rfl, htwins, hpeek⟩
  | ok x =>
    obtain ⟨hresult', htwins', hpeek'⟩ := hf x s' t' htwins
    exact ⟨hresult', htwins', hpeek'.trans hpeek⟩

theorem Impartial.map {a : Act Shelf α} (ha : Impartial p a) (f : α → β) :
    Impartial p (f <$> a) := by
  intro s t h
  obtain ⟨hresult, htwins, hpeek⟩ := ha s t h
  rw [outcome_map, outcome_map, hresult]
  exact ⟨rfl, htwins, hpeek⟩

theorem impartial_read (f : Ledger → α) : Impartial p (do return f (← get).ledger) :=
  fun _ _ h => ⟨congrArg (fun l => Except.ok (f l)) h.ledger, h, rfl⟩

theorem impartial_withDocument (d : Document) :
    Impartial p (modify fun s => s.withDocument d) := fun _ _ h =>
  ⟨rfl, h.change (f := fun l => { l with document := d }) rfl rfl, rfl⟩

theorem impartial_opened (now : Instant) : Impartial p (modify fun s => s.opened now) :=
  fun _ _ h => ⟨rfl, h.change (f := fun l =>
    { l with document := l.document.withDay now, loaded := true }) rfl rfl, rfl⟩

theorem impartial_save : Impartial p save := by
  intro s t h
  have houtcome (u : Shelf) (hu : u.Writable) :
      save.outcome u = (.ok (), u.stroke (.write u.ledger.document)) := by
    rw [← hu.outcome_keep, outcome_keep]
    rfl
  rw [houtcome s h.writable, houtcome t h.symm.writable, h.ledger]
  exact ⟨rfl, h.stroke (.write s.ledger.document), h.peek_stroke (.write s.ledger.document)⟩

theorem impartial_foldStreak : Impartial p foldStreak := by
  intro s t h
  have hlooked := h.lookedUp s.ledger.streakKey
  have hpeek : (s.lookedUp s.ledger.streakKey).storage.peek (.str p) = s.storage.peek (.str p) :=
    Storage.peek_get _ _ _
  rw [outcome_foldStreak, outcome_foldStreak, h.oldStreak?, h.ledger]
  cases s.oldStreak? with
  | error e => exact ⟨rfl, hlooked, hpeek⟩
  | ok streak =>
    cases streak with
    | none => exact ⟨rfl, hlooked, hpeek⟩
    | some n =>
      obtain ⟨hfolded, hpeek'⟩ := hlooked.folded n
      exact ⟨rfl, hfolded, hpeek'.trans hpeek⟩

theorem impartial_take (d : Document) (now : Instant) : Impartial p (take d now) :=
  (impartial_withDocument d).bind fun _ => impartial_foldStreak.bind fun _ =>
    (impartial_opened now).bind fun _ => impartial_save.bind fun _ =>
      impartial_read Ledger.document

theorem impartial_load (now : Instant) : Impartial p (load now) := by
  intro s t h
  have hlooked := h.lookedUp s.ledger.dataKey
  have hpeek : (s.lookedUp s.ledger.dataKey).storage.peek (.str p) = s.storage.peek (.str p) :=
    Storage.peek_get _ _ _
  rw [outcome_load, outcome_load, h.taken, h.ledger]
  cases s.taken now with
  | error e => exact ⟨rfl, hlooked, hpeek⟩
  | ok d =>
    obtain ⟨hresult, htwins, hpeek'⟩ := impartial_take d now _ _ hlooked
    exact ⟨hresult, htwins, hpeek'.trans hpeek⟩

theorem impartial_errand (e : Errand) (now : Instant) : Impartial p (e.act now) := by
  intro s t h
  obtain ⟨script, r, hos, hot, -⟩ := outcome_errand e now h.writable h.symm.writable
    (congrArg Ledger.document h.ledger)
  obtain ⟨htwins, hpeek⟩ := h.play script
  rw [hos, hot, h.ledger]
  exact ⟨rfl, htwins.change (f := fun l =>
    { l with listeners := e.heeded s.ledger.listeners }) rfl rfl, hpeek⟩

end Shelf

/-! ## Dealings -/

/-- What is asked of a ledger: to load, or an errand while it is at work. -/
inductive Dealing where
  | load
  | errand (e : Errand)

namespace Dealing

/-- The act of a dealing at an instant. -/
def act (now : Instant) : Dealing → Act Shelf Operation.Answer
  | load => Operation.load.answer now
  | errand e => e.act now

/-- Twins deal alike, and leave alone what they do not use. -/
theorem impartial (d : Dealing) (now : Instant) (p : String) :
    Shelf.Impartial p (d.act now) := by
  cases d with
  | load => exact (Shelf.impartial_load now).map _
  | errand e => exact Shelf.impartial_errand e now

end Dealing

end Arcade
