import Arcade.Act
import Arcade.Json.Writer
import Arcade.Ledger.Event
import Arcade.Progress.Document
import Arcade.Storage.Basic

/-!
# The ledger

The ledger keeps the progress document of a player. It works on the document in memory and writes
the whole of it to the storage after every change. A write that fails is only remembered: the ledger
goes on without the storage. Only a document that cannot be counted is a fault, after the change.
Whoever listens is told every event, in the order of subscription, and a listener that fails keeps
nobody else from being told.
-/

namespace Arcade

/-- Who is told the events of a ledger. -/
inductive Listener where
  /-- The notices to the player. -/
  | notices
  /-- The record of everything that happened. -/
  | record
  /-- A guest, with the number of its ticket. -/
  | guest (name : String) (ticket : Nat) (fails : Bool)
deriving DecidableEq, Repr

/-- Whether a listener fails when it is told something. -/
def Listener.fails : Listener → Bool
  | .guest _ _ fails => fails
  | _ => false

/-- The progress of a player at work. -/
structure Ledger where
  /-- The key of the document in the storage. -/
  dataKey : Json
  /-- The key under which streaks were kept before they became part of the document. -/
  streakKey : Json
  document : Document
  loaded : Bool := false
  /-- Whether the last write succeeded. -/
  persisted : Bool := true
  listeners : List Listener := []
  /-- What listeners were told. -/
  deliveries : List (Listener × Event) := []
deriving DecidableEq, Repr

/-- A ledger with the storage in which it is kept. -/
structure Shelf where
  ledger : Ledger
  storage : Storage

namespace Shelf

/-- The shelf with another document in the ledger. -/
def withDocument (s : Shelf) (d : Document) : Shelf :=
  { s with ledger := { s.ledger with document := d } }

/-- Whether the last write succeeded, after one more write with a result. -/
def persistedAfter (before : Bool) : Except Fault Unit → Bool
  | .ok () => true
  | .error (.storage _) => false
  | .error _ => before

/-- Writes the document to the storage and remembers whether that succeeded. -/
def save : Act Shelf Unit :=
  Act.ofOutcome fun s =>
    let written := s.storage.set s.ledger.dataKey (.str s.ledger.document.toJson.write)
    let persisted := persistedAfter s.ledger.persisted written.1
    (Storage.passOver written.1, ⟨{ s.ledger with persisted := persisted }, written.2⟩)

/-- Replaces the document and writes it. -/
def keep (d : Document) : Act Shelf Unit := do
  modify fun s => s.withDocument d
  save

/-- Tells one listener an event. -/
def tell (l : Listener) (e : Event) : Act Shelf Unit := do
  modify fun s =>
    { s with ledger := { s.ledger with deliveries := s.ledger.deliveries ++ [(l, e)] } }
  if l.fails then throw .host

/-- The shelf after all listeners were told an event. -/
def emit (s : Shelf) (e : Event) : Shelf :=
  s.ledger.listeners.foldl (fun s l => ((tell l e).forgive.outcome s).2) s

/-- Adds a listener, who may be subscribed already. -/
def subscribe (s : Shelf) (l : Listener) : Shelf :=
  { s with ledger := { s.ledger with listeners := s.ledger.listeners ++ [l] } }

/-- Removes the first subscription of a listener. -/
def unsubscribe (s : Shelf) (l : Listener) : Shelf :=
  { s with ledger := { s.ledger with listeners := s.ledger.listeners.erase l } }

@[simp] theorem save_document (s : Shelf) :
    (save.outcome s).2.ledger.document = s.ledger.document := rfl

@[simp] theorem save_deliveries (s : Shelf) :
    (save.outcome s).2.ledger.deliveries = s.ledger.deliveries := rfl

@[simp] theorem save_listeners (s : Shelf) :
    (save.outcome s).2.ledger.listeners = s.ledger.listeners := rfl

theorem outcome_keep (d : Document) (s : Shelf) :
    (keep d).outcome s = save.outcome (s.withDocument d) := by
  unfold keep
  rw [Act.outcome_bind, Act.outcome_modify]

@[simp] theorem keep_document (d : Document) (s : Shelf) :
    ((keep d).outcome s).2.ledger.document = d := by
  rw [outcome_keep, save_document]
  rfl

theorem outcome_tell (l : Listener) (e : Event) (s : Shelf) :
    ((tell l e).outcome s).2 =
      { s with ledger := { s.ledger with deliveries := s.ledger.deliveries ++ [(l, e)] } } := by
  unfold tell
  rw [Act.outcome_bind, Act.outcome_modify]
  by_cases h : l.fails = true <;> simp [h]

theorem foldl_tell (e : Event) (ls : List Listener) (s : Shelf) :
    ls.foldl (fun s l => ((tell l e).forgive.outcome s).2) s =
      { s with ledger := { s.ledger with
        deliveries := s.ledger.deliveries ++ ls.map fun l => (l, e) } } := by
  induction ls generalizing s with
  | nil => simp
  | cons l ls ih =>
    rw [List.foldl_cons, ih, Act.outcome_forgive, outcome_tell]
    simp

/-- Every listener is told, whether or not others fail. -/
theorem emit_eq (s : Shelf) (e : Event) :
    s.emit e =
      { s with ledger := { s.ledger with
        deliveries := s.ledger.deliveries ++ s.ledger.listeners.map fun l => (l, e) } } :=
  foldl_tell e s.ledger.listeners s

theorem emit_document (s : Shelf) (e : Event) :
    (s.emit e).ledger.document = s.ledger.document := by
  rw [emit_eq]

end Shelf

end Arcade
