import Arcade.Challenge.Generation
import Arcade.Json.Reader
import Arcade.Json.Writer
import Arcade.Ledger.Basic
import Arcade.Settings.Standard

/-!
# Opening a ledger

A new ledger starts with the document of a new player. Loading takes the stored document instead, if
it can be read. Importing takes a document from a text, or refuses it and changes nothing. Either
way the document is brought up to date: it gains the badges and games that it lacks, and its
challenges are replaced if they are due.

Streaks used to be kept under a key of their own. Loading folds such a streak into the document and
removes the key.
-/

namespace Arcade

/-- Whether a fault tells that a document cannot be read. -/
def Fault.isUnreadable : Fault → Bool
  | .wrongKind | .badValue | .tooManyDigits _ | .missingKey _ | .malformed .. | .notText _
  | .documentNotObject | .progressNotObject | .badgesNotList | .negativeReward _ => true
  | _ => false

namespace Document

/-- The document of a text that is given as a value. -/
def read (v : Json) : Except Fault Document := do
  ofJson (← v.reread)

/-- The document with the badges of the catalog and the games of the registry that it lacks, in
their order. -/
def withCatalog (d : Document) : Document :=
  let ids := d.badges.map Badge.id
  { d with
    badges := d.badges ++ Badge.fresh.filter fun b => b.id ∉ ids
    progress := Game.registry.foldl (fun progress g => progress.insertNew g.id (startRecord g))
      d.progress }

/-- The document with what it lacks and with challenges that are not due. -/
def broughtUp (d : Document) (now : Instant) : Except Fault Document := do
  let d := d.withCatalog
  return { d with challenges := ← Challenge.refreshed d.challenges now }

/-- The document with a log for the day. -/
def withDay (d : Document) (now : Instant) : Document :=
  { d with tally := { d.tally with days := d.tally.days.insertNew now.dayKey {} } }

/-- The document of a new player on the day of an instant. -/
def freshOn (now : Instant) : Except Fault Document := do
  return fresh (← Challenge.generation now)

/-- The game whose streaks used to be kept apart. -/
def streakGame : String := "rock-paper-scissors"

/-- The document in which a streak is at least `n`. -/
def withStreak (d : Document) (n : Nat) : Document :=
  let record := d.record streakGame
  let raised (field : String) : Number :=
    ((record.get? field).getD 0).max (.int n)
  let record := (record.insert "streak" (raised "streak")).insert "bestStreak"
    (raised "bestStreak")
  { d with progress := d.progress.insert streakGame record }

end Document

/-- A new ledger. -/
def Ledger.start (settings : Settings) (now : Instant) : Except Fault Ledger := do
  let dataKey := settings.get "storage.data_key" (.str "gameverse-data")
  Storage.checkKey dataKey
  return {
    dataKey := dataKey
    streakKey := settings.get "storage.legacy_streak_key" (.str "rps-streak")
    document := ← Document.freshOn now
  }

namespace Shelf

/-- The stored document, if there is one and it can be read. -/
def readStored : Act Shelf (Option Document) := do
  let s ← get
  let found := s.storage.get s.ledger.dataKey
  set { s with storage := found.2 }
  match found.1 with
  | .ok (some v) =>
    if !v.truthy then return none
    match Document.read v with
    | .ok d => return some d
    | .error e => if e.isUnreadable then return none else throw e
  | _ => return none

/-- The streak that a stored value stands for; one that cannot be read is none. -/
def oldStreak (v : Json) : Except Fault Nat :=
  match v.toInt with
  | .ok n => .ok n.toNat
  | .error .badValue => .ok 0
  | .error e => .error e

/-- Folds a streak that was kept apart into the document. -/
def foldStreak : Act Shelf Unit := do
  let s ← get
  let found := s.storage.get s.ledger.streakKey
  set { s with storage := found.2 }
  match found.1 with
  | .error (.storage _) | .ok none | .ok (some .null) => pure ()
  | .error e => throw e
  | .ok (some v) =>
    let n ← Act.lift (oldStreak v)
    modify fun s =>
      let s := s.withDocument (s.ledger.document.withStreak n)
      { s with storage := (s.storage.remove s.ledger.streakKey).2 }

/-- The stored document brought up to date, or that of a new player. -/
def findDocument (now : Instant) : Act Shelf Document := do
  match ← readStored with
  | some d => Act.lift (d.broughtUp now)
  | none => Act.lift (Document.freshOn now)

/-- The shelf with a log for the day in a document that is loaded. -/
def opened (s : Shelf) (now : Instant) : Shelf :=
  let s := s.withDocument (s.ledger.document.withDay now)
  { s with ledger := { s.ledger with loaded := true } }

/-- Takes a document, folds in a streak that was kept apart, and writes what it has become. -/
def take (d : Document) (now : Instant) : Act Shelf Document := do
  modify fun s => s.withDocument d
  foldStreak
  modify fun s => s.opened now
  save
  return (← get).ledger.document

/-- Takes the stored document, or that of a new player, and returns the document as it is then. -/
def load (now : Instant) : Act Shelf Document := do
  take (← findDocument now) now

/-- Takes the document of a text that is given as a value, and returns it as it is then. -/
def importText (v : Json) (now : Instant) : Act Shelf Document := do
  match Document.read v with
  | .error e => throw (if e.isUnreadable then .rejectedImport e else e)
  | .ok d =>
    let d ← Act.lift (d.broughtUp now)
    keep (d.withDay now)
    modify fun s => s.emit { kind := .dataImported }
    return (← get).ledger.document

end Shelf

end Arcade
