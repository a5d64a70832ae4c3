import Arcade.Json.Display
import Arcade.Json.Order
import Arcade.Sorting.Schedule

/-!
# Storage

A storage keeps texts under keys. It may have a limit on the number of characters in all keys and
texts together, and single calls may be refused: a plan tells which, by the number of calls made
before. A call that fails changes no entry.

Keys are texts as well, but settings can name any value as a key, and any value can be put under a
key from elsewhere. Equal numbers are the same key. Lists and objects cannot be keys, which is
noticed when one is looked for. What has no length cannot be counted, so that nothing can be written
to a storage with a limit while such a value is in it.
-/

namespace Arcade

/-- Texts under keys. -/
structure Storage where
  entries : Dict Json Json := Dict.empty
  /-- The greatest number of characters, if there is a limit. -/
  limit : Option Number := none
  /-- Which calls are refused, by the number of calls before. -/
  refuses : Nat → StorageCall → Bool := fun _ _ => false
  /-- Whether the file behind the storage can be used. -/
  sound : Bool := true
  /-- The number of calls so far. -/
  calls : Nat := 0

namespace Storage

/-- The storage after one more call. -/
def called (s : Storage) : Storage := { s with calls := s.calls + 1 }

/-- Why the next call will fail whatever it asks for. -/
def outage? (s : Storage) (call : StorageCall) (key : Json) : Option StorageFault :=
  if s.refuses s.calls call then some (.refused call key.text)
  else if s.sound then none
  else some (.failed call key.text "file is not a database")

/-- The number of characters in keys and texts. -/
def sizeOf : List (Json × Json) → Except Fault Nat
  | [] => .ok 0
  | e :: rest => do return (← e.1.length) + (← e.2.length) + (← sizeOf rest)

/-- The size of the storage once a value is under a key. -/
def sizeWith (s : Storage) (key value : Json) : Except Fault Nat :=
  sizeOf ((s.entries.entries.filter fun e => e.1 ≠ key) ++ [(key, value)])

/-- Makes sure that there is room for a value under a key. -/
def checkRoom (s : Storage) (key value : Json) : Except Fault Unit :=
  match s.limit with
  | none => .ok ()
  | some limit => do
    let size ← s.sizeWith key value
    if limit.lt (.int size) then throw (.storage (.full key.text size limit.text))

/-- The fault of a value that cannot be a key. -/
def checkKey (key : Json) : Except Fault Unit :=
  if key.isKey then .ok () else .error .wrongKind

/-- The key in use for a key: among numbers and truth values any equal one. -/
def inUse (s : Storage) (key : Json) : Json :=
  match key with
  | .bool _ | .num _ => (s.entries.names.find? (·.equal key)).getD key
  | key => key

/-- The value under a key. -/
def peek (s : Storage) (key : Json) : Option Json := s.entries.get? (s.inUse key)

/-- Looks up the value under a key. -/
def get (s : Storage) (key : Json) : Except Fault (Option Json) × Storage :=
  match s.outage? .get key with
  | some cause => (.error (.storage cause), s.called)
  | none => ((checkKey key).map fun _ => s.peek key, s.called)

/-- Puts a value under a key. -/
def set (s : Storage) (key value : Json) : Except Fault Unit × Storage :=
  match s.outage? .set key with
  | some cause => (.error (.storage cause), s.called)
  | none =>
    match s.checkRoom key value, checkKey key with
    | .ok (), .ok () => (.ok (), { s.called with entries := s.entries.insert (s.inUse key) value })
    | .error e, _ | _, .error e => (.error e, s.called)

/-- Removes the value under a key, if there is one. Nothing is looked for in an empty storage. -/
def remove (s : Storage) (key : Json) : Except Fault Unit × Storage :=
  match s.outage? .remove key with
  | some cause => (.error (.storage cause), s.called)
  | none =>
    match if s.entries.size = 0 then .ok () else checkKey key with
    | .ok () => (.ok (), { s.called with entries := s.entries.erase (s.inUse key) })
    | .error e => (.error e, s.called)

/-- The outcome of a call for someone who does without the storage if need be. -/
def passOver (r : Except Fault Unit) : Except Fault Unit :=
  match r with
  | .error (.storage _) => .ok ()
  | r => r

/-- The storage with a value put under a key from elsewhere, which no limit or outage stops. -/
def put (s : Storage) (key value : Json) : Storage :=
  { s with entries := s.entries.insert (s.inUse key) value }

/-- The entries in the order of their keys. -/
def sorted (s : Storage) : Except Fault (List (Json × Json)) :=
  Sorting.sort (fun a b => a.1.before b.1) s.entries.entries

@[simp] theorem get_entries (s : Storage) (key : Json) : (s.get key).2.entries = s.entries := by
  unfold get
  split <;> rfl

theorem set_entries (s : Storage) (key value : Json) :
    (s.set key value).2.entries =
      match (s.set key value).1 with
      | .ok () => s.entries.insert (s.inUse key) value
      | .error _ => s.entries := by
  unfold set
  split
  · rfl
  · split <;> rfl

theorem remove_entries (s : Storage) (key : Json) :
    (s.remove key).2.entries =
      match (s.remove key).1 with
      | .ok () => s.entries.erase (s.inUse key)
      | .error _ => s.entries := by
  unfold remove
  split
  · rfl
  · split <;> rfl

end Storage

end Arcade
