import Arcade.Storage.Basic

/-!
# Storage in a file

A file keeps texts only, without a limit. A number or a truth value is kept as the text of a number,
a double with at most fifteen digits. Null is no key under which something could be found, and
nothing can be kept in its place, nor in that of a double that is not a number. Lists and objects
are refused. What a file cannot do is noticed only after the file itself was found to be sound.
-/

namespace Arcade.Storage

/-- The integers that a file takes. -/
def isFileInteger (n : Int) : Bool :=
  decide (-(Nat.pow 2 63 : Int) ≤ n ∧ n < (Nat.pow 2 63 : Int))

/-- The layout of doubles in a file. -/
def fileLayout : Decimal.Layout :=
  { Decimal.plain with leastExponential := 15, pointed := true, infinite := "Inf" }

/-- The text that a file keeps for a double, unless it is not a number. -/
def fileDouble? (x : Float) : Option String :=
  match Double.meaning x with
  | .nan => none
  | .infinite negative => some ((if negative then "-" else "") ++ fileLayout.infinite)
  | .finite _ 0 _ => some "0.0"
  | .finite negative mantissa exponent =>
    some ((if negative then "-" else "") ++
      fileLayout.write (Decimal.nearest 15 mantissa exponent))

/-- The text that a file keeps for a value, if it keeps one. The value has a place in the call. -/
def filed (call : StorageCall) (key : Json) (place : Nat) (v : Json) :
    Except Fault (Option Json) :=
  match v with
  | .null => .ok none
  | .str s => if Text.hasSurrogate s then .error .notEncodable else .ok (some (.str s))
  | .bool b => .ok (some (.str (if b then "1" else "0")))
  | .num (.int n) =>
    if isFileInteger n then .ok (some (.str (toString n))) else .error .outOfRange
  | .num (.float x) => .ok ((fileDouble? x).map .str)
  | v => .error (.storage (.failed call key.text
      s!"Error binding parameter {place}: type '{v.kind}' is not supported"))

/-- The outcome of a call on a file that is sound. -/
def onFile (s : Storage) (call : StorageCall) (key : Json)
    (act : Except Fault α × Storage) : Except Fault α × Storage :=
  match s.outage? call key with
  | some cause => (.error (.storage cause), s.called)
  | none => act

/-- The text under a key in a file. -/
def fileGet (s : Storage) (key : Json) : Except Fault (Option Json) × Storage :=
  s.onFile .get key <|
    match filed .get key 1 key with
    | .ok (some k) => s.get k
    | .ok none => (.ok none, s.called)
    | .error e => (.error e, s.called)

/-- Puts a text under a key in a file. -/
def fileSet (s : Storage) (key value : Json) : Except Fault Unit × Storage :=
  s.onFile .set key <|
    match filed .set key 1 key, filed .set key 2 value with
    | .error e, _ | _, .error e => (.error e, s.called)
    | _, .ok none =>
      (.error (.storage (.failed .set key.text "NOT NULL constraint failed: kv.value")), s.called)
    | .ok none, _ => (.ok (), s.called)
    | .ok (some k), .ok (some v) => (.ok (), s.called.put k v)

/-- Removes the text under a key from a file. -/
def fileRemove (s : Storage) (key : Json) : Except Fault Unit × Storage :=
  s.onFile .remove key <|
    match filed .remove key 1 key with
    | .ok (some k) => s.remove k
    | .ok none => (.ok (), s.called)
    | .error e => (.error e, s.called)

/-- A file with the entries of a storage. -/
def inFile (s : Storage) : Except Fault Storage :=
  s.entries.entries.foldlM (fun s e =>
    let (r, s) := s.fileSet e.1 e.2
    r.map fun _ => s) {}

end Arcade.Storage
