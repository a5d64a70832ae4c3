import Arcade.Json.Display
import Arcade.Settings.Basic
import Arcade.Text.Path

/-!
# Kinds of storage

Progress is kept in memory only or in a file. The settings name the kind, and for a file its path,
which cannot be the path of a folder. The folders that the path leads through are made first.
-/

namespace Arcade

/-- Where a storage keeps its texts. -/
inductive Backend where
  | memory
  | file (path : String)
deriving DecidableEq, Repr

namespace Backend

/-- The path of the file unless the settings name another. -/
def defaultPath : String := "data/gameverse.db"

/-- The ending of the name of a journal beside the file. -/
def journalEnding : String := "-journal"

/-- The file at a path. -/
def atPath (path : Json) : Except Fault Backend :=
  match path with
  | .str path => do
    Path.check path
    match Path.longFolder? path with
    | some folder => throw (.storage (.noFolder (Path.tidy path) folder))
    | none => pure ()
    if Path.isFile journalEnding.utf8ByteSize path then return .file path
    throw (.storage (.unopened (Path.tidy path)))
  | _ => .error .wrongKind

/-- The kind of storage that the settings name. -/
def ofSettings (settings : Settings) : Except Fault Backend :=
  let kind := settings.get "storage.backend" (.str "sqlite")
  match kind with
  | .str "memory" => .ok .memory
  | .str "sqlite" => atPath (settings.get "storage.db_path" (.str defaultPath))
  | _ => .error (.unknownBackend kind.text)

end Backend

end Arcade
