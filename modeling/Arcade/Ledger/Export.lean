import Arcade.Ledger.Basic
import Arcade.Calendar.Instant
import Arcade.Json.Writer
import Arcade.Text.Path

/-!
# Exporting a ledger

A document is exported as an indented text, in a file that is named after the day.
-/

namespace Arcade

/-- The document as a text to keep elsewhere. -/
def Document.exported (d : Document) : String := d.toJson.writeIndented 0

namespace Ledger

/-- The name of the file with the document as it is on the day of an instant. -/
def exportName (now : Instant) : String := "gameverse-data-" ++ now.dayKey ++ ".json"

/-- The path of that file below folders, which must not lead elsewhere. -/
def exportPath (folders : List String) (now : Instant) : Except Fault String := do
  folders.forM Path.check
  if folders.any fun folder => Path.root folder ≠ "" then throw .badValue
  folders.forM Path.checkNames
  return "/".intercalate (folders.flatMap Path.names ++ [exportName now])

end Ledger

end Arcade
