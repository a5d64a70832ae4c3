import Arcade.Fault
import Arcade.Number.Total
import Arcade.Text.CodePoint
import Arcade.Text.Split

/-!
# Paths

A path is a row of names between slashes. Empty names and single points lead nowhere. A slash at the
head is the root of all folders, two slashes are another root, and more are the first one again.

The system takes names and paths of limited size only. Folders that a path leads through are made
where they are missing, which fails at the first folder with a name that is too long, unless the
system notices that name earlier: there are no missing folders before it.
-/

namespace Arcade.Path

/-- The names in a path, without those that lead nowhere. -/
def names (path : String) : List String :=
  (Text.parts '/' path).filter fun name => name ≠ "" ∧ name ≠ "."

/-- The root of a path, empty if it starts at the current folder. -/
def root (path : String) : String :=
  match path.toList.takeWhile (· = '/') with
  | [] => ""
  | ['/', '/'] => "//"
  | _ => "/"

/-- The path with a root and names; the path of the current folder is a point. -/
def ofNames (root : String) (names : List String) : String :=
  let text := root ++ "/".intercalate names
  if text = "" then "." else text

/-- A path without what leads nowhere. -/
def tidy (path : String) : String := ofNames (root path) (names path)

/-- Makes sure that the system takes a path. -/
def check (path : String) : Except Fault Unit :=
  if path.toList.contains '\x00' then .error .badValue
  else if !Text.isName path then .error .notEncodable
  else .ok ()

/-! ## Sizes -/

/-- The number of bytes in a name or path. -/
def size (path : String) : Nat := total ((Text.codes path).map Text.byteCount)

/-- The greatest number of bytes in a name. -/
def nameLimit : Nat := 255

/-- The greatest number of bytes in a path. -/
def limit : Nat := 4095

/-- The greatest number of bytes in the path of a file with a journal, and in that of the journal. -/
def journalLimit : Nat := 512

/-- Whether a name is too long. -/
def isLong (name : String) : Bool := decide (nameLimit < size name)

/-- Makes sure that no name in a path is too long. -/
def checkNames (path : String) : Except Fault Unit :=
  if (names path).any isLong then .error .nameTooLong else .ok ()

/-- The folder above the last name that cannot be made because it or its path is too long. -/
def longFolder? (path : String) : Option String :=
  let folders := (names path).dropLast
  let whole := ofNames (root path) folders
  let before := folders.takeWhile fun name => !isLong name
  if limit < size whole || (before ≠ folders && before.all (· = "..")) then some whole
  else (folders[before.length]?).map fun name => ofNames (root path) (before ++ [name])

/-- Whether a path can be that of a file, with room for an ending of so many bytes. -/
def isFile (room : Nat) (path : String) : Bool :=
  match (names path).getLast? with
  | some last =>
    decide (last ≠ ".." ∧ size last + room ≤ nameLimit ∧ size (tidy path) + room ≤ journalLimit)
  | none => false

end Arcade.Path
