import Arcade.Json.Basic
import Arcade.Text.Lowercase

/-!
# Environment files

An environment file assigns texts to variables, one on a line: a name, an equals sign and a value.
A name may stand in single quotes and may follow the word "export". A value may stand in single or
double quotes, and then it may go over several lines and have escapes; a plain value ends before a
comment. A line that is not of this form is passed over. A value may refer to variables by name,
with a default for those that are not set. Variables that are set already keep their value. One
variable of the environment switches such files off.
-/

namespace Arcade.EnvironmentFile

/-- What is read, with the characters after it. -/
abbrev Reading (α : Type) := Option (α × List Char)

/-- A blank character within a line. -/
def isGap (c : Char) : Bool := Text.isBlank c && c != '\n'

/-- The text with every line end as one character. -/
def joinLineEnds : List Char → List Char
  | '\r' :: '\n' :: rest => '\n' :: joinLineEnds rest
  | '\r' :: rest => '\n' :: joinLineEnds rest
  | c :: rest => c :: joinLineEnds rest
  | [] => []

/-- Skips the word "export" if a gap follows it. -/
def skipExport (cs : List Char) : List Char :=
  if "export".toList.isPrefixOf cs && isGap ((cs.drop 6).headD '\n') then
    (cs.drop 6).dropWhile isGap
  else cs

/-- Reads a name; a comment has none. -/
def readName? (cs : List Char) : Reading (Option String) :=
  match cs with
  | '#' :: _ => some (none, cs)
  | '\'' :: rest =>
    let name := rest.takeWhile (· ≠ '\'')
    match rest.dropWhile (· ≠ '\'') with
    | _ :: after => if name = [] then none else some (some (String.ofList name), after)
    | [] => none
  | _ =>
    let isPlain := fun c => !(c == '=' || c == '#' || Text.isBlank c)
    let name := cs.takeWhile isPlain
    if name = [] then none else some (some (String.ofList name), cs.dropWhile isPlain)

/-- Reads up to a closing quote that no backslash precedes. Where there is none, the last quote
closes; `fallback` is the reading that ends there. -/
def readQuoted? (quote : Char) (fallback : Reading (List Char)) (before : List Char) :
    List Char → Reading (List Char)
  | [] => fallback
  | '\\' :: c :: rest =>
    if c = quote then
      readQuoted? quote (some (('\\' :: before).reverse, rest)) (c :: '\\' :: before) rest
    else readQuoted? quote fallback ('\\' :: before) (c :: rest)
  | c :: rest =>
    if c = quote then some (before.reverse, rest)
    else readQuoted? quote fallback (c :: before) rest

/-- What an escape in double quotes stands for. -/
def escaped? : Char → Option Char
  | '\\' => some '\\'
  | '\'' => some '\''
  | '"' => some '"'
  | 'a' => some '\x07'
  | 'b' => some '\x08'
  | 'f' => some '\x0c'
  | 'n' => some '\n'
  | 'r' => some '\r'
  | 't' => some '\t'
  | 'v' => some '\x0b'
  | _ => none

/-- Replaces the escapes that have a meaning. -/
def unescape (meaning? : Char → Option Char) : List Char → List Char
  | '\\' :: c :: rest =>
    match meaning? c with
    | some d => d :: unescape meaning? rest
    | none => '\\' :: unescape meaning? (c :: rest)
  | c :: rest => c :: unescape meaning? rest
  | [] => []

/-- The characters before a comment that follows a gap. -/
def beforeComment : List Char → List Char
  | [] => []
  | c :: rest =>
    if Text.isBlank c && (rest.dropWhile Text.isBlank).headD ' ' == '#' then []
    else c :: beforeComment rest

/-- The characters without blanks at the end. -/
def trimEnd (cs : List Char) : List Char :=
  (cs.reverse.dropWhile Text.isBlank).reverse

/-- Reads a value. -/
def readValue? (cs : List Char) : Reading String :=
  match cs with
  | '\'' :: rest =>
    (readQuoted? '\'' none [] rest).map fun (value, after) =>
      let meaning? := fun c => if c = '\\' ∨ c = '\'' then some c else none
      (String.ofList (unescape meaning? value), after)
  | '"' :: rest =>
    (readQuoted? '"' none [] rest).map fun (value, after) =>
      (String.ofList (unescape escaped? value), after)
  | _ =>
    let line := cs.takeWhile (· ≠ '\n')
    some (String.ofList (trimEnd (beforeComment line)), cs.dropWhile (· ≠ '\n'))

/-- The characters after the rest of the line. -/
def nextLine (cs : List Char) : List Char :=
  (cs.dropWhile (· ≠ '\n')).drop 1

/-- Skips a comment and the end of the line; nothing else may stand there. -/
def endLine? (cs : List Char) : Option (List Char) :=
  let rest := cs.dropWhile isGap
  let rest := match rest with
    | '#' :: after => after.dropWhile (· ≠ '\n')
    | _ => rest
  match rest with
  | [] => some []
  | '\n' :: after => some after
  | _ => none

/-- An assignment: a name, if it is not a comment, and a value, if there is an equals sign. -/
abbrev Assignment := Option String × Option String

/-- Reads the value after a name, if there is an equals sign. -/
def readRight? (cs : List Char) : Reading (Option String) :=
  match cs.dropWhile isGap with
  | '=' :: rest => (readValue? (rest.dropWhile isGap)).map fun (value, after) => (some value, after)
  | rest => some (none, rest)

/-- Reads one assignment to the end of its line. What cannot be read is an assignment to nothing,
and the reading goes on after the line in which it failed. -/
def readAssignment (cs : List Char) : Assignment × List Char :=
  let start := skipExport cs
  match readName? start with
  | none => ((none, none), nextLine start)
  | some (name, rest) =>
    match readRight? rest with
    | none => ((none, none), nextLine ((rest.dropWhile isGap).drop 1 |>.dropWhile isGap))
    | some (value, rest) =>
      match endLine? rest with
      | some rest => ((name, value), rest)
      | none => ((none, none), nextLine rest)

/-- Reads all assignments. Each takes at least one character, so a number of characters is enough
fuel. -/
def readAll : Nat → List Char → List Assignment
  | 0, _ => []
  | fuel + 1, cs =>
    match cs.dropWhile Text.isBlank with
    | [] => []
    | start =>
      let (assignment, rest) := readAssignment start
      assignment :: readAll fuel rest

/-! ## References -/

/-- Reads a reference after its opening: a name and a default. -/
def readReference? (cs : List Char) : Reading (String × Option String) :=
  let isNameChar := fun c => !(c == '\x7d' || c == ':')
  let name := String.ofList (cs.takeWhile isNameChar)
  match cs.dropWhile isNameChar with
  | ':' :: '-' :: rest =>
    match rest.dropWhile (· ≠ '\x7d') with
    | _ :: after => some ((name, some (String.ofList (rest.takeWhile (· ≠ '\x7d')))), after)
    | [] => none
  | '\x7d' :: after => some ((name, none), after)
  | _ => none

/-- Replaces the references by what `value?` gives for their names. A number of characters is
enough fuel. -/
def resolve (value? : String → Option String) : Nat → List Char → List Char
  | 0, cs => cs
  | fuel + 1, cs =>
    match cs with
    | [] => []
    | '$' :: '\x7b' :: rest =>
      match readReference? rest with
      | some ((name, default), after) =>
        ((value? name).getD (default.getD "")).toList ++ resolve value? fuel after
      | none => '$' :: resolve value? fuel ('\x7b' :: rest)
    | c :: rest => c :: resolve value? fuel rest

/-- The values of the assigned names, each with the references in it replaced. A name may have no
value. -/
def resolveAll (environment : Dict String) (values : Dict (Option String)) :
    List (String × Option String) → Dict (Option String)
  | [] => values
  | (name, value) :: rest =>
    let value? := fun name =>
      match environment.get? name with
      | some value => some value
      | none => (values.get? name).map fun value => value.getD ""
    let resolved := value.map fun value =>
      String.ofList (resolve value? (value.toList.length + 1) value.toList)
    resolveAll environment (values.insert name resolved) rest

/-- The values that a file assigns, by name. -/
def values (environment : Dict String) (text : String) : Dict (Option String) :=
  let cs := joinLineEnds text.toList
  let named := (readAll (cs.length + 1) cs).filterMap fun (name, value) =>
    name.map fun name => (name, value)
  resolveAll environment Dict.empty named

/-- Sets a variable that is not set. A name with an equals sign and a null character are refused. -/
def setNew (environment : Dict String) (name value : String) : Except Fault (Dict String) :=
  if environment.contains name then .ok environment
  else if !(Text.isName name && Text.isName value) then .error .notEncodable
  else if name.toList.contains '=' || name.toList.contains '\x00' ||
      value.toList.contains '\x00' then .error .badValue
  else .ok (environment.insert name value)

/-- The environment with the variables of an object, whose values have to be texts. -/
def environmentOf (members : List (String × Json)) : Except Fault (Dict String) :=
  members.foldlM (fun environment e =>
    match e.2 with
    | .str value => setNew environment e.1 value
    | _ => .error .wrongKind) Dict.empty

/-- The variable that switches environment files off. -/
def switch : String := "PYTHON_DOTENV_DISABLED"

/-- The texts with which it does so, in any case. -/
def switchWords : List String := ["1", "true", "t", "yes", "y"]

/-- A text without its case, where the long s is an s. -/
def caseless (s : String) : String :=
  (Text.lower s).map fun c => if c = '\u017f' then 's' else c

/-- Whether environment files are passed over. -/
def isOff (environment : Dict String) : Bool :=
  switchWords.contains (caseless ((environment.get? switch).getD ""))

/-- The environment with the variables of a file set that are not set already. -/
def extend (environment : Dict String) (text : String) : Except Fault (Dict String) :=
  if isOff environment then .ok environment
  else (values environment text).entries.foldlM (fun environment e =>
    match e.2 with
    | some value => setNew environment e.1 value
    | none => .ok environment) environment

end Arcade.EnvironmentFile
