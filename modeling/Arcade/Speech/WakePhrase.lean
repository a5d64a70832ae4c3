import Arcade.Json.Basic
import Arcade.Fault
import Arcade.Text.Alphanumeric
import Arcade.Text.Blank
import Arcade.Text.Lowercase

/-!
# The wake phrase

Speech is searched for the phrase "hey buddy", also in the forms that recognizers mistake it for.
The phrase has to stand at the start of a word and to end with one. What follows it, without
blanks and punctuation at its ends and in lower case, is the command, which may be empty. A phrase
is passed over when a line break follows somewhere behind its separators: a command is one line.
-/

namespace Arcade

/-- What a recognizer or a text field delivers. -/
inductive Heard where
  | words (text : String)
  /-- Nothing was delivered. -/
  | nothing
  /-- Something that is not a text. -/
  | noise
deriving DecidableEq, Repr

/-- What was delivered as a value: what is null, false, zero or empty counts as nothing. -/
def Heard.ofJson (v : Json) : Heard :=
  match v with
  | .str s => .words s
  | v => if v.truthy then .noise else .nothing

namespace WakePhrase

def greetings : List String := ["hey", "hay"]

def names : List String := ["buddy", "buddie", "budy", "body", "bud", "but"]

/-- Whether a character is a letter of the phrase in either case, dotted or not. -/
def matchesLetter (letter c : Char) : Bool :=
  c.toLower == letter || (letter == 'i' && (c.toNat == 0x130 || c.toNat == 0x131))

/-- The characters after a word at the head of the text. -/
def afterWord? : List Char → List Char → Option (List Char)
  | [], cs => some cs
  | w :: ws, c :: cs => if matchesLetter w c then afterWord? ws cs else none
  | _ :: _, [] => none

/-- The characters after a name of the buddy that ends where a word ends. -/
def afterName? (cs : List Char) : Option (List Char) :=
  names.findSome? fun name =>
    (afterWord? name.toList cs).filter fun rest => Text.endsWord rest

/-- The characters after the phrase, if the text starts with it. -/
def afterPhrase? (cs : List Char) : Option (List Char) :=
  greetings.findSome? fun greeting =>
    match afterWord? greeting.toList cs with
    | some (c :: rest) =>
      if Text.isBlank c then afterName? (rest.dropWhile Text.isBlank) else none
    | _ => none

/-- The punctuation that may stand around a command. -/
def isPunctuation (c : Char) : Bool :=
  c == ',' || c == '.' || c == '!' || c == '?'

/-- The characters that separate the phrase from the command. -/
def isSeparator (c : Char) : Bool :=
  Text.isBlank c || isPunctuation c

/-- The command at the head of the text, if the phrase stands there and the rest is one line. -/
def commandHere? (cs : List Char) : Option (List Char) :=
  match afterPhrase? cs with
  | some rest =>
    let command := rest.dropWhile isSeparator
    if command.contains '\n' then none else some command
  | none => none

/-- The command after the first phrase in the text; `inWord` tells whether a word character stands
before the text. -/
def find? (inWord : Bool) : List Char → Option (List Char)
  | [] => none
  | c :: rest =>
    let here := if inWord then none else commandHere? (c :: rest)
    match here with
    | some command => some command
    | none => find? (Text.isWordChar c) rest

/-- A command without blanks and punctuation around it, in lower case. -/
def tidyCommand (cs : List Char) : String :=
  let inner := Text.trimChars isPunctuation (Text.trimChars Text.isBlank cs)
  Text.lower (String.ofList (Text.trimChars Text.isBlank inner))

/-- The command after the wake phrase, `some ""` if nothing follows it. -/
def detect (text : String) : Option String :=
  (find? false (Text.trimChars Text.isBlank text.toList)).map tidyCommand

/-- The command after the wake phrase or, without one, the whole text, trimmed and in lower
case. -/
def strip (text : String) : String :=
  match detect text with
  | some command => command
  | none => Text.lower (Text.trim text)

end WakePhrase

namespace Heard

/-- The command after the wake phrase in what was heard. -/
def wake : Heard → Except Fault (Option String)
  | .words text => .ok (WakePhrase.detect text)
  | .nothing => .ok none
  | .noise => .error .noOperation

/-- What was heard without the wake phrase. -/
def withoutWake : Heard → Except Fault String
  | .words text => .ok (WakePhrase.strip text)
  | .nothing | .noise => .error .noOperation

end Heard

end Arcade
