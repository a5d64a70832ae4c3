import Arcade.Text.CodePoint
import Arcade.Text.Printable

/-!
# Quoted text

A text is quoted so that it can be shown inside another text. Single quotes surround it, or double
quotes when it holds a single quote and no double one. Inside, the surrounding quote and the
backslash follow a backslash, and characters that do not show are written by their code points.
-/

namespace Arcade.Text

/-- A number in hexadecimal digits, with zeros in front up to a width. -/
def hexDigits (width n : Nat) : List Char :=
  let digits := Nat.toDigits 16 n
  List.replicate (width - digits.length) '0' ++ digits

/-- A code point that does not show. -/
def quoteCode (n : Nat) : List Char :=
  if n < 256 then ['\\', 'x'] ++ hexDigits 2 n
  else if n < 65536 then ['\\', 'u'] ++ hexDigits 4 n
  else ['\\', 'U'] ++ hexDigits 8 n

/-- One character of a quoted text. -/
def quoteChar (quote c : Char) : List Char :=
  if c = quote ∨ c = '\\' then ['\\', c]
  else if c = '\n' then ['\\', 'n']
  else if c = '\r' then ['\\', 'r']
  else if c = '\t' then ['\\', 't']
  else if isPrintable c then [c]
  else quoteCode c.toNat

/-- One sign of a quoted text. -/
def quoteSign (quote : Char) : Sign → List Char
  | .char c => quoteChar quote c
  | .spelt n => quoteCode n

/-- The quote that surrounds a text. -/
def quoteFor (s : String) : Char :=
  if s.toList.contains '\'' && !s.toList.contains '"' then '"' else '\''

/-- The text in quotes. -/
def quoted (s : String) : String :=
  let quote := quoteFor s
  String.ofList ([quote] ++ (signs s.toList).flatMap (quoteSign quote) ++ [quote])

end Arcade.Text
