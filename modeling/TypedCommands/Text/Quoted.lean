import TypedCommands.Text.Hex
import TypedCommands.Text.Printable

/-!
# Text shown in quotes

Messages show a text in quotes so that every character of it can be told.  Single
quotes are used unless the text has a single quote and no double quote.  A
backslash stands in front of a backslash and of the quote in use; tab, line feed
and carriage return have escapes of one letter and other characters that are not
printable one of two, four or eight hexadecimal digits.
-/

namespace TypedCommands.Text

/-- The quote character a text is shown in. -/
def quoteFor (cs : List Char) : Char :=
  if cs.contains '\'' && !cs.contains '"' then '"' else '\''

/-- A character as it stands between quotes `q`. -/
def quotedChar (q c : Char) : List Char :=
  if c = q ∨ c = '\\' then ['\\', c]
  else if c = '\t' then ['\\', 't']
  else if c = '\n' then ['\\', 'n']
  else if c = '\r' then ['\\', 'r']
  else if isPrintable c then [c]
  else if c.toNat ≤ 0xFF then '\\' :: 'x' :: hexDigits hexDigit 2 c.toNat
  else if c.toNat ≤ 0xFFFF then '\\' :: 'u' :: hexDigits hexDigit 4 c.toNat
  else '\\' :: 'U' :: hexDigits hexDigit 8 c.toNat

/-- A text in quotes. -/
def quoted (s : String) : String :=
  let cs := s.toList
  let q := quoteFor cs
  String.ofList (q :: cs.flatMap (quotedChar q) ++ [q])

end TypedCommands.Text
