import TypedCommands.Text.Blank

/-!
# Arguments

An argument is one unit of a command line: a value, with or without a name in
front of it, together with the exact text it was written as.

Main definitions:

- Definition `Argument.agrees`: two arguments differ at most in where they start.
- Definitions `Argument.isName` and `Argument.isQuoted`: how an argument was written.
-/

namespace TypedCommands

/-- One unit of a command line. -/
structure Argument where
  /-- The text exactly as written: quotes, escapes and a name in front included. -/
  raw : String
  /-- The name, empty for an argument without one. -/
  name : String := ""
  /-- The value with quotes and escapes resolved. -/
  value : String := ""
  /-- The index in the line of the first character of `raw`. -/
  start : Int := 0
  deriving DecidableEq, Repr, Inhabited

namespace Argument

/-- Arguments agree when raw text, name and value do; where they start is no part of it. -/
def agrees (a b : Argument) : Bool := a.raw == b.raw && a.name == b.name && a.value == b.value

/-- Whether the first character of a text is a quote. -/
def startsQuoted : List Char → Bool
  | [] => false
  | c :: _ => Text.isQuote c

/-- An argument is shaped like a command name when it is unnamed, not empty and not quoted. -/
def isName (a : Argument) : Bool :=
  a.name == "" && a.raw != "" && !startsQuoted a.raw.toList

/-- The part of the raw text behind the name and its separator. -/
def valueText (a : Argument) : List Char :=
  if a.name == "" then a.raw.toList else a.raw.toList.drop (a.name.length + 1)

/-- Whether the value was written as a quoted string. -/
def isQuoted (a : Argument) : Bool := startsQuoted a.valueText

/-- The arguments that no earlier one agrees with. -/
def distinct : List Argument → List Argument
  | [] => []
  | a :: rest => a :: (distinct rest).filter (fun b => !a.agrees b)

end Argument

end TypedCommands
