import TypedCommands.Command.Resolution

/-!
# Lines scanned at once

A line whose arguments are all read when it is made, so that a malformed line is
noticed before anything is done with it.  Every operation starts from the first
argument again.

Main definitions:

- Definition `ScannedLine.read`: a line with all its arguments, or what is wrong with it.
-/

namespace TypedCommands

/-- A line with all its arguments. -/
structure ScannedLine where
  /-- The line as it was typed. -/
  text : String
  /-- Its arguments. -/
  arguments : List Argument

namespace ScannedLine

/-- Read a line to its end. -/
def read (line : String) : Except LineFault ScannedLine := (tokenize line).map (⟨line, ·⟩)

/-- The arguments as a source. -/
def source (l : ScannedLine) : Source := ⟨l.arguments, none⟩

/-- The number of arguments. -/
def size (l : ScannedLine) : Nat := l.arguments.length

/-- The form in which a line is shown. -/
def shown (l : ScannedLine) : String := "CommandLine(" ++ Text.quoted l.text ++ ")"

end ScannedLine

namespace Argument

/-- The form in which an argument is shown. -/
def shown (a : Argument) : String :=
  let named := if a.name = "" then "" else a.name ++ "="
  "Argument(" ++ named ++ Text.quoted a.value ++ ", raw=" ++ Text.quoted a.raw ++ ")"

end Argument

end TypedCommands
