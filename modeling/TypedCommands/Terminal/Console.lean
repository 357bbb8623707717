import TypedCommands.Terminal.Markup
import TypedCommands.Terminal.Table
import TypedCommands.Terminal.Tree

/-!
# A terminal as a console

A console that writes to a terminal of eighty columns without colours.  Marks are read, and
styles are made out when everything is read.

Main definitions:

- Definition `console`: the console.
-/

namespace TypedCommands.Terminal

open Console (Words Side Heading Sheet Branch)

/-- The name of the exception for marks that make no sense. -/
def Markup.Fault.exception : Markup.Fault → String
  | .noNumber => "ValueError"
  | _ => "MarkupError"

/-- What words are read as. -/
def readWords : Words → Except Markup.Fault StyledText
  | .marked text => Markup.read text.toList
  | .plain text => .ok (.ofChars text.toList)

/-- What is printed, unless a style in it cannot be made out. -/
def ifSound (sound : Bool) (output : List Char) : Except String String :=
  if sound then .ok (String.ofList output) else .error Markup.Fault.noNumber.exception

/-- Words as they are printed. -/
def printWords (w : Words) : Except String String :=
  match readWords w with
  | .error fault => .error fault.exception
  | .ok t => ifSound ((paragraphLines t).all (·.isSound)) (paragraph t)

/-! ## Tables -/

/-- The fault of words, if they cannot be read. -/
def wordsFault? (w : Words) : Option Markup.Fault :=
  match readWords w with
  | .error fault => some fault
  | .ok _ => none

/-- What words are read as, nothing if they cannot be. -/
def readOr (w : Words) : StyledText := (readWords w).toOption.getD ⟨[], []⟩

/-- The faults of a table; it is read column by column, and the title last. -/
def sheetFaults (s : Sheet) : List Markup.Fault :=
  ((List.range s.headings.length).flatMap fun i =>
    ((s.headings.map fun h => Words.marked h.text) :: s.rows).filterMap fun row =>
      row[i]?.bind wordsFault?) ++ (wordsFault? (.marked s.title)).toList

/-- Where the cells of a column stand. -/
def placementOf : Side → Placement
  | .left => .left
  | .right => .right

/-- A table as it is read. -/
def tableOf (s : Sheet) : Table where
  title := if s.title = "" then none else some (readOr (.marked s.title))
  columns := s.headings.map fun h => ⟨readOr (.marked h.text), placementOf h.side⟩
  rows := s.rows.map fun row => row.map readOr

/-- A table as it is printed. -/
def printTable (s : Sheet) : Except String String :=
  match (sheetFaults s).head? with
  | some fault => .error fault.exception
  | none =>
    let t := tableOf s
    ifSound t.isSound (if s.framed then t.draw else t.drawBare)

/-! ## The console -/

/-- A tree as it is printed. -/
def printTree (root : Words) (branches : List Branch) : Except String String :=
  match readWords root with
  | .error fault => .error fault.exception
  | .ok t => ifSound ((paragraphLines t).all (·.isSound)) (drawTree t branches)

/-- A terminal as a console. -/
def console : Console where
  print := printWords
  printSheet := printTable
  printTree := printTree

end TypedCommands.Terminal
