/-!
# Consoles

A console prints texts, tables and trees.  What it makes of them is up to it, and it may
refuse what it is given: a text with style marks is read, so the marks have to make sense.
Here is only what a console is handed and what it gives back; the lemmas about the shell say
what they rely on.

Main definitions:

- Definition `Console.Words`: texts with style marks, and texts that are shown as they are.
- Definition `Console`: what a console prints of texts, tables and trees.
-/

namespace TypedCommands

namespace Console

/-- A text that is handed to a console. -/
inductive Words where
  /-- A text in which the console reads style marks. -/
  | marked (text : String)
  /-- A text that is shown as it is. -/
  | plain (text : String)
  deriving DecidableEq, Repr

/-- The text as it is handed over. -/
def Words.text : Words → String
  | .marked text => text
  | .plain text => text

/-- A text with marks behind a red heading. -/
def Words.headed (heading text : String) : Words :=
  .marked ("[red]" ++ heading ++ "[/red] " ++ text)

/-- Whether a style mark may begin with a character behind its opening bracket. -/
def startsMark (c : Char) : Bool :=
  ('a' ≤ c && c ≤ 'z') || c == '#' || c == '/' || c == '@'

/-- The side of a column on which its cells stand. -/
inductive Side where
  | left
  | right
  deriving DecidableEq, Repr

/-- The heading of a column. -/
structure Heading where
  /-- The words above the cells; they may hold marks. -/
  text : String
  /-- The side of the cells. -/
  side : Side := .left
  deriving DecidableEq, Repr

/-- A table. -/
structure Sheet where
  /-- The title, which may hold marks; an empty one is none. -/
  title : String := ""
  /-- The headings, one for each column. -/
  headings : List Heading
  /-- The rows, each with a cell for every column. -/
  rows : List (List Words)
  /-- Whether headings and lines around the cells are shown. -/
  framed : Bool := true
  deriving DecidableEq, Repr

/-- A branch of a tree: a name, a remark behind it in a style of its own, and what is below. -/
inductive Branch where
  | node (name remark : String) (children : List Branch)

end Console

/--
A console.  Each operation gives what is printed, or the name of the exception that it fails
with.
-/
structure Console where
  /-- Print a text. -/
  print : Console.Words → Except String String
  /-- Print a table. -/
  printSheet : Console.Sheet → Except String String
  /-- Print a tree, given the words at its root and the branches below. -/
  printTree : Console.Words → List Console.Branch → Except String String

end TypedCommands
