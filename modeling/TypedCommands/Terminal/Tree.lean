import TypedCommands.Console
import TypedCommands.Terminal.Paragraph

/-!
# Trees

Trees of labels with lines that lead from every label to those below it.
-/

namespace TypedCommands.Terminal

open Console (Branch)

/-- The label of a branch: its name, and the remark in a style of its own. -/
def labelOf (name remark : String) : StyledText :=
  let words := StyledText.ofChars name.toList
  let more := StyledText.ofChars remark.toList
  if remark = "" then words else words.append ⟨more.chars, [⟨0, more.chars.length, true⟩]⟩

/-- The number of columns that a level is moved in. -/
def levelWidth : Nat := 4

/-- What leads to the first line of a label. -/
def guide (last : Bool) : List Char := if last then "└── ".toList else "├── ".toList

/-- What stands in front of everything else beside and below a label. -/
def spine (last : Bool) : List Char := if last then "    ".toList else "│   ".toList

/-- The lines of a text in a number of columns; without any column there are none. -/
def wrapIn (width : Nat) (t : StyledText) : List (List Char) :=
  if width = 0 then [] else (layOut .natural .fold width t).map (·.cropped width)

/-- The lines of a label behind what stands in front of it; the first line has a guide. -/
def labelLines (front : List Char) (last : Bool) (label : StyledText) : List (List Char) :=
  match wrapIn (lineWidth - front.length - levelWidth) label with
  | [] => []
  | first :: more =>
    (front ++ guide last ++ first) :: more.map fun line => front ++ spine last ++ line

mutual

/-- The lines of a branch. -/
def branchLines (front : List Char) (last : Bool) : Branch → List (List Char)
  | .node name remark children =>
    labelLines front last (labelOf name remark) ++ branchesLines (front ++ spine last) children

/-- The lines of branches below one label. -/
def branchesLines (front : List Char) : List Branch → List (List Char)
  | [] => []
  | b :: rest => branchLines front rest.isEmpty b ++ branchesLines front rest

end

/-- A tree as it is printed: the label of its root, and the branches below. -/
def drawTree (root : StyledText) (branches : List Branch) : List Char :=
  (wrapIn lineWidth root ++ branchesLines [] branches).flatMap (· ++ ['\n'])

end TypedCommands.Terminal
