import TypedCommands.Terminal.Paragraph

/-!
# Tables

Tables with a title, a row of headings between heavy lines and rows of cells between
light ones.  Every column is as wide as its widest cell, with a blank on both sides.  The
widest columns of a table that does not fit into a line are made narrower; words that are
too long for them are cut.

Main results:

- Theorem `narrow_of_le`: columns that fit keep their widths.
- Theorem `length_narrow`: no column gets lost when widths are lowered.
-/

namespace TypedCommands.Terminal

/-- A column of a table. -/
structure Column where
  /-- The heading. -/
  heading : StyledText
  /-- Where its cells stand. -/
  placement : Placement := .left

/-- A table. -/
structure Table where
  /-- The title, if there is one. -/
  title : Option StyledText
  /-- The columns. -/
  columns : List Column
  /-- The rows, each with a cell for every column. -/
  rows : List (List StyledText)

/-- The characters of a horizontal line: its ends, its stroke and its crossings. -/
structure Rule where
  /-- The left end. -/
  left : Char
  /-- The stroke. -/
  stroke : Char
  /-- Where a line between columns meets it. -/
  crossing : Char
  /-- The right end. -/
  right : Char

/-- The line above the headings. -/
def topRule : Rule := ⟨'┏', '━', '┳', '┓'⟩

/-- The line below the headings. -/
def headingRule : Rule := ⟨'┡', '━', '╇', '┩'⟩

/-- The line below the rows. -/
def bottomRule : Rule := ⟨'└', '─', '┴', '┘'⟩

/-- The upright line beside headings. -/
def heavyBar : Char := '┃'

/-- The upright line beside cells. -/
def lightBar : Char := '│'

/-- Put a separator between parts and characters around them. -/
def between (left separator right : Char) (parts : List (List Char)) : List Char :=
  left :: [separator].intercalate parts ++ [right]

/-- A horizontal line over columns of given widths. -/
def Rule.draw (r : Rule) (widths : List Nat) : List Char :=
  between r.left r.crossing r.right (widths.map fun w => List.replicate (w + 2) r.stroke)

/-- Whether a character ends a line when the width of a cell is measured. -/
def endsMeasuredLine (c : Char) : Bool :=
  let n := c.toNat
  n == 0x0A || (0x1C ≤ n && n ≤ 0x1E) || n == 0x85 || n == 0x2028 || n == 0x2029

/-- The number of columns that a cell needs: those of its longest line. -/
def measure (t : StyledText) : Nat :=
  ((t.chars.splitOnP endsMeasuredLine).map Terminal.columns).foldl max 0

/-- A row of cells that are given by their lines, between upright lines. -/
def drawRow (bar : Char) (widths : List Nat) (cells : List (List StyledText)) :
    List (List Char) :=
  let height := (cells.map List.length).foldl max 1
  (List.range height).map fun i =>
    between bar bar bar
      ((widths.zip cells).map fun c =>
        ' ' :: ((c.2[i]?).map (·.settled c.1)).getD (blanks c.1) ++ [' '])

/-- The same without the upright lines. -/
def bareRow (widths : List Nat) (cells : List (List StyledText)) : List (List Char) :=
  (List.range ((cells.map List.length).foldl max 1)).map fun i =>
    (widths.zip cells).flatMap fun c =>
      ' ' :: ((c.2[i]?).map (·.settled c.1)).getD (blanks c.1) ++ [' ']

/-! ## Widths of columns -/

/-- A quotient as a whole number: the nearest one, and for a half the even one. -/
def nearestQuotient (n d : Nat) : Nat :=
  if 2 * (n % d) < d ∨ (2 * (n % d) = d ∧ n / d % 2 = 0) then n / d else n / d + 1

/--
Widths of which the greatest are lowered by `excess` in all, shared out among `sharers` of
them, and by no more than `most` each.
-/
def lower (widest most excess sharers : Nat) : List Nat → List Nat
  | [] => []
  | w :: rest =>
    if w = widest then
      let taken := min most (nearestQuotient excess sharers)
      (w - taken) :: lower widest most (excess - taken) (sharers - 1) rest
    else w :: lower widest most excess sharers rest

/-- The sum of widths. -/
def totalOf (widths : List Nat) : Nat := widths.foldl (· + ·) 0

/--
Widths that are lowered until they are `available` in all: the greatest ones first, down to
the next greatest.
-/
def narrow (available : Nat) : Nat → List Nat → List Nat
  | 0, widths => widths
  | fuel + 1, widths =>
    let excess := totalOf widths - available
    if excess = 0 then widths
    else
      let widest := widths.foldl max 0
      let next := (widths.filter (· != widest)).foldl max 0
      let most := min excess (widest - next)
      narrow available fuel (lower widest most excess (widths.count widest) widths)

/-- Columns that fit are not narrowed. -/
theorem narrow_of_le {available : Nat} {widths : List Nat} (h : totalOf widths ≤ available)
    (fuel : Nat) : narrow available fuel widths = widths := by
  cases fuel with
  | zero => rfl
  | succ fuel => simp [narrow, Nat.sub_eq_zero_of_le h]

/-- Lowering the widest columns keeps their number. -/
theorem length_lower (widest most excess sharers : Nat) (widths : List Nat) :
    (lower widest most excess sharers widths).length = widths.length := by
  induction widths generalizing excess sharers with
  | nil => rfl
  | cons w rest ih => by_cases h : w = widest <;> simp [lower, h, ih]

/-- Narrowing keeps the number of columns. -/
theorem length_narrow (available fuel : Nat) (widths : List Nat) :
    (narrow available fuel widths).length = widths.length := by
  induction fuel generalizing widths with
  | zero => rfl
  | succ fuel ih =>
    simp only [narrow]
    split
    · rfl
    · rw [ih, length_lower]

namespace Table

/-- The headings. -/
def headings (t : Table) : List StyledText := t.columns.map (·.heading)

/-- The widths of the columns that show every cell in full, as far as a line allows. -/
def fullWidths (t : Table) : List Nat :=
  (List.range t.columns.length).map fun i =>
    ((t.headings :: t.rows).map fun row => ((row[i]?).map measure).getD 0).foldl max 0

/-- The number of columns that a line has between the upright lines of the table. -/
def available (t : Table) : Nat := lineWidth - (t.columns.length + 1)

/-- The widths of the columns. -/
def widths (t : Table) : List Nat :=
  let padded := t.fullWidths.map fun width => min (width + 2) t.available
  (narrow t.available (totalOf padded) padded).map (· - 2)

/-- The lines of each cell of a row in columns of given widths. -/
def cellLines (t : Table) (widths : List Nat) (cells : List StyledText) :
    List (List StyledText) :=
  ((t.columns.map (·.placement)).zip (widths.zip cells)).map fun c =>
    layOut c.1 .ellipsis c.2.1 c.2.2

/-- A row of cells in columns of given widths. -/
def drawCells (t : Table) (widths : List Nat) (bar : Char) (cells : List StyledText) :
    List (List Char) :=
  drawRow bar widths (t.cellLines widths cells)

/-- The number of columns of the whole table. -/
def totalWidth (t : Table) : Nat := t.widths.foldl (fun total width => total + (width + 3)) 1

/-- The lines of the title. -/
def titleLines (t : Table) : List StyledText :=
  match t.title with
  | none => []
  | some title => layOut .centre .fold t.totalWidth title

/-- Whether all styles that are left in the lines of a table can be made out. -/
def isSound (t : Table) : Bool :=
  t.titleLines.all (·.isSound) &&
    (t.headings :: t.rows).all fun row =>
      (t.cellLines t.widths row).all fun lines => lines.all (·.isSound)

/-- The lines of a table. -/
def lines (t : Table) : List (List Char) :=
  let widths := t.widths
  t.titleLines.map (·.cropped lineWidth) ++ [topRule.draw widths] ++
  t.drawCells widths heavyBar t.headings ++ [headingRule.draw widths] ++
  t.rows.flatMap (t.drawCells widths lightBar) ++ [bottomRule.draw widths]

/-- A table as it is printed. -/
def draw (t : Table) : List Char := t.lines.flatMap (· ++ ['\n'])

/-- The rows of a table without headings and lines around them. -/
def drawBare (t : Table) : List Char :=
  (t.rows.flatMap fun row => bareRow t.fullWidths (t.cellLines t.fullWidths row)).flatMap
    (· ++ ['\n'])

end Table

end TypedCommands.Terminal
