import TypedCommands.Terminal.StyledText
import TypedCommands.Text.Blank

/-!
# Paragraphs

Texts laid out in lines of a given number of columns.  Lines break between words;
the blanks behind the last word of a line stay as far as they fit.  Tabs lead to the
next of the tab stops, which are eight columns apart.  Lines are laid out by their plain
text; their styles stay with the characters.

Main results:

- Theorem `flatten_words`: the words of a text with the blanks around them make up the
  text.
-/

namespace TypedCommands.Terminal

open TypedCommands.Text

/-- What happens to a word that is too long for a line. -/
inductive Overflow where
  /-- It goes on in the next line. -/
  | fold
  /-- It is cut, and three points stand for what is left out. -/
  | ellipsis
  deriving DecidableEq, Repr

/-- Where the lines of a text stand. -/
inductive Placement where
  /-- At the left side, as long as they are. -/
  | natural
  /-- At the left side, filled up with blanks. -/
  | left
  /-- At the right side, without the blanks at their ends. -/
  | right
  /-- In the middle, without the blanks at their ends. -/
  | centre
  deriving DecidableEq, Repr

/-- The distance between two tab stops. -/
def tabStop : Nat := 8

/-- The blanks that are missing to the next tab stop. -/
def missing (column : Nat) : Nat := (tabStop - column % tabStop) % tabStop

/--
Parts that end in a tab, but for the last one, with blanks in the place of tabs; `column`
counts what stands in front of them.
-/
def joinAtStops (column : Nat) : List StyledText → StyledText
  | [] => ⟨[], []⟩
  | [last] => last
  | part :: rest =>
    let here := part.replace (part.chars.dropLast ++ [' '])
    let reached := column + columns here.chars
    (here.extend (missing reached)).append (joinAtStops (reached + missing reached) rest)

/-- The lengths of parts of which each but the last one ends in a tab. -/
def tabbedLengths : List (List Char) → List Nat
  | [] => []
  | [last] => [last.length]
  | part :: rest => (part.length + 1) :: tabbedLengths rest

/-- A text with blanks in the place of tabs. -/
def expandTabs (t : StyledText) : StyledText :=
  joinAtStops 0 (t.divide 0 (tabbedLengths (t.chars.splitOn '\t')))

/-- The words of a text with the blanks behind them; the first one has those in front as well. -/
def words : Nat → List Char → List (List Char)
  | 0, _ => []
  | fuel + 1, cs =>
    let front := cs.takeWhile isBlank
    let fromWord := cs.dropWhile isBlank
    let word := fromWord.takeWhile fun c => !isBlank c
    let behindWord := fromWord.dropWhile fun c => !isBlank c
    if word.isEmpty then []
    else
      (front ++ word ++ behindWord.takeWhile isBlank) :: words fuel (behindWord.dropWhile isBlank)

/-- The words of a text make up the text. -/
theorem flatten_words {fuel : Nat} {cs : List Char} (enough : cs.length < fuel)
    (h : cs.dropWhile isBlank ≠ []) : (words fuel cs).flatten = cs := by
  induction fuel generalizing cs with
  | zero => omega
  | succ fuel ih =>
    have whole := List.takeWhile_append_dropWhile (p := isBlank) (l := cs)
    generalize hw : cs.dropWhile isBlank = fromWord at h whole
    match fromWord, h with
    | c :: rest, _ =>
      have hc : isBlank c = false := not_of_dropWhile_eq_cons hw
      have shorter : (c :: rest).length ≤ cs.length :=
        hw ▸ (List.dropWhile_suffix isBlank).length_le
      have split := List.takeWhile_append_dropWhile (p := fun c => !isBlank c) (l := rest)
      generalize hb : rest.dropWhile (fun c => !isBlank c) = behindWord at split
      have shorter' : behindWord.length ≤ rest.length :=
        hb ▸ (List.dropWhile_suffix _).length_le
      have split' := List.takeWhile_append_dropWhile (p := isBlank) (l := behindWord)
      have shorter'' := (List.dropWhile_suffix isBlank (l := behindWord)).length_le
      simp only [words, hw, List.takeWhile_cons, List.dropWhile_cons, hc, Bool.not_false, if_true,
        hb, List.isEmpty_cons, Bool.false_eq_true, if_false, List.flatten_cons]
      have hrest : (words fuel (behindWord.dropWhile isBlank)).flatten =
          behindWord.dropWhile isBlank := by
        generalize hr : behindWord.dropWhile isBlank = r
        match r with
        | [] => cases fuel <;> simp [words]
        | d :: more =>
          have hd : isBlank d = false := not_of_dropWhile_eq_cons hr
          refine ih ?_ (by simp [hd])
          simp only [hr, List.length_cons] at *
          omega
      rw [hrest]
      simp only [List.append_assoc, List.cons_append, split', split, whole]

/-- A text without the blanks at its end. -/
def trimEnd (cs : List Char) : List Char := (cs.reverse.dropWhile isBlank).reverse

/-- Lines that are being filled. -/
structure Filling where
  /-- The lines that are full. -/
  full : List (List Char) := []
  /-- The last line. -/
  line : List Char := []
  /-- The number of its columns, as it counts. -/
  used : Nat := 0
  /-- Whether any characters were added. -/
  started : Bool := false

namespace Filling

/-- Begin a new line with a text, unless nothing was added before. -/
def startLine (f : Filling) (cs : List Char) : Filling :=
  if f.started then ⟨f.full ++ [f.line], cs, columns cs, true⟩
  else ⟨f.full, f.line ++ cs, columns cs, !cs.isEmpty⟩

/-- Add a word. -/
def add (overflow : Overflow) (width : Nat) (f : Filling) (word : List Char) : Filling :=
  let needed := columns (trimEnd word)
  if f.used + needed ≤ width then
    ⟨f.full, f.line ++ word, f.used + columns word, true⟩
  else if width < needed then
    match overflow with
    | .fold => (chop width word).foldl startLine f
    | .ellipsis => f.startLine word
  else if f.used ≠ 0 then f.startLine word
  else { f with line := f.line ++ word, started := true }

end Filling

/-- The lines that words fill. -/
def fillLines (overflow : Overflow) (width : Nat) (ws : List (List Char)) : List (List Char) :=
  let f := ws.foldl (Filling.add overflow width) {}
  f.full ++ [f.line]

/-- A line without the blanks at its end that do not fit. -/
def trimExcess (width : Nat) (t : StyledText) : StyledText :=
  t.take (max (trimEnd t.chars).length (min width t.chars.length))

/-- A line cut to a number of columns. -/
def truncate (overflow : Overflow) (width : Nat) (t : StyledText) : StyledText :=
  if columns t.chars ≤ width then t
  else
    match overflow with
    | .fold => t.replace (resize width t.chars)
    | .ellipsis => t.replace (resize (width - 1) t.chars ++ ['…'])

/-- The blanks that a text lacks to a number of columns. -/
def lacking (width : Nat) (t : StyledText) : Nat := width - columns t.chars

/-- A line moved to its place in a number of columns. -/
def place (placement : Placement) (overflow : Overflow) (width : Nat) (t : StyledText) :
    StyledText :=
  let kept := truncate overflow width (t.replace (trimEnd t.chars))
  match placement with
  | .natural => t
  | .left => t.fill (lacking width t)
  | .right => kept.indent (lacking width kept)
  | .centre =>
    let moved := kept.indent (lacking width kept / 2)
    moved.fill (lacking width moved)

/-- One line of a text laid out in lines of a number of columns. -/
def layOutLine (placement : Placement) (overflow : Overflow) (width : Nat) (t : StyledText) :
    List StyledText :=
  let expanded := expandTabs t
  let ws := words (expanded.chars.length + 1) expanded.chars
  let lines :=
    if ws.isEmpty then [expanded]
    else expanded.divide 0 ((fillLines overflow width ws).map List.length)
  lines.map fun line =>
    truncate overflow width (place placement overflow width (trimExcess width line))

/-- A text laid out in lines of a number of columns. -/
def layOut (placement : Placement) (overflow : Overflow) (width : Nat) (t : StyledText) :
    List StyledText :=
  (t.divide 1 ((t.chars.splitOn '\n').map List.length)).flatMap
    (layOutLine placement overflow width)

/-- The number of columns of every line of a text. -/
def lineWidth : Nat := 80

/-- The lines of a text as it is printed. -/
def paragraphLines (t : StyledText) : List StyledText := layOut .natural .fold lineWidth t

/-- A text as it is printed: laid out in lines, each with a line feed behind it. -/
def paragraph (t : StyledText) : List Char :=
  (paragraphLines t).flatMap fun line => line.cropped lineWidth ++ ['\n']

end TypedCommands.Terminal
