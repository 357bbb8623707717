import Mathlib.Data.List.Forall2
import TypedCommands.Console
import TypedCommands.Text.Blank

/-!
# What consoles show

What a console prints of a text shows it up to wrapping, if the text means itself: it holds no
style marks, no backslashes that are taken away, no names of pictures and no characters that
are left out or joined to others.  How many columns a text takes, how wide the columns of a
table are made and which pictures there are is up to the console.

Main results:

- Definition `Console.Wraps`: lines show a text up to wrapping.
- Definition `Console.IsLiteral`: a text means itself.
- Definition `Console.Documented`: what is known of a console.
-/

namespace TypedCommands.Console

open TypedCommands.Text

/-! ## Lines that show a text -/

/-- There is nothing but blanks. -/
def AllBlank (cs : List Char) : Prop := ∀ c ∈ cs, isBlank c = true

namespace AllBlank

variable {cs ds : List Char}

/-- Nothing is blank. -/
theorem nil : AllBlank [] := by simp [AllBlank]

/-- Two texts are blank if both of them are. -/
theorem append_iff : AllBlank (cs ++ ds) ↔ AllBlank cs ∧ AllBlank ds := List.forall_mem_append

/-- So is every beginning of a blank text. -/
theorem take (h : AllBlank cs) (n : Nat) : AllBlank (cs.take n) :=
  fun c hc => h c (List.mem_of_mem_take hc)

end AllBlank

/-- A line is shown but for the blanks at its end. -/
def ShownAs (line shown : List Char) : Prop :=
  ∃ core gap pad, line = core ++ gap ∧ shown = core ++ pad ∧ AllBlank gap ∧ AllBlank pad

/--
Lines show a text up to wrapping: each shows what comes next of it, but for the blanks at
the end of the line.
-/
inductive Wraps : List Char → List (List Char) → Prop
  | nil : Wraps [] []
  | cons {line shown rest : List Char} {lines : List (List Char)} :
      ShownAs line shown → Wraps rest lines → Wraps (line ++ rest) (shown :: lines)

namespace Wraps

variable {cs ds : List Char} {lines more : List (List Char)}

/-- Texts are shown one behind the other. -/
theorem append (h : Wraps cs lines) (h' : Wraps ds more) : Wraps (cs ++ ds) (lines ++ more) := by
  induction h with
  | nil => exact h'
  | cons hline _ ih =>
    rw [List.append_assoc, List.cons_append]
    exact .cons hline ih

/-- Blanks behind a text need not be shown. -/
theorem append_blanks (h : Wraps cs lines) (hne : lines ≠ []) {gap : List Char}
    (hgap : AllBlank gap) : Wraps (cs ++ gap) lines := by
  induction h with
  | nil => exact absurd rfl hne
  | cons hline hrest ih =>
    cases hrest with
    | nil =>
      obtain ⟨core, inner, pad, rfl, rfl, hinner, hpad⟩ := hline
      have hall : AllBlank (inner ++ gap) := AllBlank.append_iff.2 ⟨hinner, hgap⟩
      rw [List.append_nil, List.append_assoc, ← List.append_nil (core ++ (inner ++ gap))]
      exact .cons ⟨core, inner ++ gap, pad, rfl, rfl, hall, hpad⟩ .nil
    | cons hnext hmore =>
      rw [List.append_assoc]
      exact .cons hline (ih (by simp))

/-- Lines that show a text have the characters of it that are not blank. -/
theorem filter_eq (h : Wraps cs lines) :
    lines.flatten.filter (fun c => !isBlank c) = cs.filter fun c => !isBlank c := by
  have hnone : ∀ {gap : List Char}, AllBlank gap → gap.filter (fun c => !isBlank c) = [] := by
    intro gap hgap
    rw [List.filter_eq_nil_iff]
    intro c hc
    simp [hgap c hc]
  induction h with
  | nil => rfl
  | cons hline _ ih =>
    obtain ⟨core, gap, pad, rfl, rfl, hgap, hpad⟩ := hline
    rw [List.flatten_cons, List.filter_append, List.filter_append, List.filter_append,
      List.filter_append, hnone hgap, hnone hpad, ih]

end Wraps

/-- Lines as they are printed, each with a line feed behind it. -/
def printLines (lines : List (List Char)) : List Char := lines.flatMap (· ++ ['\n'])

/-- Line feeds are blank. -/
theorem filter_printLines (lines : List (List Char)) :
    (printLines lines).filter (fun c => !isBlank c) =
      lines.flatten.filter fun c => !isBlank c := by
  have hfeed : (['\n'] : List Char).filter (fun c => !isBlank c) = [] := by decide
  induction lines with
  | nil => rfl
  | cons line lines ih =>
    rw [printLines, List.flatMap_cons, ← printLines, List.filter_append, List.filter_append,
      hfeed, List.append_nil, ih, List.flatten_cons, List.filter_append]

/-- The upright line beside cells. -/
def lightBar : Char := '│'

/-- A row between upright lines; every cell is given by what its lines show. -/
def rowOf (bar : Char) (height : Nat) (cells : List (List (List Char))) : List (List Char) :=
  (List.range height).map fun i =>
    bar :: [bar].intercalate (cells.map fun lines => ' ' :: lines.getD i [] ++ [' ']) ++ [bar]

/-- A row shows texts: each of its cells shows one of them, in as many lines as the row has. -/
def RowShows (bar : Char) (texts : List (List Char)) (row : List (List Char)) : Prop :=
  ∃ height cells, row = rowOf bar height cells ∧ List.Forall₂ Wraps texts cells ∧
    ∀ lines ∈ cells, lines.length = height

/-! ## Texts that mean themselves -/

/-- What is known of the way a console measures and reads. -/
structure Metrics where
  /-- The number of columns of a text. -/
  columns : List Char → Nat
  /-- The numbers of columns that the cells of a table have. -/
  widths : Sheet → List Nat
  /-- Whether there is a picture of a name that stands between two colons. -/
  isPicture : List Char → Bool

/-- No opening bracket of a text begins a mark: none with a mark's first character is closed. -/
def HoldsNoMark (cs : List Char) : Prop :=
  ∀ front c body after, cs = front ++ '[' :: c :: (body ++ ']' :: after) →
    startsMark c = true → '[' ∈ body

/-- A text holds no mark if it has none with something in front. -/
theorem HoldsNoMark.of_append {front cs : List Char} (h : HoldsNoMark (front ++ cs)) :
    HoldsNoMark cs := by
  rintro before c body after rfl
  exact h (front ++ before) c body after (by rw [List.append_assoc])

/-- The same for one character in front. -/
theorem HoldsNoMark.of_cons {c : Char} {cs : List Char} (h : HoldsNoMark (c :: cs)) :
    HoldsNoMark cs := by
  rw [← List.singleton_append] at h
  exact h.of_append

/-- A text without opening brackets holds no mark. -/
theorem holdsNoMark_of_noOpening {cs : List Char} (h : '[' ∉ cs) : HoldsNoMark cs := by
  rintro front c body after rfl
  exact absurd (by simp) h

/-- No backslash of a text stands directly in front of an opening bracket. -/
def EscapesNothing (cs : List Char) : Prop :=
  ∀ front inside, cs ≠ front ++ '\\' :: '[' :: inside

/-- Between no two colons of a text stands the name of a picture. -/
def NamesNoPicture (metrics : Metrics) (cs : List Char) : Prop :=
  ∀ front name back, cs = front ++ ':' :: (name ++ ':' :: back) →
    (∀ c ∈ name, c ≠ ':' ∧ isBlank c = false) → metrics.isPicture name = false

/-- A text without colons names no picture. -/
theorem namesNoPicture_of_noColon {metrics : Metrics} {cs : List Char} (h : ':' ∉ cs) :
    NamesNoPicture metrics cs := by
  rintro front name back rfl -
  exact absurd (by simp) h

/--
Whether a character is shown by itself: it is no tab, none of the control characters that are
left out, no joiner and no mark for pictures.
-/
def isOrdinary (c : Char) : Bool :=
  !(['\x07', '\x08', '\t', '\x0b', '\x0c', '\r', '\u200d', '\ufe0f'].contains c)

/-- A text means itself to a console. -/
structure IsLiteral (metrics : Metrics) (cs : List Char) : Prop where
  /-- No opening bracket begins a mark. -/
  noMark : HoldsNoMark cs
  /-- No backslash is taken away. -/
  noEscape : EscapesNothing cs
  /-- No picture is named. -/
  noPicture : NamesNoPicture metrics cs
  /-- Every character is shown by itself. -/
  ordinary : ∀ c ∈ cs, isOrdinary c = true

/-- Whether a character means itself wherever it stands. -/
def isHarmless (c : Char) : Bool := c != '[' && c != ':' && isOrdinary c

/-- A text of harmless characters means itself. -/
theorem isLiteral_of_isHarmless {metrics : Metrics} {cs : List Char}
    (h : ∀ c ∈ cs, isHarmless c = true) : IsLiteral metrics cs := by
  have hno : ∀ c, isHarmless c = false → c ∉ cs := by
    intro c hc hmem
    rw [h c hmem] at hc
    cases hc
  have hopening : '[' ∉ cs := hno _ (by decide)
  refine ⟨holdsNoMark_of_noOpening hopening, ?_, namesNoPicture_of_noColon (hno _ (by decide)), ?_⟩
  · rintro front inside rfl
    exact absurd (by simp) hopening
  · intro c hc
    have := h c hc
    simp only [isHarmless, Bool.and_eq_true] at this
    exact this.2

/-- A heading: a text that means itself and has neither brackets nor backslashes. -/
structure IsHeading (metrics : Metrics) (cs : List Char) : Prop where
  /-- There is one. -/
  nonempty : cs ≠ []
  /-- It means itself. -/
  literal : IsLiteral metrics cs
  /-- Nothing in it could be part of a mark. -/
  bare : ∀ c ∈ cs, c ≠ '[' ∧ c ≠ '\\'

/-! ## Tables whose texts mean themselves -/

/--
A text fits into a cell: it has no more columns than the cell, or it can be broken between
its words, blanks in front of them included, and no character is wide.
-/
def FitsCell (metrics : Metrics) (width : Nat) (cs : List Char) : Prop :=
  metrics.columns cs ≤ width ∨
    ((∀ c ∈ cs, metrics.columns [c] ≤ 1) ∧
      ∀ gap word, gap ++ word <:+: cs → AllBlank gap → (∀ c ∈ word, isBlank c = false) →
        metrics.columns (gap ++ word) ≤ width)

/-- The texts of the cells of a row. -/
def cellTexts (row : List Words) : List (List Char) := row.map (·.text.toList)

/-- A table can be printed for sure: no text in it holds a mark. -/
structure Sheet.HoldsNoMark (s : Sheet) : Prop where
  /-- Headings and lines are shown. -/
  framed : s.framed = true
  /-- The title holds no mark. -/
  title : Console.HoldsNoMark s.title.toList
  /-- No heading does. -/
  headings : ∀ h ∈ s.headings, Console.HoldsNoMark h.text.toList
  /-- No cell that is read does. -/
  cells : ∀ row ∈ s.rows, ∀ text, .marked text ∈ row → Console.HoldsNoMark text.toList

/-- A table shows its cells: all texts mean themselves and have room. -/
structure Sheet.IsLegible (metrics : Metrics) (s : Sheet) : Prop where
  /-- Headings and lines are shown. -/
  framed : s.framed = true
  /-- The title means itself. -/
  title : IsLiteral metrics s.title.toList
  /-- Headings mean themselves, and cells stand on the left side. -/
  headings : ∀ h ∈ s.headings, IsLiteral metrics h.text.toList ∧ h.side = .left
  /-- Every row has a cell for each column. -/
  whole : ∀ row ∈ s.rows, row.length = s.headings.length
  /-- Cells mean themselves. -/
  cells : ∀ row ∈ s.rows, ∀ text ∈ cellTexts row, IsLiteral metrics text
  /-- Cells fit into their columns. -/
  fits : ∀ row ∈ s.rows, ∀ c ∈ (metrics.widths s).zip (cellTexts row), FitsCell metrics c.1 c.2

/-! ## What is known of a console -/

/-- A console prints what holds no marks, and it shows what means itself. -/
structure Documented (console : Console) (metrics : Metrics) : Prop where
  /-- What is shown as it is can be printed. -/
  prints_plain : ∀ text, ∃ output, console.print (.plain text) = .ok output
  /-- A text without marks can be printed. -/
  prints_marked : ∀ text : String, HoldsNoMark text.toList →
    ∃ output, console.print (.marked text) = .ok output
  /-- So it can behind a red heading. -/
  prints_headed : ∀ heading text : String, IsHeading metrics heading.toList →
    HoldsNoMark text.toList → ∃ output, console.print (.headed heading text) = .ok output
  /-- A table without marks can be printed. -/
  prints_sheet : ∀ s : Sheet, s.HoldsNoMark → ∃ output, console.printSheet s = .ok output
  /-- A text that means itself is shown up to wrapping. -/
  shows_marked : ∀ text : String, IsLiteral metrics text.toList →
    ∃ lines, Wraps text.toList lines ∧
      console.print (.marked text) = .ok (String.ofList (printLines lines))
  /-- Behind a red heading it is shown with the heading. -/
  shows_headed : ∀ heading text : String, IsHeading metrics heading.toList →
    IsLiteral metrics text.toList →
    ∃ lines, Wraps (heading.toList ++ ' ' :: text.toList) lines ∧
      console.print (.headed heading text) = .ok (String.ofList (printLines lines))
  /-- The rows of a table show its cells, one below the other. -/
  shows_sheet : ∀ s : Sheet, s.IsLegible metrics →
    ∃ head rows foot, List.Forall₂ (fun row lines => RowShows lightBar (cellTexts row) lines)
        s.rows rows ∧
      console.printSheet s =
        .ok (String.ofList (printLines (head ++ rows.flatten ++ foot)))

end TypedCommands.Console
