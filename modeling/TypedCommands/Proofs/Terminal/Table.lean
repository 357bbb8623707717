import Mathlib.Data.List.Forall2
import TypedCommands.Proofs.Terminal.Paragraph
import TypedCommands.Proofs.Terminal.Wrapping
import TypedCommands.Terminal.Table

/-!
# Rows of tables

A row of a table shows its cells side by side, each with its lines one below the other.  A
cell whose text fits into its column is shown in full.  In a table that fits into a line as a
whole, every column is as wide as its widest cell.

Main results:

- Theorem `Table.drawCells_spec`: a row of cells that fit shows all of them.
- Theorem `Table.columns_le_of_fullWidths`: in a table that fits, the cells have room.
- Theorem `Table.isSound_of_forall`: a table of sound texts can be printed.
-/

namespace TypedCommands.Terminal

open TypedCommands.Text
open Console (AllBlank ShownAs Wraps rowOf RowShows)

/-! ## Rows -/

/-- Blanks at the ends of lines, and lines of blanks below, make no difference. -/
theorem wraps_pad {cs : List Char} {lines : List (List Char)} (h : Wraps cs lines)
    {fill : List Char → List Char}
    (hfill : ∀ line ∈ lines, ∃ pad, fill line = line ++ pad ∧ AllBlank pad)
    {blankLine : List Char} (hblank : AllBlank blankLine) (n : Nat) :
    Wraps cs (lines.map fill ++ List.replicate n blankLine) := by
  induction h with
  | nil =>
    induction n with
    | zero => exact .nil
    | succ n ih =>
      have hshown : ShownAs [] blankLine := ⟨[], [], blankLine, rfl, rfl, AllBlank.nil, hblank⟩
      exact Wraps.cons hshown ih
  | cons hline _ ih =>
    obtain ⟨⟨pad, hpad, hpadBlank⟩, hrest⟩ := List.forall_mem_cons.1 hfill
    obtain ⟨core, gap, more, rfl, rfl, hgap, hmore⟩ := hline
    rw [List.map_cons, List.cons_append]
    refine .cons ⟨core, gap, more ++ pad, rfl, ?_, hgap, ?_⟩ (ih hrest)
    · rw [hpad, List.append_assoc]
    · exact AllBlank.append_iff.2 ⟨hmore, hpadBlank⟩

/-- Entries that are looked up up to a place, with something else behind the last one. -/
theorem map_getElem?_range {α β : Type} (f : α → β) (other : β) {xs : List α} {n : Nat}
    (h : xs.length ≤ n) :
    (List.range n).map (fun i => (xs[i]?.map f).getD other) =
      xs.map f ++ List.replicate (n - xs.length) other := by
  apply List.ext_getElem?
  intro i
  by_cases hi : i < n
  · rw [List.getElem?_map, List.getElem?_range hi, Option.map_some]
    by_cases hxs : i < xs.length
    · rw [List.getElem?_append_left (by simpa using hxs)]
      simp [hxs]
    · rw [List.getElem?_append_right (by simpa using Nat.le_of_not_lt hxs)]
      have hlt : i - xs.length < n - xs.length := by omega
      simp [hxs, hlt]
  · rw [List.getElem?_eq_none (by simpa using hi), List.getElem?_eq_none]
    simp only [List.length_append, List.length_map, List.length_replicate]
    omega

/-- A greatest number is no less than any of them. -/
theorem le_foldl_max {n m : Nat} {ns : List Nat} (h : n ∈ ns ∨ n ≤ m) : n ≤ ns.foldl max m := by
  induction ns generalizing m with
  | nil => simpa using h
  | cons k ns ih =>
    rw [List.foldl_cons]
    refine ih ?_
    rcases h with h | h
    · rcases List.mem_cons.1 h with rfl | h
      · exact .inr (Nat.le_max_right _ _)
      · exact .inl h
    · exact .inr (Nat.le_trans h (Nat.le_max_left _ _))

/-- What the lines of a cell show in a column. -/
def settledLines (height width : Nat) (lines : List StyledText) : List (List Char) :=
  (List.range height).map fun i => (lines[i]?.map (·.settled width)).getD (blanks width)

/-- The lines of a cell that fit show its text in every row that is high enough. -/
theorem wraps_settledLines {height width : Nat} {text : List Char} {lines : List StyledText}
    (h : Wraps text (lines.map (·.chars)))
    (hfits : ∀ line ∈ lines, Plain line.chars ∧ columns line.chars ≤ width)
    (hheight : lines.length ≤ height) : Wraps text (settledLines height width lines) := by
  have hsettled : lines.map (·.settled width) = (lines.map (·.chars)).map fun cs =>
      cs ++ blanks (width - columns cs) := by
    rw [List.map_map]
    refine List.map_congr_left fun line hline => ?_
    obtain ⟨hplain, hle⟩ := hfits line hline
    have htotal := StyledText.totalColumns_pieces hplain
    rw [StyledText.settled, StyledText.cropped_of_le (htotal ▸ hle), StyledText.croppedPieces,
      if_pos (htotal ▸ hle), htotal]
    rfl
  rw [settledLines, map_getElem?_range _ _ hheight, hsettled]
  exact wraps_pad h (fun cs _ => ⟨_, rfl, allBlank_blanks _⟩) (allBlank_blanks _) _

/-- The lines of a cell fit into its column and show a text. -/
structure CellShows (cell : Nat × List StyledText) (text : List Char) : Prop where
  /-- The lines show the text. -/
  wraps : Wraps text (cell.2.map (·.chars))
  /-- No line has more columns than there are. -/
  fits : ∀ line ∈ cell.2, Plain line.chars ∧ columns line.chars ≤ cell.1

/-- A row of cells whose lines fit shows their texts. -/
theorem rowShows_drawRow (bar : Char) {widths : List Nat} {cells : List (List StyledText)}
    {texts : List (List Char)} (h : List.Forall₂ CellShows (widths.zip cells) texts) :
    RowShows bar texts (drawRow bar widths cells) := by
  refine ⟨(cells.map List.length).foldl max 1, (widths.zip cells).map fun c =>
    settledLines ((cells.map List.length).foldl max 1) c.1 c.2, ?_, ?_, ?_⟩
  · rw [drawRow, rowOf]
    refine List.map_congr_left fun i hi => ?_
    rw [List.map_map]
    refine congrArg _ (List.map_congr_left fun c _ => ?_)
    simp [settledLines, List.mem_range.1 hi]
  · have hheight : ∀ c ∈ widths.zip cells,
        c.2.length ≤ (cells.map List.length).foldl max 1 :=
      fun c hc => le_foldl_max (.inl (List.mem_map_of_mem (List.of_mem_zip hc).2))
    generalize (cells.map List.length).foldl max 1 = height at hheight ⊢
    generalize widths.zip cells = zipped at h hheight ⊢
    induction h with
    | nil => exact .nil
    | cons hcell _ ih =>
      obtain ⟨hle, hrest⟩ := List.forall_mem_cons.1 hheight
      exact .cons (wraps_settledLines hcell.wraps hcell.fits hle) (ih hrest)
  · intro lines hlines
    obtain ⟨c, -, rfl⟩ := List.mem_map.1 hlines
    simp [settledLines]

namespace Table

/-- A row of cells that fit into columns of given widths shows all of them. -/
theorem drawCells_spec {t : Table} (bar : Char) {widths : List Nat} {cells : List StyledText}
    (hleft : ∀ c ∈ t.columns, c.placement = .left) (hwidths : widths.length = t.columns.length)
    (hcells : cells.length = t.columns.length)
    (hplain : ∀ cell ∈ cells, Plain cell.chars ∧ '\t' ∉ cell.chars)
    (hfits : ∀ c ∈ widths.zip cells, FitsCell c.1 c.2.chars) :
    RowShows bar (cells.map (·.chars)) (t.drawCells widths bar cells) := by
  have hlength : widths.length = cells.length := hwidths.trans hcells.symm
  have hplacements : t.columns.map (·.placement) =
      (widths.zip cells).map fun _ => Placement.left := by
    rw [List.map_const', List.length_zip, hwidths, hcells, Nat.min_self, List.eq_replicate_iff]
    refine ⟨List.length_map _, fun placement h => ?_⟩
    obtain ⟨c, hc, rfl⟩ := List.mem_map.1 h
    exact hleft c hc
  have hlines : t.cellLines widths cells =
      (widths.zip cells).map fun c => layOut .left .ellipsis c.1 c.2 := by
    conv_lhs => rw [cellLines, hplacements, ← List.map_id (widths.zip cells)]
    rw [List.map_map, List.zip_map', List.map_map]
    rfl
  have hzip : widths.zip (t.cellLines widths cells) =
      (widths.zip cells).map fun c => (c.1, layOut .left .ellipsis c.1 c.2) := by
    rw [hlines]
    conv_lhs => arg 1; rw [← List.map_fst_zip (Nat.le_of_eq hlength)]
    rw [List.zip_map']
  have htexts : cells.map (·.chars) = (widths.zip cells).map (·.2.chars) := by
    conv_lhs => rw [← List.map_snd_zip (Nat.le_of_eq hlength.symm)]
    rw [List.map_map]
    rfl
  rw [drawCells, htexts]
  apply rowShows_drawRow
  rw [hzip, List.forall₂_map_left_iff, List.forall₂_map_right_iff, List.forall₂_same]
  intro c hc
  obtain ⟨hcell, htab⟩ := hplain c.2 (List.of_mem_zip hc).2
  obtain ⟨hwraps, hlinesFit⟩ := wraps_layOut_cell hcell htab (hfits c hc)
  exact ⟨hwraps, hlinesFit⟩

/-! ## Tables that fit into a line -/

/-- The total is no less than any of the widths. -/
theorem le_totalOf_of_mem {width : Nat} {widths : List Nat} (h : width ∈ widths) :
    width ≤ totalOf widths := by
  rw [totalOf, ← List.sum_eq_foldl_nat]
  induction widths with
  | nil => cases h
  | cons w rest ih =>
    rw [List.sum_cons]
    rcases List.mem_cons.1 h with rfl | h
    · exact Nat.le_add_right _ _
    · exact Nat.le_trans (ih h) (Nat.le_add_left _ _)

/-- Columns that fit into a line with a blank on both sides are not made narrower. -/
theorem widths_eq_fullWidths {t : Table}
    (h : totalOf (t.fullWidths.map (· + 2)) ≤ t.available) : t.widths = t.fullWidths := by
  have hpadded : (t.fullWidths.map fun width => min (width + 2) t.available) =
      t.fullWidths.map (· + 2) := by
    refine List.map_congr_left fun width hwidth => Nat.min_eq_left ?_
    have hmem : width + 2 ∈ t.fullWidths.map (· + 2) := List.mem_map.2 ⟨width, hwidth, rfl⟩
    exact Nat.le_trans (le_totalOf_of_mem hmem) h
  rw [widths, hpadded, narrow_of_le h, List.map_map]
  simp [Function.comp_def]

/-- A text on one line is measured by its columns. -/
theorem measure_eq_columns {t : StyledText}
    (h : ∀ c ∈ t.chars, endsMeasuredLine c = false) : measure t = Terminal.columns t.chars := by
  have hone : t.chars.splitOnP endsMeasuredLine = [t.chars] := List.splitOnP_eq_singleton h
  rw [measure, hone]
  simp

/-- In a table that fits into a line, every cell without line ends has room. -/
theorem columns_le_of_fullWidths {t : Table}
    (h : totalOf (t.fullWidths.map (· + 2)) ≤ t.available) {row : List StyledText}
    (hrow : row ∈ t.rows) {c : Nat × StyledText} (hc : c ∈ t.widths.zip row)
    (hends : ∀ d ∈ c.2.chars, endsMeasuredLine d = false) : Terminal.columns c.2.chars ≤ c.1 := by
  rw [widths_eq_fullWidths h] at hc
  obtain ⟨i, hi, rfl⟩ := List.mem_iff_getElem.1 hc
  rw [List.length_zip] at hi
  have hrowLength : i < row.length := by omega
  rw [List.getElem_zip] at hends ⊢
  rw [← measure_eq_columns hends]
  simp only [fullWidths, List.getElem_map, List.getElem_range]
  refine le_foldl_max (.inl (List.mem_map.2 ⟨row, List.mem_cons_of_mem _ hrow, ?_⟩))
  rw [List.getElem?_eq_getElem hrowLength]
  rfl

/-- A table can be printed if none of its texts has a style that cannot be made out. -/
theorem isSound_of_forall {t : Table} (htitle : ∀ text ∈ t.title, text.isSound = true)
    (hcells : ∀ row ∈ t.headings :: t.rows, ∀ cell ∈ row, cell.isSound = true) :
    t.isSound = true := by
  simp only [isSound, Bool.and_eq_true, List.all_eq_true]
  constructor
  · intro line hline
    simp only [titleLines] at hline
    split at hline
    · cases hline
    · next title hsome => exact isSound_layOut (htitle title hsome) _ _ _ line hline
  · intro row hrow lines hlines line hline
    obtain ⟨cell, hcell, rfl⟩ := List.mem_map.1 hlines
    have hmem := (List.of_mem_zip (List.of_mem_zip hcell).2).2
    exact isSound_layOut (hcells row hrow _ hmem) _ _ _ line hline

end Table

end TypedCommands.Terminal
