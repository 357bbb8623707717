import TypedCommands.Proofs.Terminal.Table
import TypedCommands.Proofs.Terminal.Verbatim

/-!
# What a terminal shows

A terminal behaves as consoles are known to: it prints all texts and tables without marks, and
of those that mean themselves it shows every text, up to wrapping.

Main results:

- Theorem `documented_console`: what is known of consoles holds of a terminal.
- Theorem `fits_of_fullWidths`: in a table that fits into a line, every text that means
  itself has room.
-/

namespace TypedCommands.Terminal

open TypedCommands.Text
open Console (AllBlank HoldsNoMark IsHeading IsLiteral RowShows Sheet Words Wraps cellTexts
  isOrdinary lightBar printLines)

/-! ## Texts -/

/-- Words without styles that cannot be made out are printed as they are read. -/
theorem print_eq_ok {w : Words} {t : StyledText} (hread : readWords w = .ok t)
    (hsound : t.isSound = true) : console.print w = .ok (String.ofList (paragraph t)) := by
  have hlines : (paragraphLines t).all (·.isSound) = true :=
    List.all_eq_true.2 (isSound_layOut hsound _ _ _)
  change printWords w = _
  rw [printWords, hread]
  simp only [hlines, ifSound, if_true]

/-- Words with marks that make no sense are not printed. -/
theorem print_eq_error {w : Words} {fault : Markup.Fault} (hread : readWords w = .error fault) :
    console.print w = .error fault.exception := by
  change printWords w = _
  rw [printWords, hread]

/-- Words that are read as text without styles and mean themselves are shown. -/
theorem exists_wraps_print {w : Words} {t : StyledText} (hread : readWords w = .ok t)
    (hsound : t.isSound = true) (hordinary : ∀ c ∈ t.chars, isOrdinary c = true) :
    ∃ lines, Wraps t.chars lines ∧ console.print w = .ok (String.ofList (printLines lines)) := by
  obtain ⟨lines, hwraps, hprinted⟩ :=
    exists_wraps_paragraph (plain_of_isOrdinary hordinary) (noTab_of_isOrdinary hordinary)
  exact ⟨lines, hwraps, by rw [print_eq_ok hread hsound, hprinted]⟩

/-- A heading is left alone when it is read. -/
theorem untouched_of_isHeading {cs : List Char} (h : IsHeading metrics cs) :
    Markup.Untouched cs :=
  ⟨h.nonempty, h.bare, visible_replacePictures h.literal⟩

/-- Words behind a heading are read as they are by themselves. -/
theorem readWords_headed {heading : String} (h : IsHeading metrics heading.toList)
    (text : String) :
    readWords (.headed heading text) =
      (Markup.read text.toList).map ((Markup.headingText heading.toList).append ·) := by
  simpa only [readWords, Words.headed, String.toList_append] using
    Markup.read_headed (untouched_of_isHeading h) text.toList

/-! ## Tables -/

variable {s : Sheet}

/-- Words without marks are read as plain text. -/
theorem readWords_of_holdsNoMark {w : Words}
    (h : ∀ text, w = .marked text → HoldsNoMark text.toList) :
    ∃ cs, readWords w = .ok (.ofChars cs) := by
  cases w with
  | marked text => exact ⟨_, Markup.read_of_holdsNoMark (h text rfl)⟩
  | plain text => exact ⟨_, rfl⟩

/-- So they have no fault, and no style that cannot be made out. -/
theorem wordsFault?_of_holdsNoMark {w : Words}
    (h : ∀ text, w = .marked text → HoldsNoMark text.toList) :
    wordsFault? w = none ∧ (readOr w).isSound = true := by
  obtain ⟨cs, hread⟩ := readWords_of_holdsNoMark h
  exact ⟨by rw [wordsFault?, hread], by rw [readOr, hread]; rfl⟩

/-- A table without marks can be read and printed. -/
theorem sheetFaults_of_holdsNoMark (h : s.HoldsNoMark) :
    sheetFaults s = [] ∧ (tableOf s).isSound = true := by
  have hmarked : ∀ {text : String}, HoldsNoMark text.toList →
      ∀ other, Words.marked text = .marked other → HoldsNoMark other.toList := by
    rintro text htext other heq
    cases heq
    exact htext
  have hcell : ∀ row ∈ (s.headings.map fun h => Words.marked h.text) :: s.rows, ∀ w ∈ row,
      wordsFault? w = none ∧ (readOr w).isSound = true := by
    intro row hrow w hw
    refine wordsFault?_of_holdsNoMark ?_
    rcases List.mem_cons.1 hrow with rfl | hrow
    · obtain ⟨heading, hheading, rfl⟩ := List.mem_map.1 hw
      exact hmarked (h.headings heading hheading)
    · rintro text rfl
      exact h.cells row hrow text hw
  obtain ⟨htitle, htitleSound⟩ := wordsFault?_of_holdsNoMark (hmarked h.title)
  constructor
  · simp only [sheetFaults, htitle, Option.toList_none, List.append_nil,
      List.flatMap_eq_nil_iff, List.filterMap_eq_nil_iff]
    intro i _ row hrow
    cases hw : row[i]? with
    | none => rfl
    | some w => exact (hcell row hrow w (List.mem_of_getElem? hw)).1
  · refine Table.isSound_of_forall ?_ ?_
    · intro text htext
      simp only [tableOf] at htext
      split at htext
      · cases htext
      · cases htext
        exact htitleSound
    · intro row hrow cell hmem
      rcases List.mem_cons.1 hrow with rfl | hrow
      · obtain ⟨column, hcolumn, rfl⟩ := List.mem_map.1 hmem
        obtain ⟨heading, hheading, rfl⟩ := List.mem_map.1 hcolumn
        exact (hcell _ List.mem_cons_self _ (List.mem_map_of_mem hheading)).2
      · obtain ⟨words, hwords, rfl⟩ := List.mem_map.1 hrow
        obtain ⟨w, hw, rfl⟩ := List.mem_map.1 hmem
        exact (hcell words (List.mem_cons_of_mem _ hwords) w hw).2

/-- A table with lines around its cells is printed as it is drawn. -/
theorem printTable_of_holdsNoMark (h : s.HoldsNoMark) :
    printTable s = .ok (String.ofList (tableOf s).draw) := by
  obtain ⟨hfaults, hsound⟩ := sheetFaults_of_holdsNoMark h
  simp [printTable, hfaults, hsound, ifSound, h.framed]

/-- Every word stands between a gap and blanks. -/
theorem exists_core_of_mem_words {fuel : Nat} {cs word : List Char} (h : word ∈ words fuel cs) :
    ∃ gap core back, word = gap ++ core ++ back ∧ AllBlank gap ∧
      (∀ c ∈ core, isBlank c = false) ∧ AllBlank back := by
  induction fuel generalizing cs with
  | zero => cases h
  | succ fuel ih =>
    simp only [words] at h
    split at h
    · cases h
    · rcases List.mem_cons.1 h with rfl | h
      · refine ⟨_, _, _, rfl, List.all_eq_true.1 List.all_takeWhile, ?_,
          List.all_eq_true.1 List.all_takeWhile⟩
        intro c hc
        simpa using List.all_eq_true.1 List.all_takeWhile c hc
      · exact ih h

/-- What fits into a cell by the measures of a terminal is shown in one. -/
theorem fitsCell_of_metrics {width : Nat} {cs : List Char} (hplain : Plain cs)
    (h : Console.FitsCell metrics width cs) : FitsCell width cs := by
  rcases h with hwhole | ⟨hnarrow, hwords⟩
  · exact .inl hwhole
  · refine .inr ⟨?_, ?_⟩
    · intro c hc
      have hsingle : Plain [c] := hplain.of_subset (by simpa using hc)
      simpa [metrics, columns_eq_sum hsingle] using hnarrow c hc
    · intro word hword
      obtain ⟨line, -, hmem⟩ := List.mem_flatMap.1 hword
      obtain ⟨gap, core, back, rfl, hgap, hcore, hback⟩ := exists_core_of_mem_words hmem
      have hpart : gap ++ core <:+: cs :=
        (List.prefix_append _ _).isInfix.trans (infix_of_mem_allWords hword)
      rw [trimEnd_append_of_allBlank _ hback]
      obtain ⟨pad, hsplit, -⟩ := exists_trimEnd (gap ++ core)
      have htrim : trimEnd (gap ++ core) <:+: gap ++ core := ⟨[], pad, hsplit.symm⟩
      exact Nat.le_trans (columns_le_of_part (hplain.of_subset hpart.subset) htrim)
        (hwords gap core hpart hgap hcore)

/-- A legible table holds no marks. -/
theorem holdsNoMark_of_isLegible (h : s.IsLegible metrics) : s.HoldsNoMark where
  framed := h.framed
  title := h.title.noMark
  headings heading hheading := (h.headings heading hheading).1.noMark
  cells row hrow text htext :=
    (h.cells row hrow text.toList (List.mem_map_of_mem htext)).noMark

/-- Words that mean themselves are read as they are. -/
theorem readOr_of_isLiteral {w : Words} (h : IsLiteral metrics w.text.toList) :
    readOr w = ⟨w.text.toList, []⟩ := by
  cases w with
  | marked text =>
    have hread : readWords (.marked text) = .ok ⟨text.toList, []⟩ := read_of_isLiteral h
    rw [readOr, hread]
    rfl
  | plain text =>
    have hsame : visible text.toList = text.toList := visible_of_isOrdinary h.ordinary
    have hread : readWords (.plain text) = .ok ⟨text.toList, []⟩ := by
      rw [readWords, StyledText.ofChars, hsame]
    rw [readOr, hread]
    rfl

/-- A row of a table that means itself shows its cells. -/
theorem rowShows_of_isLegible (h : s.IsLegible metrics) {row : List Words} (hrow : row ∈ s.rows) :
    RowShows lightBar (cellTexts row)
      ((tableOf s).drawCells (tableOf s).widths lightBar (row.map readOr)) := by
  have hliteral : ∀ w ∈ row, IsLiteral metrics w.text.toList :=
    fun w hw => h.cells row hrow _ (List.mem_map_of_mem hw)
  have hread : row.map readOr = row.map fun w => ⟨w.text.toList, []⟩ :=
    List.map_congr_left fun w hw => readOr_of_isLiteral (hliteral w hw)
  have hcount : (tableOf s).columns.length = s.headings.length := List.length_map _
  have htexts : (row.map readOr).map (·.chars) = cellTexts row := by
    rw [hread, List.map_map]
    rfl
  have hleft : ∀ c ∈ (tableOf s).columns, c.placement = .left := by
    intro c hc
    obtain ⟨heading, hheading, rfl⟩ := List.mem_map.1 hc
    simp [(h.headings heading hheading).2, placementOf]
  have hwidths : (tableOf s).widths.length = (tableOf s).columns.length := by
    simp [Table.widths, length_narrow, Table.fullWidths]
  have hcells : (row.map readOr).length = (tableOf s).columns.length := by
    rw [List.length_map, hcount, h.whole row hrow]
  have hplain : ∀ cell ∈ row.map readOr, Plain cell.chars ∧ '\t' ∉ cell.chars := by
    intro cell hcell
    rw [hread] at hcell
    obtain ⟨w, hw, rfl⟩ := List.mem_map.1 hcell
    exact ⟨plain_of_isOrdinary (hliteral w hw).ordinary,
      noTab_of_isOrdinary (hliteral w hw).ordinary⟩
  have hfits : ∀ c ∈ (tableOf s).widths.zip (row.map readOr), FitsCell c.1 c.2.chars := by
    intro c hc
    have hmem : (c.1, c.2.chars) ∈ (tableOf s).widths.zip (cellTexts row) := by
      rw [← htexts, List.zip_map_right]
      exact List.mem_map.2 ⟨c, hc, rfl⟩
    exact fitsCell_of_metrics (hplain _ (List.of_mem_zip hc).2).1 (h.fits row hrow _ hmem)
  have hdraw := Table.drawCells_spec lightBar hleft hwidths hcells hplain hfits
  rwa [htexts] at hdraw

/-! ## The console -/

/-- What is known of consoles holds of a terminal. -/
theorem documented_console : console.Documented metrics where
  prints_plain text := ⟨_, print_eq_ok (w := .plain text) rfl (StyledText.isSound_ofChars _)⟩
  prints_marked text h :=
    ⟨_, print_eq_ok (w := .marked text) (Markup.read_of_holdsNoMark h)
      (StyledText.isSound_ofChars _)⟩
  prints_headed heading text hheading h := by
    have hread := readWords_headed hheading text
    rw [Markup.read_of_holdsNoMark h] at hread
    exact ⟨_, print_eq_ok hread
      (StyledText.isSound_append rfl (StyledText.isSound_ofChars _))⟩
  prints_sheet s h := ⟨_, printTable_of_holdsNoMark h⟩
  shows_marked text h :=
    exists_wraps_print (w := .marked text) (read_of_isLiteral h) rfl h.ordinary
  shows_headed heading text hheading h := by
    have hread := readWords_headed hheading text
    rw [read_of_isLiteral h] at hread
    have hchars : ((Markup.headingText heading.toList).append ⟨text.toList, []⟩).chars =
        heading.toList ++ ' ' :: text.toList := by
      simp [Markup.headingText, StyledText.append]
    obtain ⟨lines, hwraps, hprinted⟩ := exists_wraps_print hread
      (StyledText.isSound_append rfl rfl) (by
        rw [hchars]
        refine List.forall_mem_append.2 ⟨hheading.literal.ordinary, ?_⟩
        exact List.forall_mem_cons.2 ⟨by decide, h.ordinary⟩)
    exact ⟨lines, hchars ▸ hwraps, hprinted⟩
  shows_sheet s h := by
    refine ⟨(tableOf s).titleLines.map (·.cropped lineWidth) ++
      [topRule.draw (tableOf s).widths] ++
      (tableOf s).drawCells (tableOf s).widths heavyBar (tableOf s).headings ++
      [headingRule.draw (tableOf s).widths],
      s.rows.map fun row => (tableOf s).drawCells (tableOf s).widths lightBar (row.map readOr),
      [bottomRule.draw (tableOf s).widths], ?_, ?_⟩
    · rw [List.forall₂_map_right_iff, List.forall₂_same]
      exact fun row hrow => rowShows_of_isLegible h hrow
    · have hdraw : (tableOf s).draw = printLines (tableOf s).lines := rfl
      have hrows : (tableOf s).rows = s.rows.map fun row => row.map readOr := rfl
      have hprinted := printTable_of_holdsNoMark (holdsNoMark_of_isLegible h)
      rw [hdraw, Table.lines, hrows, List.flatMap_map, List.flatMap_def] at hprinted
      exact hprinted

/-- In a table that fits into a line, every text without line ends has room. -/
theorem fits_of_fullWidths (hcells : ∀ row ∈ s.rows, ∀ text ∈ cellTexts row,
      IsLiteral metrics text ∧ ∀ c ∈ text, endsMeasuredLine c = false)
    (hroom : totalOf ((tableOf s).fullWidths.map (· + 2)) ≤ (tableOf s).available) :
    ∀ row ∈ s.rows, ∀ c ∈ (metrics.widths s).zip (cellTexts row),
      Console.FitsCell metrics c.1 c.2 := by
  intro row hrow c hc
  have hread : row.map readOr = (cellTexts row).map fun text => ⟨text, []⟩ := by
    rw [cellTexts, List.map_map]
    exact List.map_congr_left fun w hw =>
      readOr_of_isLiteral (hcells row hrow _ (List.mem_map_of_mem hw)).1
  have hmem : (c.1, (⟨c.2, []⟩ : StyledText)) ∈ (tableOf s).widths.zip (row.map readOr) := by
    rw [hread, List.zip_map_right]
    exact List.mem_map.2 ⟨c, hc, rfl⟩
  exact .inl (Table.columns_le_of_fullWidths hroom (List.mem_map_of_mem hrow) hmem
    (hcells row hrow c.2 (List.of_mem_zip hc).2).2)

end TypedCommands.Terminal
