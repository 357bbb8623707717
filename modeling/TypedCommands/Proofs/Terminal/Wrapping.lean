import TypedCommands.Proofs.Console
import TypedCommands.Proofs.Terminal.Columns
import TypedCommands.Terminal.Paragraph

/-!
# Wrapping

A plain text without tabs that is laid out in lines is shown in full.  It is broken between
words, and inside words only if they do not fit into a line; blanks at the ends of lines
may come and go, and that is all.  In columns that cut what is too long, this holds for
texts whose words fit, as far as no line that is full has blanks behind it that take the
place of wide characters.

Main results:

- Theorem `Filling.add_spec` and theorem `fillLines_spec`: what adding a word keeps, and what
  filling lines with words keeps.
- Theorem `layOut_spec`: lines show a text if every one of them is shown.
- Theorem `wraps_paragraphLines`: a paragraph shows its text.
- Theorem `wraps_layOut_cell`: so does a cell, if its text fits.
-/

namespace TypedCommands.Terminal

open TypedCommands.Text
open Console (AllBlank ShownAs Wraps printLines)

/-! ## Lines that show a text -/

theorem allBlank_blanks (n : Nat) : AllBlank (blanks n) := fun _ h => isBlank_of_mem_blanks h

/-- Lines that are shown one by one show the text that they make up. -/
theorem wraps_of_forall {ts : List StyledText} {finish : StyledText → StyledText}
    (h : ∀ t ∈ ts, ShownAs t.chars (finish t).chars) :
    Wraps (ts.map (·.chars)).flatten ((ts.map finish).map (·.chars)) := by
  induction ts with
  | nil => exact .nil
  | cons t ts ih =>
    obtain ⟨ht, hts⟩ := List.forall_mem_cons.1 h
    exact .cons ht (ih hts)

/-- Texts with line feeds between them are shown one behind the other. -/
theorem wraps_of_intercalate {ts : List StyledText} {layOut : StyledText → List StyledText}
    (h : ∀ t ∈ ts, Wraps t.chars ((layOut t).map (·.chars)) ∧ layOut t ≠ []) :
    Wraps (['\n'].intercalate (ts.map (·.chars))) ((ts.flatMap layOut).map (·.chars)) := by
  have hfeed : AllBlank ['\n'] := by
    intro c hc
    rw [List.mem_singleton.1 hc]
    decide
  induction ts with
  | nil => exact .nil
  | cons t ts ih =>
    obtain ⟨⟨ht, hne⟩, hts⟩ := List.forall_mem_cons.1 h
    rw [List.flatMap_cons, List.map_append]
    cases ts with
    | nil => simpa using ht
    | cons u us =>
      rw [List.map_cons, List.intercalate_cons_of_ne_nil (by simp)]
      exact (ht.append_blanks (by simpa using hne) hfeed).append (ih hts)

/-! ## Characters of parts -/

namespace StyledText

theorem chars_replace (t : StyledText) (cs : List Char) : (t.replace cs).chars = cs := by
  rw [replace]
  split <;> rfl

theorem chars_take (t : StyledText) (n : Nat) : (t.take n).chars = t.chars.take n := by
  rw [take]
  split
  · next h => exact (List.take_of_length_le h).symm
  · rfl

/-- The slices between separators are the parts between them. -/
theorem map_chars_slicesFrom (spans : List Span) (separator : List Char)
    (parts : List (List Char)) (start : Nat) :
    (slicesFrom spans separator.length start (separator.intercalate parts)
      (parts.map List.length)).map (·.chars) = parts := by
  induction parts generalizing start with
  | nil => rfl
  | cons part parts ih =>
    cases parts with
    | nil => simp [slicesFrom]
    | cons next more =>
      have hjoined : separator.intercalate (part :: next :: more) =
          part ++ separator ++ separator.intercalate (next :: more) :=
        List.intercalate_cons_of_ne_nil (by simp)
      rw [List.map_cons, slicesFrom, List.map_cons, hjoined, List.drop_left' (by simp), ih,
        List.append_assoc, List.take_left]

/-- The slices of a text that is made of parts are the parts. -/
theorem map_chars_divide {t : StyledText} {separator : List Char} {parts : List (List Char)}
    (hne : parts ≠ []) (h : t.chars = separator.intercalate parts) :
    (t.divide separator.length (parts.map List.length)).map (·.chars) = parts := by
  rw [divide]
  split
  · next hlength =>
    rw [List.length_map] at hlength
    match parts, hne with
    | [part], _ => simpa using h
    | _ :: _ :: _, _ => simp at hlength
  · rw [h]
    exact map_chars_slicesFrom _ _ _ _

/-- Pieces of a plain text have the columns of the whole. -/
theorem totalColumns_pieces {t : StyledText} (h : Plain t.chars) :
    totalColumns t.pieces = Terminal.columns t.chars := by
  have hsum : ∀ ps : List (List Char), Plain ps.flatten →
      (ps.map Terminal.columns).sum = Terminal.columns ps.flatten := by
    intro ps hps
    induction ps with
    | nil => rfl
    | cons p ps ih =>
      obtain ⟨hp, hrest⟩ := Plain.append_iff.1 (List.flatten_cons ▸ hps)
      rw [List.map_cons, List.sum_cons, List.flatten_cons, columns_append hp hrest, ih hrest]
  have hpieces : Plain t.pieces.flatten := by
    rw [flatten_pieces]
    exact h
  rw [totalColumns, ← List.sum_eq_foldl_nat, hsum _ hpieces, flatten_pieces]

end StyledText

theorem expandTabs_of_noTab {t : StyledText} (h : '\t' ∉ t.chars) : expandTabs t = t := by
  rw [expandTabs, List.splitOn_eq_singleton h]
  simp [tabbedLengths, StyledText.divide, joinAtStops]

/-! ## Lines that fit -/

/-- A line fits into a number of columns without the blanks at its end. -/
def FitsIn (width : Nat) (line : List Char) : Prop :=
  ∃ core pad, line = core ++ pad ∧ AllBlank pad ∧ columns core ≤ width

theorem FitsIn.of_columns_le {width : Nat} {line : List Char} (h : columns line ≤ width) :
    FitsIn width line :=
  ⟨line, [], (List.append_nil line).symm, AllBlank.nil, h⟩

/-- A text is what is left of it without the blanks at its end, and these blanks. -/
theorem exists_trimEnd (cs : List Char) : ∃ pad, cs = trimEnd cs ++ pad ∧ AllBlank pad := by
  refine ⟨(cs.reverse.takeWhile isBlank).reverse, ?_, ?_⟩
  · rw [trimEnd, ← List.reverse_append, List.takeWhile_append_dropWhile, List.reverse_reverse]
  · intro c hc
    exact List.all_eq_true.1 List.all_takeWhile c (List.mem_reverse.1 hc)

theorem trimEnd_append_of_allBlank (cs : List Char) {pad : List Char} (h : AllBlank pad) :
    trimEnd (cs ++ pad) = trimEnd cs := by
  have hpad : ∀ c ∈ pad.reverse, isBlank c = true := fun c hc => h c (List.mem_reverse.1 hc)
  rw [trimEnd, List.reverse_append, List.dropWhile_append_of_pos hpad, trimEnd]

/-- A line that fits has few enough columns without the blanks at its end. -/
theorem FitsIn.columns_trimEnd_le {width : Nat} {line : List Char} (hplain : Plain line)
    (h : FitsIn width line) : columns (trimEnd line) ≤ width := by
  obtain ⟨core, pad, rfl, hpad, hfits⟩ := h
  obtain ⟨inner, hcore, -⟩ := exists_trimEnd core
  rw [trimEnd_append_of_allBlank core hpad]
  have hsplit : Plain (trimEnd core) ∧ Plain inner := by
    rw [← Plain.append_iff, ← hcore]
    exact (Plain.append_iff.1 hplain).1
  rw [hcore, columns_append hsplit.1 hsplit.2] at hfits
  omega

/-! ## Filling lines -/

namespace Filling

/-- The text of all lines. -/
def text (f : Filling) : List Char := f.full.flatten ++ f.line

/-- Lines that are being filled fit. -/
structure Fits (width : Nat) (f : Filling) : Prop where
  /-- The columns of the last line are known. -/
  used_eq : columns f.line = f.used
  /-- Before anything was added there is nothing. -/
  unstarted : f.started = false → f.full = [] ∧ f.line = []
  /-- All lines fit. -/
  lines : ∀ line ∈ f.full ++ [f.line], FitsIn width line
  /-- All lines are plain. -/
  plain : Plain f.text

variable {width : Nat} {f : Filling}

/-- Before anything is written everything fits. -/
theorem fits_empty (width : Nat) : Fits width {} where
  used_eq := rfl
  unstarted := fun _ => ⟨rfl, rfl⟩
  lines := by
    intro line hline
    obtain rfl : line = [] := by simpa using hline
    exact .of_columns_le (Nat.zero_le _)
  plain := Plain.nil

/-- A piece that fits starts a line of its own. -/
theorem startLine_spec (h : f.Fits width) {cs : List Char} (hplain : Plain cs)
    (hcs : FitsIn width cs) :
    (f.startLine cs).Fits width ∧ (f.startLine cs).text = f.text ++ cs := by
  rw [startLine]
  split
  · have htext : text ⟨f.full ++ [f.line], cs, columns cs, true⟩ = f.text ++ cs := by
      simp [text]
    refine ⟨⟨rfl, by simp, ?_, ?_⟩, htext⟩
    · intro line hline
      rcases List.mem_append.1 hline with hline | hline
      · exact h.lines line hline
      · rw [List.mem_singleton.1 hline]
        exact hcs
    · rw [htext]
      exact Plain.append_iff.2 ⟨h.plain, hplain⟩
  · next hstarted =>
    obtain ⟨hfull, hline⟩ := h.unstarted (by simpa using hstarted)
    have htext : text ⟨f.full, f.line ++ cs, columns cs, !cs.isEmpty⟩ = f.text ++ cs := by
      simp [text]
    refine ⟨⟨by simp [hline], ?_, ?_, ?_⟩, htext⟩
    · intro hempty
      have hcs' : cs = [] := by simpa using hempty
      exact ⟨hfull, by simp [hline, hcs']⟩
    · intro line hmem
      obtain rfl : line = cs := by simpa [hfull, hline] using hmem
      exact hcs
    · rw [htext]
      exact Plain.append_iff.2 ⟨h.plain, hplain⟩

/-- Pieces that fit start lines of their own. -/
theorem foldl_startLine_spec (h : f.Fits width) {pieces : List (List Char)}
    (hplain : Plain pieces.flatten) (hpieces : ∀ piece ∈ pieces, columns piece ≤ width) :
    (pieces.foldl startLine f).Fits width ∧
      (pieces.foldl startLine f).text = f.text ++ pieces.flatten := by
  induction pieces generalizing f with
  | nil => exact ⟨h, by simp⟩
  | cons piece pieces ih =>
    obtain ⟨hpiece, hrest⟩ := List.forall_mem_cons.1 hpieces
    obtain ⟨hplain, hplainRest⟩ := Plain.append_iff.1 (List.flatten_cons ▸ hplain)
    obtain ⟨hstep, htext⟩ := startLine_spec h hplain (.of_columns_le hpiece)
    obtain ⟨hrun, hwhole⟩ := ih hstep hplainRest hrest
    rw [List.foldl_cons, hwhole, htext, List.append_assoc, List.flatten_cons]
    exact ⟨hrun, rfl⟩

/-- What a word is added to goes on to fit, and the word is added to the text. -/
theorem add_spec {overflow : Overflow} (h : f.Fits width) {word : List Char}
    (hplain : Plain word)
    (hword : (overflow = .fold ∧ 2 ≤ width) ∨ columns (trimEnd word) ≤ width) :
    (f.add overflow width word).Fits width ∧
      (f.add overflow width word).text = f.text ++ word := by
  obtain ⟨pad, hsplit, hpad⟩ := exists_trimEnd word
  have hparts : Plain (trimEnd word) ∧ Plain pad := by
    rw [← Plain.append_iff, ← hsplit]
    exact hplain
  have hline : Plain f.line := (Plain.append_iff.1 h.plain).2
  rw [add.eq_def]
  dsimp only
  split
  · next hroom =>
    have htext : text ⟨f.full, f.line ++ word, f.used + columns word, true⟩ =
        f.text ++ word := by
      simp [text]
    refine ⟨⟨?_, by simp, ?_, ?_⟩, htext⟩
    · rw [columns_append hline hplain, h.used_eq]
    · intro line hmem
      rcases List.mem_append.1 hmem with hmem | hmem
      · exact h.lines line (List.mem_append_left _ hmem)
      · rw [List.mem_singleton.1 hmem]
        refine ⟨f.line ++ trimEnd word, pad, ?_, hpad, ?_⟩
        · rw [List.append_assoc, ← hsplit]
        · rw [columns_append hline hparts.1, h.used_eq]
          exact hroom
    · rw [htext]
      exact Plain.append_iff.2 ⟨h.plain, hplain⟩
  · next hroom =>
    split
    · next hlong =>
      -- A word that does not fit is folded, since it would have to fit otherwise.
      have hfold : overflow = .fold ∧ 2 ≤ width := by
        rcases hword with hword | hword
        · exact hword
        · omega
      obtain ⟨rfl, hwidth⟩ := hfold
      have hpos : 0 < columns word := by
        rw [hsplit, columns_append hparts.1 hparts.2]
        omega
      have hflatten := flatten_chop hwidth hplain hpos
      have hspec := foldl_startLine_spec h (hflatten.symm ▸ hplain)
        fun piece hpiece => columns_of_mem_chop hwidth hplain hpiece
      rw [hflatten] at hspec
      exact hspec
    · next hshort =>
      split
      · exact startLine_spec h hplain ⟨trimEnd word, pad, hsplit, hpad, by omega⟩
      · next hempty => omega

end Filling

/-- Lines that are filled with words make up the text of the words, and all of them fit. -/
theorem fillLines_spec {overflow : Overflow} {width : Nat} {ws : List (List Char)}
    (hplain : Plain ws.flatten)
    (hws : (overflow = .fold ∧ 2 ≤ width) ∨ ∀ word ∈ ws, columns (trimEnd word) ≤ width) :
    (fillLines overflow width ws).flatten = ws.flatten ∧
      ∀ line ∈ fillLines overflow width ws, FitsIn width line := by
  have hrun : ∀ f : Filling, f.Fits width →
      (ws.foldl (Filling.add overflow width) f).Fits width ∧
        (ws.foldl (Filling.add overflow width) f).text = f.text ++ ws.flatten := by
    induction ws with
    | nil => exact fun f hf => ⟨hf, by simp⟩
    | cons word ws ih =>
      intro f hf
      obtain ⟨hword, hrest⟩ := Plain.append_iff.1 (List.flatten_cons ▸ hplain)
      obtain ⟨hstep, htext⟩ := Filling.add_spec hf hword
        (hws.imp_right fun h => h word List.mem_cons_self)
      obtain ⟨hmore, hwhole⟩ := ih hrest
        (hws.imp_right fun h other hother => h other (List.mem_cons_of_mem _ hother)) _ hstep
      rw [List.foldl_cons, hwhole, htext, List.append_assoc, List.flatten_cons]
      exact ⟨hmore, rfl⟩
  obtain ⟨hfits, htext⟩ := hrun {} (Filling.fits_empty width)
  refine ⟨?_, hfits.lines⟩
  rw [fillLines, List.flatten_append, List.flatten_singleton]
  exact htext

/-! ## Lines as they are finished -/

/-- A line as it is laid out at last. -/
def finishLine (placement : Placement) (overflow : Overflow) (width : Nat) (t : StyledText) :
    StyledText :=
  truncate overflow width (place placement overflow width (trimExcess width t))

/-- A finished line shows the line, and it has no more columns than there are. -/
structure Finishes (width : Nat) (line shown : List Char) : Prop where
  /-- Nothing but blanks at the end comes or goes. -/
  shownAs : ShownAs line shown
  /-- What is shown is plain. -/
  plain : Plain shown
  /-- What is shown fits. -/
  fits : columns shown ≤ width

variable {placement : Placement} {overflow : Overflow} {width : Nat} {t : StyledText}

/-- The excess of a line are blanks. -/
theorem exists_trimExcess (width : Nat) (t : StyledText) :
    ∃ gap kept, t.chars = trimEnd t.chars ++ gap ∧ AllBlank gap ∧
      (trimExcess width t).chars = trimEnd t.chars ++ kept ∧ AllBlank kept := by
  obtain ⟨gap, hsplit, hgap⟩ := exists_trimEnd t.chars
  refine ⟨gap, gap.take (max (trimEnd t.chars).length (min width t.chars.length) -
    (trimEnd t.chars).length), hsplit, hgap, ?_, hgap.take _⟩
  rw [trimExcess, StyledText.chars_take]
  conv_lhs => arg 2; rw [hsplit]
  rw [List.take_append, List.take_of_length_le (Nat.le_max_left _ _)]

/-- Folded lines that fit are shown. -/
theorem finishes_fold (hwidth : 0 < width) (hplain : Plain t.chars)
    (hfits : FitsIn width t.chars) :
    Finishes width t.chars (finishLine .natural .fold width t).chars := by
  obtain ⟨gap, kept, hsplit, hgap, htrimmed, hkept⟩ := exists_trimExcess width t
  have hcore := hfits.columns_trimEnd_le hplain
  have htrimmedPlain : Plain (trimEnd t.chars ++ kept) := by
    rw [← htrimmed, trimExcess, StyledText.chars_take]
    exact hplain.of_subset (List.take_subset _ _)
  rw [finishLine, place, truncate.eq_def, htrimmed]
  split
  · next hle =>
    rw [htrimmed]
    exact ⟨⟨_, gap, kept, hsplit, rfl, hgap, hkept⟩, htrimmedPlain, hle⟩
  · rw [StyledText.chars_replace]
    obtain ⟨pad, hresize, hpad⟩ := resize_of_blanks hwidth htrimmedPlain hkept hcore
    refine ⟨⟨_, gap, pad, hsplit, hresize, hgap, hpad⟩, plain_resize htrimmedPlain,
      columns_resize_le htrimmedPlain⟩

/-- Filled up lines that fit with the blanks at their ends are shown, and are not cut. -/
theorem finishes_ellipsis (hplain : Plain t.chars)
    (hfits : columns (trimExcess width t).chars ≤ width) :
    Finishes width t.chars (finishLine .left .ellipsis width t).chars := by
  obtain ⟨gap, kept, hsplit, hgap, htrimmed, hkept⟩ := exists_trimExcess width t
  have htrimmedPlain : Plain (trimExcess width t).chars := by
    rw [trimExcess, StyledText.chars_take]
    exact hplain.of_subset (List.take_subset _ _)
  have hfilled : (place .left .ellipsis width (trimExcess width t)).chars =
      (trimExcess width t).chars ++ blanks (lacking width (trimExcess width t)) := rfl
  have hcolumns : columns ((trimExcess width t).chars ++
      blanks (lacking width (trimExcess width t))) ≤ width := by
    rw [columns_append htrimmedPlain (plain_blanks _), columns_blanks, lacking]
    omega
  rw [finishLine, truncate.eq_def, hfilled, if_pos hcolumns, hfilled]
  refine ⟨⟨_, gap, kept ++ blanks (lacking width (trimExcess width t)), hsplit, ?_, hgap,
    AllBlank.append_iff.2 ⟨hkept, allBlank_blanks _⟩⟩,
    Plain.append_iff.2 ⟨htrimmedPlain, plain_blanks _⟩, hcolumns⟩
  rw [htrimmed, List.append_assoc]

/-- Narrow characters have at most as many columns as there are characters. -/
theorem sum_le_length {cs : List Char} (h : ∀ c ∈ cs, charColumns c ≤ 1) :
    (cs.map charColumns).sum ≤ cs.length := by
  induction cs with
  | nil => simp
  | cons c cs ih =>
    obtain ⟨hc, hcs⟩ := List.forall_mem_cons.1 h
    have := ih hcs
    simp only [List.map_cons, List.sum_cons, List.length_cons]
    omega

/-- A line of narrow characters that fits does so with the blanks that are kept. -/
theorem columns_trimExcess_of_narrow (hplain : Plain t.chars)
    (hnarrow : ∀ c ∈ t.chars, charColumns c ≤ 1) (hfits : FitsIn width t.chars) :
    columns (trimExcess width t).chars ≤ width := by
  have hcore := hfits.columns_trimEnd_le hplain
  obtain ⟨gap, hsplit, -⟩ := exists_trimEnd t.chars
  rw [trimExcess, StyledText.chars_take]
  rcases Nat.le_total (min width t.chars.length) (trimEnd t.chars).length with hle | hle
  · rw [Nat.max_eq_left hle]
    conv_lhs => arg 1; arg 2; rw [hsplit]
    rwa [List.take_left]
  · rw [Nat.max_eq_right hle]
    have hsum : columns (t.chars.take (min width t.chars.length)) ≤
        (t.chars.take (min width t.chars.length)).length := by
      rw [columns_eq_sum (hplain.of_subset (List.take_subset _ _))]
      exact sum_le_length fun c hc => hnarrow c (List.mem_of_mem_take hc)
    rw [List.length_take] at hsum
    omega

/-- Trimming makes no line wider. -/
theorem columns_trimExcess_le (hplain : Plain t.chars) :
    columns (trimExcess width t).chars ≤ columns t.chars := by
  rw [trimExcess, StyledText.chars_take]
  generalize max (trimEnd t.chars).length (min width t.chars.length) = n
  have hsplit : Plain (t.chars.take n) ∧ Plain (t.chars.drop n) := by
    rw [← Plain.append_iff, List.take_append_drop]
    exact hplain
  conv_rhs => rw [← List.take_append_drop n t.chars, columns_append hsplit.1 hsplit.2]
  exact Nat.le_add_right _ _

/-! ## Texts that are laid out -/

/-- The words of all lines of a text, each with the blanks behind it. -/
def allWords (cs : List Char) : List (List Char) :=
  (cs.splitOn '\n').flatMap fun line => words (line.length + 1) line

/-- A part lies within the parts with separators between them. -/
theorem infix_intercalate_of_mem {separator part : List Char} {parts : List (List Char)}
    (h : part ∈ parts) : part <:+: separator.intercalate parts := by
  induction parts with
  | nil => cases h
  | cons first rest ih =>
    by_cases hrest : rest = []
    · subst hrest
      rw [List.mem_singleton.1 h]
      simp
    · rw [List.intercalate_cons_of_ne_nil hrest]
      rcases List.mem_cons.1 h with rfl | h
      · rw [List.append_assoc]
        exact (List.prefix_append _ _).isInfix
      · exact (ih h).trans (List.suffix_append _ _).isInfix

/-- There are no words exactly if there are only blanks. -/
theorem words_succ_eq_nil_iff {fuel : Nat} {cs : List Char} :
    words (fuel + 1) cs = [] ↔ cs.dropWhile isBlank = [] := by
  rw [words]
  cases hfrom : cs.dropWhile isBlank with
  | nil => simp
  | cons c rest =>
    have hc : isBlank c = false := not_of_dropWhile_eq_cons hfrom
    simp [hc]

/-- If nothing is left without blanks then all was blank. -/
theorem allBlank_of_dropWhile_eq_nil {cs : List Char} (h : cs.dropWhile isBlank = []) :
    AllBlank cs := by
  have hwhole := List.takeWhile_append_dropWhile (p := isBlank) (l := cs)
  rw [h, List.append_nil] at hwhole
  rw [← hwhole]
  exact List.all_eq_true.1 List.all_takeWhile

/-- Nothing between lists makes no difference. -/
theorem nil_intercalate (parts : List (List Char)) :
    ([] : List Char).intercalate parts = parts.flatten := by
  induction parts with
  | nil => rfl
  | cons part rest ih =>
    by_cases hrest : rest = []
    · simp [hrest]
    · rw [List.intercalate_cons_of_ne_nil hrest, ih, List.append_nil, List.flatten_cons]

/-- One line of a text is shown if every part of it that is one line at last is shown. -/
theorem layOutLine_spec (hplain : Plain t.chars) (htab : '\t' ∉ t.chars)
    (hwords : (overflow = .fold ∧ 2 ≤ width) ∨
      ∀ word ∈ words (t.chars.length + 1) t.chars, columns (trimEnd word) ≤ width)
    (hfinish : ∀ line : StyledText, line.chars <:+: t.chars → FitsIn width line.chars →
      Finishes width line.chars (finishLine placement overflow width line).chars) :
    Wraps t.chars ((layOutLine placement overflow width t).map (·.chars)) ∧
      layOutLine placement overflow width t ≠ [] ∧
      ∀ line ∈ layOutLine placement overflow width t,
        Plain line.chars ∧ columns line.chars ≤ width := by
  -- Whatever the lines are, they make up the text, and they fit.
  obtain ⟨lines, hne, hlayOut, hwhole, hlines⟩ : ∃ lines : List StyledText, lines ≠ [] ∧
      layOutLine placement overflow width t = lines.map (finishLine placement overflow width) ∧
      (lines.map (·.chars)).flatten = t.chars ∧ ∀ line ∈ lines, FitsIn width line.chars := by
    rw [layOutLine, expandTabs_of_noTab htab]
    by_cases hempty : words (t.chars.length + 1) t.chars = []
    · have hblank := allBlank_of_dropWhile_eq_nil (words_succ_eq_nil_iff.1 hempty)
      refine ⟨[t], by simp, by simp [hempty, finishLine], by simp, ?_⟩
      intro line hline
      rw [List.mem_singleton.1 hline]
      exact ⟨[], t.chars, rfl, hblank, Nat.zero_le _⟩
    · have hflatten : (words (t.chars.length + 1) t.chars).flatten = t.chars :=
        flatten_words (Nat.lt_succ_self _) fun hnil => hempty (words_succ_eq_nil_iff.2 hnil)
      obtain ⟨hfilled, hfit⟩ := fillLines_spec (hflatten.symm ▸ hplain) hwords
      generalize words (t.chars.length + 1) t.chars = ws at hempty hflatten hfilled hfit ⊢
      have hfullNe : fillLines overflow width ws ≠ [] := by simp [fillLines]
      have hjoined : t.chars = ([] : List Char).intercalate (fillLines overflow width ws) := by
        rw [nil_intercalate, hfilled, hflatten]
      have hparts := StyledText.map_chars_divide hfullNe hjoined
      refine ⟨t.divide 0 ((fillLines overflow width ws).map List.length), ?_, ?_, ?_, ?_⟩
      · intro hnil
        rw [List.length_nil, hnil] at hparts
        exact hfullNe hparts.symm
      · simp [hempty, finishLine]
      · exact (congrArg List.flatten hparts).trans (hfilled.trans hflatten)
      · intro line hline
        exact hfit _ (hparts ▸ List.mem_map_of_mem hline)
  have hfinished : ∀ line ∈ lines,
      Finishes width line.chars (finishLine placement overflow width line).chars := by
    intro line hline
    refine hfinish line ?_ (hlines line hline)
    rw [← hwhole]
    exact List.infix_of_mem_flatten (List.mem_map_of_mem hline)
  rw [hlayOut]
  refine ⟨?_, by simpa using hne, ?_⟩
  · rw [← hwhole]
    exact wraps_of_forall fun line hline => (hfinished line hline).shownAs
  · intro shown hshown
    obtain ⟨line, hline, rfl⟩ := List.mem_map.1 hshown
    exact ⟨(hfinished line hline).plain, (hfinished line hline).fits⟩

/-- Lines show a text if every part of it that is one line at last is shown. -/
theorem layOut_spec (hplain : Plain t.chars) (htab : '\t' ∉ t.chars)
    (hwords : (overflow = .fold ∧ 2 ≤ width) ∨
      ∀ word ∈ allWords t.chars, columns (trimEnd word) ≤ width)
    (hfinish : ∀ line : StyledText, line.chars <:+: t.chars → FitsIn width line.chars →
      Finishes width line.chars (finishLine placement overflow width line).chars) :
    Wraps t.chars ((layOut placement overflow width t).map (·.chars)) ∧
      ∀ line ∈ layOut placement overflow width t,
        Plain line.chars ∧ columns line.chars ≤ width := by
  have hjoined : t.chars = ['\n'].intercalate (t.chars.splitOn '\n') :=
    (List.intercalate_splitOn '\n').symm
  have hparts := StyledText.map_chars_divide (List.splitOn_ne_nil '\n' t.chars) hjoined
  rw [List.length_singleton] at hparts
  have hline : ∀ u ∈ t.divide 1 ((t.chars.splitOn '\n').map List.length),
      Wraps u.chars ((layOutLine placement overflow width u).map (·.chars)) ∧
        layOutLine placement overflow width u ≠ [] ∧
        ∀ line ∈ layOutLine placement overflow width u,
          Plain line.chars ∧ columns line.chars ≤ width := by
    intro u hu
    have hmem : u.chars ∈ t.chars.splitOn '\n' := hparts ▸ List.mem_map_of_mem hu
    have hpart : u.chars <:+: t.chars := by
      rw [hjoined]
      exact infix_intercalate_of_mem hmem
    refine layOutLine_spec (hplain.of_subset hpart.subset) (fun h => htab (hpart.subset h))
      (hwords.imp_right fun h word hword => h word ?_)
      fun line hin hfit => hfinish line (hin.trans hpart) hfit
    exact List.mem_flatMap.2 ⟨u.chars, hmem, hword⟩
  refine ⟨?_, ?_⟩
  · rw [layOut]
    conv_lhs => rw [hjoined, ← hparts]
    exact wraps_of_intercalate fun u hu => ⟨(hline u hu).1, (hline u hu).2.1⟩
  · intro line hmem
    obtain ⟨u, hu, hmem⟩ := List.mem_flatMap.1 hmem
    exact (hline u hu).2.2 line hmem

/-- A paragraph shows its text, and its lines are not cropped. -/
theorem wraps_paragraphLines (hplain : Plain t.chars) (htab : '\t' ∉ t.chars) :
    Wraps t.chars ((paragraphLines t).map (·.chars)) ∧
      ∀ line ∈ paragraphLines t, Plain line.chars ∧ columns line.chars ≤ lineWidth :=
  layOut_spec hplain htab (.inl ⟨rfl, by decide⟩) fun _ hpart hfits =>
    finishes_fold (by decide) (hplain.of_subset hpart.subset) hfits

/-- What is printed of a plain text shows it. -/
theorem exists_wraps_paragraph (hplain : Plain t.chars) (htab : '\t' ∉ t.chars) :
    ∃ lines, Wraps t.chars lines ∧ paragraph t = printLines lines := by
  obtain ⟨hwraps, hfits⟩ := wraps_paragraphLines hplain htab
  refine ⟨_, hwraps, ?_⟩
  rw [paragraph, printLines, List.flatMap_map]
  refine List.flatMap_congr fun line hline => ?_
  obtain ⟨hlinePlain, hle⟩ := hfits line hline
  rw [StyledText.cropped_of_le]
  rw [StyledText.totalColumns_pieces hlinePlain]
  exact hle

/-! ## Cells -/

/--
A text fits into a cell: it has no more columns than the cell, or it can be broken between
its words and no character is wide.
-/
def FitsCell (width : Nat) (cs : List Char) : Prop :=
  columns cs ≤ width ∨
    ((∀ c ∈ cs, charColumns c ≤ 1) ∧ ∀ word ∈ allWords cs, columns (trimEnd word) ≤ width)

/-- A part of a plain text has no more columns than the whole. -/
theorem columns_le_of_part {part whole : List Char} (h : Plain whole) (hpart : part <:+: whole) :
    columns part ≤ columns whole := by
  obtain ⟨front, back, rfl⟩ := hpart
  obtain ⟨hfront, hback⟩ := Plain.append_iff.1 h
  rw [columns_append hfront hback, columns_append (Plain.append_iff.1 hfront).1
    (Plain.append_iff.1 hfront).2]
  omega

/-- The words of a text lie within it. -/
theorem infix_of_mem_words {fuel : Nat} {cs word : List Char} (hfuel : cs.length < fuel)
    (h : word ∈ words fuel cs) : word <:+: cs := by
  cases fuel with
  | zero => cases h
  | succ fuel =>
    have hne : cs.dropWhile isBlank ≠ [] := by
      intro hnil
      rw [words_succ_eq_nil_iff.2 hnil] at h
      cases h
    rw [← flatten_words hfuel hne]
    exact List.infix_of_mem_flatten h

/-- The words of the lines of a text lie within it. -/
theorem infix_of_mem_allWords {cs word : List Char} (h : word ∈ allWords cs) : word <:+: cs := by
  obtain ⟨line, hline, hword⟩ := List.mem_flatMap.1 h
  have hpart : line <:+: ['\n'].intercalate (cs.splitOn '\n') := infix_intercalate_of_mem hline
  rw [List.intercalate_splitOn] at hpart
  exact (infix_of_mem_words (Nat.lt_succ_self _) hword).trans hpart

/-- A cell shows its text if the text fits, and its lines are not cut. -/
theorem wraps_layOut_cell (hplain : Plain t.chars) (htab : '\t' ∉ t.chars)
    (hfits : FitsCell width t.chars) :
    Wraps t.chars ((layOut .left .ellipsis width t).map (·.chars)) ∧
      ∀ line ∈ layOut .left .ellipsis width t, Plain line.chars ∧ columns line.chars ≤ width := by
  have hwords : ∀ word ∈ allWords t.chars, columns (trimEnd word) ≤ width := by
    rcases hfits with hwhole | ⟨-, hwords⟩
    · intro word hword
      obtain ⟨pad, hsplit, -⟩ := exists_trimEnd word
      have hstart : trimEnd word <:+: word := ⟨[], pad, by simpa using hsplit.symm⟩
      exact Nat.le_trans
        (columns_le_of_part hplain (hstart.trans (infix_of_mem_allWords hword))) hwhole
    · exact hwords
  refine layOut_spec hplain htab (.inr hwords) fun line hpart hfit => ?_
  have hlinePlain := hplain.of_subset hpart.subset
  refine finishes_ellipsis hlinePlain ?_
  rcases hfits with hwhole | ⟨hnarrow, -⟩
  · exact Nat.le_trans (columns_trimExcess_le hlinePlain)
      (Nat.le_trans (columns_le_of_part hplain hpart) hwhole)
  · exact columns_trimExcess_of_narrow hlinePlain
      (fun c hc => hnarrow c (hpart.subset hc)) hfit

end TypedCommands.Terminal
