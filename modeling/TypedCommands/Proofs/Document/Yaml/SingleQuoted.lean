import TypedCommands.Proofs.Document.Yaml.Quoted

/-!
# Texts between single quotes read back

A text between single quotes is read back with its quotes, its blanks and its line ends,
whether its lines were folded or not.  Only the line end U+0085 is lost: it is read as
any line end is that is no separator, so that alone it counts as a blank.

Main results:

- Theorem `reads_single`: what is read back of a text between single quotes.
- Theorem `restoredSingle_eq_self_iff`: exactly the texts that U+0085 is not in are kept.
-/

namespace TypedCommands.Yaml

/-! ## Pieces -/

namespace Reads

variable {written text rest : List Char}

/-- A character that means nothing special stands for itself. -/
theorem single_char {c : Char} (hquote : c ≠ '\'') (hgap : isGap c = false)
    (h : Reads readSingle written text rest) :
    Reads readSingle (c :: written) (c :: text) rest := by
  intro fuel hfuel
  obtain ⟨fuel, rfl⟩ : ∃ n, fuel = n + 1 := ⟨fuel - 1, by simp at hfuel; omega⟩
  unfold readSingle
  rw [if_neg hquote, if_neg (by simp [hgap]), h fuel (by simpa using hfuel)]
  rfl

/-- A doubled quote stands for one. -/
theorem single_quote (h : Reads readSingle written text rest) :
    Reads readSingle ('\'' :: '\'' :: written) ('\'' :: text) rest := by
  intro fuel hfuel
  obtain ⟨fuel, rfl⟩ : ∃ n, fuel = n + 1 := ⟨fuel - 1, by simp at hfuel; omega⟩
  unfold readSingle
  rw [if_pos rfl]
  simp only [h fuel (by simp at hfuel; omega)]
  rfl

/-- A quote that no other one follows ends the text. -/
theorem single_end (hrest : rest.head? ≠ some '\'') : Reads readSingle ('\'' :: rest) [] rest := by
  intro fuel hfuel
  obtain ⟨fuel, rfl⟩ : ∃ n, fuel = n + 1 := ⟨fuel - 1, by simp at hfuel; omega⟩
  unfold readSingle
  rw [if_pos rfl]
  split
  · exact absurd rfl hrest
  · rfl

end Reads

/-! ## What is restored -/

/--
What is read back of a text between single quotes; `inRun` tells whether a line end
stands in front.
-/
def restoredSingle (inRun : Bool) : List Char → List Char
  | [] => []
  | c :: rest =>
    if c = '\x85' then
      (if inRun then ['\n'] else if rest.head?.any isLineEnd then [] else [' ']) ++
        restoredSingle true rest
    else c :: restoredSingle (isLineEnd c) rest

/-- Within a run of line ends every one is restored as it is read. -/
theorem restoredSingle_true (cs : List Char) :
    restoredSingle true cs = (cs.takeWhile isLineEnd).map lineEndAsRead ++
      restoredSingle false (cs.dropWhile isLineEnd) := by
  induction cs with
  | nil => rfl
  | cons c cs ih =>
    by_cases hc : isLineEnd c = true
    · rw [List.takeWhile_cons_of_pos hc, List.dropWhile_cons_of_pos hc, List.map_cons,
        List.cons_append, ← ih]
      by_cases hnext : c = '\x85' <;> simp [restoredSingle, lineEndAsRead, hnext, hc]
    · have hnext : c ≠ '\x85' := by rintro rfl; exact hc rfl
      rw [List.takeWhile_cons_of_neg hc, List.dropWhile_cons_of_neg hc]
      simp [restoredSingle, hnext]

/-- A text that may be written between single quotes. -/
structure FitsSingle (cs : List Char) : Prop where
  /-- Nothing in it needs an escape. -/
  literal : ∀ c ∈ cs, needsEscape c = false
  /-- No blank is next to a line end. -/
  apart : hasBlankAtLineEnd cs = false

namespace FitsSingle

variable {c d : Char} {cs : List Char}

/-- What lies behind the first character of a fitting text fits. -/
theorem tail (h : FitsSingle (c :: cs)) : FitsSingle cs := by
  refine ⟨fun d hd => h.literal d (List.mem_cons_of_mem _ hd), ?_⟩
  cases cs with
  | nil => rfl
  | cons d cs =>
    have hapart := h.apart
    rw [hasBlankAtLineEnd, Bool.or_eq_false_iff] at hapart
    exact hapart.2

theorem not_lineEnd_of_blank (h : FitsSingle (' ' :: d :: cs)) : isLineEnd d = false := by
  have hapart := h.apart
  simp only [hasBlankAtLineEnd, Bool.or_eq_false_iff] at hapart
  simpa using hapart.1.1

/-- No blank follows a line end. -/
theorem not_blank_of_lineEnd (hc : isLineEnd c = true) (h : FitsSingle (c :: d :: cs)) :
    d ≠ ' ' := by
  have hapart := h.apart
  simp only [hasBlankAtLineEnd, Bool.or_eq_false_iff] at hapart
  simpa [hc] using hapart.1.2

/-- Apart from blanks and line ends there are no gaps in a fitting text. -/
theorem isGap_head (h : FitsSingle (c :: cs)) (hblank : c ≠ ' ') (hline : isLineEnd c = false) :
    isGap c = false := by
  have hc := h.literal c List.mem_cons_self
  simp only [needsEscape, Bool.or_eq_false_iff, beq_eq_false_iff_ne] at hc
  simp [isGap, isBreak, hblank, hline, hc]

/-- Behind its line ends a fitting text fits and goes on with no gap. -/
theorem dropWhile_isLineEnd (hc : isLineEnd c = true) (h : FitsSingle (c :: cs)) :
    FitsSingle (cs.dropWhile isLineEnd) ∧
      ∀ d ∈ (cs.dropWhile isLineEnd).head?, isGap d = false := by
  induction cs generalizing c with
  | nil => exact ⟨h.tail, by simp⟩
  | cons d cs ih =>
    by_cases hd : isLineEnd d = true
    · rw [List.dropWhile_cons_of_pos hd]
      exact ih hd h.tail
    · rw [List.dropWhile_cons_of_neg hd]
      have hgap := h.tail.isGap_head (h.not_blank_of_lineEnd hc) (by simpa using hd)
      exact ⟨h.tail, by simpa using hgap⟩

end FitsSingle

/-- Line ends are written one behind the other; then the next line is moved in. -/
theorem singleRest_lineEnd {cs : List Char}
    (hcs : ∀ c ∈ (cs.dropWhile isLineEnd).head?, isGap c = false) :
    singleRest 0 .lineEnd cs = cs.takeWhile isLineEnd ++ (List.replicate margin ' ' ++
      singleRest margin .other (cs.dropWhile isLineEnd)) := by
  induction cs with
  | nil => rfl
  | cons c cs ih =>
    by_cases hc : isLineEnd c = true
    · rw [List.dropWhile_cons_of_pos hc] at hcs ⊢
      rw [List.takeWhile_cons_of_pos hc, List.cons_append, ← ih hcs]
      simp [singleRest, hc]
    · rw [List.dropWhile_cons_of_neg hc] at hcs ⊢
      have hblank : c ≠ ' ' := by
        rintro rfl
        cases hcs ' ' rfl
      rw [List.takeWhile_cons_of_neg hc]
      by_cases hquote : c = '\''
      · subst hquote
        simp [singleRest, isLineEnd]
      · simp [singleRest, hc, hblank, hquote]

theorem blank_ne : Before.blank ≠ .lineEnd := by decide

theorem other_ne : Before.other ≠ .lineEnd := by decide

/-- What is written of a text that begins with no gap begins with none. -/
theorem singleRest_head (column : Nat) {before : Before} (hbefore : before ≠ .lineEnd)
    (cs : List Char) (hcs : ∀ c ∈ cs.head?, isGap c = false) (rest : List Char) :
    ∃ c more, singleRest column before cs ++ rest = c :: more ∧ isGap c = false := by
  cases cs with
  | nil => exact ⟨'\'', rest, by simp [singleRest, hbefore], rfl⟩
  | cons c cs =>
    have hc : isGap c = false := hcs c rfl
    have hline : isLineEnd c = false := by
      by_contra h
      rw [isGap_iff.mpr (.inr (.inr (.inr (by simpa using h))))] at hc
      cases hc
    have hblank : c ≠ ' ' := by rintro rfl; cases hc
    by_cases hquote : c = '\''
    · subst hquote
      exact ⟨'\'', _, by simp [singleRest, isLineEnd, hbefore]; rfl, rfl⟩
    · exact ⟨c, _, by simp [singleRest, hline, hbefore, hquote, hblank]; rfl, hc⟩

/-- Behind a blank, what is written goes on on the same line. -/
theorem goesOn_singleRest {cs : List Char} (h : FitsSingle (' ' :: cs)) (column : Nat)
    (rest : List Char) : GoesOn (singleRest column .blank cs ++ rest) := by
  induction cs generalizing column with
  | nil => exact .of_isGap_eq_false rfl rest
  | cons c cs ih =>
    by_cases hblank : c = ' '
    · subst hblank
      simpa [singleRest, isLineEnd] using (ih h.tail (column + 1)).blank
    · have hc : isGap c = false := h.tail.isGap_head hblank h.not_lineEnd_of_blank
      obtain ⟨d, more, hcons, hd⟩ :=
        singleRest_head column blank_ne (c :: cs) (by simpa using hc) rest
      rw [hcons]
      exact .of_isGap_eq_false hd more

/-- Line ends are read for what is restored of them. -/
theorem joinBreaks_append_restoredSingle {c : Char} (hc : isLineEnd c = true) (cs : List Char) :
    joinBreaks (lineEndAsRead c)
        (((if c = '\n' then [c] else []) ++ cs.takeWhile isLineEnd).map lineEndAsRead) ++
      restoredSingle false (cs.dropWhile isLineEnd) = restoredSingle false (c :: cs) := by
  by_cases hnext : c = '\x85'
  · subst hnext
    rw [restoredSingle, if_pos rfl, restoredSingle_true cs]
    cases cs with
    | nil => rfl
    | cons d ds => by_cases hd : isLineEnd d = true <;> simp [joinBreaks, lineEndAsRead, hd]
  · rw [restoredSingle, if_neg hnext, hc, restoredSingle_true cs]
    by_cases hfirst : c = '\n' <;> simp [joinBreaks, lineEndAsRead, hfirst, hnext]

section

variable {rest : List Char} {cs : List Char} {before : Before}

/-- All line ends at once; the text that is left begins with something else. -/
theorem reads_single_lineEnds {c : Char} (hline : isLineEnd c = true)
    (hfits : FitsSingle (c :: cs)) (hbefore : before ≠ .lineEnd) (column : Nat)
    (hbehind : Reads readSingle (singleRest margin .other (cs.dropWhile isLineEnd) ++ rest)
      (restoredSingle false (cs.dropWhile isLineEnd)) rest) :
    Reads readSingle (singleRest column before (c :: cs) ++ rest) (restoredSingle false (c :: cs))
      rest := by
  have hhead := (hfits.dropWhile_isLineEnd hline).2
  obtain ⟨d, more, hcons, hd⟩ := singleRest_head margin other_ne _ hhead rest
  have hwritten : singleRest column before (c :: cs) ++ rest =
      c :: ((if c = '\n' then [c] else []) ++ cs.takeWhile isLineEnd ++
        (List.replicate margin ' ' ++ d :: more)) := by
    rw [← hcons, singleRest, if_pos hline, singleRest_lineEnd hhead]
    by_cases hfirst : c = '\n' <;> simp [hbefore, hfirst]
  rw [hwritten, ← joinBreaks_append_restoredSingle hline]
  rw [hcons] at hbehind
  refine hbehind.lineEnds readsGaps_readSingle _ _ hline ?_ hd
  intro e he
  rcases List.mem_append.mp he with he | he
  · split at he
    · rwa [List.mem_singleton.mp he]
    · cases he
  · exact List.mem_takeWhile_imp he

/-- A blank is written as it is, or as the end of a line that is folded. -/
theorem reads_single_blank (hfits : FitsSingle (' ' :: cs)) (hbefore : before ≠ .lineEnd)
    (column : Nat)
    (hbehind : ∀ column, Reads readSingle (singleRest column .blank cs ++ rest)
      (restoredSingle false cs) rest) :
    Reads readSingle (singleRest column before (' ' :: cs) ++ rest)
      (' ' :: restoredSingle false cs) rest := by
  by_cases hfold : before = .other ∧ singleBlank cs ∧ foldColumn < column
  · have hhead : ∀ d ∈ cs.head?, isGap d = false := by
      intro d hd
      obtain ⟨ds, rfl⟩ := List.head?_eq_some_iff.mp hd
      exact hfits.tail.isGap_head (by simpa [singleBlank] using hfold.2.1)
        hfits.not_lineEnd_of_blank
    obtain ⟨d, more, hcons, hd⟩ := singleRest_head margin blank_ne _ hhead rest
    have hwritten : singleRest column before (' ' :: cs) ++ rest = nextLine ++ d :: more := by
      rw [← hcons]
      simp [singleRest, isLineEnd, hfold]
    rw [hwritten]
    exact (hcons ▸ hbehind margin).fold readsGaps_readSingle hd
  · have hwritten : singleRest column before (' ' :: cs) ++ rest =
        ' ' :: (singleRest (column + 1) .blank cs ++ rest) := by
      simp [singleRest, isLineEnd, hbefore, hfold]
    rw [hwritten]
    exact (hbehind (column + 1)).blank readsGaps_readSingle
      (goesOn_singleRest hfits (column + 1) rest)

end

/-- What is read back of a text between single quotes. -/
theorem reads_single {rest : List Char} (hrest : rest.head? ≠ some '\'') (cs : List Char)
    (hfits : FitsSingle cs) (column : Nat) {before : Before} (hbefore : before ≠ .lineEnd) :
    Reads readSingle (singleRest column before cs ++ rest) (restoredSingle false cs) rest := by
  match cs with
  | [] => simpa [singleRest, hbefore, restoredSingle] using Reads.single_end hrest
  | c :: cs =>
    by_cases hline : isLineEnd c = true
    · exact reads_single_lineEnds hline hfits hbefore column
        (reads_single hrest _ (hfits.dropWhile_isLineEnd hline).1 margin (by simp))
    · have hline : isLineEnd c = false := by simpa using hline
      have hrestored : restoredSingle false (c :: cs) = c :: restoredSingle false cs := by
        have hnext : c ≠ '\x85' := by rintro rfl; cases hline
        rw [restoredSingle, if_neg hnext, hline]
      have hbehind (column : Nat) {before : Before} (hbefore : before ≠ .lineEnd) :=
        reads_single hrest cs hfits.tail column hbefore
      rw [hrestored]
      by_cases hquote : c = '\''
      · subst hquote
        simpa [singleRest, isLineEnd, hbefore] using
          (hbehind (column + 2) other_ne).single_quote
      · by_cases hblank : c = ' '
        · subst hblank
          exact reads_single_blank hfits hbefore column fun column => hbehind column (by simp)
        · simpa [singleRest, hline, hbefore, hquote, hblank] using
            (hbehind (column + 1) other_ne).single_char
              hquote (hfits.isGap_head hblank hline)
termination_by cs.length
decreasing_by
  · exact Nat.lt_succ_of_le (List.dropWhile_suffix isLineEnd).length_le
  · exact Nat.lt_succ_self cs.length

/-- Restored text holds no next-line character. -/
theorem next_not_mem_restoredSingle (inRun : Bool) (cs : List Char) :
    '\x85' ∉ restoredSingle inRun cs := by
  induction cs generalizing inRun with
  | nil => simp [restoredSingle]
  | cons c cs ih =>
    rw [restoredSingle]
    split
    · have hjoined : '\x85' ∉
          (if inRun then ['\n'] else if cs.head?.any isLineEnd then [] else [' ']) := by
        split_ifs <;> simp
      simp [hjoined, ih]
    · next hc => simp [ih, Ne.symm hc]

/-- A text without next-line characters is restored as it was. -/
theorem restoredSingle_of_next_not_mem {cs : List Char} (h : '\x85' ∉ cs) (inRun : Bool) :
    restoredSingle inRun cs = cs := by
  induction cs generalizing inRun with
  | nil => rfl
  | cons c cs ih =>
    rw [List.mem_cons, not_or] at h
    rw [restoredSingle, if_neg (Ne.symm h.1), ih h.2]

/-- Between single quotes, exactly the texts that U+0085 is not in are kept. -/
theorem restoredSingle_eq_self_iff (cs : List Char) :
    restoredSingle false cs = cs ↔ '\x85' ∉ cs :=
  ⟨fun h => h ▸ next_not_mem_restoredSingle false cs, fun h => restoredSingle_of_next_not_mem h _⟩

end TypedCommands.Yaml
