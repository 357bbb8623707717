import Mathlib.Data.List.TakeWhile
import TypedCommands.Document.Yaml.ScalarText
import TypedCommands.Document.Yaml.Writer

/-!
# Pieces of texts in quotes

What stands between quotes is read piece by piece.  Both kinds of quotes share the pieces
that hold blanks and line ends: blanks with more text on the same line stand for
themselves, and the line ends between two lines are joined, so that a line that was
folded at a blank comes back as that blank.

Main results:

- Theorem `Reads.blank`: a blank is read back as it is.
- Theorem `Reads.lineEnds`: what the line ends between two lines are read as.
- Theorem `Reads.fold`: a folded line is read back as a blank.
-/

namespace TypedCommands.Yaml

/-! ## Characters -/

theorem isGap_iff {c : Char} : isGap c = true ↔ c = ' ' ∨ c = '\t' ∨ c = '\r' ∨ isLineEnd c := by
  simp [isGap, isBreak, or_assoc]

/-- A class of characters that no gap is in. -/
theorem isGap_eq_false_of {p : Char → Bool}
    (hgaps : [' ', '\t', '\r', '\n', '\x85', '\u2028', '\u2029'].any p = false) {c : Char}
    (hc : p c = true) : isGap c = false := by
  by_contra hgap
  have hmem : c ∈ [' ', '\t', '\r', '\n', '\x85', '\u2028', '\u2029'] := by
    rw [Bool.not_eq_false] at hgap
    simpa [isGap, isBreak, isLineEnd, or_assoc] using hgap
  exact absurd hc (List.any_eq_false.mp hgaps c hmem)

theorem isGap_of_isInline {c : Char} (h : isInline c = true) : isGap c = true := by
  rw [isInline, Bool.or_eq_true, beq_iff_eq, beq_iff_eq] at h
  exact isGap_iff.mpr (h.imp id .inl)

theorem isInline_eq_false_of_isGap {c : Char} (h : isGap c = false) : isInline c = false := by
  by_contra hc
  rw [isGap_of_isInline (by simpa using hc)] at h
  cases h

theorem isInline_eq_false_of_isLineEnd {c : Char} (h : isLineEnd c = true) :
    isInline c = false := by
  simp only [isLineEnd, Bool.or_eq_true, beq_iff_eq] at h
  rcases h with ((rfl | rfl) | rfl) | rfl <;> rfl

/-- No line ends where there is no gap. -/
theorem readBreak?_of_isGap_eq_false {c : Char} (h : isGap c = false) (rest : List Char) :
    readBreak? (c :: rest) = none := by
  have hc : isBreak c = false := by
    by_contra hc
    rw [isGap_of_isBreak (by simpa using hc)] at h
    cases h
  simp only [isBreak, isLineEnd, Bool.or_eq_false_iff, beq_eq_false_iff_ne] at hc
  unfold readBreak?
  split
  · next hcs => exact absurd (List.cons.inj hcs).1 hc.1
  · next hcs => obtain ⟨rfl, rfl⟩ := List.cons.inj hcs; simp [hc]
  · next hcs => cases hcs

/-- What a line end counts as when it is read. -/
def lineEndAsRead (c : Char) : Char := if c = '\x85' then '\n' else c

theorem readBreak?_of_isLineEnd {c : Char} (h : isLineEnd c = true) (rest : List Char) :
    readBreak? (c :: rest) = some (lineEndAsRead c, rest) := by
  simp only [isLineEnd, Bool.or_eq_true, beq_iff_eq] at h
  rcases h with ((rfl | rfl) | rfl) | rfl <;> rfl

/-- Only hyphens and points begin the marks around a document. -/
theorem startsWithMark_eq_false {c : Char} (hhyphen : c ≠ '-') (hpoint : c ≠ '.')
    (rest : List Char) : startsWithMark (c :: rest) = false := by
  unfold startsWithMark
  split
  · next hcs => obtain ⟨rfl, rfl⟩ := List.cons.inj hcs; simp [hhyphen, hpoint]
  · rfl

theorem startsWithMark_of_isLineEnd {c : Char} (h : isLineEnd c = true) (rest : List Char) :
    startsWithMark (c :: rest) = false := by
  refine startsWithMark_eq_false ?_ ?_ rest <;> rintro rfl <;> cases h

/-! ## Pieces of texts in quotes -/

/-- A text is read off the front of what is written, with all fuel that is long enough. -/
def Reads (read : Nat → List Char → ReadText) (written text rest : List Char) : Prop :=
  ∀ fuel, written.length ≤ fuel → read fuel written = .ok (text, rest)

/-- Gaps are read as they are in quotes: all blanks and line ends at once. -/
def ReadsGaps (read : Nat → List Char → ReadText) : Prop :=
  ∀ (fuel : Nat) (c : Char) (rest : List Char), isGap c = true →
    read (fuel + 1) (c :: rest) =
      match readBlanks (c :: rest) with
      | .error fault => .error fault
      | .ok (text, more) => putBefore text (read fuel more)

/-- Between single quotes gaps are read as blanks and line ends. -/
theorem readsGaps_readSingle : ReadsGaps readSingle := by
  intro fuel c rest hc
  have hquote : c ≠ '\'' := by rintro rfl; cases hc
  cases hblanks : readBlanks (c :: rest) <;>
    simp only [readSingle, hquote, hc, hblanks, if_false, if_true]

/-- Between double quotes gaps are read as blanks and line ends. -/
theorem readsGaps_readDouble : ReadsGaps readDouble := by
  intro fuel c rest hc
  have hquote : c ≠ '"' := by rintro rfl; cases hc
  have hslash : c ≠ '\\' := by rintro rfl; cases hc
  cases hblanks : readBlanks (c :: rest) <;>
    simp only [readDouble, hquote, hslash, hc, hblanks, if_false, if_true]

/-- A text goes on with something other than blanks on the same line. -/
def GoesOn (cs : List Char) : Prop :=
  ∃ c more, cs.dropWhile isInline = c :: more ∧ isGap c = false

theorem GoesOn.of_isGap_eq_false {c : Char} (h : isGap c = false) (cs : List Char) :
    GoesOn (c :: cs) :=
  ⟨c, cs, List.dropWhile_cons_of_neg (by simp [isInline_eq_false_of_isGap h]), h⟩

theorem GoesOn.blank {cs : List Char} (h : GoesOn cs) : GoesOn (' ' :: cs) := by
  obtain ⟨c, more, hdrop, hc⟩ := h
  exact ⟨c, more, by rw [List.dropWhile_cons_of_pos (by rfl), hdrop], hc⟩

/-- Blanks in front of text that goes on are part of it. -/
theorem readBlanks_of_goesOn {b : Char} {cs more : List Char} {c : Char} (hb : isInline b = true)
    (hcs : cs.dropWhile isInline = c :: more) (hc : isGap c = false) :
    readBlanks (b :: cs) = .ok (b :: cs.takeWhile isInline, c :: more) := by
  simp [readBlanks, List.dropWhile_cons_of_pos, List.takeWhile_cons_of_pos, hb, hcs,
    readBreak?_of_isGap_eq_false hc]

namespace Reads

variable {read : Nat → List Char → ReadText} {written text rest : List Char}

/-- A blank that more text on the same line follows stands for itself. -/
theorem blank (hread : ReadsGaps read) (hgoes : GoesOn written)
    (h : Reads read written text rest) : Reads read (' ' :: written) (' ' :: text) rest := by
  obtain ⟨c, more, hdrop, hc⟩ := hgoes
  intro fuel hfuel
  obtain ⟨fuel, rfl⟩ : ∃ n, fuel = n + 1 := ⟨fuel - 1, by simp at hfuel; omega⟩
  rw [hread fuel ' ' written rfl, readBlanks_of_goesOn rfl hdrop hc]
  have hsplit : written.takeWhile isInline ++ c :: more = written := by
    rw [← hdrop, List.takeWhile_append_dropWhile]
  -- the blanks behind this one are read together with it
  suffices hrun : putBefore (written.takeWhile isInline) (read fuel (c :: more)) =
      .ok (text, rest) by
    change putBefore ([' '] ++ written.takeWhile isInline) _ = _
    rw [← putBefore_putBefore, hrun]
    rfl
  cases hw : written.takeWhile isInline with
  | nil =>
    rw [hw, List.nil_append] at hsplit
    rw [hsplit, h fuel (by simpa using hfuel)]
    rfl
  | cons b blanks =>
    have hb : isInline b = true := by
      have hmem : b ∈ written.takeWhile isInline := by rw [hw]; exact List.mem_cons_self
      exact List.mem_takeWhile_imp hmem
    obtain ⟨behind, rfl⟩ : ∃ behind, written = b :: behind :=
      ⟨blanks ++ c :: more, by rw [← hsplit, hw, List.cons_append]⟩
    rw [List.dropWhile_cons_of_pos hb] at hdrop
    rw [List.takeWhile_cons_of_pos hb] at hw
    have hnext := h (fuel + 1) (by simp at hfuel ⊢; omega)
    rwa [hread fuel b behind (isGap_of_isInline hb), readBlanks_of_goesOn hb hdrop hc, hw] at hnext

end Reads

/-! ## Line ends -/

theorem dropWhile_margin {c : Char} (hc : isGap c = false) (more : List Char) :
    (List.replicate margin ' ' ++ c :: more).dropWhile isInline = c :: more := by
  rw [List.dropWhile_append_of_pos fun b hb => by rw [List.eq_of_mem_replicate hb]; rfl,
    List.dropWhile_cons_of_neg (by simp [isInline_eq_false_of_isGap hc])]

/-- Line ends are read up to the margin of the next line that holds more. -/
theorem readBreaks_margin (ends : List Char) (hends : ∀ e ∈ ends, isLineEnd e = true) {c : Char}
    (hc : isGap c = false) (more : List Char) {fuel : Nat} (hfuel : ends.length < fuel) :
    readBreaks fuel (ends ++ (List.replicate margin ' ' ++ c :: more)) =
      .ok (ends.map lineEndAsRead, c :: more) := by
  obtain ⟨fuel, rfl⟩ : ∃ n, fuel = n + 1 := ⟨fuel - 1, by omega⟩
  induction ends generalizing fuel with
  | nil =>
    have hmark : startsWithMark (List.replicate margin ' ' ++ c :: more) = false := rfl
    simp [readBreaks, hmark, dropWhile_margin hc, readBreak?_of_isGap_eq_false hc]
  | cons e ends ih =>
    have he := hends e List.mem_cons_self
    obtain ⟨fuel, rfl⟩ : ∃ n, fuel = n + 1 := ⟨fuel - 1, by simp at hfuel; omega⟩
    rw [List.cons_append, readBreaks, startsWithMark_of_isLineEnd he,
      List.dropWhile_cons_of_neg (by simp [isInline_eq_false_of_isLineEnd he]),
      readBreak?_of_isLineEnd he]
    simp [ih (fun d hd => hends d (List.mem_cons_of_mem _ hd)) fuel (by simpa using hfuel),
      putBefore, Except.map]

namespace Reads

variable {read : Nat → List Char → ReadText} {written text rest : List Char}

/-- Line ends between two lines are joined. -/
theorem lineEnds (hread : ReadsGaps read) (e : Char) (ends : List Char) (he : isLineEnd e = true)
    (hends : ∀ d ∈ ends, isLineEnd d = true) {c : Char} (hc : isGap c = false)
    (h : Reads read (c :: written) text rest) :
    Reads read (e :: (ends ++ (List.replicate margin ' ' ++ c :: written)))
      (joinBreaks (lineEndAsRead e) (ends.map lineEndAsRead) ++ text) rest := by
  intro fuel hfuel
  obtain ⟨fuel, rfl⟩ : ∃ n, fuel = n + 1 := ⟨fuel - 1, by simp at hfuel; omega⟩
  have hblanks : readBlanks (e :: (ends ++ (List.replicate margin ' ' ++ c :: written))) =
      .ok (joinBreaks (lineEndAsRead e) (ends.map lineEndAsRead), c :: written) := by
    rw [readBlanks, List.dropWhile_cons_of_neg (by simp [isInline_eq_false_of_isLineEnd he])]
    simp only [readBreak?_of_isLineEnd he]
    have hlength : ends.length < (ends ++ (List.replicate margin ' ' ++ c :: written)).length := by
      simp only [List.length_append, List.length_cons]
      omega
    rw [readBreaks_margin ends hends hc written hlength]
    rfl
  rw [hread fuel e _ (isGap_iff.mpr (by simp [he])), hblanks]
  simp only [h fuel (by simp at hfuel ⊢; omega)]
  rfl

/-- A line that was folded at a blank. -/
theorem fold (hread : ReadsGaps read) {c : Char} (hc : isGap c = false)
    (h : Reads read (c :: written) text rest) :
    Reads read (nextLine ++ c :: written) (' ' :: text) rest :=
  lineEnds hread '\n' [] rfl (by simp) hc h

end Reads

end TypedCommands.Yaml
