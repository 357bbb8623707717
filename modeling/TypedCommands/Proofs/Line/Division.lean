import Mathlib.Tactic.Convert
import TypedCommands.Proofs.Line.Grammar
import TypedCommands.Source

/-!
# Division of a line into lexemes

A line that can be read is blanks, then lexemes, each with the blanks behind it.  A
gap may be empty only behind a closing quote and at the end of the line.  There is at
most one way to divide a line like this, and the scanner finds it.

Main results:

- Theorem `Scanner.remaining_of_spaced`: what is divided into lexemes is read lexeme by
  lexeme, up to the end.
- Theorem `Scanner.exists_spaced_of_remaining`: what is read to its end without a fault
  is divided into lexemes.
- Theorem `eq_of_spaced`: a text is divided into lexemes in at most one way.
- Theorem `tokenize_iff_divides`: lines that are read are lines that can be divided, and
  the arguments are what the lexemes of the one division stand for.
-/

namespace TypedCommands.Line

open TypedCommands.Text

/-- A lexeme as it is written, with the blanks behind it. -/
structure Part where
  /-- The lexeme. -/
  raw : List Char
  /-- The blanks between it and the next lexeme or the end of the line. -/
  gap : List Char

/-- The text that lexemes with their gaps make up. -/
def textOf (parts : List Part) : List Char := parts.flatMap fun p => p.raw ++ p.gap

/-- Lexemes with gaps between them; only a closing quote may touch the next lexeme. -/
inductive Spaced : List Part → Prop
  | nil : Spaced []
  | cons {p : Part} {rest : List Part} {name value : List Char} {closed : Bool} :
      IsLexeme p.raw name value closed → IsGap p.gap →
      (closed = false → p.gap ≠ [] ∨ rest = []) → Spaced rest → Spaced (p :: rest)

/-- The arguments that lexemes stand for when the first of them begins at an index of a line. -/
inductive Readings : Nat → List Part → List Argument → Prop
  | nil {i : Nat} : Readings i [] []
  | cons {i : Nat} {p : Part} {rest : List Part} {name value : List Char} {closed : Bool}
      {arguments : List Argument} :
      IsLexeme p.raw name value closed →
      Readings (i + p.raw.length + p.gap.length) rest arguments →
      Readings i (p :: rest)
        (⟨String.ofList p.raw, String.ofList name, String.ofList value, i⟩ :: arguments)

@[simp] theorem textOf_nil : textOf [] = [] := rfl

@[simp] theorem textOf_cons (p : Part) (rest : List Part) :
    textOf (p :: rest) = p.raw ++ (p.gap ++ textOf rest) := by
  simp [textOf]

/-- The first lexeme begins with no blank. -/
theorem Spaced.exists_head {parts : List Part} (h : Spaced parts) (hne : parts ≠ []) :
    ∃ c cs, textOf parts = c :: cs ∧ isBlank c = false := by
  cases h with
  | nil => exact absurd rfl hne
  | @cons p rest _ _ _ hl _ _ _ =>
    obtain ⟨c, cs, hraw, hc⟩ := hl.exists_head
    exact ⟨c, cs ++ (p.gap ++ textOf rest), by rw [textOf_cons, hraw, List.cons_append], hc⟩

/-- A gap that is not left out where it is needed ends an open lexeme. -/
theorem stops_gap {gap : List Char} {rest : List Part} (hgap : IsGap gap)
    (h : gap ≠ [] ∨ rest = []) : Stops (gap ++ textOf rest) := by
  cases gap with
  | nil =>
    obtain rfl : rest = [] := by simpa using h
    exact stops_nil
  | cons c gap => exact stops_cons_iff.2 (hgap c (by simp))

/-- Blanks are skipped up to the first lexeme. -/
theorem dropWhile_isBlank_gap {gap : List Char} {parts : List Part} (hgap : IsGap gap)
    (hparts : Spaced parts) : (gap ++ textOf parts).dropWhile isBlank = textOf parts := by
  rw [List.dropWhile_append_of_pos hgap]
  by_cases hne : parts = []
  · rw [hne]
    rfl
  · obtain ⟨c, cs, htext, hc⟩ := hparts.exists_head hne
    simp [htext, hc]

/-- The gap in front of lexemes is what is skipped. -/
theorem takeWhile_isBlank_gap {gap : List Char} {parts : List Part} (hgap : IsGap gap)
    (hparts : Spaced parts) : (gap ++ textOf parts).takeWhile isBlank = gap := by
  have h := List.takeWhile_append_dropWhile (p := isBlank) (l := gap ++ textOf parts)
  rw [dropWhile_isBlank_gap hgap hparts] at h
  exact List.append_cancel_right h

/-- A text is divided into a gap and lexemes in at most one way. -/
theorem eq_of_spaced {lead lead' : List Char} {parts parts' : List Part}
    (hlead : IsGap lead) (hlead' : IsGap lead') (hparts : Spaced parts) (hparts' : Spaced parts')
    (h : lead ++ textOf parts = lead' ++ textOf parts') : lead = lead' ∧ parts = parts' := by
  -- The gap in front is what is skipped, so it is the same on both sides.
  have hgap : lead = lead' := by
    rw [← takeWhile_isBlank_gap hlead hparts, h, takeWhile_isBlank_gap hlead' hparts']
  subst hgap
  refine ⟨rfl, ?_⟩
  have htext := List.append_cancel_left h
  clear h hlead hlead'
  induction hparts generalizing parts' with
  | nil =>
    by_contra hne
    obtain ⟨c, cs, hhead, -⟩ := hparts'.exists_head (Ne.symm hne)
    rw [hhead] at htext
    contradiction
  | @cons p rest name value closed hl hgap hspace hrest ih =>
    cases hparts' with
    | nil =>
      obtain ⟨c, cs, hraw, -⟩ := hl.exists_head
      simp [hraw] at htext
    | @cons p' rest' name' value' closed' hl' hgap' hspace' hrest' =>
      rw [textOf_cons, textOf_cons] at htext
      -- One scan of the same text: the first lexemes end at the same place.
      have hscan := scanArgument_append hl fun hc => stops_gap hgap (hspace hc)
      have hscan' := scanArgument_append hl' fun hc => stops_gap hgap' (hspace' hc)
      rw [htext, hscan'] at hscan
      have hafter : p.gap ++ textOf rest = p'.gap ++ textOf rest' := by
        simp only [Except.ok.injEq, ScannedArgument.mk.injEq] at hscan
        exact hscan.2.2.symm
      have hraw : p.raw = p'.raw := by
        rw [hafter] at htext
        exact List.append_cancel_right htext
      have hgaps : p.gap = p'.gap := by
        rw [← takeWhile_isBlank_gap hgap hrest, hafter, takeWhile_isBlank_gap hgap' hrest']
      have htail : textOf rest = textOf rest' := by
        rw [hgaps] at hafter
        exact List.append_cancel_left hafter
      have hpart : p = p' := by
        cases p
        cases p'
        simp_all
      rw [hpart, ih hrest' htail]

/-- How lexemes are written and where they begin decides the arguments they stand for. -/
theorem Readings.unique {i : Nat} {parts : List Part} {as bs : List Argument}
    (ha : Readings i parts as) (hb : Readings i parts bs) : as = bs := by
  induction ha generalizing bs with
  | nil =>
    cases hb
    rfl
  | cons hl _ ih =>
    cases hb with
    | cons hl' hrest =>
      obtain ⟨rfl, rfl⟩ := hl.unique hl'
      rw [ih hrest]

/-! ## The scanner finds the division -/

namespace Scanner

theorem next_of_gap {s : Scanner} (hs : s.fault = none) (hgap : IsGap s.rest) :
    s.next = (.finished, { s with rest := [] }) := by
  rw [next, hs, List.dropWhile_eq_nil_iff.2 hgap]

/-- A lexeme that stops is the next argument. -/
theorem next_of_lexeme {s : Scanner} (hs : s.fault = none)
    {lead raw name value rest : List Char} {closed : Bool}
    (hrest : s.rest = lead ++ (raw ++ rest)) (hlead : IsGap lead)
    (hl : IsLexeme raw name value closed) (hstop : closed = false → Stops rest) :
    s.next = (.argument ⟨String.ofList raw, String.ofList name, String.ofList value,
      (s.line.length - (raw ++ rest).length : Nat)⟩, { s with rest := rest }) := by
  have hscan := scanArgument_append hl hstop
  obtain ⟨c, cs, rfl, hc⟩ := hl.exists_head
  have hdrop : s.rest.dropWhile isBlank = c :: (cs ++ rest) := by
    rw [hrest, List.dropWhile_append_of_pos hlead]
    simp [hc]
  have htake : (c :: (cs ++ rest)).take ((c :: (cs ++ rest)).length - rest.length) = c :: cs := by
    rw [← List.cons_append]
    exact List.take_left' (by simp; omega)
  rw [List.cons_append] at hscan
  rw [next, hs, hdrop]
  simp only [hscan, htake, List.cons_append]

/-- Lexemes with gaps are read one by one, and then the line is finished. -/
theorem remaining_of_spaced {s : Scanner} (hs : s.fault = none) {lead : List Char}
    {parts : List Part} (hlead : IsGap lead) (hparts : Spaced parts)
    (hrest : s.rest = lead ++ textOf parts) (hle : s.rest.length ≤ s.line.length) :
    ∃ arguments, Readings (s.line.length - s.rest.length + lead.length) parts arguments ∧
      s.remaining = (arguments, { s with rest := [] }) := by
  induction hparts generalizing s lead with
  | nil =>
    rw [textOf_nil, List.append_nil] at hrest
    exact ⟨[], .nil, remaining_of_finished (next_of_gap hs (hrest ▸ hlead))⟩
  | @cons p rest name value closed hl hgap hspace _ ih =>
    rw [textOf_cons] at hrest
    have hnext := next_of_lexeme hs hrest hlead hl fun hc => stops_gap hgap (hspace hc)
    have hlength := congrArg List.length hrest
    simp only [List.length_append] at hlength
    obtain ⟨arguments, hreadings, hremaining⟩ :=
      ih (s := { s with rest := p.gap ++ textOf rest }) hs hgap rfl (by simp; omega)
    refine ⟨_, ?_, by rw [remaining_of_argument hnext, hremaining]⟩
    have hstart : s.line.length - (p.raw ++ (p.gap ++ textOf rest)).length =
        s.line.length - s.rest.length + lead.length := by
      simp only [List.length_append]
      omega
    rw [hstart]
    refine .cons hl ?_
    convert hreadings using 1
    simp only [List.length_append]
    omega

/-- An argument is answered for a lexeme behind a gap, in front of what may follow it. -/
theorem of_next_eq_argument {s t : Scanner} {a : Argument} (h : s.next = (.argument a, t)) :
    ∃ lead raw name value closed, IsGap lead ∧ IsLexeme raw name value closed ∧
      s.rest = lead ++ (raw ++ t.rest) ∧ (closed = false → Stops t.rest) := by
  rw [next] at h
  split at h
  · simp at h
  · split at h
    · simp at h
    · next c cs hdrop =>
      split at h
      · simp at h
      · next b hscan =>
        have hc : isBlank c = false := not_of_dropWhile_eq_cons hdrop
        obtain ⟨raw, closed, hl, htext, hstop⟩ := exists_isLexeme_of_scanArgument hc hscan
        have ht : t.rest = b.rest := by
          rw [← (Prod.mk.inj h).2]
        refine ⟨s.rest.takeWhile isBlank, raw, b.name, b.value, closed, ?_, hl, ?_, ?_⟩
        · exact fun d hd => List.mem_takeWhile_imp hd
        · rw [ht, ← htext, ← hdrop, List.takeWhile_append_dropWhile]
        · rw [ht]
          exact hstop

/-- A line that is finished has only blanks left. -/
theorem isGap_of_next_eq_finished {s t : Scanner} (h : s.next = (.finished, t)) :
    IsGap s.rest := by
  rw [next] at h
  split at h
  · simp at h
  · split at h
    · next hdrop => exact List.dropWhile_eq_nil_iff.1 hdrop
    · split at h <;> simp at h

/-- A call that fails remembers its fault. -/
theorem fault_of_next_eq_failed {s t : Scanner} {f : Fault} (h : s.next = (.failed f, t)) :
    t.fault = some f := by
  rw [next] at h
  split at h
  · next g hg =>
    simp only [Prod.mk.injEq, Answer.failed.injEq] at h
    rw [← h.1, ← h.2, hg]
  · split at h
    · simp at h
    · split at h
      · simp only [Prod.mk.injEq, Answer.failed.injEq] at h
        rw [← h.1, ← h.2]
      · simp at h

/-- What is read to its end without a fault is a gap and lexemes with gaps. -/
theorem exists_spaced_of_remaining {s : Scanner} (h : s.remaining.2.fault = none) :
    ∃ lead parts, IsGap lead ∧ Spaced parts ∧ s.rest = lead ++ textOf parts := by
  induction s using remaining.induct with
  | case1 s a t hnext hlt ih =>
    rw [remaining_of_argument hnext] at h
    obtain ⟨gap, parts, hgap, hparts, hrest⟩ := ih h
    obtain ⟨lead, raw, name, value, closed, hlead, hl, htext, hstop⟩ := of_next_eq_argument hnext
    refine ⟨lead, ⟨raw, gap⟩ :: parts, hlead, .cons hl hgap ?_ hparts, ?_⟩
    · intro hclosed
      by_contra hcontra
      simp only [not_or, not_not] at hcontra
      -- An open lexeme would touch the next one, which begins with no blank.
      obtain ⟨d, cs, hhead, hd⟩ := hparts.exists_head hcontra.2
      have hstops := hstop hclosed
      rw [hrest, hcontra.1, List.nil_append, hhead, stops_cons_iff, hd] at hstops
      contradiction
    · rw [htext, hrest, textOf_cons]
  | case2 s t hnext =>
    exact ⟨s.rest, [], isGap_of_next_eq_finished hnext, .nil, by simp⟩
  | case3 s f t hnext =>
    rw [remaining_of_failed hnext, fault_of_next_eq_failed hnext] at h
    contradiction

end Scanner

/-! ## Divisions of lines -/

/-- A line taken apart: the blanks in front, then the lexemes with the blanks behind each. -/
structure Division where
  /-- The blanks in front of the first lexeme. -/
  lead : List Char
  /-- The lexemes, each with the blanks behind it. -/
  parts : List Part

/-- What makes a division one of a line: it rebuilds the line, and its pieces follow the grammar. -/
structure Division.Divides (d : Division) (line : String) : Prop where
  /-- The pieces in their order make up the line. -/
  rebuilds : d.lead ++ textOf d.parts = line.toList
  /-- Only blanks stand in front of the first lexeme. -/
  isGap_lead : IsGap d.lead
  /-- Lexemes follow each other as the grammar allows. -/
  spaced : Spaced d.parts

/-- A line that can be divided is read, lexeme by lexeme. -/
theorem exists_readings_of_divides {d : Division} {line : String} (h : d.Divides line) :
    ∃ arguments, Readings d.lead.length d.parts arguments ∧ tokenize line = .ok arguments := by
  obtain ⟨arguments, hreadings, hremaining⟩ :=
    Scanner.remaining_of_spaced (s := Scanner.ofLine line) rfl h.isGap_lead h.spaced
      h.rebuilds.symm le_rfl
  refine ⟨arguments, by simpa [Scanner.ofLine] using hreadings, ?_⟩
  simp only [tokenize, Source.ofLine, Source.ofScanner, hremaining]
  rfl

/-- A line that is read can be divided. -/
theorem exists_divides_of_tokenize {line : String} {arguments : List Argument}
    (h : tokenize line = .ok arguments) : ∃ d : Division, d.Divides line := by
  have hfault : (Scanner.ofLine line).remaining.2.fault = none := by
    cases hf : (Scanner.ofLine line).remaining.2.fault with
    | none => rfl
    | some f => simp [tokenize, Source.ofLine, Source.ofScanner, hf] at h
  obtain ⟨lead, parts, hlead, hparts, hrest⟩ := Scanner.exists_spaced_of_remaining hfault
  exact ⟨⟨lead, parts⟩, hrest.symm, hlead, hparts⟩

/-- The raw texts of the arguments with the gaps between them are the text of the lexemes. -/
theorem Readings.flatten_raw {i : Nat} {parts : List Part} {arguments : List Argument}
    (h : Readings i parts arguments) :
    (List.zipWith (fun a p => a.raw.toList ++ p.gap) arguments parts).flatten = textOf parts := by
  induction h with
  | nil => rfl
  | cons _ _ ih => simp [ih]

/--
A line is read exactly when it can be divided into lexemes.  There is at most one
division, the arguments are what its lexemes stand for, and their raw texts with the
gaps between them rebuild the line.
-/
theorem tokenize_iff_divides (line : String) :
    ((∃ arguments, tokenize line = .ok arguments) ↔ ∃ d : Division, d.Divides line) ∧
    (∀ d d' : Division, d.Divides line → d'.Divides line → d = d') ∧
    (∀ (d : Division) (arguments : List Argument), d.Divides line →
      (tokenize line = .ok arguments ↔ Readings d.lead.length d.parts arguments)) ∧
    (∀ (d : Division) (arguments : List Argument), d.Divides line →
      tokenize line = .ok arguments →
      d.lead ++ (List.zipWith (fun a p => a.raw.toList ++ p.gap) arguments d.parts).flatten =
        line.toList) := by
  have hread : ∀ (d : Division) (arguments : List Argument), d.Divides line →
      (tokenize line = .ok arguments ↔ Readings d.lead.length d.parts arguments) := by
    intro d arguments hd
    obtain ⟨found, hfound, htokenize⟩ := exists_readings_of_divides hd
    constructor
    · intro h
      rw [htokenize] at h
      cases h
      exact hfound
    · intro h
      rw [htokenize, hfound.unique h]
  refine ⟨⟨?_, ?_⟩, ?_, hread, ?_⟩
  · rintro ⟨arguments, h⟩
    exact exists_divides_of_tokenize h
  · rintro ⟨d, hd⟩
    obtain ⟨arguments, -, h⟩ := exists_readings_of_divides hd
    exact ⟨arguments, h⟩
  · intro d d' hd hd'
    obtain ⟨hlead, hparts⟩ := eq_of_spaced hd.isGap_lead hd'.isGap_lead hd.spaced hd'.spaced
      (hd.rebuilds.trans hd'.rebuilds.symm)
    cases d
    cases d'
    simp_all
  · intro d arguments hd h
    rw [((hread d arguments hd).1 h).flatten_raw, hd.rebuilds]

end TypedCommands.Line
