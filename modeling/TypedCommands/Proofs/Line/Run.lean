import TypedCommands.Proofs.Line.Division

/-!
# Runs of the scanner

A scanner that goes through a line stands between what it has read and what is left.
Each call that answers with an argument moves blanks and one lexeme from one side to the
other; what stands behind the lexeme matters only in so far as it must not extend it.

Main results:

- Theorem `Scanner.next_between`: a lexeme is answered with the index it begins at.
- Theorem `Scanner.exists_of_next_between`: whatever is answered is such a lexeme.
- Theorem `Scanner.mem_remaining_iff`: the arguments of a line are what its scanner answers
  on the way.
- Theorem `exists_isLexeme_of_mem`: whatever a line gives was written as a lexeme.
-/

namespace TypedCommands.Line

open TypedCommands.Text

/-- A lexeme alone is well spaced. -/
theorem Spaced.of_isLexeme {raw name value : List Char} {closed : Bool}
    (hl : IsLexeme raw name value closed) : Spaced [⟨raw, []⟩] :=
  .cons hl (by simp [IsGap]) (fun _ => .inr rfl) .nil

namespace Scanner

/-! ## One call -/

/-- The scanner that has read a text and has another one in front of it. -/
def between (seen rest : List Char) : Scanner := ⟨seen ++ rest, rest, none⟩

theorem ofLine_eq_between (line : String) : ofLine line = between [] line.toList := rfl

/-- A lexeme behind a gap is answered, in front of a rest that cannot extend it. -/
theorem next_between {seen lead raw name value rest : List Char} {closed : Bool}
    (hlead : IsGap lead) (hl : IsLexeme raw name value closed)
    (hstop : closed = false → Stops rest) :
    (between seen (lead ++ (raw ++ rest))).next =
      (.argument ⟨String.ofList raw, String.ofList name, String.ofList value,
        (seen.length + lead.length : Nat)⟩, between (seen ++ (lead ++ raw)) rest) := by
  rw [next_of_lexeme (s := between seen (lead ++ (raw ++ rest))) rfl rfl hlead hl hstop]
  have hstart : (seen ++ (lead ++ (raw ++ rest))).length - (raw ++ rest).length =
      seen.length + lead.length := by
    simp only [List.length_append]
    omega
  simp only [between, hstart, List.append_assoc]

/-- An argument is answered for a lexeme behind a gap, in front of what may follow it. -/
theorem exists_of_next_between {seen cs : List Char} {a : Argument} {t : Scanner}
    (h : (between seen cs).next = (.argument a, t)) :
    ∃ lead raw name value closed rest, cs = lead ++ (raw ++ rest) ∧ IsGap lead ∧
      IsLexeme raw name value closed ∧ (closed = false → Stops rest) ∧
      a = ⟨String.ofList raw, String.ofList name, String.ofList value,
        (seen.length + lead.length : Nat)⟩ ∧
      t = between (seen ++ (lead ++ raw)) rest := by
  obtain ⟨lead, raw, name, value, closed, hlead, hl, htext, hstop⟩ := of_next_eq_argument h
  obtain rfl : cs = lead ++ (raw ++ t.rest) := htext
  rw [next_between hlead hl hstop, Prod.mk.injEq, Answer.argument.injEq] at h
  exact ⟨lead, raw, name, value, closed, t.rest, rfl, hlead, hl, hstop, h.1.symm, h.2.symm⟩

/-! ## All calls -/

/-- Behind a lexeme the scanner goes on with the rest. -/
theorem remaining_between {seen lead raw name value rest : List Char} {closed : Bool}
    (hlead : IsGap lead) (hl : IsLexeme raw name value closed)
    (hstop : closed = false → Stops rest) :
    (between seen (lead ++ (raw ++ rest))).remaining =
      (⟨String.ofList raw, String.ofList name, String.ofList value,
          (seen.length + lead.length : Nat)⟩ ::
          (between (seen ++ (lead ++ raw)) rest).remaining.1,
        (between (seen ++ (lead ++ raw)) rest).remaining.2) :=
  remaining_of_argument (next_between hlead hl hstop)

/-- Lexemes with gaps are read without a fault, whatever was read in front of them. -/
theorem fault_remaining_of_spaced (seen : List Char) {lead : List Char} {parts : List Part}
    (hlead : IsGap lead) (hparts : Spaced parts) :
    (between seen (lead ++ textOf parts)).remaining.2.fault = none := by
  have hle : (lead ++ textOf parts).length ≤ (seen ++ (lead ++ textOf parts)).length := by
    simp
  obtain ⟨arguments, -, hremaining⟩ := remaining_of_spaced
    (show (between seen (lead ++ textOf parts)).fault = none from rfl) hlead hparts rfl hle
  rw [hremaining]
  rfl

/-- One lexeme behind a gap is read without a fault. -/
theorem fault_remaining_of_isLexeme (seen : List Char) {lead raw name value : List Char}
    {closed : Bool} (hlead : IsGap lead) (hl : IsLexeme raw name value closed) :
    (between seen (lead ++ raw)).remaining.2.fault = none := by
  simpa using fault_remaining_of_spaced seen hlead (Spaced.of_isLexeme hl)

/-- The scanner comes to stand at another place by answering with arguments. -/
inductive Reaches : Scanner → Scanner → Prop
  | here {s : Scanner} : Reaches s s
  | further {s t u : Scanner} {a : Argument} :
      s.next = (.argument a, t) → Reaches t u → Reaches s u

/-- The arguments that remain are those that are answered at places the scanner reaches. -/
theorem mem_remaining_iff {s : Scanner} {a : Argument} :
    a ∈ s.remaining.1 ↔ ∃ t u, s.Reaches t ∧ t.next = (.argument a, u) := by
  constructor
  · intro h
    induction s using remaining.induct with
    | case1 s b t hnext hlt ih =>
      rw [remaining_of_argument hnext, List.mem_cons] at h
      rcases h with rfl | h
      · exact ⟨s, t, .here, hnext⟩
      · obtain ⟨v, u, hreach, ha⟩ := ih h
        exact ⟨v, u, .further hnext hreach, ha⟩
    | case2 s t hnext =>
      rw [remaining_of_finished hnext] at h
      cases h
    | case3 s f t hnext =>
      rw [remaining_of_failed hnext] at h
      cases h
  · rintro ⟨t, u, hreach, ha⟩
    induction hreach with
    | here =>
      rw [remaining_of_argument ha]
      exact List.mem_cons_self
    | further hnext _ ih =>
      rw [remaining_of_argument hnext]
      exact List.mem_cons_of_mem _ (ih ha)

/-- A scanner of a line always stands between what it has read and what is left. -/
theorem Reaches.exists_between {seen cs : List Char} {t : Scanner}
    (h : (between seen cs).Reaches t) : ∃ before after, t = between before after := by
  generalize hs : between seen cs = s at h
  induction h generalizing seen cs with
  | here => exact ⟨seen, cs, hs.symm⟩
  | further hnext _ ih =>
    subst hs
    obtain ⟨lead, raw, name, value, closed, rest, -, -, -, -, -, ht⟩ :=
      exists_of_next_between hnext
    exact ih ht.symm

end Scanner

/-! ## The arguments of a line -/

/-- Whatever a line gives, in front of a fault or not, was written as a lexeme. -/
theorem exists_isLexeme_of_mem {line : String} {a : Argument}
    (h : a ∈ (Source.ofLine line).arguments) :
    ∃ closed, IsLexeme a.raw.toList a.name.toList a.value.toList closed := by
  obtain ⟨s, t, hreach, hnext⟩ := Scanner.mem_remaining_iff.1 h
  rw [Scanner.ofLine_eq_between] at hreach
  obtain ⟨before, after, rfl⟩ := hreach.exists_between
  obtain ⟨lead, raw, name, value, closed, rest, -, -, hl, -, rfl, -⟩ :=
    Scanner.exists_of_next_between hnext
  exact ⟨closed, by simpa using hl⟩

/-- A line is read exactly if no fault follows its arguments. -/
theorem tokenize_eq_ok_iff {line : String} {arguments : List Argument} :
    tokenize line = .ok arguments ↔ Source.ofLine line = ⟨arguments, none⟩ := by
  rw [tokenize]
  generalize Source.ofLine line = s
  obtain ⟨found, fault⟩ := s
  cases fault <;> simp

end TypedCommands.Line
