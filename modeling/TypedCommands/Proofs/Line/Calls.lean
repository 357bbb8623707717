import TypedCommands.Proofs.Feed
import TypedCommands.Proofs.Line.FaultPlace

/-!
# Calls of the scanner

A scanner is called again and again, by callers that may stop at any argument and by callers
that never do.  Every call that answers with an argument leaves the scanner further on in its
line, right behind that argument, so there are no more of these calls than characters.  All
later calls give one answer and leave the scanner where the first of them has put it: at the
end of the line, or at the place of the fault.

Main results:

- Theorem `Scanner.toPulled_call`: the calls answer as the source of the scanner does.
- Theorems `Scanner.Stands.of_next_argument`, `Scanner.Stands.of_next_finished` and
  `Scanner.Stands.of_next_failed`: where one call leaves a scanner.
- Theorem `Scanner.calls_settle`: all calls for a line.
-/

namespace TypedCommands

/-- Faults of a line tell the faults of the scanner apart. -/
theorem LineFault.ofFault_injective : Function.Injective LineFault.ofFault := by
  rintro ⟨complaint, index, offset⟩ ⟨complaint', index', offset'⟩ h
  simp only [ofFault, mk.injEq, LineTrouble.complaint.injEq, Int.natCast_inj] at h
  obtain ⟨rfl, rfl, rfl⟩ := h
  rfl

namespace Line.Scanner

open TypedCommands.Text

/-! ## One call after another -/

/-- The scanner that a number of calls leave behind. -/
def behind (s : Scanner) : Nat → Scanner
  | 0 => s
  | k + 1 => s.next.2.behind k

/-- What is answered to a call when `k` calls were made before. -/
def call (s : Scanner) (k : Nat) : Answer := (s.behind k).next.1

theorem behind_succ (s : Scanner) (k : Nat) : s.behind (k + 1) = (s.behind k).next.2 := by
  induction k generalizing s with
  | zero => rfl
  | succ k ih => exact ih s.next.2

theorem next_behind (s : Scanner) (k : Nat) :
    (s.behind k).next = (s.call k, s.behind (k + 1)) := by
  rw [behind_succ, call]

/-- The calls answer as the source of the scanner does. -/
theorem toPulled_call (s : Scanner) (k : Nat) :
    (s.call k).toPulled = (Source.ofScanner s).answer k := by
  induction k generalizing s with
  | zero =>
    rw [Source.answer, ← source_eq, Feed.pull_source]
    rfl
  | succ k ih => rw [Source.answer, ← source_eq, Feed.pull_source, Feed.pull, source_eq, ← ih]; rfl

/-! ## Where a scanner stands -/

/--
A scanner stands in its line: what it has not scanned yet is what follows its position, and
a fault that it has met is at its position.
-/
structure Stands (s : Scanner) : Prop where
  /-- The rest is the line from the position on. -/
  rest_eq : s.rest = s.line.drop s.position
  /-- A fault is where scanning stopped. -/
  index_eq : ∀ f, s.fault = some f → f.index = s.position

theorem position_between (seen rest : List Char) : (between seen rest).position = seen.length := by
  simp [position, between]

/-- A scanner between two parts stands in its line. -/
theorem stands_between (seen rest : List Char) : (between seen rest).Stands where
  rest_eq := by
    rw [position_between]
    exact List.drop_left.symm
  index_eq := by
    intro f hf
    cases hf

/-- A scanner without a fault stands between what it has read and what is left. -/
theorem Stands.eq_between {s : Scanner} (h : s.Stands) (hs : s.fault = none) :
    s = between (s.line.take s.position) s.rest := by
  have hline : s.line.take s.position ++ s.rest = s.line := by
    rw [h.rest_eq, List.take_append_drop]
  obtain ⟨line, rest, fault⟩ := s
  subst hs
  rw [between, hline]

/-- A call that answers with an argument met no fault before. -/
theorem fault_of_next_eq_argument {s t : Scanner} {a : Argument} (h : s.next = (.argument a, t)) :
    s.fault = none := by
  cases hfault : s.fault with
  | none => rfl
  | some f => simp [next, hfault] at h

/-- An argument leaves the scanner right behind it, and further on than it was. -/
theorem Stands.of_next_argument {s t : Scanner} {a : Argument} (h : s.Stands)
    (hnext : s.next = (.argument a, t)) :
    t.Stands ∧ t.line = s.line ∧ (t.position : Int) = a.start + a.raw.length ∧
      s.position < t.position := by
  rw [h.eq_between (fault_of_next_eq_argument hnext)] at hnext
  obtain ⟨lead, raw, name, value, closed, rest, hrest, -, hl, -, rfl, rfl⟩ :=
    exists_of_next_between hnext
  have hpos : 0 < raw.length := by
    obtain ⟨c, cs, rfl, -⟩ := hl.exists_head
    simp
  have hle : s.position ≤ s.line.length := Nat.sub_le ..
  have hlength : (s.line.take s.position).length = s.position := List.length_take_of_le hle
  refine ⟨stands_between _ _, ?_, ?_, ?_⟩
  · rw [between, List.append_assoc, List.append_assoc, ← hrest, h.rest_eq,
      List.take_append_drop]
  · rw [position_between]
    simp only [List.length_append, hlength, String.length_ofList]
    omega
  · rw [position_between]
    simp only [List.length_append, hlength]
    omega

/-- The end leaves the scanner behind its whole line. -/
theorem Stands.of_next_finished {s t : Scanner} (hnext : s.next = (.finished, t)) :
    t.Stands ∧ t.line = s.line ∧ t.position = s.line.length := by
  have hs : s.fault = none := by
    cases hfault : s.fault with
    | none => rfl
    | some f => simp [next, hfault] at hnext
  rw [next_of_gap hs (isGap_of_next_eq_finished hnext), Prod.mk.injEq] at hnext
  obtain ⟨-, rfl⟩ := hnext
  refine ⟨⟨?_, ?_⟩, rfl, rfl⟩
  · simp [position]
  · intro f hf
    rw [hs] at hf
    cases hf

/-- Where scanning an argument stops, the rest is the end of the text. -/
theorem suffix_of_scanArgument_eq_error {cs : List Char} {stop : Stop}
    (h : scanArgument cs = .error stop) : stop.rest <:+ cs := by
  rcases exists_breaks_of_scanArgument h with ⟨front, d, behind, rfl, -, hrest⟩ | ⟨rfl, -⟩
  · have hbehind : stop.complaint.left d behind <:+ d :: behind := by
      rw [Complaint.left]
      split
      · exact List.suffix_cons d behind
      · exact List.suffix_rfl
    rw [hrest]
    exact hbehind.trans (List.suffix_append front _)
  · exact List.nil_suffix

/-- A fault leaves the scanner at its place, also when it was met before. -/
theorem Stands.of_next_failed {s t : Scanner} {f : Fault} (h : s.Stands)
    (hnext : s.next = (.failed f, t)) :
    t.Stands ∧ t.line = s.line ∧ t.position = f.index := by
  cases hs : s.fault with
  | some g =>
    rw [next, hs, Prod.mk.injEq, Answer.failed.injEq] at hnext
    obtain ⟨rfl, rfl⟩ := hnext
    exact ⟨h, rfl, (h.index_eq g hs).symm⟩
  | none =>
    have hbetween := h.eq_between hs
    rw [hbetween] at hnext
    obtain ⟨lead, e, text, stop, hrest, hlead, he, hscan, rfl⟩ := exists_of_next_eq_failed hnext
    rw [hrest, next_between_of_error _ hlead rfl he hscan, Prod.mk.injEq] at hnext
    obtain ⟨-, rfl⟩ := hnext
    have hline : s.line.take s.position ++ (lead ++ e :: text) = s.line := by
      rw [← hrest, h.rest_eq, List.take_append_drop]
    have hsuffix : stop.rest <:+ s.line := by
      rw [← hline]
      exact (suffix_of_scanArgument_eq_error hscan).trans
        ((List.suffix_append lead _).trans (List.suffix_append _ _))
    refine ⟨⟨?_, ?_⟩, hline, ?_⟩
    · simp only [between, hline]
      exact List.suffix_iff_eq_drop.1 hsuffix
    · intro g hg
      simp only [Option.some.injEq] at hg
      subst hg
      rfl
    · rw [hrest]
      rfl

/-! ## All calls -/

/-- However often it is called, a scanner stands in its line. -/
theorem stands_behind (line : String) (k : Nat) :
    ((ofLine line).behind k).Stands ∧ ((ofLine line).behind k).line = line.toList := by
  induction k with
  | zero => exact ⟨stands_between [] line.toList, rfl⟩
  | succ k ih =>
    obtain ⟨hstands, hline⟩ := ih
    have hnext := next_behind (ofLine line) k
    cases hcall : (ofLine line).call k with
    | argument a =>
      rw [hcall] at hnext
      obtain ⟨h, hsame, -⟩ := hstands.of_next_argument hnext
      exact ⟨h, hsame.trans hline⟩
    | finished =>
      rw [hcall] at hnext
      obtain ⟨h, hsame, -⟩ := Stands.of_next_finished hnext
      exact ⟨h, hsame.trans hline⟩
    | failed f =>
      rw [hcall] at hnext
      obtain ⟨h, hsame, -⟩ := hstands.of_next_failed hnext
      exact ⟨h, hsame.trans hline⟩

theorem length_line_behind (line : String) (k : Nat) :
    ((ofLine line).behind k).line.length = line.length := by
  rw [(stands_behind line k).2, String.length_toList]

theorem position_behind_le (line : String) (k : Nat) :
    ((ofLine line).behind k).position ≤ line.length := by
  rw [← length_line_behind line k]
  exact Nat.sub_le ..

/-- Arguments that were answered one after another take at least one character each. -/
theorem le_position_behind {line : String} {n : Nat}
    (h : ∀ k < n, ∃ a, (ofLine line).call k = .argument a) :
    n ≤ ((ofLine line).behind n).position := by
  induction n with
  | zero => exact Nat.zero_le _
  | succ n ih =>
    obtain ⟨a, ha⟩ := h n (Nat.lt_succ_self n)
    have hbefore := ih fun k hk => h k (Nat.lt_succ_of_lt hk)
    have hnext := next_behind (ofLine line) n
    rw [ha] at hnext
    obtain ⟨-, -, -, hlt⟩ := (stands_behind line n).1.of_next_argument hnext
    omega

/-- The calls for a line answer with the arguments of its source, one after the other. -/
theorem call_of_getElem? {line : String} {k : Nat} {a : Argument}
    (h : (Source.ofLine line).arguments[k]? = some a) : (ofLine line).call k = .argument a := by
  have hcall := toPulled_call (ofLine line) k
  rw [← Source.ofLine, Source.answer_of_getElem? h] at hcall
  cases hanswer : (ofLine line).call k with
  | argument b =>
    rw [hanswer] at hcall
    rw [Pulled.argument.inj hcall]
  | finished => simp [hanswer, Answer.toPulled] at hcall
  | failed f => simp [hanswer, Answer.toPulled] at hcall

/-- Behind the arguments of a line without a fault, every call is told the end. -/
theorem call_of_fault_eq_none {line : String} {k : Nat}
    (hfault : (Source.ofLine line).fault = none)
    (h : (Source.ofLine line).arguments.length ≤ k) : (ofLine line).call k = .finished := by
  have hcall := toPulled_call (ofLine line) k
  rw [← Source.ofLine, Source.answer_of_length_le h, Source.ending, hfault] at hcall
  cases hanswer : (ofLine line).call k <;> simp_all [Answer.toPulled]

/-- Behind the arguments of a line with a fault, every call is told this fault. -/
theorem call_of_fault_eq_some {line : String} {k : Nat} {f : Fault}
    (hfault : (Source.ofLine line).fault = some (.ofFault f))
    (h : (Source.ofLine line).arguments.length ≤ k) : (ofLine line).call k = .failed f := by
  have hcall := toPulled_call (ofLine line) k
  rw [← Source.ofLine, Source.answer_of_length_le h, Source.ending, hfault] at hcall
  cases hanswer : (ofLine line).call k with
  | argument a => simp [hanswer, Answer.toPulled] at hcall
  | finished => simp [hanswer, Answer.toPulled] at hcall
  | failed g =>
    rw [hanswer] at hcall
    rw [LineFault.ofFault_injective (Pulled.failed.inj hcall)]

/--
All calls for a line.  The first ones answer with the arguments of the line, of which there
are no more than characters; each leaves the scanner right behind its argument, and further
on than it was.  Then there is one answer for ever, and one position.  If the line is read,
it is the end and the length of the line; if not, it is the fault and the place that the
fault is about.  At all times the scanner has before it what follows its position.
-/
theorem calls_settle (line : String) :
    ∃ arguments : List Argument, arguments.length ≤ line.length ∧
      (∀ k a, arguments[k]? = some a →
        (ofLine line).call k = .argument a ∧
        (((ofLine line).behind (k + 1)).position : Int) = a.start + a.raw.length ∧
        ((ofLine line).behind k).position < ((ofLine line).behind (k + 1)).position) ∧
      ((tokenize line = .ok arguments ∧ ∀ k, arguments.length ≤ k →
          (ofLine line).call k = .finished ∧
          ((ofLine line).behind (k + 1)).position = line.length) ∨
        ∃ f, tokenize line = .error (.ofFault f) ∧ ∀ k, arguments.length ≤ k →
          (ofLine line).call k = .failed f ∧
          ((ofLine line).behind (k + 1)).position = f.index) ∧
      ∀ k, ((ofLine line).behind k).position ≤ line.length ∧
        ((ofLine line).behind k).rest = line.toList.drop ((ofLine line).behind k).position := by
  refine ⟨(Source.ofLine line).arguments, ?_, ?_, ?_, ?_⟩
  · have hcalls : ∀ k < (Source.ofLine line).arguments.length,
        ∃ a, (ofLine line).call k = .argument a :=
      fun k hk => ⟨_, call_of_getElem? (List.getElem?_eq_getElem hk)⟩
    exact (le_position_behind hcalls).trans (position_behind_le line _)
  · intro k a ha
    have hcall := call_of_getElem? ha
    have hnext := next_behind (ofLine line) k
    rw [hcall] at hnext
    obtain ⟨-, -, hposition, hlt⟩ := (stands_behind line k).1.of_next_argument hnext
    exact ⟨hcall, hposition, hlt⟩
  · cases hfault : (ofLine line).remaining.2.fault with
    | none =>
      have hnone : (Source.ofLine line).fault = none := by
        simp [Source.ofLine, Source.ofScanner, hfault]
      refine .inl ⟨by simp [tokenize, hnone], ?_⟩
      intro k hk
      have hcall := call_of_fault_eq_none hnone hk
      have hnext := next_behind (ofLine line) k
      rw [hcall] at hnext
      obtain ⟨-, -, hposition⟩ := Stands.of_next_finished hnext
      exact ⟨hcall, hposition.trans (length_line_behind line k)⟩
    | some f =>
      have hsome : (Source.ofLine line).fault = some (.ofFault f) := by
        simp [Source.ofLine, Source.ofScanner, hfault]
      refine .inr ⟨f, by simp [tokenize, hsome], ?_⟩
      intro k hk
      have hcall := call_of_fault_eq_some hsome hk
      have hnext := next_behind (ofLine line) k
      rw [hcall] at hnext
      obtain ⟨-, -, hposition⟩ := (stands_behind line k).1.of_next_failed hnext
      exact ⟨hcall, hposition⟩
  · intro k
    obtain ⟨hstands, hline⟩ := stands_behind line k
    refine ⟨position_behind_le line k, ?_⟩
    rw [← hline]
    exact hstands.rest_eq

end Line.Scanner

end TypedCommands
