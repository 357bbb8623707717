import TypedCommands.Proofs.Line.Breakage
import TypedCommands.Proofs.Line.Run

/-!
# Where a line goes wrong

A fault points at the character that makes a line malformed.  The text in front of that
character is read, and nothing behind it can mend the line: every line that goes on from
there gives the same arguments and then the same fault.  A value that no quote closes has
no such character; the fault points at the end of the line, and more text mends it.

Main results:

- Theorem `Scanner.next_between_of_breaks`: the fault at a character that breaks a lexeme.
- Theorem `Scanner.breaksAt_or_open`: a line with a fault breaks at a character, or has an
  open quote at its end.
- Theorem `fault_place`: what the index, the offset and the wording of a fault point at.
-/

namespace TypedCommands.Line

open TypedCommands.Text

/-- The number of bytes that a text takes is the size of the string. -/
theorem utf8Length_eq_utf8ByteSize (cs : List Char) :
    utf8Length cs = (String.ofList cs).utf8ByteSize := by
  induction cs with
  | nil => rfl
  | cons c cs ih =>
    rw [utf8Length, ih, String.ofList_cons, String.utf8ByteSize_append,
      String.utf8ByteSize_singleton]

/-! ## What an open lexeme may stand in front of -/

/-- If a text stops then so does its front. -/
theorem Stops.of_append {front : List Char} {more : List Char} (h : Stops (front ++ more)) :
    Stops front := by
  cases front with
  | nil => exact stops_nil
  | cons c front => exact stops_cons_iff.2 (stops_cons_iff.1 h)

/-- Only the first character matters, and a text keeps it when it is continued. -/
theorem Stops.append {cs : List Char} (h : Stops cs) (hne : cs ≠ []) (more : List Char) :
    Stops (cs ++ more) := by
  cases cs with
  | nil => exact absurd rfl hne
  | cons c cs => exact stops_cons_iff.2 (stops_cons_iff.1 h)

namespace Scanner

/-! ## The failing call -/

/-- The fault at a character that stands behind some text. -/
def faultBehind (seen : List Char) (d : Char) (c : Complaint) : Fault :=
  let place := if c = .repeatedSeparator then seen ++ [d] else seen
  ⟨c, place.length, utf8Length place⟩

/-- A fault is placed by the text that is left behind it. -/
theorem faultAt_append (seen front rest : List Char) (c : Complaint) :
    (between seen (front ++ rest)).faultAt ⟨c, rest⟩ =
      ⟨c, (seen ++ front).length, utf8Length (seen ++ front)⟩ := by
  have hlength : (seen ++ (front ++ rest)).length - rest.length = (seen ++ front).length := by
    simp only [List.length_append]
    omega
  have htake : (seen ++ (front ++ rest)).take (seen ++ front).length = seen ++ front := by
    rw [← List.append_assoc]
    exact List.take_left
  simp only [faultAt, between, hlength, htake]

/-- A fault at a character lies behind what was scanned before it. -/
theorem faultAt_left (seen front : List Char) (d : Char) (behind : List Char) (c : Complaint) :
    (between seen (front ++ d :: behind)).faultAt ⟨c, c.left d behind⟩ =
      faultBehind (seen ++ front) d c := by
  simp only [faultBehind, Complaint.left]
  split
  · rw [List.append_cons, faultAt_append, List.append_assoc]
  · rw [faultAt_append]

theorem faultAt_nil (seen cs : List Char) (c : Complaint) :
    (between seen cs).faultAt ⟨c, []⟩ = ⟨c, (seen ++ cs).length, utf8Length (seen ++ cs)⟩ := by
  simpa using faultAt_append seen cs [] c

/-- Behind blanks, a text that cannot be scanned makes the call fail. -/
theorem next_between_of_error (seen : List Char) {lead text : List Char} {stop : Stop} {e : Char}
    {cs : List Char} (hlead : IsGap lead) (htext : text = e :: cs) (he : isBlank e = false)
    (h : scanArgument text = .error stop) :
    (between seen (lead ++ text)).next =
      (.failed ((between seen (lead ++ text)).faultAt stop),
        { between seen (lead ++ text) with
          rest := stop.rest
          fault := some ((between seen (lead ++ text)).faultAt stop) }) := by
  subst htext
  have hdrop : (between seen (lead ++ e :: cs)).rest.dropWhile isBlank = e :: cs := by
    rw [between, List.dropWhile_append_of_pos hlead]
    simp [he]
  rw [next, hdrop]
  simp only [h, between]

/-- At a character that breaks a lexeme the call fails, whatever stands behind it. -/
theorem next_between_of_breaks (seen : List Char) {lead front : List Char} {d : Char}
    {c : Complaint} (hlead : IsGap lead) (h : Breaks front d c) (behind : List Char) :
    ∃ t, (between seen (lead ++ (front ++ d :: behind))).next =
      (.failed (faultBehind (seen ++ (lead ++ front)) d c), t) := by
  obtain ⟨e, cs, htext, he⟩ := h.exists_head behind
  have hnext := next_between_of_error seen hlead htext he (scanArgument_of_breaks h behind)
  have hfault : (between seen (lead ++ (front ++ d :: behind))).faultAt ⟨c, c.left d behind⟩ =
      faultBehind (seen ++ (lead ++ front)) d c := by
    rw [← List.append_assoc lead, faultAt_left]
  rw [hfault] at hnext
  exact ⟨_, hnext⟩

/-- A call fails behind blanks, at a text that cannot be scanned. -/
theorem exists_of_next_eq_failed {seen cs : List Char} {f : Fault} {t : Scanner}
    (h : (between seen cs).next = (.failed f, t)) :
    ∃ lead e text stop, cs = lead ++ e :: text ∧ IsGap lead ∧ isBlank e = false ∧
      scanArgument (e :: text) = .error stop ∧ f = (between seen cs).faultAt stop := by
  have htext := List.takeWhile_append_dropWhile (p := isBlank) (l := cs)
  simp only [next, between] at h
  split at h
  · simp at h
  · next c text hdrop =>
    have hc : isBlank c = false := not_of_dropWhile_eq_cons hdrop
    split at h
    · next stop hscan =>
      simp only [Prod.mk.injEq, Answer.failed.injEq] at h
      rw [hdrop] at htext
      exact ⟨_, c, text, stop, htext.symm, fun d hd => List.mem_takeWhile_imp hd, hc, hscan,
        h.1.symm⟩
    · simp at h

/-! ## The failing line -/

/--
A text behind another one breaks at a character: what stands in front of it is read, and
whatever stands behind it, the same arguments are given and then the same fault.
-/
structure BreaksAt (seen front : List Char) (d : Char) (arguments : List Argument) (f : Fault) :
    Prop where
  /-- The text in front of the character is read. -/
  accepted : (between seen front).remaining.2.fault = none
  /-- Nothing behind the character can mend the text. -/
  rejected : ∀ behind, (between seen (front ++ d :: behind)).remaining.1 = arguments ∧
    (between seen (front ++ d :: behind)).remaining.2.fault = some f

/-- At the first lexeme that breaks, no argument is given any more. -/
theorem breaksAt_of_breaks {seen lead front : List Char} {d : Char} {c : Complaint}
    (hlead : IsGap lead) (h : Breaks front d c) :
    BreaksAt seen (lead ++ front) d [] (faultBehind (seen ++ (lead ++ front)) d c) where
  accepted := by
    rcases h.front_isLexeme with rfl | ⟨name, value, hl⟩
    · exact fault_remaining_of_spaced seen hlead .nil
    · exact fault_remaining_of_isLexeme seen hlead hl
  rejected := by
    intro behind
    obtain ⟨t, hnext⟩ := next_between_of_breaks seen hlead h behind
    rw [List.append_assoc, remaining_of_failed hnext]
    exact ⟨rfl, fault_of_next_eq_failed hnext⟩

/-- A lexeme in front of a text that breaks is one more argument and changes nothing else. -/
theorem BreaksAt.cons {seen lead raw name value front behind : List Char} {closed : Bool}
    {d : Char} {arguments : List Argument} {f : Fault}
    (h : BreaksAt (seen ++ (lead ++ raw)) front d arguments f) (hlead : IsGap lead)
    (hl : IsLexeme raw name value closed)
    (hstop : closed = false → Stops (front ++ d :: behind)) :
    BreaksAt seen (lead ++ (raw ++ front)) d
      (⟨String.ofList raw, String.ofList name, String.ofList value,
        (seen.length + lead.length : Nat)⟩ :: arguments) f where
  accepted := by
    rw [remaining_between hlead hl fun hc => (hstop hc).of_append]
    exact h.accepted
  rejected := by
    intro other
    have hother : closed = false → Stops (front ++ d :: other) := by
      intro hc
      have hstops := hstop hc
      rw [List.append_cons] at hstops ⊢
      exact hstops.of_append.append (by simp) other
    rw [show lead ++ (raw ++ front) ++ d :: other = lead ++ (raw ++ (front ++ d :: other)) by simp,
      remaining_between hlead hl hother]
    obtain ⟨harguments, hfault⟩ := h.rejected other
    exact ⟨by rw [harguments], hfault⟩

/-- Nothing is left to complain about at the end of a text. -/
theorem fault_remaining_between_nil (seen : List Char) :
    (between seen []).remaining.2.fault = none :=
  fault_remaining_of_spaced seen (show IsGap [] by simp [IsGap]) .nil

/--
A text with a fault breaks at a character, or its end stands inside a quoted value that
more text can close.
-/
theorem breaksAt_or_open {seen cs : List Char} {f : Fault}
    (h : (between seen cs).remaining.2.fault = some f) :
    (∃ front d behind c word, cs = front ++ d :: behind ∧ Breaks word d c ∧
      f = faultBehind (seen ++ front) d c ∧
      BreaksAt seen front d (between seen cs).remaining.1 f) ∨
    (f = ⟨.unterminatedQuote, (seen ++ cs).length, utf8Length (seen ++ cs)⟩ ∧
      ∃ more, more ≠ [] ∧ (between seen (cs ++ more)).remaining.2.fault = none) := by
  generalize hs : between seen cs = s at h ⊢
  induction s using remaining.induct generalizing seen cs with
  | case1 s a t hnext hlt ih =>
    subst hs
    rw [remaining_of_argument hnext] at h ⊢
    obtain ⟨lead, raw, name, value, closed, rest, rfl, hlead, hl, hstop, rfl, rfl⟩ :=
      exists_of_next_between hnext
    rcases ih rfl h with
      ⟨front, d, behind, c, word, rfl, hword, hf, hbreaks⟩ | ⟨hf, more, hne, hread⟩
    · refine .inl ⟨lead ++ (raw ++ front), d, behind, c, word, by simp, hword, ?_, ?_⟩
      · rw [hf]
        simp
      · exact hbreaks.cons hlead hl hstop
    · refine .inr ⟨by rw [hf]; simp, more, hne, ?_⟩
      have hrest : rest ≠ [] := by
        rintro rfl
        rw [fault_remaining_between_nil] at h
        cases h
      rw [List.append_assoc, List.append_assoc,
        remaining_between hlead hl fun hc => (hstop hc).append hrest more]
      exact hread
  | case2 s t hnext =>
    subst hs
    rw [remaining_of_finished hnext] at h
    rw [next_of_gap rfl (isGap_of_next_eq_finished hnext), Prod.mk.injEq] at hnext
    rw [← hnext.2] at h
    cases h
  | case3 s g t hnext =>
    subst hs
    rw [remaining_of_failed hnext] at h ⊢
    rw [fault_of_next_eq_failed hnext, Option.some.injEq] at h
    obtain ⟨lead, e, text, stop, rfl, hlead, -, hscan, rfl⟩ := exists_of_next_eq_failed hnext
    generalize e :: text = word at h hscan ⊢
    rcases exists_breaks_of_scanArgument hscan with
      ⟨front, d, behind, rfl, hbreaks, hrest⟩ | ⟨rfl, more, name, value, hne, hl⟩
    · have hf : f = faultBehind (seen ++ (lead ++ front)) d stop.complaint := by
        rw [← h, ← faultAt_left seen (lead ++ front) d behind, ← hrest, List.append_assoc lead]
      refine .inl ⟨lead ++ front, d, behind, stop.complaint, front, by simp, hbreaks, hf, ?_⟩
      rw [hf]
      exact breaksAt_of_breaks hlead hbreaks
    · refine .inr ⟨?_, more, hne, ?_⟩
      · rw [← h, faultAt_nil]
      · rw [List.append_assoc]
        exact fault_remaining_of_isLexeme seen hlead hl

end Scanner

/-! ## Places in lines -/

/-- A line is rejected exactly with the fault that its scanner ends with. -/
theorem tokenize_eq_error_iff {line : String} {f : LineFault} :
    tokenize line = .error f ↔
      ∃ g, (Scanner.ofLine line).remaining.2.fault = some g ∧ LineFault.ofFault g = f := by
  simp only [tokenize, Source.ofLine, Source.ofScanner]
  cases (Scanner.ofLine line).remaining.2.fault <;> simp

/-- A line without a fault is divided into arguments. -/
theorem exists_tokenize_of_fault {line : String}
    (h : (Scanner.ofLine line).remaining.2.fault = none) :
    ∃ arguments, tokenize line = .ok arguments := by
  simp only [tokenize, Source.ofLine, Source.ofScanner, h]
  exact ⟨_, rfl⟩

/-- A line whose first argument cannot be scanned is rejected with that fault. -/
theorem tokenize_of_next_eq_failed {line : String} {g : Fault} {t : Scanner}
    (h : (Scanner.ofLine line).next = (.failed g, t)) :
    tokenize line = .error (.ofFault g) := by
  refine tokenize_eq_error_iff.2 ⟨g, ?_, rfl⟩
  rw [Scanner.remaining_of_failed h]
  exact Scanner.fault_of_next_eq_failed h

/--
The character at an index makes a line malformed: the text in front of it is read, and
every line that is the same up to and including this character gives the same arguments
and then the same fault.
-/
structure Offends (line : String) (i : Nat) (f : LineFault) : Prop where
  /-- The text in front of the character is read. -/
  accepted : ∃ arguments, tokenize (String.ofList (line.toList.take i)) = .ok arguments
  /-- Nothing behind the character can mend the line. -/
  rejected : ∀ other : String, line.toList.take (i + 1) <+: other.toList →
    (Source.ofLine other).arguments = (Source.ofLine line).arguments ∧ tokenize other = .error f

/-- Where the scanner of a line breaks, a character makes the line malformed. -/
theorem offends_of_breaksAt {line : String} {front behind : List Char} {d : Char} {f : Fault}
    (hline : line.toList = front ++ d :: behind)
    (h : Scanner.BreaksAt [] front d (Scanner.ofLine line).remaining.1 f) :
    Offends line front.length (.ofFault f) where
  accepted := by
    rw [hline, List.take_left]
    apply exists_tokenize_of_fault
    rw [Scanner.ofLine_eq_between, String.toList_ofList]
    exact h.accepted
  rejected := by
    intro other hother
    obtain ⟨more, hmore⟩ := hother
    have htake : line.toList.take (front.length + 1) = front ++ [d] := by
      rw [hline, List.append_cons]
      exact List.take_left' (by simp)
    rw [htake, List.append_assoc, List.singleton_append] at hmore
    obtain ⟨harguments, hfault⟩ := h.rejected more
    rw [hmore, ← Scanner.ofLine_eq_between] at harguments hfault
    exact ⟨harguments, tokenize_eq_error_iff.2 ⟨f, hfault, rfl⟩⟩

/--
A fault points at the exact place.  Its index counts the characters and its offset the
bytes in front of the place, and its wording gives the offset.  Either a character makes
the line malformed: a control character or a leading separator stands right behind the
place, a second separator right in front of it.  Or the place is the end of the line, and
some longer line that begins like this one is read.
-/
theorem fault_place {line : String} {f : LineFault} (h : tokenize line = .error f) :
    ∃ i : Nat, f.index = i ∧ i ≤ line.length ∧
      f.offset = ((String.ofList (line.toList.take i)).utf8ByteSize : Nat) ∧
      ((∃ c, line.toList[i]? = some c ∧ isControl c = true ∧ isBlank c = false ∧
          f.message = "unexpected character at pos " ++ toString f.offset ++ ": " ++
            quoted (String.singleton c) ∧ Offends line i f) ∨
        (line.toList[i]? = some '=' ∧
          f.message = "arguments may not start with the name separator = at position " ++
            toString f.offset ∧ Offends line i f) ∨
        (∃ j, i = j + 1 ∧ line.toList[j]? = some '=' ∧
          f.message = "argument contains multiple name separators = as position " ++
            toString f.offset ∧ Offends line j f) ∨
        (i = line.length ∧
          f.message = "unterminated quote as position " ++ toString f.offset ∧
          ∃ more, more ≠ "" ∧ ∃ arguments, tokenize (line ++ more) = .ok arguments)) := by
  obtain ⟨g, hfault, rfl⟩ := tokenize_eq_error_iff.1 h
  rw [Scanner.ofLine_eq_between] at hfault
  rcases Scanner.breaksAt_or_open hfault with
    ⟨front, d, behind, c, word, hline, hword, hg, hbreaks⟩ | ⟨hg, more, hne, hread⟩
  · have hoffends := offends_of_breaksAt hline hbreaks
    have hlength : line.length = front.length + (behind.length + 1) := by
      rw [← String.length_toList, hline, List.length_append, List.length_cons]
    have hd : line.toList[front.length]? = some d := by simp [hline]
    have hfront : line.toList.take front.length = front := by
      rw [hline]
      exact List.take_left
    rw [List.nil_append] at hg
    rcases hword.complaint_cases with ⟨rfl, hcontrol, hblank⟩ | ⟨rfl, rfl⟩ | ⟨rfl, rfl⟩
    · subst hg
      refine ⟨front.length, rfl, by omega, ?_,
        .inl ⟨d, hd, hcontrol, hblank, rfl, hoffends⟩⟩
      rw [hfront, ← utf8Length_eq_utf8ByteSize]
      rfl
    · subst hg
      refine ⟨front.length, rfl, by omega, ?_, .inr (.inl ⟨hd, rfl, hoffends⟩)⟩
      rw [hfront, ← utf8Length_eq_utf8ByteSize]
      rfl
    · subst hg
      have hbehind : line.toList.take (front.length + 1) = front ++ [nameSeparator] := by
        rw [hline, List.append_cons]
        exact List.take_left' (by simp)
      refine ⟨front.length + 1, ?_, by omega, ?_,
        .inr (.inr (.inl ⟨front.length, rfl, hd, rfl, hoffends⟩))⟩
      · simp [LineFault.ofFault, Scanner.faultBehind]
      · rw [hbehind, ← utf8Length_eq_utf8ByteSize]
        rfl
  · subst hg
    refine ⟨line.length, ?_, le_rfl, ?_, .inr (.inr (.inr ⟨rfl, rfl, String.ofList more, ?_, ?_⟩))⟩
    · rw [← String.length_toList]
      rfl
    · rw [← String.length_toList, List.take_length, ← utf8Length_eq_utf8ByteSize]
      rfl
    · simpa using hne
    · apply exists_tokenize_of_fault
      rw [Scanner.ofLine_eq_between, String.toList_append, String.toList_ofList]
      exact hread

/-- A line with a letter of two bytes in front of its second separator. -/
def doubledLine : String := "ä=b=c d"

/-- Its fault, with the place counted in characters and in bytes. -/
def doubledFault : LineFault := ⟨.complaint .repeatedSeparator, 4, 5⟩

/-- The fault of a second separator points at the separator in front of its place. -/
theorem fault_place_doubled :
    tokenize doubledLine = .error doubledFault ∧ Offends doubledLine 3 doubledFault := by
  obtain ⟨t, hnext⟩ : ∃ t, (Scanner.ofLine doubledLine).next =
      (.failed ⟨.repeatedSeparator, 4, 5⟩, t) := ⟨_, by rfl⟩
  have h : tokenize doubledLine = .error doubledFault := tokenize_of_next_eq_failed hnext
  refine ⟨h, ?_⟩
  obtain ⟨i, hindex, -, -, hcases⟩ := fault_place h
  obtain rfl : 4 = i := Int.ofNat.inj hindex
  have hc : doubledLine.toList[4]? = some 'c' := by rfl
  rcases hcases with ⟨c, hcontrol, hc', -⟩ | ⟨hsep, -⟩ | ⟨j, hj, -, -, hoffends⟩ | ⟨hend, -⟩
  · rw [hc, Option.some.injEq] at hcontrol
    subst hcontrol
    exact absurd hc' (by decide)
  · rw [hc] at hsep
    exact absurd hsep (by decide)
  · obtain rfl : 3 = j := Nat.succ.inj hj
    exact hoffends
  · exact absurd hend (by decide)

end TypedCommands.Line
