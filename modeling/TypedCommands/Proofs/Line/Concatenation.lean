import Mathlib.Data.List.Forall2
import TypedCommands.Proofs.Line.FaultPlace
import TypedCommands.Proofs.Line.Spelling

/-!
# Lines that are put together

What a scanner answers depends on the text it has in front of it.  The text that was read
before decides only where things are: it moves every start and the place of a fault.  And
an accepted text is read to its end as if nothing followed, provided a blank follows.  So a
line that is put together from an accepted text, blanks and another text gives the arguments
of the one, then the arguments of the other, and ends as the other does.

Main results:

- Theorem `Scanner.remaining_behind`: a text behind another one is read as it is alone, with
  all places moved.
- Theorem `Scanner.remaining_append`: an accepted text is read as it is alone, in front of a
  text that begins with a blank.
- Theorem `ofLine_concatenation`: the arguments and the end of a line that is put together,
  and the arguments of a line that is made of raw texts.
-/

namespace TypedCommands

open TypedCommands.Text TypedCommands.Line

/-! ## Places behind a text -/

/-- The argument when its line is put behind a text. -/
def Argument.behind (a : Argument) (text : String) : Argument :=
  { a with start := a.start + text.length }

/-- The fault when its line is put behind a text: its index counts characters, its offset bytes. -/
def LineFault.behind (f : LineFault) (text : String) : LineFault :=
  { f with index := f.index + text.length, offset := f.offset + text.utf8ByteSize }

/-- Where an argument starts is no part of what it agrees with. -/
theorem Argument.agrees_behind (a b : Argument) (text : String) :
    (a.behind text).agrees b = a.agrees b := rfl

/-- The wording of a scanner's fault holds the offset as a number and is fixed around it. -/
theorem exists_message_eq (c : Complaint) :
    ∃ before after, ∀ index offset, LineFault.message ⟨.complaint c, index, offset⟩ =
      before ++ toString offset ++ after := by
  cases c with
  | leadingSeparator =>
    refine ⟨"arguments may not start with the name separator = at position ", "", ?_⟩
    intro index offset
    rw [LineFault.message, String.append_empty]
  | repeatedSeparator =>
    refine ⟨"argument contains multiple name separators = as position ", "", ?_⟩
    intro index offset
    rw [LineFault.message, String.append_empty]
  | unexpected c =>
    refine ⟨"unexpected character at pos ", ": " ++ quoted (String.singleton c), ?_⟩
    intro index offset
    simp only [LineFault.message, String.append_assoc]
  | unterminatedQuote =>
    refine ⟨"unterminated quote as position ", "", ?_⟩
    intro index offset
    rw [LineFault.message, String.append_empty]

namespace Line

/-- A scanner's fault when its line is put behind a text. -/
def Fault.behind (f : Fault) (text : List Char) : Fault :=
  ⟨f.complaint, f.index + text.length, f.offset + utf8Length text⟩

/-- A fault lies behind a text as the fault of the scanner does. -/
theorem ofFault_behind (f : Fault) (text : String) :
    LineFault.ofFault (f.behind text.toList) = (LineFault.ofFault f).behind text := by
  have hbytes : utf8Length text.toList = text.utf8ByteSize := by
    rw [utf8Length_eq_utf8ByteSize, String.ofList_toList]
  have hlength : text.toList.length = text.length := String.length_toList
  simp [LineFault.ofFault, LineFault.behind, Fault.behind, hbytes, hlength]

theorem utf8Length_append (xs ys : List Char) :
    utf8Length (xs ++ ys) = utf8Length xs + utf8Length ys := by
  rw [utf8Length_eq_utf8ByteSize, utf8Length_eq_utf8ByteSize, utf8Length_eq_utf8ByteSize,
    String.ofList_append, String.utf8ByteSize_append]

/-- Where scanning of an argument stops, the rest of the text is left. -/
theorem exists_append_of_scanArgument {cs : List Char} {stop : Stop}
    (h : scanArgument cs = .error stop) : ∃ scanned, cs = scanned ++ stop.rest := by
  rcases exists_breaks_of_scanArgument h with ⟨front, d, behind, rfl, -, hrest⟩ | ⟨rfl, -⟩
  · rw [hrest, Complaint.left]
    split
    · exact ⟨front ++ [d], List.append_cons front d behind⟩
    · exact ⟨front, rfl⟩
  · exact ⟨cs, (List.append_nil cs).symm⟩

namespace Scanner

/-! ## What was read before -/

/-- The fault of a text behind another one is its fault alone, moved. -/
theorem faultAt_behind (text seen front rest : List Char) (c : Complaint) :
    (between (text ++ seen) (front ++ rest)).faultAt ⟨c, rest⟩ =
      ((between seen (front ++ rest)).faultAt ⟨c, rest⟩).behind text := by
  rw [faultAt_append, faultAt_append, Fault.behind, Fault.mk.injEq]
  refine ⟨rfl, ?_, ?_⟩
  · simp only [List.length_append]
    omega
  · simp only [utf8Length_append]
    omega

/-- A call that fails does so behind a text as well, with the fault moved. -/
theorem next_failed_behind (text : List Char) {seen cs : List Char} {f : Fault} {t : Scanner}
    (h : (between seen cs).next = (.failed f, t)) :
    ∃ u, (between (text ++ seen) cs).next = (.failed (f.behind text), u) := by
  obtain ⟨lead, e, word, stop, rfl, hlead, he, hscan, rfl⟩ := exists_of_next_eq_failed h
  obtain ⟨scanned, hword⟩ := exists_append_of_scanArgument hscan
  have hfault := faultAt_behind text seen (lead ++ scanned) stop.rest stop.complaint
  rw [List.append_assoc, ← hword] at hfault
  rw [← hfault]
  exact ⟨_, next_between_of_error (text ++ seen) hlead rfl he hscan⟩

/-- Behind a text another one is read as it is alone, with all places moved. -/
theorem remaining_behind (text seen cs : List Char) :
    (between (text ++ seen) cs).remaining.1 =
        (between seen cs).remaining.1.map (·.behind (String.ofList text)) ∧
      (between (text ++ seen) cs).remaining.2.fault =
        (between seen cs).remaining.2.fault.map (·.behind text) := by
  generalize hs : between seen cs = s
  -- What was read grows from call to call; the text in front of it stays the same.
  induction s using remaining.induct generalizing seen cs with
  | case1 s a t hnext hlt ih =>
    subst hs
    rw [remaining_of_argument hnext]
    obtain ⟨lead, raw, name, value, closed, rest, rfl, hlead, hl, hstop, rfl, rfl⟩ :=
      exists_of_next_between hnext
    rw [remaining_between hlead hl hstop, List.append_assoc text]
    obtain ⟨harguments, hfault⟩ := ih _ _ rfl
    refine ⟨?_, hfault⟩
    have hstart : (((text ++ seen).length + lead.length : Nat) : Int) =
        (seen.length + lead.length : Nat) + (String.ofList text).length := by
      simp only [List.length_append, String.length_ofList]
      omega
    rw [harguments, hstart]
    rfl
  | case2 s t hnext =>
    subst hs
    have hgap : IsGap cs := isGap_of_next_eq_finished hnext
    rw [remaining_of_finished (next_of_gap rfl hgap), remaining_of_finished (next_of_gap rfl hgap)]
    exact ⟨rfl, rfl⟩
  | case3 s f t hnext =>
    subst hs
    obtain ⟨u, hmoved⟩ := next_failed_behind text hnext
    rw [remaining_of_failed hnext, remaining_of_failed hmoved]
    refine ⟨rfl, ?_⟩
    rw [fault_of_next_eq_failed hnext, fault_of_next_eq_failed hmoved]
    rfl

/-! ## What follows -/

/-- Blanks are skipped: it does not matter on which side of the place they are. -/
theorem next_between_gap (seen : List Char) {gap : List Char} (hgap : IsGap gap)
    (cs : List Char) : (between seen (gap ++ cs)).next = (between (seen ++ gap) cs).next := by
  simp only [next, between, faultAt, List.dropWhile_append_of_pos hgap, List.append_assoc]

/-- What remains depends on the next call only. -/
theorem remaining_eq_of_next_eq {s t : Scanner} (h : s.next = t.next) :
    s.remaining = t.remaining := by
  cases hnext : t.next with
  | mk answer u =>
    rw [hnext] at h
    cases answer with
    | argument a => rw [remaining_of_argument hnext, remaining_of_argument h]
    | finished => rw [remaining_of_finished hnext, remaining_of_finished h]
    | failed f => rw [remaining_of_failed hnext, remaining_of_failed h]

/-- An accepted text is read as it is alone, in front of a text that ends an open lexeme. -/
theorem remaining_append {seen cs more : List Char}
    (h : (between seen cs).remaining.2.fault = none) (hmore : Stops more) :
    (between seen (cs ++ more)).remaining =
      ((between seen cs).remaining.1 ++ (between (seen ++ cs) more).remaining.1,
        (between (seen ++ cs) more).remaining.2) := by
  generalize hs : between seen cs = s at h ⊢
  induction s using remaining.induct generalizing seen cs with
  | case1 s a t hnext hlt ih =>
    subst hs
    rw [remaining_of_argument hnext] at h ⊢
    obtain ⟨lead, raw, name, value, closed, rest, rfl, hlead, hl, hstop, rfl, rfl⟩ :=
      exists_of_next_between hnext
    -- At the end of the text the lexeme is stopped by what follows, elsewhere as before.
    have hstops : closed = false → Stops (rest ++ more) := by
      intro hclosed
      by_cases hrest : rest = []
      · rwa [hrest, List.nil_append]
      · exact (hstop hclosed).append hrest more
    have htail := ih rfl h
    rw [List.append_assoc, List.append_assoc, remaining_between hlead hl hstops, htail]
    simp only [List.cons_append, List.append_assoc]
  | case2 s t hnext =>
    subst hs
    have hgap : IsGap cs := isGap_of_next_eq_finished hnext
    rw [remaining_of_finished hnext, remaining_eq_of_next_eq (next_between_gap seen hgap more)]
    rfl
  | case3 s f t hnext =>
    rw [remaining_of_failed hnext, fault_of_next_eq_failed hnext] at h
    cases h

/-- An accepted text, blanks and another text are read one by one, the last one moved. -/
theorem remaining_append_gap {front gap : List Char}
    (h : (between [] front).remaining.2.fault = none) (hne : gap ≠ []) (hgap : IsGap gap)
    (back : List Char) :
    (between [] (front ++ (gap ++ back))).remaining.1 =
        (between [] front).remaining.1 ++
          (between [] back).remaining.1.map (·.behind (String.ofList (front ++ gap))) ∧
      (between [] (front ++ (gap ++ back))).remaining.2.fault =
        (between [] back).remaining.2.fault.map (·.behind (front ++ gap)) := by
  have hstops : Stops (gap ++ back) := by
    obtain ⟨c, cs, rfl⟩ := List.exists_cons_of_ne_nil hne
    exact stops_cons_iff.2 (hgap c List.mem_cons_self)
  have hwhole := remaining_append h hstops
  have hskip := remaining_eq_of_next_eq (next_between_gap front hgap back)
  obtain ⟨hmoved, hend⟩ := remaining_behind (front ++ gap) [] back
  rw [List.append_nil] at hmoved hend
  rw [hwhole, List.nil_append, hskip, hmoved]
  exact ⟨rfl, hend⟩

end Scanner

/-! ## Lines put together -/

/-- What follows an accepted text and blanks is read as it is alone, with all places moved. -/
theorem ofLine_append {front gap : String} {arguments : List Argument}
    (hfront : tokenize front = .ok arguments) (hne : gap ≠ "") (hgap : IsGap gap.toList)
    (back : String) :
    Source.ofLine (front ++ gap ++ back) =
      ⟨arguments ++ (Source.ofLine back).arguments.map (·.behind (front ++ gap)),
        (Source.ofLine back).fault.map (·.behind (front ++ gap))⟩ := by
  have hread := tokenize_eq_ok_iff.1 hfront
  simp only [Source.ofLine, Source.ofScanner, Source.mk.injEq, Option.map_eq_none_iff,
    Scanner.ofLine_eq_between] at hread ⊢
  obtain ⟨harguments, hfault⟩ := hread
  have htext : (front ++ gap ++ back).toList = front.toList ++ (gap.toList ++ back.toList) := by
    simp
  have hplace : front.toList ++ gap.toList = (front ++ gap).toList := String.toList_append.symm
  obtain ⟨hgives, hends⟩ := Scanner.remaining_append_gap hfault
    (mt String.toList_eq_nil_iff.1 hne) hgap back.toList
  rw [hplace, String.ofList_toList, harguments] at hgives
  rw [hplace] at hends
  rw [htext, hgives, hends, Option.map_map, Option.map_map]
  refine ⟨rfl, ?_⟩
  congr 1
  funext f
  exact ofFault_behind f (front ++ gap)

/-- The raw text of an argument is a line that gives the argument and nothing else. -/
theorem exists_tokenize_raw {line : String} {a : Argument}
    (h : a ∈ (Source.ofLine line).arguments) :
    ∃ b, tokenize a.raw = .ok [b] ∧ b.agrees a = true := by
  obtain ⟨closed, hl⟩ := exists_isLexeme_of_mem h
  have hread := tokenize_of_isLexeme hl
  simp only [String.ofList_toList] at hread
  exact ⟨_, hread, by simp [Argument.agrees]⟩

/-- The empty line has no arguments. -/
theorem tokenize_empty : tokenize "" = .ok [] := by
  have hgap : IsGap (Scanner.ofLine "").rest := by
    intro c hc
    cases hc
  rw [tokenize_eq_ok_iff, Source.ofLine, Source.ofScanner,
    Scanner.remaining_of_finished (Scanner.next_of_gap rfl hgap)]
  rfl

/-- Raw texts with single spaces between them are read back as the arguments they belong to. -/
theorem exists_tokenize_join {given : List Argument}
    (h : ∀ a ∈ given, ∃ line, a ∈ (Source.ofLine line).arguments) :
    ∃ read, tokenize (" ".intercalate (given.map (·.raw))) = .ok read ∧
      List.Forall₂ (fun b a => b.agrees a = true) read given := by
  have hspace : IsGap " ".toList := by
    intro c hc
    obtain rfl := List.mem_singleton.1 hc
    decide
  induction given with
  | nil => exact ⟨[], tokenize_empty, .nil⟩
  | cons a given ih =>
    obtain ⟨line, ha⟩ := h a List.mem_cons_self
    obtain ⟨b, hb, hagrees⟩ := exists_tokenize_raw ha
    by_cases hgiven : given = []
    · subst hgiven
      exact ⟨[b], by simpa using hb, .cons hagrees .nil⟩
    · obtain ⟨read, hread, hall⟩ := ih fun d hd => h d (List.mem_cons_of_mem a hd)
      have hrest := tokenize_eq_ok_iff.1 hread
      have hwhole := ofLine_append hb (by decide) hspace (" ".intercalate (given.map (·.raw)))
      rw [hrest] at hwhole
      refine ⟨b :: read.map (·.behind (a.raw ++ " ")), ?_, .cons hagrees ?_⟩
      · rw [List.map_cons, String.intercalate_cons_of_ne_nil (by simpa using hgiven),
          tokenize_eq_ok_iff]
        exact hwhole
      · rw [List.forall₂_map_left_iff]
        simp only [Argument.agrees_behind]
        exact hall

/-- The wording of the fault of a line gives its offset, and a text in front moves the number. -/
theorem exists_message_of_fault {line : String} {f : LineFault}
    (h : (Source.ofLine line).fault = some f) :
    ∃ before after, f.message = before ++ toString f.offset ++ after ∧
      ∀ text, (f.behind text).message =
        before ++ toString (f.offset + text.utf8ByteSize) ++ after := by
  obtain ⟨g, -, rfl⟩ := Option.map_eq_some_iff.1 h
  obtain ⟨before, after, hmessage⟩ := exists_message_eq g.complaint
  exact ⟨before, after, hmessage _ _, fun text => hmessage _ _⟩

/--
Lines that are put together.  Behind an accepted text and at least one blank, any text gives
the arguments it gives alone, with every start moved by the number of characters in front
of it.  Then the line ends as that text does: it is finished, or it has the same fault with
the index moved by the number of characters and the offset, which its wording gives, by the
number of bytes.  So raw texts of arguments, from whatever lines, are read back as these
arguments when they are put together with single spaces.
-/
theorem ofLine_concatenation :
    (∀ (front gap : String) (arguments : List Argument), tokenize front = .ok arguments →
      gap ≠ "" → (∀ c ∈ gap.toList, isBlank c = true) →
      ∀ back, Source.ofLine (front ++ gap ++ back) =
          ⟨arguments ++ (Source.ofLine back).arguments.map (·.behind (front ++ gap)),
            (Source.ofLine back).fault.map (·.behind (front ++ gap))⟩ ∧
        ∀ f, (Source.ofLine back).fault = some f →
          ∃ before after, f.message = before ++ toString f.offset ++ after ∧
            (f.behind (front ++ gap)).message =
              before ++ toString (f.offset + (front ++ gap).utf8ByteSize) ++ after) ∧
    ∀ given, (∀ a ∈ given, ∃ line, a ∈ (Source.ofLine line).arguments) →
      ∃ read, tokenize (" ".intercalate (given.map (·.raw))) = .ok read ∧
        List.Forall₂ (fun b a => b.agrees a = true) read given := by
  refine ⟨?_, fun given hgiven => exists_tokenize_join hgiven⟩
  intro front gap arguments hfront hne hgap back
  refine ⟨ofLine_append hfront hne hgap back, ?_⟩
  intro f hf
  obtain ⟨before, after, hmessage, hmoved⟩ := exists_message_of_fault hf
  exact ⟨before, after, hmessage, hmoved (front ++ gap)⟩

/-- Behind one word and a blank, a line with a fault has it three places further on. -/
theorem ofLine_concatenation_doubled :
    Source.ofLine ("go" ++ " " ++ doubledLine) =
      ⟨[⟨"go", "", "go", 0⟩], some ⟨.complaint .repeatedSeparator, 7, 8⟩⟩ := by
  have hword : IsBareWord "go".toList :=
    isBareWord_of_isWord (List.all_eq_true.1 (by decide)) (by decide)
  have hfront : tokenize "go" = .ok [⟨"go", "", "go", 0⟩] :=
    tokenize_of_isLexeme (.unnamed (.bare hword))
  have hgap : ∀ c ∈ " ".toList, isBlank c = true := by
    intro c hc
    obtain rfl := List.mem_singleton.1 hc
    decide
  have hback : Source.ofLine doubledLine = ⟨[], some doubledFault⟩ := by
    obtain ⟨t, hnext⟩ : ∃ t, (Scanner.ofLine doubledLine).next =
        (.failed ⟨.repeatedSeparator, 4, 5⟩, t) := ⟨_, by rfl⟩
    rw [Source.ofLine, Source.ofScanner, Scanner.remaining_of_failed hnext,
      Scanner.fault_of_next_eq_failed hnext]
    rfl
  obtain ⟨hwhole, -⟩ := ofLine_concatenation.1 "go" " " _ hfront (by decide) hgap doubledLine
  rw [hback] at hwhole
  rw [hwhole]
  rfl

end Line

end TypedCommands
