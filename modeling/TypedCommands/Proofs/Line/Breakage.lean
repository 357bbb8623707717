import TypedCommands.Proofs.Line.Grammar

/-!
# Where lexemes break

A text that is no lexeme breaks at one character: the text in front of it could have been
a lexeme, and no lexeme goes on with it.  The scanner stops at this character, whatever
stands behind it.  Only a quoted value has no such character; it breaks where the text
ends, and more text can close it.

Main results:

- Theorem `scanArgument_of_breaks`: at a character that breaks a lexeme scanning fails,
  whatever follows.
- Theorem `exists_breaks_of_scanArgument`: scanning fails at such a character, or at the
  end of a text that can still be closed.
- Theorem `Breaks.front_isLexeme`: what stands in front of the character is a lexeme.
-/

namespace TypedCommands.Line

open TypedCommands.Text

/-! ## Characters that break units and lexemes -/

/-- The text of a unit in front of a character that no unit goes on with. -/
inductive UnitBreaks : List Char → Char → Complaint → Prop
  | control {w : List Char} {d : Char} :
      (w = [] ∨ IsBareWord w) → isControl d = true → isBlank d = false →
      UnitBreaks w d (.unexpected d)
  | separator : UnitBreaks [] nameSeparator .leadingSeparator

/-- The text of a lexeme in front of a character that no lexeme goes on with. -/
inductive Breaks : List Char → Char → Complaint → Prop
  | unit {w : List Char} {d : Char} {c : Complaint} : UnitBreaks w d c → Breaks w d c
  | value {name w : List Char} {d : Char} {c : Complaint} :
      IsBareWord name → UnitBreaks w d c → Breaks (name ++ nameSeparator :: w) d c
  | again {name w : List Char} :
      IsBareWord name → IsBareWord w →
      Breaks (name ++ nameSeparator :: w) nameSeparator .repeatedSeparator

/-- What is left to scan at a complaint: a second separator has been read, others have not. -/
def Complaint.left (c : Complaint) (d : Char) (behind : List Char) : List Char :=
  if c = .repeatedSeparator then behind else d :: behind

theorem isQuote_of_isControl {d : Char} (h : isControl d = true) : isQuote d = false := by
  by_contra hq
  simp only [isQuote, Bool.not_eq_false, Bool.or_eq_true, beq_iff_eq] at hq
  rcases hq with rfl | rfl <;> exact absurd h (by decide)

theorem ne_nameSeparator_of_isControl {d : Char} (h : isControl d = true) :
    d ≠ nameSeparator := by
  rintro rfl
  exact absurd h (by decide)

theorem UnitBreaks.left_eq {w : List Char} {d : Char} {c : Complaint} (h : UnitBreaks w d c)
    (behind : List Char) : c.left d behind = d :: behind := by
  cases h <;> rfl

/-- In front of a character that breaks a unit stands nothing or a bare word. -/
theorem UnitBreaks.front_isBareWord {w : List Char} {d : Char} {c : Complaint}
    (h : UnitBreaks w d c) : w = [] ∨ IsBareWord w := by
  cases h with
  | control hw _ _ => exact hw
  | separator => exact .inl rfl

/-- A character that breaks a unit is no blank. -/
theorem UnitBreaks.isBlank_eq {w : List Char} {d : Char} {c : Complaint}
    (h : UnitBreaks w d c) : isBlank d = false := by
  cases h with
  | control _ _ hd => exact hd
  | separator => decide

/-- In front of a character that breaks a lexeme stands nothing or a lexeme. -/
theorem Breaks.front_isLexeme {front : List Char} {d : Char} {c : Complaint}
    (h : Breaks front d c) : front = [] ∨ ∃ name value, IsLexeme front name value false := by
  cases h with
  | unit hw =>
    rcases hw.front_isBareWord with rfl | hw
    · exact .inl rfl
    · exact .inr ⟨_, _, .unnamed (.bare hw)⟩
  | value hn hw =>
    rcases hw.front_isBareWord with rfl | hw
    · exact .inr ⟨_, _, .empty hn⟩
    · exact .inr ⟨_, _, .named hn (.bare hw)⟩
  | again hn hw => exact .inr ⟨_, _, .named hn (.bare hw)⟩

/-- A lexeme breaks at a control character that is no blank, or at a separator. -/
theorem Breaks.complaint_cases {front : List Char} {d : Char} {c : Complaint}
    (h : Breaks front d c) :
    (c = .unexpected d ∧ isControl d = true ∧ isBlank d = false) ∨
      (c = .leadingSeparator ∧ d = nameSeparator) ∨
      (c = .repeatedSeparator ∧ d = nameSeparator) := by
  have hunit : ∀ {w}, UnitBreaks w d c →
      (c = .unexpected d ∧ isControl d = true ∧ isBlank d = false) ∨
        (c = .leadingSeparator ∧ d = nameSeparator) := by
    intro w hw
    cases hw with
    | control _ hd hblank => exact .inl ⟨rfl, hd, hblank⟩
    | separator => exact .inr ⟨rfl, rfl⟩
  cases h with
  | unit hw => exact (hunit hw).imp_right .inl
  | value _ hw => exact (hunit hw).imp_right .inl
  | again _ _ => exact .inr (.inr ⟨rfl, rfl⟩)

/-- Up to the character that breaks it, a lexeme does not begin with a blank. -/
theorem Breaks.exists_head {front : List Char} {d : Char} {c : Complaint}
    (h : Breaks front d c) (behind : List Char) :
    ∃ e cs, front ++ d :: behind = e :: cs ∧ isBlank e = false := by
  rcases h.front_isLexeme with rfl | ⟨name, value, hl⟩
  · refine ⟨d, behind, rfl, ?_⟩
    generalize hfront : ([] : List Char) = front at h
    cases h with
    | unit hw => exact hw.isBlank_eq
    | value _ _ => simp at hfront
    | again _ _ => simp at hfront
  · obtain ⟨e, cs, rfl, he⟩ := hl.exists_head
    exact ⟨e, cs ++ d :: behind, rfl, he⟩

/-! ## Scanning up to the break -/

/-- A word breaks at a control character. -/
theorem scanWord_append_control {w : List Char} (hw : ∀ c ∈ w, isWord c = true) {d : Char}
    (hd : isControl d = true) (hblank : isBlank d = false) (behind : List Char) :
    scanWord (w ++ d :: behind) = .error ⟨.unexpected d, d :: behind⟩ := by
  have hword : isWord d = false := by simp [isWord, hd]
  rw [scanWord, List.dropWhile_append_of_pos hw]
  simp [hword, hblank, ne_nameSeparator_of_isControl hd]

/-- A unit is scanned up to the character that breaks it. -/
theorem scanUnit_of_breaks {w : List Char} {d : Char} {c : Complaint} (h : UnitBreaks w d c)
    (behind : List Char) : scanUnit (w ++ d :: behind) = .error ⟨c, d :: behind⟩ := by
  cases h with
  | control hw hd hblank =>
    rcases hw with rfl | hw
    · rw [List.nil_append, scanUnit, if_neg (by simp [isQuote_of_isControl hd]),
        if_neg (ne_nameSeparator_of_isControl hd)]
      exact scanWord_append_control (w := []) (by simp) hd hblank behind
    · rw [scanUnit_bareWord hw]
      exact scanWord_append_control hw.isWord hd hblank behind
  | separator => rfl

/-- A lexeme is scanned up to the character that breaks it. -/
theorem scanArgument_of_breaks {front : List Char} {d : Char} {c : Complaint}
    (h : Breaks front d c) (behind : List Char) :
    scanArgument (front ++ d :: behind) = .error ⟨c, c.left d behind⟩ := by
  cases h with
  | unit hw => simp [scanArgument, scanUnit_of_breaks hw, hw.left_eq]
  | value hn hw =>
    rw [List.append_assoc, List.cons_append, scanArgument, scanUnit_name hn]
    simp [scanUnit_of_breaks hw, hw.left_eq]
  | again hn hw =>
    rw [List.append_assoc, List.cons_append, scanArgument, scanUnit_name hn]
    simp [scanUnit_name hw, Complaint.left]

/-! ## Every break is one of these -/

/-- A word ends in a fault only at a control character. -/
theorem of_scanWord_eq_error {cs : List Char} {stop : Stop} (h : scanWord cs = .error stop) :
    ∃ d behind, cs = cs.takeWhile isWord ++ d :: behind ∧ isControl d = true ∧
      isBlank d = false ∧ stop = ⟨.unexpected d, d :: behind⟩ := by
  have htext := List.takeWhile_append_dropWhile (p := isWord) (l := cs)
  simp only [scanWord] at h
  split at h
  · cases h
  · next d behind hd =>
    split at h
    · cases h
    · next hblank =>
      split at h
      · cases h
      · next hsep =>
        cases h
        rw [hd] at htext
        refine ⟨d, behind, htext.symm, ?_, by simpa using hblank, rfl⟩
        have hword : isWord d = false := not_of_dropWhile_eq_cons hd
        simpa [isWord, hblank, hsep] using hword

/-- A quoted body that nothing closes can be closed behind one more character. -/
theorem guarded_of_scanBody_eq_none {q previous : Char} {cs : List Char} (hq : isQuote q = true)
    (h : scanBody q previous cs = none) : Guarded q previous (cs ++ [' ']) := by
  induction cs generalizing previous with
  | nil =>
    refine ⟨?_, show ' ' ≠ escapeChar by decide⟩
    rintro rfl
    exact absurd hq (by decide)
  | cons c cs ih =>
    rw [scanBody] at h
    split at h
    · cases h
    · next hstop =>
      refine ⟨fun hc => ?_, ih (by simpa using h)⟩
      by_contra hprevious
      exact hstop ⟨hc, hprevious⟩

/-- A body without an end can be continued to a quoted unit. -/
theorem exists_isUnit_of_scanBody_eq_none {q : Char} {cs : List Char} (hq : isQuote q = true)
    (h : scanBody q q cs = none) :
    ∃ more value, more ≠ [] ∧ IsUnit (q :: cs ++ more) value true := by
  have hbody : IsQuotedBody q (cs ++ [' ']) :=
    (isQuotedBody_iff_guarded hq _).2 (guarded_of_scanBody_eq_none hq h)
  refine ⟨[' ', q], unescape q (cs ++ [' ']), by simp, ?_⟩
  simpa using IsUnit.quoted hq hbody ((unescaped_iff q _ _).2 rfl)

/-- A unit breaks at a character, or it is a quoted one that can still be closed. -/
theorem exists_breaks_of_scanUnit {cs : List Char} {stop : Stop} (h : scanUnit cs = .error stop) :
    (∃ w d behind, cs = w ++ d :: behind ∧ UnitBreaks w d stop.complaint ∧
      stop.rest = d :: behind) ∨
    (stop = ⟨.unterminatedQuote, []⟩ ∧
      ∃ more value, more ≠ [] ∧ IsUnit (cs ++ more) value true) := by
  cases cs with
  | nil => cases h
  | cons c cs =>
    rw [scanUnit] at h
    split at h
    · next hq =>
      split at h
      · next hbody =>
        cases h
        exact .inr ⟨rfl, exists_isUnit_of_scanBody_eq_none hq (scanQuoted_eq_none_iff.1 hbody)⟩
      · cases h
    · next hq =>
      split at h
      · next hsep =>
        cases h
        subst hsep
        exact .inl ⟨[], nameSeparator, cs, rfl, .separator, rfl⟩
      · obtain ⟨d, behind, htext, hd, hblank, rfl⟩ := of_scanWord_eq_error h
        refine .inl ⟨_, d, behind, htext, .control ?_ hd hblank, rfl⟩
        -- The characters in front are word characters, and the first of them is no quote.
        cases hword : (c :: cs).takeWhile isWord with
        | nil => exact .inl rfl
        | cons e w =>
          have he : e = c := by
            rw [hword, List.cons_append] at htext
            exact (List.cons.inj htext).1.symm
          refine .inr (isBareWord_of_isWord ?_ (by simpa [he] using hq))
          intro b hb
          rw [← hword] at hb
          exact List.mem_takeWhile_imp hb

/-- A unit that turns out to be a name is a bare word in front of a separator. -/
theorem of_scanUnit_named {cs : List Char} {u : Scanned} (h : scanUnit cs = .ok u)
    (hnamed : u.named = true) :
    IsBareWord u.value ∧ cs = u.value ++ nameSeparator :: u.rest := by
  rcases of_scanUnit_eq_ok h with ⟨-, hn, htext⟩ | ⟨hno, -⟩ | ⟨hno, -⟩
  · exact ⟨hn, htext⟩
  · simp [hnamed] at hno
  · simp [hnamed] at hno

/-- Scanning an argument fails where it breaks, or at the end of a quoted value. -/
theorem exists_breaks_of_scanArgument {cs : List Char} {stop : Stop}
    (h : scanArgument cs = .error stop) :
    (∃ front d behind, cs = front ++ d :: behind ∧ Breaks front d stop.complaint ∧
      stop.rest = stop.complaint.left d behind) ∨
    (stop = ⟨.unterminatedQuote, []⟩ ∧
      ∃ more name value, more ≠ [] ∧ IsLexeme (cs ++ more) name value true) := by
  rw [scanArgument] at h
  cases hfirst : scanUnit cs with
  | error first =>
    simp only [hfirst, Except.error.injEq] at h
    subst h
    rcases exists_breaks_of_scanUnit hfirst with
      ⟨w, d, behind, rfl, hw, hrest⟩ | ⟨hstop, more, value, hmore, hu⟩
    · exact .inl ⟨w, d, behind, rfl, .unit hw, by rw [hrest, hw.left_eq]⟩
    · exact .inr ⟨hstop, more, [], value, hmore, .unnamed hu⟩
  | ok first =>
    simp only [hfirst] at h
    split at h
    · next hnamed =>
      obtain ⟨hn, rfl⟩ := of_scanUnit_named hfirst hnamed
      cases hsecond : scanUnit first.rest with
      | error second =>
        simp only [hsecond, Except.error.injEq] at h
        subst h
        rcases exists_breaks_of_scanUnit hsecond with
          ⟨w, d, behind, hrest, hw, hleft⟩ | ⟨hstop, more, value, hmore, hu⟩
        · refine .inl ⟨_, d, behind, ?_, .value hn hw, by rw [hleft, hw.left_eq]⟩
          rw [hrest, List.append_assoc, List.cons_append]
        · refine .inr ⟨hstop, more, first.value, value, hmore, ?_⟩
          rw [List.append_assoc, List.cons_append]
          exact .named hn hu
      | ok second =>
        simp only [hsecond] at h
        split at h
        · next hagain =>
          cases h
          obtain ⟨hw, hrest⟩ := of_scanUnit_named hsecond hagain
          refine .inl ⟨_, nameSeparator, second.rest, ?_, .again hn hw, rfl⟩
          rw [hrest, List.append_assoc, List.cons_append]
        · cases h
    · cases h

end TypedCommands.Line
