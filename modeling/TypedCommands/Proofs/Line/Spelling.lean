import TypedCommands.Proofs.Line.Run

/-!
# How arguments are spelled

An argument is written down from its name, its value and one thing more: whether the
value stands bare or between quotes, and between which.  The lexemes of the grammar are
exactly what is written like this.  So a value can be typed exactly if one of the two
ways of writing it is open.

Main results:

- Theorem `Unescaped.eq_escape`: a quoted body is its value with a backslash in front of
  each quote.
- Theorem `isQuotedBody_escape`: every text that does not end in a backslash can be put
  between quotes.
- Theorem `isLexeme_iff_spell`: lexemes are the spellings of names and values.
- Theorem `exists_tokenize_singleton_iff`: a line of one argument needs one spelling of it.
- Theorem `typeable_iff`: which values, and which names with which values, some line gives.
-/

namespace TypedCommands.Line

open TypedCommands.Text

/-! ## Spellings -/

/-- How a value is written. -/
inductive Quoting where
  /-- As it is. -/
  | bare
  /-- Between two quotes. -/
  | quoted (q : Char)
  deriving DecidableEq, Repr

/-- The text of a value; between quotes a backslash stands in front of each such quote in it. -/
def Quoting.write : Quoting → List Char → List Char
  | .bare, value => value
  | .quoted q, value => q :: (escape q value ++ [q])

/-- The text in front of a value: its name and the separator, or nothing without a name. -/
def nameText (name : List Char) : List Char :=
  if name = [] then [] else name ++ [nameSeparator]

/-- The text of a name and a value. -/
def spell (name value : List Char) (w : Quoting) : List Char := nameText name ++ w.write value

/-- A text between quotes may be anything that does not end in a backslash. -/
def CanQuote (value : List Char) : Prop := value.getLast? ≠ some escapeChar

/-- The ways that are open to write a name and a value. -/
inductive CanSpell : List Char → List Char → Quoting → Prop
  | word {name value : List Char} :
      (name = [] ∨ IsBareWord name) → IsBareWord value → CanSpell name value .bare
  | nothing {name : List Char} : IsBareWord name → CanSpell name [] .bare
  | quoted {name value : List Char} {q : Char} :
      (name = [] ∨ IsBareWord name) → isQuote q = true → CanQuote value →
      CanSpell name value (.quoted q)

@[simp] theorem Quoting.write_bare (value : List Char) : Quoting.bare.write value = value := rfl

@[simp] theorem nameText_nil : nameText [] = [] := rfl

theorem nameText_of_isBareWord {name : List Char} (hn : IsBareWord name) :
    nameText name = name ++ [nameSeparator] := if_neg hn.ne_nil

/-! ## Bodies and their values -/

/-- Escaping changes no last character. -/
theorem getLast?_escape (q : Char) (value : List Char) :
    (escape q value).getLast? = value.getLast? := by
  induction value with
  | nil => rfl
  | cons c value ih =>
    by_cases hc : c = q
    · simp [escape, hc, List.getLast?_cons, ih]
    · simp [escape, hc, List.getLast?_cons, ih]

/-- An escaped value is guarded unless an escape ends it. -/
private theorem guarded_escape {q : Char} (hq : isQuote q = true) {previous : Char}
    {value : List Char} (h : (previous :: value).getLast? ≠ some escapeChar) :
    Guarded q previous (escape q value) := by
  induction value generalizing previous with
  | nil => simpa [escape, Guarded] using h
  | cons c value ih =>
    rw [List.getLast?_cons_cons] at h
    by_cases hc : c = q
    · subst hc
      rw [escape, if_pos rfl]
      refine ⟨fun hescape => ?_, fun _ => rfl, ih h⟩
      exact absurd hescape.symm (ne_escapeChar_of_isQuote hq)
    · rw [escape, if_neg hc]
      exact ⟨fun h => absurd h hc, ih h⟩

/-- What can be put between quotes makes a body that the closing quote ends. -/
theorem isQuotedBody_escape {q : Char} (hq : isQuote q = true) {value : List Char}
    (h : CanQuote value) : IsQuotedBody q (escape q value) := by
  rw [isQuotedBody_iff_guarded hq]
  apply guarded_escape hq
  cases value with
  | nil => simpa using ne_escapeChar_of_isQuote hq
  | cons c value => rwa [List.getLast?_cons_cons]

/-- A body in which every quote is guarded is its value with a backslash in front of each quote. -/
theorem Unescaped.eq_escape_of_guarded {q : Char} (hq : q ≠ escapeChar)
    {body value : List Char} (h : Unescaped q body value) {previous : Char}
    (hguard : Guarded q previous body) (hpair : previous = escapeChar → body.head? ≠ some q) :
    body = escape q value := by
  induction h generalizing previous with
  | nil => rfl
  | pair _ ih =>
    rw [escape, if_pos rfl, ← ih hguard.2.2 fun hquote => absurd hquote hq]
  | @other c body value hc _ ih =>
    -- A quote behind a backslash would have been read as one pair with it.
    have hne : c ≠ q := by
      rintro rfl
      exact hpair (hguard.1 rfl) rfl
    rw [escape, if_neg hne, ← ih hguard.2 hc]

/-- A body is its value with a backslash in front of each quote. -/
theorem Unescaped.eq_escape {q : Char} (hq : isQuote q = true) {body value : List Char}
    (hbody : IsQuotedBody q body) (h : Unescaped q body value) : body = escape q value :=
  h.eq_escape_of_guarded (ne_escapeChar_of_isQuote hq) ((isQuotedBody_iff_guarded hq body).1 hbody)
    fun hquote => absurd hquote (ne_escapeChar_of_isQuote hq)

/-! ## Lexemes are spellings -/

/-- A unit is the text of its value, bare or between quotes. -/
theorem IsUnit.exists_write {raw value : List Char} {closed : Bool} (hu : IsUnit raw value closed) :
    ∃ w : Quoting, raw = w.write value ∧ closed = (w != .bare) ∧
      ∀ name, (name = [] ∨ IsBareWord name) → CanSpell name value w := by
  cases hu with
  | bare hw => exact ⟨.bare, rfl, rfl, fun _ hn => .word hn hw⟩
  | @quoted q body _ hq hbody hvalue =>
    obtain rfl := hvalue.eq_escape hq hbody
    refine ⟨.quoted q, rfl, rfl, fun _ hn => .quoted hn hq ?_⟩
    rw [CanQuote, ← getLast?_escape q]
    exact hbody.closed

theorem isUnit_quoted {q : Char} (hq : isQuote q = true) {value : List Char}
    (h : CanQuote value) : IsUnit ((Quoting.quoted q).write value) value true :=
  .quoted hq (isQuotedBody_escape hq h)
    ((unescaped_iff q _ _).2 (unescape_escape q (ne_escapeChar_of_isQuote hq) value))

/-- Behind a name or without one, a unit makes a lexeme. -/
theorem isLexeme_nameText {name unit value : List Char} {closed : Bool}
    (hn : name = [] ∨ IsBareWord name) (hu : IsUnit unit value closed) :
    IsLexeme (nameText name ++ unit) name value closed := by
  rcases hn with rfl | hn
  · exact .unnamed hu
  · rw [nameText_of_isBareWord hn, List.append_assoc]
    exact .named hn hu

/-- What is spelled is a lexeme, and only a quote closes it. -/
theorem CanSpell.isLexeme {name value : List Char} {w : Quoting} (h : CanSpell name value w) :
    IsLexeme (spell name value w) name value (w != .bare) := by
  cases h with
  | word hn hv => exact isLexeme_nameText hn (.bare hv)
  | nothing hn =>
    rw [spell, nameText_of_isBareWord hn]
    simpa using IsLexeme.empty hn
  | quoted hn hq hv => exact isLexeme_nameText hn (isUnit_quoted hq hv)

/-- A lexeme is spelled from its name and its value in one of the ways that are open. -/
theorem IsLexeme.exists_spell {raw name value : List Char} {closed : Bool}
    (hl : IsLexeme raw name value closed) :
    ∃ w, CanSpell name value w ∧ raw = spell name value w ∧ closed = (w != .bare) := by
  cases hl with
  | unnamed hu =>
    obtain ⟨w, rfl, hclosed, hw⟩ := hu.exists_write
    exact ⟨w, hw _ (.inl rfl), rfl, hclosed⟩
  | empty hn =>
    refine ⟨.bare, .nothing hn, ?_, rfl⟩
    simp [spell, nameText_of_isBareWord hn]
  | named hn hu =>
    obtain ⟨w, rfl, hclosed, hw⟩ := hu.exists_write
    refine ⟨w, hw _ (.inr hn), ?_, hclosed⟩
    simp [spell, nameText_of_isBareWord hn]

/-- The lexemes for a name and a value are the spellings of the two. -/
theorem isLexeme_iff_spell {raw name value : List Char} {closed : Bool} :
    IsLexeme raw name value closed ↔
      ∃ w, CanSpell name value w ∧ raw = spell name value w ∧ closed = (w != .bare) := by
  constructor
  · exact IsLexeme.exists_spell
  · rintro ⟨w, hw, rfl, rfl⟩
    exact hw.isLexeme

example : spell ['a'] ['i', '\'', 's'] (.quoted '\'') = "a='i\\'s'".toList := by decide

/-! ## Lines of one argument -/

/-- A lexeme that is a whole line is read as one argument. -/
theorem tokenize_of_isLexeme {raw name value : List Char} {closed : Bool}
    (hl : IsLexeme raw name value closed) :
    tokenize (String.ofList raw) =
      .ok [⟨String.ofList raw, String.ofList name, String.ofList value, 0⟩] := by
  have hdivides : Division.Divides ⟨[], [⟨raw, []⟩]⟩ (String.ofList raw) :=
    ⟨by simp, by simp [IsGap], .of_isLexeme hl⟩
  obtain ⟨arguments, hreadings, htokenize⟩ := exists_readings_of_divides hdivides
  rw [htokenize, hreadings.unique (.cons hl .nil)]
  rfl

/-- The raw text of the one argument of a line is a lexeme. -/
theorem exists_isLexeme_of_tokenize {line : String} {a : Argument}
    (h : tokenize line = .ok [a]) :
    ∃ closed, IsLexeme a.raw.toList a.name.toList a.value.toList closed := by
  obtain ⟨⟨lead, parts⟩, hd⟩ := exists_divides_of_tokenize h
  obtain ⟨arguments, hreadings, htokenize⟩ := exists_readings_of_divides hd
  obtain rfl : arguments = [a] := by
    rw [htokenize] at h
    exact Except.ok.inj h
  simp only at hreadings
  cases hreadings with
  | cons hl _ => exact ⟨_, by simpa using hl⟩

/-- Some line gives one argument with a name and a value exactly if the two can be spelled. -/
theorem exists_tokenize_singleton_iff (name value : String) :
    (∃ line a, tokenize line = .ok [a] ∧ a.name = name ∧ a.value = value) ↔
      ∃ w, CanSpell name.toList value.toList w := by
  constructor
  · rintro ⟨line, a, h, rfl, rfl⟩
    obtain ⟨closed, hl⟩ := exists_isLexeme_of_tokenize h
    obtain ⟨w, hw, -⟩ := hl.exists_spell
    exact ⟨w, hw⟩
  · rintro ⟨w, hw⟩
    exact ⟨_, _, tokenize_of_isLexeme hw.isLexeme, by simp, by simp⟩

/-- A value can be written without a name if it can be put between quotes or is a word. -/
theorem exists_canSpell_nil_iff (value : List Char) :
    (∃ w, CanSpell [] value w) ↔ CanQuote value ∨ IsBareWord value := by
  constructor
  · rintro ⟨w, hw⟩
    cases hw with
    | word _ hv => exact .inr hv
    | nothing hn => exact absurd rfl hn.ne_nil
    | quoted _ _ hv => exact .inl hv
  · rintro (hv | hv)
    · exact ⟨.quoted '"', .quoted (.inl rfl) (by decide) hv⟩
    · exact ⟨.bare, .word (.inl rfl) hv⟩

/-- With a name it is the same, and the name has to be a word. -/
theorem exists_canSpell_iff {name : List Char} (hname : name ≠ []) (value : List Char) :
    (∃ w, CanSpell name value w) ↔ IsBareWord name ∧ (CanQuote value ∨ IsBareWord value) := by
  constructor
  · rintro ⟨w, hw⟩
    cases hw with
    | word hn hv => exact ⟨hn.resolve_left hname, .inr hv⟩
    | nothing hn => exact ⟨hn, .inl (by simp [CanQuote])⟩
    | quoted hn _ hv => exact ⟨hn.resolve_left hname, .inl hv⟩
  · rintro ⟨hn, hv | hv⟩
    · exact ⟨.quoted '"', .quoted (.inr hn) (by decide) hv⟩
    · exact ⟨.bare, .word (.inr hn) hv⟩

/--
Which values can be typed.  Without a name a value can be typed exactly if it does not end
in a backslash or is a bare word, and in the first case it can be put between quotes of
either kind.  With a name the condition on the value is the same, and the name has to be a
bare word.
-/
theorem typeable_iff (value : String) :
    ((∃ line a, tokenize line = .ok [a] ∧ a.name = "" ∧ a.value = value) ↔
      value.toList.getLast? ≠ some '\\' ∨ IsBareWord value.toList) ∧
    (value.toList.getLast? ≠ some '\\' → ∀ q ∈ quoteChars, ∃ a,
      tokenize (String.ofList (q :: (escape q value.toList ++ [q]))) = .ok [a] ∧
        a.name = "" ∧ a.value = value) ∧
    (∀ name : String, name ≠ "" →
      ((∃ line a, tokenize line = .ok [a] ∧ a.name = name ∧ a.value = value) ↔
        IsBareWord name.toList ∧
          (value.toList.getLast? ≠ some '\\' ∨ IsBareWord value.toList))) := by
  refine ⟨?_, ?_, ?_⟩
  · rw [exists_tokenize_singleton_iff]
    exact exists_canSpell_nil_iff value.toList
  · intro hvalue q hq
    have hspell : CanSpell [] value.toList (.quoted q) :=
      .quoted (.inl rfl) ((mem_quoteChars_iff q).1 hq) hvalue
    exact ⟨_, tokenize_of_isLexeme hspell.isLexeme, by simp, by simp⟩
  · intro name hname
    rw [exists_tokenize_singleton_iff]
    exact exists_canSpell_iff (by simpa using hname) value.toList

end TypedCommands.Line
