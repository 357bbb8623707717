import Mathlib.Data.List.TakeWhile
import TypedCommands.Line.Scanner

/-!
# The grammar of lexemes

What may be written for one argument, said without a scanner: a value unit is a
bare word or a quoted body between two quotes, and a lexeme is a unit, or a bare
word as a name, the separator and at most one unit.  The scanner of lines reads
exactly the lexemes, and it reads each one to its end.

Main results:

- Theorem `scanBody_eq_some_iff_isQuotedBody`: the scanner of quoted values stops at
  the first quote that no backslash stands in front of.
- Theorem `unescaped_iff`: the reading of escapes replaces each pair of a backslash
  and the quote by the quote and keeps everything else.
- Theorem `scanArgument_append`: in front of a rest that cannot extend it, every lexeme
  is scanned as a whole.
- Theorem `exists_isLexeme_of_scanArgument`: whatever is scanned is a lexeme in front
  of a rest that cannot extend it.
-/

namespace TypedCommands.Line

open TypedCommands.Text

/-! ## Words, bodies, units and lexemes -/

/-- A text of blanks only; it may be empty. -/
def IsGap (cs : List Char) : Prop := ∀ c ∈ cs, isBlank c = true

/-- A text that ends an open lexeme: it is empty or begins with a blank. -/
def Stops (cs : List Char) : Prop := ∀ c, cs.head? = some c → isBlank c = true

/-- A word that needs no quotes. -/
structure IsBareWord (w : List Char) : Prop where
  /-- It is not empty. -/
  ne_nil : w ≠ []
  /-- It holds no blank. -/
  no_blank : ∀ c ∈ w, isBlank c = false
  /-- It holds no name separator. -/
  no_separator : nameSeparator ∉ w
  /-- A control character in it would have to be a blank. -/
  no_control : ∀ c ∈ w, isControl c = true → isBlank c = true
  /-- It does not begin with a quote. -/
  no_quote : ∀ c, w.head? = some c → isQuote c = false

/-- The text between two quotes `q`. -/
structure IsQuotedBody (q : Char) (body : List Char) : Prop where
  /-- Every quote in it follows a backslash of the body. -/
  escaped : ∀ before after, body = before ++ q :: after → before.getLast? = some escapeChar
  /-- It does not end in a backslash. -/
  closed : body.getLast? ≠ some escapeChar

/--
A body and its value: each pair of a backslash and the quote `q` stands for the
quote, every other character for itself.
-/
inductive Unescaped (q : Char) : List Char → List Char → Prop
  | nil : Unescaped q [] []
  | pair {body value : List Char} :
      Unescaped q body value → Unescaped q (escapeChar :: q :: body) (q :: value)
  | other {c : Char} {body value : List Char} :
      (c = escapeChar → body.head? ≠ some q) →
      Unescaped q body value → Unescaped q (c :: body) (c :: value)

/-- A value unit: how it is written, its value, and whether a quote closes it. -/
inductive IsUnit : List Char → List Char → Bool → Prop
  | bare {w : List Char} : IsBareWord w → IsUnit w w false
  | quoted {q : Char} {body value : List Char} :
      isQuote q = true → IsQuotedBody q body → Unescaped q body value →
      IsUnit (q :: (body ++ [q])) value true

/-- A lexeme: how it is written, its name, its value, and whether a quote closes it. -/
inductive IsLexeme : List Char → List Char → List Char → Bool → Prop
  | unnamed {raw value : List Char} {closed : Bool} :
      IsUnit raw value closed → IsLexeme raw [] value closed
  | empty {name : List Char} :
      IsBareWord name → IsLexeme (name ++ [nameSeparator]) name [] false
  | named {name unit value : List Char} {closed : Bool} :
      IsBareWord name → IsUnit unit value closed →
      IsLexeme (name ++ nameSeparator :: unit) name value closed

/-! ## First characters -/

theorem isBlank_of_isQuote {c : Char} (h : isQuote c = true) : isBlank c = false := by
  simp only [isQuote, Bool.or_eq_true, beq_iff_eq] at h
  rcases h with rfl | rfl <;> decide

theorem ne_escapeChar_of_isQuote {c : Char} (h : isQuote c = true) : c ≠ escapeChar := by
  simp only [isQuote, Bool.or_eq_true, beq_iff_eq] at h
  rcases h with rfl | rfl <;> decide

theorem stops_nil : Stops [] := by simp [Stops]

theorem stops_cons_iff {c : Char} {cs : List Char} : Stops (c :: cs) ↔ isBlank c = true := by
  simp [Stops]

/-- A bare word consists of word characters. -/
theorem IsBareWord.isWord {w : List Char} (hw : IsBareWord w) : ∀ c ∈ w, isWord c = true := by
  intro c hc
  rw [isWord_iff]
  refine ⟨hw.no_blank c hc, ?_, ?_⟩
  · rintro rfl
    exact hw.no_separator hc
  · by_contra hcontrol
    have hblank := hw.no_control c hc (by simpa using hcontrol)
    rw [hw.no_blank c hc] at hblank
    contradiction

/-- Word characters make a bare word unless there are none or the first is a quote. -/
theorem isBareWord_of_isWord {c : Char} {w : List Char} (hw : ∀ d ∈ c :: w, isWord d = true)
    (hc : isQuote c = false) : IsBareWord (c :: w) where
  ne_nil := by simp
  no_blank d hd := ((isWord_iff d).1 (hw d hd)).1
  no_separator hd := ((isWord_iff _).1 (hw _ hd)).2.1 rfl
  no_control d hd hcontrol := by
    rw [((isWord_iff d).1 (hw d hd)).2.2] at hcontrol
    contradiction
  no_quote d hd := by
    simp only [List.head?_cons, Option.some.injEq] at hd
    rw [← hd]
    exact hc

/-- A bare word begins with a character that is neither a blank nor a quote. -/
theorem IsBareWord.exists_head {w : List Char} (hw : IsBareWord w) :
    ∃ c cs, w = c :: cs ∧ isBlank c = false ∧ isQuote c = false := by
  cases w with
  | nil => exact absurd rfl hw.ne_nil
  | cons c cs => exact ⟨c, cs, rfl, hw.no_blank c (by simp), hw.no_quote c rfl⟩

/-- A unit begins with a character that is no blank. -/
theorem IsUnit.exists_head {raw value : List Char} {closed : Bool} (hu : IsUnit raw value closed) :
    ∃ c cs, raw = c :: cs ∧ isBlank c = false := by
  cases hu with
  | bare hw =>
    obtain ⟨c, cs, hraw, hc, -⟩ := hw.exists_head
    exact ⟨c, cs, hraw, hc⟩
  | quoted hq _ _ => exact ⟨_, _, rfl, isBlank_of_isQuote hq⟩

/-- No lexeme begins with a blank. -/
theorem IsLexeme.exists_head {raw name value : List Char} {closed : Bool}
    (hl : IsLexeme raw name value closed) : ∃ c cs, raw = c :: cs ∧ isBlank c = false := by
  cases hl with
  | unnamed hu => exact hu.exists_head
  | empty hn =>
    obtain ⟨c, cs, rfl, hc, -⟩ := hn.exists_head
    exact ⟨c, _, rfl, hc⟩
  | named hn _ =>
    obtain ⟨c, cs, rfl, hc, -⟩ := hn.exists_head
    exact ⟨c, _, rfl, hc⟩

/-! ## Quoted bodies -/

/--
What the scanner of quoted values checks, one character back: no quote `q` but behind
a backslash, and no backslash at the end.  `previous` stands in front of the text.
-/
def Guarded (q : Char) : Char → List Char → Prop
  | previous, [] => previous ≠ escapeChar
  | previous, c :: body => (c = q → previous = escapeChar) ∧ Guarded q c body

/-- A body is scanned up to the first quote that nothing guards. -/
theorem scanBody_eq_some_iff (q previous : Char) (cs body rest : List Char) :
    scanBody q previous cs = some (body, rest) ↔
      cs = body ++ q :: rest ∧ Guarded q previous body := by
  induction cs generalizing previous body with
  | nil => simp [scanBody]
  | cons c cs ih =>
    rw [scanBody]
    by_cases hstop : c = q ∧ previous ≠ escapeChar
    · rw [if_pos hstop]
      obtain ⟨rfl, hprevious⟩ := hstop
      constructor
      · intro h
        simp only [Option.some.injEq, Prod.mk.injEq] at h
        obtain ⟨rfl, rfl⟩ := h
        exact ⟨rfl, hprevious⟩
      · rintro ⟨htext, hguard⟩
        cases body with
        | nil => simpa using htext
        | cons d body =>
          -- The body would begin with a quote that nothing guards.
          simp only [List.cons_append, List.cons.injEq] at htext
          exact absurd (hguard.1 htext.1.symm) hprevious
    · rw [if_neg hstop]
      constructor
      · intro h
        obtain ⟨⟨inner, after⟩, hinner, heq⟩ := Option.map_eq_some_iff.1 h
        simp only [Prod.mk.injEq] at heq
        obtain ⟨rfl, rfl⟩ := heq
        obtain ⟨rfl, hguard⟩ := (ih c inner).1 hinner
        refine ⟨rfl, fun hc => ?_, hguard⟩
        by_contra hprevious
        exact hstop ⟨hc, hprevious⟩
      · rintro ⟨htext, hguard⟩
        cases body with
        | nil =>
          simp only [List.nil_append, List.cons.injEq] at htext
          exact absurd ⟨htext.1, hguard⟩ hstop
        | cons d body =>
          simp only [List.cons_append, List.cons.injEq] at htext
          obtain ⟨rfl, htext⟩ := htext
          rw [(ih c body).2 ⟨htext, hguard.2⟩]
          rfl

/-- A body is guarded if every quote in it is escaped and no escape ends it. -/
private theorem guarded_iff (q previous : Char) (body : List Char) :
    Guarded q previous body ↔
      (∀ before after, body = before ++ q :: after →
        (previous :: before).getLast? = some escapeChar) ∧
      (previous :: body).getLast? ≠ some escapeChar := by
  induction body generalizing previous with
  | nil => simp [Guarded]
  | cons c body ih =>
    rw [Guarded, ih c]
    constructor
    · rintro ⟨hfirst, hrest, hlast⟩
      refine ⟨?_, by simpa [List.getLast?_cons_cons] using hlast⟩
      intro before after htext
      cases before with
      | nil =>
        simp only [List.nil_append, List.cons.injEq] at htext
        simp [hfirst htext.1]
      | cons d before =>
        simp only [List.cons_append, List.cons.injEq] at htext
        obtain ⟨rfl, htext⟩ := htext
        rw [List.getLast?_cons_cons]
        exact hrest before after htext
    · rintro ⟨hall, hlast⟩
      refine ⟨?_, ?_, by simpa [List.getLast?_cons_cons] using hlast⟩
      · rintro rfl
        simpa using hall [] body rfl
      · intro before after htext
        have hhere := hall (c :: before) after (by rw [htext]; rfl)
        rwa [List.getLast?_cons_cons] at hhere

/-- Behind an opening quote, looking one character back is looking back in the body. -/
theorem isQuotedBody_iff_guarded {q : Char} (hq : isQuote q = true) (body : List Char) :
    IsQuotedBody q body ↔ Guarded q q body := by
  have hback : ∀ cs : List Char,
      (q :: cs).getLast? = some escapeChar ↔ cs.getLast? = some escapeChar := by
    intro cs
    cases cs with
    | nil => simp [ne_escapeChar_of_isQuote hq]
    | cons c cs => rw [List.getLast?_cons_cons]
  rw [guarded_iff]
  constructor
  · intro hbody
    refine ⟨fun before after htext => (hback before).2 (hbody.escaped before after htext), ?_⟩
    rw [Ne, hback]
    exact hbody.closed
  · rintro ⟨hescaped, hclosed⟩
    refine ⟨fun before after htext => (hback before).1 (hescaped before after htext), ?_⟩
    rw [Ne, hback] at hclosed
    exact hclosed

/-- The scanner of a quoted value finds the one body that the closing quote ends. -/
theorem scanBody_eq_some_iff_isQuotedBody {q : Char} (hq : isQuote q = true)
    (cs body rest : List Char) :
    scanBody q q cs = some (body, rest) ↔ cs = body ++ q :: rest ∧ IsQuotedBody q body := by
  rw [scanBody_eq_some_iff, isQuotedBody_iff_guarded hq]

/-- Reading escapes is what the grammar says about bodies and their values. -/
theorem unescaped_iff (q : Char) (body value : List Char) :
    Unescaped q body value ↔ unescape q body = value := by
  constructor
  · intro h
    induction h with
    | nil => rfl
    | pair _ ih => rw [unescape, if_pos ⟨rfl, rfl⟩, ih]
    | @other c body value hc hbody ih =>
      cases body with
      | nil =>
        cases hbody
        rfl
      | cons d body =>
        rw [unescape, if_neg (by rintro ⟨rfl, rfl⟩; exact hc rfl rfl), ih]
  · rintro rfl
    fun_induction unescape q body with
    | case1 => exact .nil
    | case2 c => exact .other (by simp) .nil
    | case3 c d rest hpair ih =>
      obtain ⟨rfl, rfl⟩ := hpair
      exact .pair ih
    | case4 c d rest hpair ih =>
      refine .other (fun hc => ?_) ih
      simpa [hc] using hpair

/-! ## Scanning words and units -/

private theorem isWord_false_of_stops {c : Char} {rest : List Char} (hs : Stops (c :: rest)) :
    isWord c = false := by
  simp [isWord, stops_cons_iff.1 hs]

/-- A word is scanned up to where the text stops. -/
theorem scanWord_append {w rest : List Char} (hw : ∀ c ∈ w, isWord c = true) (hs : Stops rest) :
    scanWord (w ++ rest) = .ok ⟨w, false, rest⟩ := by
  rw [scanWord, List.takeWhile_append_of_pos hw, List.dropWhile_append_of_pos hw]
  cases rest with
  | nil => simp
  | cons c rest =>
    have hc := isWord_false_of_stops hs
    simp [hc, stops_cons_iff.1 hs]

/-- A word in front of a separator is scanned as a name. -/
theorem scanWord_append_separator {w : List Char} (hw : ∀ c ∈ w, isWord c = true)
    (rest : List Char) :
    scanWord (w ++ nameSeparator :: rest) = .ok ⟨w, true, rest⟩ := by
  have hword : isWord nameSeparator = false := by decide
  have hblank : isBlank nameSeparator = false := by decide
  rw [scanWord, List.takeWhile_append_of_pos hw, List.dropWhile_append_of_pos hw]
  simp [hword, hblank]

/-- A scanned word is the longest run of word characters, and the rest says how it ended. -/
theorem of_scanWord_eq_ok {cs : List Char} {u : Scanned} (h : scanWord cs = .ok u) :
    (∀ c ∈ u.value, isWord c = true) ∧
      ((u.named = false ∧ cs = u.value ++ u.rest ∧ Stops u.rest) ∨
        (u.named = true ∧ cs = u.value ++ nameSeparator :: u.rest)) := by
  have htext := List.takeWhile_append_dropWhile (p := isWord) (l := cs)
  have hword : ∀ c ∈ cs.takeWhile isWord, isWord c = true := fun c hc =>
    List.mem_takeWhile_imp hc
  simp only [scanWord] at h
  split at h
  · next hd =>
    cases h
    rw [hd] at htext
    exact ⟨hword, .inl ⟨rfl, htext.symm, stops_nil⟩⟩
  · next d rest hd =>
    rw [hd] at htext
    split at h
    · next hblank =>
      cases h
      exact ⟨hword, .inl ⟨rfl, htext.symm, stops_cons_iff.2 hblank⟩⟩
    · split at h
      · next hsep =>
        cases h
        rw [hsep] at htext
        exact ⟨hword, .inr ⟨rfl, htext.symm⟩⟩
      · cases h

/-- At a place where an open lexeme ends, the unit is empty. -/
theorem scanUnit_of_stops {rest : List Char} (hs : Stops rest) :
    scanUnit rest = .ok ⟨[], false, rest⟩ := by
  cases rest with
  | nil => rfl
  | cons c rest =>
    have hblank := stops_cons_iff.1 hs
    have hquote : ¬ isQuote c = true := by
      intro hq
      rw [isBlank_of_isQuote hq] at hblank
      contradiction
    have hsep : c ≠ nameSeparator := by
      rintro rfl
      exact absurd hblank (by decide)
    rw [scanUnit, if_neg hquote, if_neg hsep]
    exact scanWord_append (w := []) (by simp) hs

/-- A unit that begins with a bare word is scanned as a word. -/
theorem scanUnit_bareWord {w : List Char} (hw : IsBareWord w) (rest : List Char) :
    scanUnit (w ++ rest) = scanWord (w ++ rest) := by
  obtain ⟨c, cs, rfl, -, hquote⟩ := hw.exists_head
  have hsep : c ≠ nameSeparator := by
    rintro rfl
    exact hw.no_separator (by simp)
  rw [List.cons_append, scanUnit, if_neg (by simp [hquote]), if_neg hsep]

theorem scanUnit_name {name : List Char} (hn : IsBareWord name) (rest : List Char) :
    scanUnit (name ++ nameSeparator :: rest) = .ok ⟨name, true, rest⟩ := by
  rw [scanUnit_bareWord hn]
  exact scanWord_append_separator hn.isWord rest

/-- A unit is scanned to its end, in front of whatever may follow it. -/
theorem scanUnit_append {raw value : List Char} {closed : Bool} (hu : IsUnit raw value closed)
    {rest : List Char} (hs : closed = false → Stops rest) :
    scanUnit (raw ++ rest) = .ok ⟨value, false, rest⟩ := by
  cases hu with
  | bare hw =>
    rw [scanUnit_bareWord hw]
    exact scanWord_append hw.isWord (hs rfl)
  | @quoted q body _ hq hbody hvalue =>
    have hscan : scanBody q q (body ++ [q] ++ rest) = some (body, rest) :=
      (scanBody_eq_some_iff_isQuotedBody hq _ _ _).2 ⟨by simp, hbody⟩
    rw [List.cons_append, scanUnit, if_pos hq, scanQuoted_eq_some_iff.2 ⟨body, hscan, rfl⟩]
    simp only [unquote_quoted q hbody.closed, (unescaped_iff q body value).1 hvalue]

/--
A scanned unit is a name in front of the separator, a unit in front of what may follow
it, or nothing at all at a place where an open lexeme ends.
-/
theorem of_scanUnit_eq_ok {cs : List Char} {u : Scanned} (h : scanUnit cs = .ok u) :
    (u.named = true ∧ IsBareWord u.value ∧ cs = u.value ++ nameSeparator :: u.rest) ∨
    (u.named = false ∧ ∃ raw closed, IsUnit raw u.value closed ∧ cs = raw ++ u.rest ∧
      (closed = false → Stops u.rest)) ∨
    (u.named = false ∧ u.value = [] ∧ cs = u.rest ∧ Stops u.rest) := by
  cases cs with
  | nil =>
    cases h
    exact .inr (.inr ⟨rfl, rfl, rfl, stops_nil⟩)
  | cons c cs =>
    rw [scanUnit] at h
    split at h
    · next hq =>
      split at h
      · cases h
      · next text after hscan =>
        cases h
        obtain ⟨body, hinner, rfl⟩ := scanQuoted_eq_some_iff.1 hscan
        obtain ⟨rfl, hbody⟩ := (scanBody_eq_some_iff_isQuotedBody hq _ _ _).1 hinner
        refine .inr (.inl ⟨rfl, c :: (body ++ [c]), true, ?_, by simp, by simp⟩)
        exact .quoted hq hbody ((unescaped_iff _ _ _).2 (unquote_quoted c hbody.closed).symm)
    · next hq =>
      split at h
      · cases h
      · next hsep =>
        obtain ⟨hword, hend⟩ := of_scanWord_eq_ok h
        rcases hend with ⟨hnamed, htext, hstops⟩ | ⟨hnamed, htext⟩
        · cases hv : u.value with
          | nil =>
            rw [hv] at htext
            exact .inr (.inr ⟨hnamed, rfl, htext, hstops⟩)
          | cons d value =>
            rw [hv] at htext hword
            have hd : d = c := by
              simp only [List.cons_append, List.cons.injEq] at htext
              exact htext.1.symm
            have hbare := isBareWord_of_isWord hword (by simpa [hd] using hq)
            exact .inr (.inl ⟨hnamed, d :: value, false, .bare hbare, htext, fun _ => hstops⟩)
        · cases hv : u.value with
          | nil =>
            rw [hv] at htext
            simp only [List.nil_append, List.cons.injEq] at htext
            exact absurd htext.1 hsep
          | cons d value =>
            rw [hv] at htext hword
            have hd : d = c := by
              simp only [List.cons_append, List.cons.injEq] at htext
              exact htext.1.symm
            have hbare := isBareWord_of_isWord hword (by simpa [hd] using hq)
            exact .inl ⟨hnamed, hbare, htext⟩

/-! ## Scanning lexemes -/

/-- An argument with a name is the name and the unit behind it. -/
private theorem scanArgument_of_name {cs after name value rest : List Char}
    (hname : scanUnit cs = .ok ⟨name, true, after⟩)
    (hvalue : scanUnit after = .ok ⟨value, false, rest⟩) :
    scanArgument cs = .ok ⟨name, value, rest⟩ := by
  simp [scanArgument, hname, hvalue]

/-- A lexeme is scanned to its end, in front of whatever may follow it. -/
theorem scanArgument_append {raw name value : List Char} {closed : Bool}
    (hl : IsLexeme raw name value closed) {rest : List Char} (hs : closed = false → Stops rest) :
    scanArgument (raw ++ rest) = .ok ⟨name, value, rest⟩ := by
  cases hl with
  | unnamed hu => simp [scanArgument, scanUnit_append hu hs]
  | empty hn =>
    rw [List.append_assoc, List.singleton_append]
    exact scanArgument_of_name (scanUnit_name hn rest) (scanUnit_of_stops (hs rfl))
  | @named _ unit _ _ hn hu =>
    rw [List.append_assoc, List.cons_append]
    exact scanArgument_of_name (scanUnit_name hn (unit ++ rest)) (scanUnit_append hu hs)

/-- Whatever is scanned at a place that is no blank is a lexeme, in front of what may follow it. -/
theorem exists_isLexeme_of_scanArgument {c : Char} {cs : List Char} {a : ScannedArgument}
    (hc : isBlank c = false) (h : scanArgument (c :: cs) = .ok a) :
    ∃ raw closed, IsLexeme raw a.name a.value closed ∧ c :: cs = raw ++ a.rest ∧
      (closed = false → Stops a.rest) := by
  rw [scanArgument] at h
  cases hfirst : scanUnit (c :: cs) with
  | error stop => simp [hfirst] at h
  | ok first =>
    simp only [hfirst] at h
    rcases of_scanUnit_eq_ok hfirst with
      ⟨hnamed, hn, htext⟩ | ⟨hnamed, raw, closed, hu, htext, hs⟩ | ⟨-, -, htext, hs⟩
    · rw [if_pos hnamed] at h
      cases hsecond : scanUnit first.rest with
      | error stop => simp [hsecond] at h
      | ok second =>
        simp only [hsecond] at h
        rcases of_scanUnit_eq_ok hsecond with
          ⟨hagain, -, -⟩ | ⟨hagain, unit, closed, hu, hrest, hs⟩ | ⟨hagain, hvalue, hrest, hs⟩
        · simp [hagain] at h
        · rw [if_neg (by simp [hagain])] at h
          cases h
          refine ⟨_, closed, .named hn hu, ?_, hs⟩
          rw [htext, hrest]
          simp
        · rw [if_neg (by simp [hagain])] at h
          cases h
          rw [hvalue]
          refine ⟨_, false, .empty hn, ?_, fun _ => hs⟩
          rw [htext, hrest]
          simp
    · rw [if_neg (by simp [hnamed])] at h
      cases h
      exact ⟨raw, closed, .unnamed hu, htext, hs⟩
    · rw [← htext, stops_cons_iff, hc] at hs
      contradiction

/-- How a lexeme is written decides its name and its value. -/
theorem IsLexeme.unique {raw name name' value value' : List Char} {closed closed' : Bool}
    (hl : IsLexeme raw name value closed) (hl' : IsLexeme raw name' value' closed') :
    name = name' ∧ value = value' := by
  have h : scanArgument (raw ++ []) = .ok ⟨name, value, []⟩ :=
    scanArgument_append hl fun _ => stops_nil
  have h' : scanArgument (raw ++ []) = .ok ⟨name', value', []⟩ :=
    scanArgument_append hl' fun _ => stops_nil
  rw [h] at h'
  simpa using h'

end TypedCommands.Line
