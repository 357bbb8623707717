import TypedCommands.Proofs.Line.Spelling

/-!
# Raw texts

The raw text of an argument is what stood in the line.  It is the spelling of the
argument, so nothing is lost in it and nothing in it is arbitrary: read by itself it
gives the argument back, and it is decided by the name, the value and the quoting that
the scanner met.  That also settles what the first character of a raw text says.

Main results:

- Theorem `quoting_spell`: at a spelling the scanner meets the quoting it was made with.
- Theorem `Scanner.exists_written_of_next`: every argument is written from its name, its
  value and the quoting that was met.
- Theorem `raw_canonical`: a raw text is the spelling of its argument, and reading it
  again gives the argument back.
-/

namespace TypedCommands.Line

open TypedCommands.Text

/-! ## The quoting that a scanner meets -/

/-- How the unit at the front of a text is scanned: as a quoted one if a quote comes first. -/
def Quoting.ofFront : List Char → Quoting
  | [] => .bare
  | c :: _ => if isQuote c then .quoted c else .bare

/-- An argument's text from its value on, which stands behind a name and its separator. -/
def valueFront (cs : List Char) : List Char :=
  match scanUnit cs with
  | .error _ => cs
  | .ok first => if first.named then first.rest else cs

/-- How the value of the next argument is scanned. -/
def Scanner.quoting (s : Scanner) : Quoting :=
  .ofFront (valueFront (s.rest.dropWhile isBlank))

/-- An argument of a line, its value scanned with a quoting. -/
def ReadAs (line : String) (a : Argument) (w : Quoting) : Prop :=
  ∃ s t, (Scanner.ofLine line).Reaches s ∧ s.next = (.argument a, t) ∧ s.quoting = w

/-- Where a text stops no quote was used. -/
theorem Quoting.ofFront_of_stops {rest : List Char} (h : Stops rest) :
    Quoting.ofFront rest = .bare := by
  cases rest with
  | nil => rfl
  | cons c rest =>
    refine if_neg fun hq => ?_
    rw [stops_cons_iff, isBlank_of_isQuote hq] at h
    contradiction

/-- Behind a name, the value begins where the second unit does. -/
theorem valueFront_nameText {name unit value rest : List Char}
    (hn : name = [] ∨ IsBareWord name)
    (hu : scanUnit (unit ++ rest) = .ok ⟨value, false, rest⟩) :
    valueFront (nameText name ++ (unit ++ rest)) = unit ++ rest := by
  rcases hn with rfl | hn
  · simp [valueFront, hu]
  · rw [nameText_of_isBareWord hn, List.append_assoc, List.singleton_append, valueFront,
      scanUnit_name hn]
    rfl

/-- At a spelling the scanner meets the quoting it was made with. -/
theorem quoting_spell {name value rest : List Char} {w : Quoting} (h : CanSpell name value w)
    (hstop : w = .bare → Stops rest) :
    Quoting.ofFront (valueFront (spell name value w ++ rest)) = w := by
  rw [spell, List.append_assoc]
  cases h with
  | word hn hv =>
    rw [Quoting.write_bare, valueFront_nameText hn (scanUnit_append (.bare hv) fun _ => hstop rfl)]
    obtain ⟨c, cs, rfl, -, hquote⟩ := hv.exists_head
    simp [Quoting.ofFront, hquote]
  | nothing hn =>
    have hunit : scanUnit ([] ++ rest) = .ok ⟨[], false, rest⟩ := scanUnit_of_stops (hstop rfl)
    rw [Quoting.write_bare, valueFront_nameText (.inr hn) hunit]
    exact Quoting.ofFront_of_stops (hstop rfl)
  | quoted hn hq hv =>
    rw [valueFront_nameText hn (scanUnit_append (isUnit_quoted hq hv) (by simp))]
    simp [Quoting.write, Quoting.ofFront, hq]

/-! ## Written arguments -/

/-- The argument that is written for a name and a value, from an index of a line on. -/
def written (name value : List Char) (w : Quoting) (start : Int) : Argument :=
  ⟨String.ofList (spell name value w), String.ofList name, String.ofList value, start⟩

/-- An argument that is answered is written with the quoting that was met. -/
theorem Scanner.exists_written_of_next {seen cs : List Char} {a : Argument} {t : Scanner}
    (h : (between seen cs).next = (.argument a, t)) :
    ∃ name value start, CanSpell name value (between seen cs).quoting ∧
      a = written name value (between seen cs).quoting start := by
  obtain ⟨lead, raw, name, value, closed, rest, rfl, hlead, hl, hstop, rfl, -⟩ :=
    exists_of_next_between h
  obtain ⟨w, hw, rfl, rfl⟩ := hl.exists_spell
  obtain ⟨c, cs, hraw, hc⟩ := hl.exists_head
  have hquoting : (between seen (lead ++ (spell name value w ++ rest))).quoting = w := by
    have hdrop : (lead ++ (spell name value w ++ rest)).dropWhile isBlank =
        spell name value w ++ rest := by
      rw [List.dropWhile_append_of_pos hlead, hraw]
      simp [hc]
    rw [quoting, between, hdrop]
    exact quoting_spell hw fun hbare => hstop (by rw [hbare]; rfl)
  rw [hquoting]
  exact ⟨name, value, _, hw, rfl⟩

/-- Behind the name and the separator stands the text of the value. -/
theorem valueText_written (name value : List Char) (w : Quoting) (start : Int) :
    (written name value w start).valueText = w.write value := by
  by_cases hn : name = []
  · simp [written, Argument.valueText, spell, hn]
  · simp [written, Argument.valueText, spell, nameText, hn]

/-- The first character of a value says whether it was written between quotes. -/
theorem startsQuoted_write {name value : List Char} {w : Quoting} (h : CanSpell name value w) :
    Argument.startsQuoted (w.write value) = (w != .bare) := by
  cases h with
  | word _ hv =>
    obtain ⟨c, cs, rfl, -, hquote⟩ := hv.exists_head
    exact hquote
  | nothing _ => rfl
  | quoted _ hq _ => exact hq

theorem isQuoted_written {name value : List Char} {w : Quoting} (h : CanSpell name value w)
    (start : Int) : (written name value w start).isQuoted = (w != .bare) := by
  rw [Argument.isQuoted, valueText_written, startsQuoted_write h]

/-- An argument is a name if it was written bare and without a name. -/
theorem isName_written {name value : List Char} {w : Quoting} (h : CanSpell name value w)
    (start : Int) :
    (written name value w start).isName = (name.isEmpty && w == .bare) := by
  by_cases hn : name = []
  · subst hn
    have hne : w.write value ≠ [] := by
      cases h with
      | word _ hv => exact hv.ne_nil
      | nothing hn => exact absurd rfl hn.ne_nil
      | quoted _ _ _ => simp [Quoting.write]
    have hquoted := startsQuoted_write h
    simp [written, Argument.isName, spell, hne, hquoted, bne]
  · have hname : (String.ofList name == "") = false := by simp [hn]
    have hsome : name.isEmpty = false := by simp [hn]
    simp [written, Argument.isName, hname, hsome]

/--
Raw texts are canonical.  Every argument that a line gives, before a fault or not, was
scanned with some quoting.  Its raw text read by itself gives the argument back, and is
the spelling of its name and its value with that quoting.  So an argument counts as
quoted exactly if its value was scanned between quotes, and as a name exactly if it has
no name in front and is not quoted; then its raw text is its value.
-/
theorem raw_canonical {line : String} {a : Argument} (h : a ∈ (Source.ofLine line).arguments) :
    (∃ w, ReadAs line a w) ∧
    ∀ w, ReadAs line a w →
      tokenize a.raw = .ok [{ a with start := 0 }] ∧
      a.raw = String.ofList (spell a.name.toList a.value.toList w) ∧
      (a.isQuoted = true ↔ ∃ q, w = .quoted q) ∧
      (a.isName = true ↔ a.name = "" ∧ w = .bare) ∧
      (a.isName = true → a.raw = a.value) := by
  constructor
  · obtain ⟨s, t, hreach, hnext⟩ := Scanner.mem_remaining_iff.1 h
    exact ⟨_, s, t, hreach, hnext, rfl⟩
  · rintro w ⟨s, t, hreach, hnext, rfl⟩
    rw [Scanner.ofLine_eq_between] at hreach
    obtain ⟨before, after, rfl⟩ := hreach.exists_between
    obtain ⟨name, value, start, hspell, rfl⟩ := Scanner.exists_written_of_next hnext
    generalize (Scanner.between before after).quoting = w at hspell
    have hname : (written name value w start).isName = true ↔ name = [] ∧ w = .bare := by
      simp [isName_written hspell]
    refine ⟨tokenize_of_isLexeme hspell.isLexeme, by simp [written], ?_, ?_, ?_⟩
    · rw [isQuoted_written hspell]
      cases w <;> simp
    · rw [hname]
      simp [written]
    · rw [hname]
      rintro ⟨rfl, rfl⟩
      simp [written, spell]

/-- A line that gives two arguments and then a fault. -/
def faultyLine : String := "x=1 say='it\\'s' ="

/-- Its second argument, with an escaped quote in the value. -/
def sayArgument : Argument := ⟨"say='it\\'s'", "say", "it's", 4⟩

/-- The raw text of an argument in front of a fault gives the argument back. -/
theorem raw_canonical_say :
    sayArgument ∈ (Source.ofLine faultyLine).arguments ∧ sayArgument.isQuoted = true ∧
      tokenize sayArgument.raw = .ok [{ sayArgument with start := 0 }] := by
  have hread : ReadAs faultyLine sayArgument (.quoted '\'') :=
    ⟨_, _, .further (by rfl) .here, by rfl, by rfl⟩
  have hmem : sayArgument ∈ (Source.ofLine faultyLine).arguments := by
    obtain ⟨s, t, hreach, hnext, -⟩ := hread
    exact Scanner.mem_remaining_iff.2 ⟨s, t, hreach, hnext⟩
  obtain ⟨hraw, -, hquoted, -⟩ := (raw_canonical hmem).2 _ hread
  exact ⟨hmem, hquoted.2 ⟨_, rfl⟩, hraw⟩

end TypedCommands.Line
