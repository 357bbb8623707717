import TypedCommands.Proofs.Document.Yaml.DoubleQuoted
import TypedCommands.Proofs.Document.Yaml.Numerals
import TypedCommands.Proofs.Document.Yaml.SingleQuoted
import TypedCommands.Proofs.Document.Yaml.Steps

/-!
# Written values read back

A text is read back from what is written in its style, whichever that is, and a whole
number from its digits.  The choice of the style sees to it that the text fits: without
quotes it has no gaps but blanks, and no character that means something where it stands;
between single quotes nothing needs an escape and no blank is lost at a line end.

Main results:

- Theorem `restored_eq_self_iff`: a text is read back as it is unless it is written between
  single quotes with U+0085 in it.
- Theorem `comes_of_text`: what is read of a written text.
- Theorem `comes_of_number`: what is read of a written number.
-/

namespace TypedCommands.Yaml

open TypedCommands.Text

variable {cs : List Char}

/-! ## What a style asks for -/

/-- Texts that are not in double quotes need no escapes. -/
theorem styleOf_ne_double (h : styleOf cs ≠ .double) :
    (∀ c ∈ cs, needsEscape c = false) ∧ hasBlankAtLineEnd cs = false := by
  unfold styleOf at h
  split at h
  · exact absurd rfl h
  · next hescape =>
    simp only [Bool.or_eq_true, List.any_eq_true, not_or, not_exists, not_and,
      Bool.not_eq_true] at hescape
    exact hescape

theorem fitsSingle_of_styleOf (h : styleOf cs = .single) : FitsSingle cs := by
  have hfits := styleOf_ne_double (by rw [h]; decide)
  exact ⟨hfits.1, hfits.2⟩

/-- What keeps a text from being written without quotes is not in one that is. -/
theorem unmarked_of_styleOf (h : styleOf cs = .plain) :
    Plain.value? cs = none ∧ (∀ c ∈ cs, isLineEnd c = false) ∧ hasOuterBlank cs = false ∧
      hasMark cs = false := by
  unfold styleOf at h
  split at h
  · cases h
  · split at h
    · cases h
    · next hmark =>
      simp only [Bool.or_eq_true, List.any_eq_true, not_or, not_exists, not_and,
        Bool.not_eq_true, Option.isSome_eq_false_iff, Option.isNone_iff_eq_none] at hmark
      exact ⟨hmark.1.1.1, hmark.1.1.2, hmark.1.2, hmark.2⟩

/-- Texts without quotes are fit for it. -/
theorem fitsPlain_of_styleOf (h : styleOf cs = .plain) : FitsPlain cs := by
  obtain ⟨hvalue, hlines, houter, hmark⟩ := unmarked_of_styleOf h
  obtain ⟨hescape, -⟩ := styleOf_ne_double (by rw [h]; decide)
  cases cs with
  | nil => cases hvalue
  | cons c rest =>
    simp only [hasOuterBlank, Bool.or_eq_false_iff, beq_eq_false_iff_ne, List.head?_cons] at houter
    refine ⟨⟨c, rest, rfl, fun hblank => houter.1 (by rw [hblank])⟩, houter.2, ?_, ?_⟩
    · intro d hd
      have hdescape := hescape d hd
      simp only [needsEscape, Bool.or_eq_false_iff, beq_eq_false_iff_ne] at hdescape
      by_cases hblank : d = ' '
      · exact .inl hblank
      · exact .inr (by simp [isGap, isBreak, hblank, hdescape, hlines d hd])
    · simp only [hasMark, isLeadingMark, Bool.or_eq_false_iff] at hmark
      obtain ⟨⟨-, hindicator, hgap⟩, hinner⟩ := hmark
      have hcomment : c ≠ '#' := by
        rintro rfl
        simp at hindicator
      have hcolon : (c == ':' && startsWithGap rest) = false := by
        by_contra hcolon
        simp only [Bool.not_eq_false, Bool.and_eq_true, beq_iff_eq] at hcolon
        simp [hcolon] at hgap
      simp [hasInnerMark, hcolon, hcomment, hinner]

/-- A text that is written without quotes begins as one without quotes may. -/
theorem startsPlain_of_styleOf {c : Char} {rest : List Char} (h : styleOf (c :: rest) = .plain)
    {behind : List Char} (hbehind : startsWithGap behind = startsWithGap rest) :
    Reading.startsPlain false c behind = true := by
  obtain ⟨-, -, -, hmark⟩ := unmarked_of_styleOf h
  obtain ⟨_, _, hcons, hblank⟩ := (fitsPlain_of_styleOf h).begins
  obtain ⟨rfl, rfl⟩ := List.cons.inj hcons
  have hgap : isGap c = false :=
    ((fitsPlain_of_styleOf h).blanks c List.mem_cons_self).resolve_left hblank
  simp only [hasMark, isLeadingMark, Bool.or_eq_false_iff] at hmark
  obtain ⟨⟨-, hindicator, halone⟩, -⟩ := hmark
  by_cases hspecial : c = '-' ∨ c = '?' ∨ c = ':'
  · have hbehind' : startsWithGap rest = false := by
      by_contra hrest
      rw [Bool.not_eq_false] at hrest
      rcases hspecial with rfl | rfl | rfl <;> simp [hrest] at halone
    rcases hspecial with rfl | rfl | rfl <;> simp [Reading.startsPlain, hbehind, hbehind']
  · have hall : ∀ d ∈ "-?:,[]\x7b\x7d#&*!|>'\"%@\x60".toList,
        (d = '-' ∨ d = '?' ∨ d = ':') ∨ d ∈ "#,[]\x7b\x7d&*!|>'\"%@\x60".toList :=
      List.forall_iff_forall_mem.mp (by decide)
    have hnot : "-?:,[]\x7b\x7d#&*!|>'\"%@\x60".contains c = false := by
      rw [String.contains_char_eq, decide_eq_false_iff_not] at hindicator ⊢
      exact fun hmem => (hall c hmem).elim hspecial hindicator
    simp [Reading.startsPlain, hgap, hnot]

/-! ## What is restored -/

/-- What is read back of a text that was written in its style. -/
def restored (cs : List Char) : List Char :=
  if styleOf cs = .single then restoredSingle false cs else cs

/-- A text is restored unless it stands in single quotes with U+0085 in it. -/
theorem restored_eq_self_iff : restored cs = cs ↔ ¬(styleOf cs = .single ∧ '\x85' ∈ cs) := by
  unfold restored
  split
  · next h => simp [h, restoredSingle_eq_self_iff]
  · next h => simp [h]

/-- The same for texts that are no lists of characters. -/
def restoredText (text : String) : String := String.ofList (restored text.toList)

/-- Whether a text is written in double quotes. -/
def isDoubled (text : String) : Bool := styleOf text.toList == .double

/-- The token of a written text. -/
def textToken (cs : List Char) : Token :=
  .scalar (styleOf cs == .plain) (String.ofList (restored cs))

/-- The token of a written number. -/
def numberToken (n : Int) : Token := .scalar true (toString n)

/-! ## What is read -/

namespace Reading

variable {place : Place} {tokens tokens' : List Token} {indent indent' : Int}
  {outer outer' : List Int} {rest : List Char} {n : Nat}

/-- The lines behind a value that begin left of what is inside its block. -/
structure NextLine (n : Nat) (rest : List Char) (indent : Int) : Prop where
  /-- It holds a token, or nothing. -/
  starts : StartsToken rest
  /-- It is no mark of a document. -/
  unmarked : startsWithMark (List.replicate n ' ' ++ rest) = false
  /-- It is not inside the value. -/
  outside : (n : Int) < indent + 1

theorem NextLine.readPlainGap_eq (h : NextLine n rest indent) :
    readPlainGap ('\n' :: (List.replicate n ' ' ++ rest)) = ⟨[' '], rest, true, n⟩ :=
  readPlainGap_line (fun c hc => (h.starts c hc).1) h.unmarked

theorem NextLine.closes (h : NextLine n rest indent) :
    Closes (indent + 1) (readPlainGap ('\n' :: (List.replicate n ' ' ++ rest))) := by
  rw [h.readPlainGap_eq]
  exact .inr ⟨rfl, h.outside⟩

/-- Plain writing never makes a text shorter. -/
theorem length_le_plainRest (column : Nat) (inRun : Bool) (cs : List Char) :
    cs.length ≤ (plainRest column inRun cs).length := by
  induction cs generalizing column inRun with
  | nil => simp
  | cons c cs ih =>
    have hfolded := ih margin true
    have hgoesOn := ih (column + 1) (c == ' ')
    rw [plainRest]
    split_ifs
    · simp only [List.length_append, List.length_cons, nextLine]
      omega
    · simp only [List.length_cons]
      omega

/-- A written text is read for what is restored of it. -/
theorem comes_of_text (cs : List Char) {column : Nat}
    (h : place.rest = ' ' :: (writeText column cs ++ '\n' :: (List.replicate n ' ' ++ rest)))
    (hnext : NextLine n rest indent) (hindent : indent ≤ (place.column : Int))
    (hmargin : indent + 1 ≤ (margin : Nat))
    (hunwinds : Unwinds n (textToken cs :: tokens) indent outer tokens' indent' outer') :
    ∃ next : Reading, (idle place tokens indent outer false).LeadsTo next ∧
      next.Comes tokens' indent' outer' rest n := by
  unfold writeText at h
  cases hstyle : styleOf cs with
  | plain =>
    have htoken : textToken cs = .scalar true (String.ofList cs) := by
      simp [textToken, restored, hstyle]
    rw [htoken] at hunwinds
    have hfits := fitsPlain_of_styleOf hstyle
    obtain ⟨c, letters, rfl, hblank⟩ := hfits.begins
    have hgap : isGap c = false := (hfits.blanks c List.mem_cons_self).resolve_left hblank
    have hwritten := plainRest_cons hblank column false letters
    have hlength := length_le_plainRest column false (c :: letters)
    simp only [hstyle, writePlain] at h
    refine comes_of_plain (hwritten ▸ h) ?_ ⟨hgap, hfits.head_ne⟩ ?_ hnext.starts hindent hunwinds
    · exact startsPlain_of_styleOf hstyle (startsWithGap_plainRest _ _ _ rfl)
    · intro fuel hfuel
      rw [← List.cons_append, ← hwritten] at *
      rw [readPlain_plainRest hmargin rfl hnext.closes _ hfits column (by omega),
        hnext.readPlainGap_eq]
      rfl
  | single =>
    have htoken : textToken cs = .scalar false (String.ofList (restoredSingle false cs)) := by
      simp [textToken, restored, hstyle]
    rw [htoken] at hunwinds
    simp only [hstyle, writeSingle, List.cons_append] at h
    exact comes_of_quoted takeToken_single ⟨rfl, by decide⟩ h
      (reads_single (by simp) cs (fitsSingle_of_styleOf hstyle) _ (by decide)) hnext.starts hindent
      hunwinds
  | double =>
    have htoken : textToken cs = .scalar false (String.ofList cs) := by
      simp [textToken, restored, hstyle]
    rw [htoken] at hunwinds
    simp only [hstyle, writeDouble, List.cons_append] at h
    exact comes_of_quoted takeToken_double ⟨rfl, by decide⟩ h (reads_double cs _ _ _ _)
      hnext.starts hindent hunwinds

theorem isGap_of_isDigit {c : Char} (hc : Plain.isDigit c = true) : isGap c = false :=
  isGap_eq_false_of (by decide) hc

theorem startsPlain_of_isDigit {c : Char} (hc : Plain.isDigit c = true) (rest : List Char) :
    startsPlain false c rest = true :=
  startsPlain_of (by decide) (by decide) hc rest

/-- A numeral begins as a text without quotes may. -/
theorem startsPlain_toString (start : Int) :
    ∃ c digits, (toString start).toList = c :: digits ∧
      ∀ rest, startsPlain false c (digits ++ rest) = true := by
  obtain ⟨d, digits, hcons, hd⟩ := Plain.exists_cons_toDigits start.natAbs
  rw [Whole.toList_toString, hcons]
  by_cases hneg : start < 0
  · refine ⟨'-', d :: digits, by simp [hneg], fun rest => ?_⟩
    simp [startsPlain, startsWithGap, isGap_of_isDigit hd]
  · exact ⟨d, digits, by simp [hneg], fun rest => startsPlain_of_isDigit hd _⟩

/-- A written number is read for its numeral. -/
theorem comes_of_number (start : Int)
    (h : place.rest = ' ' :: ((toString start).toList ++ '\n' :: (List.replicate n ' ' ++ rest)))
    (hnext : NextLine n rest indent) (hindent : indent ≤ (place.column : Int))
    (hunwinds : Unwinds n (numberToken start :: tokens) indent outer tokens' indent' outer') :
    ∃ next : Reading, (idle place tokens indent outer false).LeadsTo next ∧
      next.Comes tokens' indent' outer' rest n := by
  obtain ⟨c, digits, hcons, hstarts⟩ := startsPlain_toString start
  have hword : ∀ d ∈ c :: digits, isGap d = false ∧ d ≠ ':' ∧ d ≠ '#' := by
    intro d hd
    rcases Plain.mem_toList_toString (hcons ▸ hd) with rfl | hdigit
    · decide
    · refine ⟨isGap_of_isDigit hdigit, ?_, ?_⟩ <;> rintro rfl <;> cases hdigit
  have hc := hword c List.mem_cons_self
  have htoken : numberToken start = .scalar true (String.ofList (c :: digits)) := by
    rw [← hcons, String.ofList_toList, numberToken]
  rw [htoken] at hunwinds
  rw [hcons] at h
  refine comes_of_plain h (hstarts _) ⟨hc.1, hc.2.2⟩ ?_ hnext.starts hindent hunwinds
  intro fuel hfuel
  rw [← List.cons_append, readPlain_word (by simp) (by simpa using hc.2.2)
    (fun d hd => ⟨(hword d hd).1, (hword d hd).2.1⟩) (.of_startsWithGap rfl) hnext.closes
    (by simp at hfuel; omega), hnext.readPlainGap_eq]
  rfl

end Reading

end TypedCommands.Yaml
