import TypedCommands.Proofs.Line.Breakage
import TypedCommands.Proofs.Line.Spelling

/-!
# Names that can be typed

A command is named by the raw text of an argument, a field by the name in front of a
value.  Some line gives a name of either kind exactly if the name is a bare word.

Tables and binding tags judge the names they are given without a scanner.  They look for
blanks, separators and a quote in front, which is all that keeps a name from being a bare
word but for one thing: a control character that is no blank.  Such a stray character
passes where a letter does, and no line gives a name that holds one.

Main results:

- Theorems `isTypedCommand_iff` and `isTypedName_iff`: the names that can be typed are the
  bare words.
- Theorem `isBareWord_lettered_iff`: what a judge without a scanner has to look for.
- Theorem `isBareWord_iff_lettered`: what it cannot see are stray characters.
-/

namespace TypedCommands.Line

open TypedCommands.Text

/-! ## Names that some line gives -/

/-- Some line gives the text as an argument that is shaped like a command name. -/
def IsTypedCommand (s : String) : Prop :=
  ∃ line, ∃ a ∈ (Source.ofLine line).arguments, a.isName = true ∧ a.raw = s

/-- Some line gives an argument with the name. -/
def IsTypedName (s : String) : Prop :=
  s ≠ "" ∧ ∃ line, ∃ a ∈ (Source.ofLine line).arguments, a.name = s

/-- The argument of a lexeme that is a whole line is among the arguments of that line. -/
theorem IsLexeme.mem_arguments {raw name value : List Char} {closed : Bool}
    (hl : IsLexeme raw name value closed) :
    (⟨String.ofList raw, String.ofList name, String.ofList value, 0⟩ : Argument) ∈
      (Source.ofLine (String.ofList raw)).arguments := by
  rw [tokenize_eq_ok_iff.1 (tokenize_of_isLexeme hl)]
  exact List.mem_singleton_self _

/-- A lexeme without a name that begins with no quote is a bare word. -/
theorem IsLexeme.isBareWord {raw value : List Char} {closed : Bool}
    (hl : IsLexeme raw [] value closed) (hquote : Argument.startsQuoted raw = false) :
    IsBareWord raw := by
  cases hl with
  | unnamed hu =>
    cases hu with
    | bare hw => exact hw
    | quoted hq _ _ =>
      rw [Argument.startsQuoted, hq] at hquote
      contradiction
  | empty hn => exact absurd rfl hn.ne_nil
  | named hn _ => exact absurd rfl hn.ne_nil

/-- The name of a lexeme that has one is a bare word. -/
theorem IsLexeme.name_isBareWord {raw name value : List Char} {closed : Bool}
    (hl : IsLexeme raw name value closed) (hname : name ≠ []) : IsBareWord name := by
  cases hl with
  | unnamed _ => exact absurd rfl hname
  | empty hn => exact hn
  | named hn _ => exact hn

/-- Some line gives a text as the name of a command exactly if it is a bare word. -/
theorem isTypedCommand_iff (s : String) : IsTypedCommand s ↔ IsBareWord s.toList := by
  constructor
  · rintro ⟨line, a, ha, hname, rfl⟩
    obtain ⟨closed, hl⟩ := exists_isLexeme_of_mem ha
    simp only [Argument.isName, Bool.and_eq_true, beq_iff_eq, Bool.not_eq_true'] at hname
    obtain ⟨⟨hunnamed, -⟩, hquote⟩ := hname
    rw [hunnamed, String.toList_empty] at hl
    exact hl.isBareWord hquote
  · intro hw
    have hmem := (IsLexeme.unnamed (.bare hw)).mem_arguments
    refine ⟨_, _, hmem, ?_, by simp⟩
    obtain ⟨c, cs, hs, -, hquote⟩ := hw.exists_head
    simp [Argument.isName, hs, Argument.startsQuoted, hquote]

/-- Some line gives a text as the name of an argument exactly if it is a bare word. -/
theorem isTypedName_iff (s : String) : IsTypedName s ↔ IsBareWord s.toList := by
  constructor
  · rintro ⟨hs, line, a, ha, rfl⟩
    obtain ⟨closed, hl⟩ := exists_isLexeme_of_mem ha
    apply hl.name_isBareWord
    simpa using hs
  · intro hw
    have hmem := (IsLexeme.empty hw).mem_arguments
    refine ⟨?_, _, _, hmem, by simp⟩
    rintro rfl
    exact hw.ne_nil rfl

/-! ## Names that are judged without a scanner -/

/-- A control character that is no blank: it does not separate arguments, and no word holds it. -/
def isStray (c : Char) : Bool := isControl c && !isBlank c

/-- The text with a letter in the place of each stray character. -/
def lettered (cs : List Char) : List Char := cs.map fun c => if isStray c then 'x' else c

/-- A text without stray characters stands as it is. -/
theorem lettered_eq_self {cs : List Char} (h : ∀ c ∈ cs, isStray c = false) :
    lettered cs = cs := by
  rw [lettered]
  calc
    cs.map (fun c => if isStray c then 'x' else c) = cs.map id := by
      apply List.map_congr_left
      intro c hc
      simp [h c hc]
    _ = cs := List.map_id cs

/-- A name with a letter in the place of each stray character. -/
def withLetters (s : String) : String := String.ofList (lettered s.toList)

theorem toList_withLetters (s : String) : (withLetters s).toList = lettered s.toList :=
  String.toList_ofList

theorem withLetters_eq_self {s : String} (h : ∀ c ∈ s.toList, isStray c = false) :
    withLetters s = s := by
  rw [withLetters, lettered_eq_self h, String.ofList_toList]

/-- A class with neither the letter nor stray characters in it does not tell the two apart. -/
private theorem class_lettered {p : Char → Bool} (hletter : p 'x' = false)
    (hstray : ∀ c, isControl c = true → isBlank c = false → p c = false) (c : Char) :
    p (if isStray c then 'x' else c) = p c := by
  split
  · next hc =>
    simp only [isStray, Bool.and_eq_true, Bool.not_eq_true'] at hc
    rw [hletter, hstray c hc.1 hc.2]
  · rfl

/-- No stray character is left in a text that is lettered. -/
theorem isStray_of_mem_lettered {cs : List Char} {c : Char} (h : c ∈ lettered cs) :
    isStray c = false := by
  obtain ⟨d, -, rfl⟩ := List.mem_map.1 h
  split
  · decide
  · next hd => simpa using hd

theorem isBlank_lettered_iff (cs : List Char) :
    (∀ c ∈ lettered cs, isBlank c = false) ↔ ∀ c ∈ cs, isBlank c = false := by
  have hkeep := class_lettered (p := isBlank) (by decide) fun c _ hblank => hblank
  simp [lettered, hkeep]

/-- Putting letters in the place of strays changes no separators. -/
theorem nameSeparator_mem_lettered_iff (cs : List Char) :
    nameSeparator ∈ lettered cs ↔ nameSeparator ∈ cs := by
  have hkeep := class_lettered (p := (· == nameSeparator)) (by decide) fun c hc _ => by
    simpa using ne_nameSeparator_of_isControl hc
  simp only [beq_eq_beq] at hkeep
  simp [lettered, hkeep]

/-- Putting letters in the place of strays changes no quote at the start. -/
theorem isQuote_head_lettered_iff (cs : List Char) :
    (∀ c, (lettered cs).head? = some c → isQuote c = false) ↔
      ∀ c, cs.head? = some c → isQuote c = false := by
  have hkeep := class_lettered (p := isQuote) (by decide) fun c hc _ => isQuote_of_isControl hc
  cases cs with
  | nil => simp [lettered]
  | cons c cs => simp [lettered, hkeep]

/-- With letters in the place of stray characters, a bare word is told by what is left to see. -/
theorem isBareWord_lettered_iff (cs : List Char) :
    IsBareWord (lettered cs) ↔
      cs ≠ [] ∧ (∀ c ∈ cs, isBlank c = false) ∧ nameSeparator ∉ cs ∧
        ∀ c, cs.head? = some c → isQuote c = false := by
  constructor
  · intro hw
    refine ⟨?_, (isBlank_lettered_iff cs).1 hw.no_blank, ?_,
      (isQuote_head_lettered_iff cs).1 hw.no_quote⟩
    · rintro rfl
      exact hw.ne_nil rfl
    · rw [← nameSeparator_mem_lettered_iff]
      exact hw.no_separator
  · rintro ⟨hne, hblank, hseparator, hquote⟩
    refine ⟨by simpa [lettered] using hne, (isBlank_lettered_iff cs).2 hblank, ?_, ?_,
      (isQuote_head_lettered_iff cs).2 hquote⟩
    · rwa [nameSeparator_mem_lettered_iff]
    · intro c hc hcontrol
      have hstray := isStray_of_mem_lettered hc
      simpa [isStray, hcontrol] using hstray

/-- A bare word is a text that is one with letters in place, and holds nothing stray. -/
theorem isBareWord_iff_lettered (cs : List Char) :
    IsBareWord cs ↔ IsBareWord (lettered cs) ∧ ∀ c ∈ cs, isStray c = false := by
  constructor
  · intro hw
    have hstray : ∀ c ∈ cs, isStray c = false := by
      intro c hc
      have hword := (isWord_iff c).1 (hw.isWord c hc)
      simp [isStray, hword.2.2]
    rw [lettered_eq_self hstray]
    exact ⟨hw, hstray⟩
  · rintro ⟨hw, hstray⟩
    rwa [lettered_eq_self hstray] at hw

/-- A name with the bell character, which is no blank, in it. -/
def bellName : String := "be\x07ll"

theorem not_isBareWord_bellName : ¬ IsBareWord bellName.toList := by
  rw [isBareWord_iff_lettered]
  rintro ⟨-, hstray⟩
  exact absurd (hstray '\x07' (by decide)) (by decide)

example : withLetters bellName = "bexll" := by decide

end TypedCommands.Line
