import Mathlib.Data.List.TakeWhile
import TypedCommands.Proofs.Document.Yaml.Quoted

/-!
# Texts without quotes read back

A text without quotes is read word by word.  What stands between two words of a written
text is either the blanks that stand between them in the text itself, or the end of a
line that was folded at a single blank; the next line is then moved in far enough to
belong to the same text.

Main results:

- Theorem `readPlain_plainRest`: a text that is written without quotes is read back up to
  where the lines of the block around it go on.
- Theorem `readPlain_word`: a single word is read back up to what ends it.
-/

namespace TypedCommands.Yaml

open TypedCommands.Text

/-! ## Words -/

/-- A text at which a text without quotes ends. -/
def EndsPlain (cs : List Char) : Prop := ∀ c ∈ cs.head?, endsPlain false c cs.tail = true

/-- Where plain text ends nothing more is taken. -/
theorem spanPlain_of_endsPlain {cs : List Char} (h : EndsPlain cs) :
    spanPlain false cs = ([], cs) := by
  cases cs with
  | nil => rfl
  | cons c cs =>
    have hc : endsPlain false c cs = true := h c rfl
    rw [spanPlain, if_pos hc]

/-- Plain text ends at a gap. -/
theorem EndsPlain.of_startsWithGap {cs : List Char} (h : startsWithGap cs = true) :
    EndsPlain cs := by
  intro c hc
  obtain ⟨rest, rfl⟩ := List.head?_eq_some_iff.mp hc
  have hgap : isGap c = true := h
  simp [endsPlain, hgap]

/-- Where a text without quotes can end: behind it nothing goes on, or less far to the right. -/
def Closes (column : Int) (gap : PlainGap) : Prop :=
  gap.text = [] ∨ (gap.lineEnded = true ∧ (gap.column : Int) < column)

/-- A word is taken up to where plain text ends. -/
theorem spanPlain_word {word rest : List Char} (hword : ∀ c ∈ word, isGap c = false ∧ c ≠ ':')
    (hrest : EndsPlain rest) : spanPlain false (word ++ rest) = (word, rest) := by
  induction word with
  | nil => exact spanPlain_of_endsPlain hrest
  | cons c word ih =>
    obtain ⟨hgap, hcolon⟩ := hword c List.mem_cons_self
    have hc : endsPlain false c (word ++ rest) = false := by simp [endsPlain, hgap, hcolon]
    rw [List.cons_append, spanPlain, hc, ih fun d hd => hword d (List.mem_cons_of_mem _ hd)]
    rfl

/-- A single word is read back up to what ends it. -/
theorem readPlain_word {word rest : List Char} {column : Int} (hnonempty : word ≠ [])
    (hhead : word.head? ≠ some '#') (hword : ∀ c ∈ word, isGap c = false ∧ c ≠ ':')
    (hrest : EndsPlain rest) (hcloses : Closes column (readPlainGap rest)) {fuel : Nat}
    (hfuel : 0 < fuel) (before : List Char) (ended : Bool) :
    readPlain false column fuel before ended (word ++ rest) =
      ⟨before ++ word, (readPlainGap rest).rest, (readPlainGap rest).lineEnded⟩ := by
  obtain ⟨fuel, rfl⟩ : ∃ n, fuel = n + 1 := ⟨fuel - 1, by omega⟩
  have hstart : ¬((word ++ rest).head? = some '#' ∨ word.isEmpty = true) := by
    cases word with
    | nil => exact absurd rfl hnonempty
    | cons c word => simpa using hhead
  rw [readPlain, spanPlain_word hword hrest, if_neg hstart, if_pos]
  rcases hcloses with htext | hcloses
  · exact .inl (by simp [htext])
  · exact .inr (.inr ⟨rfl, hcloses⟩)

/-! ## Several words -/

/-- A text whose words can be written without quotes. -/
structure FitsPlain (cs : List Char) : Prop where
  /-- It is not empty and begins with no blank. -/
  begins : ∃ c rest, cs = c :: rest ∧ c ≠ ' '
  /-- It ends with no blank. -/
  ends : cs.getLast? ≠ some ' '
  /-- Its only gaps are blanks. -/
  blanks : ∀ c ∈ cs, c = ' ' ∨ isGap c = false
  /-- No mark is in it. -/
  unmarked : hasInnerMark true cs = false

theorem hasInnerMark_tail {afterGap : Bool} {c : Char} {cs : List Char}
    (h : hasInnerMark afterGap (c :: cs) = false) : hasInnerMark (isGap c) cs = false := by
  simp only [hasInnerMark, Bool.or_eq_false_iff] at h
  exact h.2

/-- No line is folded at anything but a blank. -/
theorem plainRest_cons {c : Char} (hblank : c ≠ ' ') (column : Nat) (inRun : Bool)
    (cs : List Char) :
    plainRest column inRun (c :: cs) = c :: plainRest (column + 1) false cs := by
  rw [plainRest, if_neg (by simp [hblank]), beq_false_of_ne hblank]

/-- A gap comes next in what is written exactly if one comes next in the text. -/
theorem startsWithGap_plainRest (column : Nat) (inRun : Bool) (cs : List Char) {rest : List Char}
    (hrest : startsWithGap rest = true) :
    startsWithGap (plainRest column inRun cs ++ rest) = startsWithGap cs := by
  cases cs with
  | nil => exact hrest
  | cons c cs =>
    rw [plainRest]
    split_ifs with hc
    · rw [hc.1]; rfl
    · rfl

/-- A word is read up to the next gap. -/
theorem spanPlain_plainRest {cs : List Char} (hblanks : ∀ c ∈ cs, c = ' ' ∨ isGap c = false)
    {afterGap : Bool} (hmarks : hasInnerMark afterGap cs = false) (column : Nat) {rest : List Char}
    (hrest : startsWithGap rest = true) :
    ∃ column', spanPlain false (plainRest column false cs ++ rest) =
      (cs.takeWhile (· != ' '), plainRest column' false (cs.dropWhile (· != ' ')) ++ rest) := by
  induction cs generalizing column afterGap with
  | nil => exact ⟨column, spanPlain_of_endsPlain (.of_startsWithGap hrest)⟩
  | cons c cs ih =>
    by_cases hblank : c = ' '
    · subst hblank
      refine ⟨column, spanPlain_of_endsPlain (.of_startsWithGap ?_)⟩
      rw [startsWithGap_plainRest _ _ _ hrest]
      rfl
    · have hgap : isGap c = false := (hblanks c List.mem_cons_self).resolve_left hblank
      obtain ⟨column', hspan⟩ :=
        ih (fun d hd => hblanks d (List.mem_cons_of_mem _ hd)) (hasInnerMark_tail hmarks)
          (column + 1)
      have hends : endsPlain false c (plainRest (column + 1) false cs ++ rest) = false := by
        simp only [hasInnerMark, Bool.or_eq_false_iff] at hmarks
        simp [endsPlain, hgap, startsWithGap_plainRest _ _ _ hrest, hmarks.1.1]
      refine ⟨column', ?_⟩
      rw [plainRest_cons hblank, List.cons_append, spanPlain, hends, hspan]
      simp [hblank]

/-- Blanks behind a blank are written as they are. -/
theorem plainRest_run (column : Nat) (cs : List Char) :
    ∃ column', plainRest column true cs = cs.takeWhile (· == ' ') ++
      plainRest column' false (cs.dropWhile (· == ' ')) := by
  induction cs generalizing column with
  | nil => exact ⟨column, rfl⟩
  | cons c cs ih =>
    by_cases hblank : c = ' '
    · subst hblank
      obtain ⟨column', hrest⟩ := ih (column + 1)
      exact ⟨column', by simp [plainRest, hrest]⟩
    · exact ⟨column, by simp [plainRest, hblank]⟩

/-- Blanks are skipped without a line end. -/
theorem skipLines_replicate {rest : List Char} (hrest : ∀ c ∈ rest.head?, isGap c = false)
    (blanks column fuel : Nat) (hfuel : blanks ≤ fuel) :
    skipLines fuel column (List.replicate blanks ' ' ++ rest) =
      (some [], rest, column + blanks) := by
  induction blanks generalizing fuel column with
  | zero =>
    cases fuel with
    | zero => rfl
    | succ fuel =>
      cases rest with
      | nil => rfl
      | cons c rest =>
        have hc : isGap c = false := hrest c rfl
        have hblank : c ≠ ' ' := by rintro rfl; cases hc
        simp [skipLines, hblank, readBreak?_of_isGap_eq_false hc]
  | succ blanks ih =>
    obtain ⟨fuel, rfl⟩ : ∃ n, fuel = n + 1 := ⟨fuel - 1, by omega⟩
    rw [List.replicate_succ, List.cons_append, skipLines, ih (column + 1) fuel (by omega)]
    simp [Nat.add_comm, Nat.add_left_comm]

/-- A line end and the blanks behind it, with something else or nothing following. -/
theorem readPlainGap_line {rest : List Char} (hrest : ∀ c ∈ rest.head?, isGap c = false)
    {blanks : Nat} (hmark : startsWithMark (List.replicate blanks ' ' ++ rest) = false) :
    readPlainGap ('\n' :: (List.replicate blanks ' ' ++ rest)) = ⟨[' '], rest, true, blanks⟩ := by
  have hskip := skipLines_replicate hrest blanks 0
    (List.replicate blanks ' ' ++ rest).length (by simp)
  have hbreak : readBreak? ('\n' :: (List.replicate blanks ' ' ++ rest)) =
      some ('\n', List.replicate blanks ' ' ++ rest) := rfl
  rw [readPlainGap, List.dropWhile_cons_of_neg (by decide)]
  simp only [hbreak, hmark, hskip]
  simp [joinBreaks]

/-- What stands in front of the next word is read as the blanks that it was written for. -/
theorem readPlainGap_plainRest {cs : List Char} {c : Char} {next : List Char}
    (hcs : cs.dropWhile (· == ' ') = c :: next) (hc : isGap c = false) (column : Nat)
    (rest : List Char) :
    ∃ column' gap, readPlainGap (plainRest column false (' ' :: cs) ++ rest) = gap ∧
      gap.text = ' ' :: cs.takeWhile (· == ' ') ∧
      gap.rest = plainRest column' false (c :: next) ++ rest ∧
      (gap.lineEnded = true → gap.column = margin) := by
  have hblank : c ≠ ' ' := by rintro rfl; cases hc
  by_cases hfold : singleBlank cs ∧ foldColumn < column
  · -- a single blank, and the line was folded there
    obtain ⟨d, ds, rfl⟩ : ∃ d ds, cs = d :: ds :=
      List.exists_cons_of_ne_nil (by rintro rfl; cases hcs)
    have hd : d ≠ ' ' := by simpa [singleBlank] using hfold.1
    rw [List.dropWhile_cons_of_neg (by simpa using hd)] at hcs
    rw [hcs] at hfold ⊢
    refine ⟨margin, ⟨[' '], plainRest margin false (c :: next) ++ rest, true, margin⟩, ?_,
      by simp [hblank], rfl, fun _ => rfl⟩
    have hwritten : plainRest column false (' ' :: c :: next) ++ rest =
        '\n' :: (List.replicate margin ' ' ++ (plainRest margin false (c :: next) ++ rest)) := by
      rw [plainRest, if_pos (by simpa using hfold), plainRest_cons hblank, plainRest_cons hblank]
      simp [nextLine]
    rw [hwritten]
    exact readPlainGap_line (by simpa [plainRest_cons hblank] using hc) rfl
  · obtain ⟨column', hrun⟩ := plainRest_run (column + 1) cs
    rw [hcs] at hrun
    have hwritten : plainRest column false (' ' :: cs) ++ rest =
        ' ' :: cs.takeWhile (· == ' ') ++ (c :: plainRest (column' + 1) false next ++ rest) := by
      rw [plainRest, if_neg (by simpa using hfold), ← plainRest_cons hblank column' false]
      simp [hrun]
    have hall : ∀ b ∈ ' ' :: cs.takeWhile (· == ' '), (b == ' ') = true := by
      intro b hb
      rcases List.mem_cons.mp hb with rfl | hb
      · rfl
      · exact List.mem_takeWhile_imp (p := (· == ' ')) hb
    refine ⟨column', ⟨' ' :: cs.takeWhile (· == ' '), _, false, 0⟩, ?_, rfl, rfl, by simp⟩
    rw [plainRest_cons hblank, hwritten, readPlainGap, List.dropWhile_append_of_pos hall,
      List.takeWhile_append_of_pos hall]
    simp [hblank, readBreak?_of_isGap_eq_false hc]

namespace FitsPlain

variable {cs more : List Char}

/-- It does not begin as a comment. -/
theorem head_ne {c : Char} (h : FitsPlain (c :: cs)) : c ≠ '#' := by
  have hunmarked := h.unmarked
  simp only [hasInnerMark, Bool.or_eq_false_iff] at hunmarked
  simpa using hunmarked.1.2

/-- Without inner marks in a text there are none behind its first word. -/
theorem hasInnerMark_dropWord {afterGap : Bool} (h : hasInnerMark afterGap cs = false) :
    ∃ b, hasInnerMark b (cs.dropWhile (· != ' ')) = false := by
  induction cs generalizing afterGap with
  | nil => exact ⟨afterGap, h⟩
  | cons c cs ih =>
    by_cases hblank : c = ' '
    · exact ⟨afterGap, by simpa [hblank] using h⟩
    · obtain ⟨b, hb⟩ := ih (hasInnerMark_tail h)
      exact ⟨b, by simpa [hblank] using hb⟩

/-- Without inner marks in a text there are none behind its blanks. -/
theorem hasInnerMark_dropBlanks (h : hasInnerMark true cs = false) :
    hasInnerMark true (cs.dropWhile (· == ' ')) = false := by
  induction cs with
  | nil => exact h
  | cons c cs ih =>
    by_cases hblank : c = ' '
    · subst hblank
      exact ih (hasInnerMark_tail h)
    · simpa [hblank] using h

/-- The text from its second word on can be written without quotes as well. -/
theorem next (h : FitsPlain cs) (hmore : cs.dropWhile (· != ' ') = ' ' :: more) :
    FitsPlain (more.dropWhile (· == ' ')) := by
  have hsuffix : more.dropWhile (· == ' ') <:+ cs :=
    (List.dropWhile_suffix _).trans (((List.suffix_cons ' ' more).trans
      (hmore ▸ List.dropWhile_suffix _)))
  obtain ⟨front, hfront⟩ := List.dropWhile_suffix (l := cs) (· != ' ')
  rw [hmore] at hfront
  have hnonempty : more.dropWhile (· == ' ') ≠ [] := by
    intro hnil
    rw [List.dropWhile_eq_nil_iff] at hnil
    have hlast : more.getLast?.getD ' ' = ' ' := by
      cases hmem : more.getLast? with
      | none => rfl
      | some b => simpa using hnil b (List.mem_of_getLast? hmem)
    exact h.ends (by rw [← hfront, List.getLast?_append, List.getLast?_cons, hlast]; rfl)
  obtain ⟨c, rest, hcons⟩ := List.exists_cons_of_ne_nil hnonempty
  obtain ⟨b, hmarks⟩ := hasInnerMark_dropWord h.unmarked
  rw [hmore] at hmarks
  refine ⟨⟨c, rest, hcons, ?_⟩, ?_, fun d hd => h.blanks d (hsuffix.subset hd),
    hasInnerMark_dropBlanks (hasInnerMark_tail hmarks)⟩
  · have := List.head?_dropWhile_not (· == ' ') more
    rw [hcons] at this
    simpa using this
  · obtain ⟨before, hbefore⟩ := hsuffix
    have hends := h.ends
    rw [← hbefore, List.getLast?_append, List.getLast?_eq_some_getLast hnonempty] at hends
    rwa [List.getLast?_eq_some_getLast hnonempty]

end FitsPlain

/--
A text that is written without quotes is read back up to where the lines of the block
around it go on.
-/
theorem readPlain_plainRest {rest : List Char} {least : Int} (hleast : least ≤ (margin : Nat))
    (hrest : startsWithGap rest = true) (hcloses : Closes least (readPlainGap rest))
    (cs : List Char) (h : FitsPlain cs) (column : Nat) {fuel : Nat} (hfuel : cs.length ≤ fuel)
    (before : List Char) (ended : Bool) :
    readPlain false least fuel before ended (plainRest column false cs ++ rest) =
      ⟨before ++ cs, (readPlainGap rest).rest, (readPlainGap rest).lineEnded⟩ := by
  obtain ⟨c, tail, hcs, hblank⟩ := h.begins
  have hmark : c ≠ '#' := FitsPlain.head_ne (hcs ▸ h)
  obtain ⟨fuel, rfl⟩ : ∃ n, fuel = n + 1 := ⟨fuel - 1, by simp [hcs] at hfuel; omega⟩
  obtain ⟨column', hspan⟩ := spanPlain_plainRest h.blanks h.unmarked column hrest
  have hstart : ¬((plainRest column false cs ++ rest).head? = some '#' ∨
      (cs.takeWhile (· != ' ')).isEmpty = true) := by
    rw [hcs, plainRest_cons hblank]
    simp [hblank, hmark]
  rw [readPlain, hspan, if_neg hstart]
  cases hmore : cs.dropWhile (· != ' ') with
  | nil =>
    have hword : cs.takeWhile (· != ' ') = cs := by
      have hsplit := List.takeWhile_append_dropWhile (p := (· != ' ')) (l := cs)
      rwa [hmore, List.append_nil] at hsplit
    rw [hword, if_pos]
    · rfl
    · rcases hcloses with htext | hcloses
      · exact .inl (by simp [plainRest, htext])
      · exact .inr (.inr ⟨rfl, by simpa [plainRest] using hcloses⟩)
  | cons b more =>
    have hb : b = ' ' := by
      have hnot := List.head?_dropWhile_not (· != ' ') cs
      rw [hmore] at hnot
      simpa using hnot
    subst hb
    have hnext := h.next hmore
    obtain ⟨d, next, hcons, hd⟩ := hnext.begins
    have hgap : isGap d = false :=
      (hnext.blanks d (by rw [hcons]; exact List.mem_cons_self)).resolve_left hd
    obtain ⟨column'', gap, hgapeq, htext, hbehind, hcolumn⟩ :=
      readPlainGap_plainRest hcons hgap column' rest
    have hd' : d ≠ '#' := FitsPlain.head_ne (hcons ▸ hnext)
    have hsplit : cs.takeWhile (· != ' ') ++
        (' ' :: more.takeWhile (· == ' ') ++ more.dropWhile (· == ' ')) = cs := by
      rw [List.cons_append, List.takeWhile_append_dropWhile, ← hmore,
        List.takeWhile_append_dropWhile]
    have hlength : (more.dropWhile (· == ' ')).length < cs.length := by
      have hlength := congrArg List.length hsplit
      simp only [List.length_append, List.length_cons] at hlength
      omega
    have hgoesOn : ¬(gap.text.isEmpty = true ∨ gap.rest.head? = some '#' ∨
        (gap.lineEnded = true ∧ (gap.column : Int) < least)) := by
      rintro (htext' | hmark | ⟨hended, hless⟩)
      · simp [htext] at htext'
      · rw [hbehind, plainRest_cons hd] at hmark
        exact hd' (by simpa using hmark)
      · rw [hcolumn hended] at hless
        omega
    simp only [hgapeq, true_and]
    rw [if_neg hgoesOn, htext, hbehind, ← hcons,
      readPlain_plainRest hleast hrest hcloses _ hnext column'' (by omega)]
    simp only [List.append_assoc, hsplit]
termination_by cs.length

end TypedCommands.Yaml
