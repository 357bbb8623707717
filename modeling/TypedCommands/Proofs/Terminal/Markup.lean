import Mathlib.Data.List.Basic
import TypedCommands.Proofs.Console
import TypedCommands.Terminal.Markup

/-!
# Reading texts with marks

The text that is behind a finished stretch of another one is read as it is read by itself,
moved to its place: reading looks at what is to come and at the marks that are open, and no
mark is open behind a heading that closes its own.  Whether a text without opening brackets
makes sense is no question at all.

Main results:

- Theorem `parts_eq_of_length_le`: any fuel that is no less than the length of the text gives
  the same parts.
- Theorem `Reading.readParts_behind`: reading behind a text moves what is read.
- Theorem `read_headed`: a text behind a heading in a style is read as it is by itself.
- Theorem `read_of_holdsNoMark`: a text without marks has no styles.
-/

namespace TypedCommands.Terminal

open TypedCommands.Text
open Console (EscapesNothing HoldsNoMark startsMark)

/-! ## Texts behind other texts -/

namespace StyledText

theorem visible_append (cs ds : List Char) : visible (cs ++ ds) = visible cs ++ visible ds :=
  List.filter_append ..

theorem Span.move_move (m n : Nat) (s : Span) : (s.move m).move n = s.move (n + m) := by
  simp [Span.move]
  omega

theorem append_assoc (t u v : StyledText) : (t.append u).append v = t.append (u.append v) := by
  simp [append, Span.move_move, Function.comp_def]

theorem append_ofChars (t : StyledText) (cs : List Char) :
    t.append (ofChars cs) = ⟨t.chars ++ visible cs, t.spans⟩ := by
  simp [append, ofChars]

end StyledText

namespace Markup

/-! ## Parts -/

theorem parts_nil (fuel : Nat) (before : List Char) : parts fuel before [] = textPart before := by
  cases fuel <;> rfl

theorem parts_cons_of_plain {c : Char} (hopen : c ≠ '[') (hslash : c ≠ '\\') (fuel : Nat)
    (before rest : List Char) :
    parts (fuel + 1) before (c :: rest) = parts fuel (c :: before) rest := by
  simp [parts, hopen, hslash]

/-- The rest behind a mark is no longer than the text behind its opening bracket. -/
theorem length_of_mark? {cs body after : List Char} (h : mark? cs = some (body, after)) :
    after.length < cs.length := by
  unfold mark? at h
  split at h
  · cases h
  · next c rest =>
    split at h
    · dsimp only at h
      split at h
      · next hdrop =>
        cases h
        have hlength := congrArg List.length hdrop
        simp only [List.length_drop, List.length_cons] at hlength ⊢
        omega
      · cases h
    · cases h

/-- Dropping characters up to one leaves less. -/
theorem length_lt_of_drop {cs rest : List Char} {n : Nat} {c : Char} (h : cs.drop n = c :: rest) :
    rest.length < cs.length := by
  have hlength := congrArg List.length h
  simp only [List.length_drop, List.length_cons] at hlength
  omega

/-- Fuel that is no less than the length of a text gives all of its parts. -/
theorem parts_eq_of_length_le {m n : Nat} {cs : List Char} (hm : cs.length ≤ m)
    (hn : cs.length ≤ n) (before : List Char) : parts m before cs = parts n before cs := by
  induction m generalizing n cs before with
  | zero =>
    obtain rfl : cs = [] := List.length_eq_zero_iff.1 (Nat.le_zero.1 hm)
    rw [parts_nil, parts_nil]
  | succ m ih =>
    cases cs with
    | nil => rw [parts_nil, parts_nil]
    | cons c rest =>
      cases n with
      | zero => cases hn
      | succ n =>
        simp only [List.length_cons, Nat.add_le_add_iff_right] at hm hn
        simp only [parts]
        split
        · next inside hinside =>
          have hless := length_lt_of_drop hinside
          simp only [List.length_cons] at hless
          split
          · next body after hmark =>
            have hafter := length_of_mark? hmark
            rw [ih (n := n) (by omega) (by omega)]
          · rw [ih (n := n) (by omega) (by omega)]
        · split
          · rw [ih hm hn]
          · next hslashes =>
            have hpos : 0 < ((c :: rest).takeWhile (· == '\\')).length :=
              List.length_pos_iff.2 (by simpa using hslashes)
            have hlength : ((c :: rest).drop
                ((c :: rest).takeWhile (· == '\\')).length).length ≤ rest.length := by
              simp only [List.length_drop, List.length_cons]
              omega
            rw [ih (n := n) (by omega) (by omega)]

/-- A mark of ordinary characters is one part. -/
theorem parts_mark {c : Char} (hc : startsMark c = true) {body : List Char}
    (hbody : ∀ d ∈ body, d ≠ '[' ∧ d ≠ ']') (fuel : Nat) (before after : List Char) :
    parts (fuel + 1) before ('[' :: c :: (body ++ ']' :: after)) =
      textPart before ++ Part.mark (c :: body) :: parts fuel [] after := by
  have htake : (body ++ ']' :: after).takeWhile (fun d => d != '[' && d != ']') = body := by
    rw [List.takeWhile_append_of_pos (by simpa using hbody)]
    simp
  have hmark : mark? (c :: (body ++ ']' :: after)) = some (c :: body, after) := by
    simp [mark?, hc, htake]
  simp [parts, hmark, textPart]

/-- Characters that begin no mark belong to the text, all of them. -/
theorem parts_append_of_plain {cs : List Char} (h : ∀ c ∈ cs, c ≠ '[' ∧ c ≠ '\\') (fuel : Nat)
    (before rest : List Char) :
    parts (cs.length + fuel) before (cs ++ rest) = parts fuel (cs.reverse ++ before) rest := by
  induction cs generalizing before with
  | nil => simp
  | cons c cs ih =>
    have hc := h c List.mem_cons_self
    rw [List.cons_append, List.length_cons, Nat.add_right_comm,
      parts_cons_of_plain hc.1 hc.2, ih (fun d hd => h d (List.mem_cons_of_mem _ hd))]
    simp

/-! ## Texts without marks -/

/-- In a text without marks no opening bracket begins one. -/
theorem mark?_of_holdsNoMark {front inside : List Char}
    (h : HoldsNoMark (front ++ '[' :: inside)) : mark? inside = none := by
  unfold mark?
  split
  · rfl
  · next c rest =>
    split
    · next hstarts =>
      dsimp only
      split
      · next after hafter =>
        -- the mark would be closed in front of every other opening bracket
        have hwhole := List.take_append_drop
          (rest.takeWhile fun d => d != '[' && d != ']').length rest
        rw [hafter, ← List.prefix_iff_eq_take.1 (List.takeWhile_prefix _)] at hwhole
        have hmem := h front c _ after (by rw [hwhole]) hstarts
        simpa using List.all_eq_true.1 List.all_takeWhile _ hmem
      · rfl
    · rfl

/-- The backslashes at the front of a text and what follows them. -/
theorem slashes_append_drop (cs : List Char) :
    cs.takeWhile (· == '\\') ++ cs.drop (cs.takeWhile (· == '\\')).length = cs := by
  induction cs with
  | nil => rfl
  | cons c cs ih =>
    by_cases hc : c = '\\'
    · simpa [hc] using ih
    · simp [hc]

/-- Backslashes are the same backwards. -/
theorem reverse_slashes (cs : List Char) :
    (cs.takeWhile (· == '\\')).reverse = cs.takeWhile (· == '\\') := by
  have hall : ∀ c ∈ cs.takeWhile (· == '\\'), c = '\\' := by
    intro c hc
    simpa using List.all_eq_true.1 List.all_takeWhile c hc
  rw [List.eq_replicate_of_mem hall, List.reverse_replicate]

/-- A text without marks is one part. -/
theorem parts_of_holdsNoMark {fuel : Nat} {cs : List Char} (hlength : cs.length ≤ fuel)
    (h : HoldsNoMark cs) (before : List Char) :
    parts fuel before cs = textPart (cs.reverse ++ before) := by
  induction fuel generalizing cs before with
  | zero =>
    obtain rfl : cs = [] := List.length_eq_zero_iff.1 (Nat.le_zero.1 hlength)
    rfl
  | succ fuel ih =>
    cases cs with
    | nil => rfl
    | cons c rest =>
      have hwhole := slashes_append_drop (c :: rest)
      have hback := reverse_slashes (c :: rest)
      simp only [List.length_cons, Nat.add_le_add_iff_right] at hlength
      simp only [parts]
      generalize (c :: rest).takeWhile (· == '\\') = slashes at hwhole hback ⊢
      split
      · next inside hinside =>
        have hless := length_lt_of_drop hinside
        simp only [List.length_cons] at hless
        rw [hinside] at hwhole
        have hrest : HoldsNoMark inside := by
          rw [← hwhole] at h
          exact h.of_append.of_cons
        rw [mark?_of_holdsNoMark (hwhole.symm ▸ h)]
        simp only
        rw [ih (by omega) hrest]
        conv_rhs => rw [← hwhole, List.reverse_append, hback]
        simp
      · split
        · have hrest : HoldsNoMark rest := h.of_cons
          rw [ih hlength hrest]
          simp
        · next hslashes =>
          have hpos : 0 < slashes.length := List.length_pos_iff.2 (by simpa using hslashes)
          rw [ih (by simp only [List.length_drop, List.length_cons]; omega)
            (HoldsNoMark.of_append (hwhole.symm ▸ h)), ← List.append_assoc]
          conv_rhs => rw [← hwhole, List.reverse_append, hback]

/-- A text without marks has no styles. -/
theorem read_of_holdsNoMark {cs : List Char} (h : HoldsNoMark cs) :
    read cs = .ok (.ofChars (replacePictures (bareBrackets cs))) := by
  rw [read, parts_of_holdsNoMark (Nat.le_refl _) h, textPart]
  cases cs with
  | nil => rfl
  | cons c rest =>
    simp [readParts, Except.map, Reading.add, Reading.finish, StyledText.append,
      StyledText.ofChars]

/-- Without such backslashes nothing is taken away. -/
theorem bareBrackets_of_escapesNothing {cs : List Char} (h : EscapesNothing cs) :
    bareBrackets cs = cs := by
  fun_induction bareBrackets cs with
  | case1 rest => exact absurd rfl (h [] rest)
  | case2 c rest _ ih =>
    rw [ih fun front inside heq => h (c :: front) inside (by rw [heq, List.cons_append])]
  | case3 => rfl

/-! ## Going on with parts -/

/-- Parts are read one after the other. -/
theorem readParts_append (r : Reading) (ps qs : List Part) :
    readParts r (ps ++ qs) = (readParts r ps).bind fun r => readParts r qs := by
  induction ps generalizing r with
  | nil => rfl
  | cons p ps ih =>
    cases p with
    | text cs => exact ih _
    | mark body =>
      simp only [List.cons_append, readParts]
      cases r.follow body with
      | error fault => rfl
      | ok r => exact ih r

namespace Reading

theorem add_add (cs ds : List Char) (r : Reading) : (r.add cs).add ds = r.add (cs ++ ds) := by
  simp [add, StyledText.append_ofChars, StyledText.visible_append]

/-- A mark in a text that gets further characters in front. -/
def moveMark (n : Nat) (m : OpenMark) : OpenMark := { m with start := m.start + n }

/-- What is read behind a text. -/
def behind (t : StyledText) (r : Reading) : Reading :=
  ⟨t.append r.text, r.marks.map (moveMark t.chars.length)⟩

/-- Which mark is closed does not depend on where the marks are. -/
theorem close?_moveMark (n : Nat) (style : String) (marks : List OpenMark) :
    close? style (marks.map (moveMark n)) =
      (close? style marks).map fun m => (moveMark n m.1, m.2.map (moveMark n)) := by
  induction marks with
  | nil => rfl
  | cons m marks ih =>
    simp only [List.map_cons, close?, ih]
    by_cases h : m.style = style
    · simp [h, moveMark]
    · have h' : ¬ (moveMark n m).style = style := h
      simp [h, h', Option.map_map, Function.comp_def]

theorem span_moveMark (n stop : Nat) (m : OpenMark) :
    (moveMark n m).span (n + stop) = (m.span stop).move n := by
  simp [OpenMark.span, moveMark, Span.move, OpenMark.isSound, OpenMark.isCall, Nat.add_comm]

/-- Closing a mark is the same behind another text. -/
theorem close_behind (t : StyledText) (m : OpenMark) (others : List OpenMark) (r : Reading) :
    (r.behind t).close (moveMark t.chars.length m) (others.map (moveMark t.chars.length)) =
      (r.close m others).map (·.behind t) := by
  have hclose : (moveMark t.chars.length m).canClose = m.canClose := rfl
  simp only [close, hclose]
  split
  · simp [Except.map, behind, StyledText.append, span_moveMark]
  · rfl

/-- Following a mark is the same behind another text. -/
theorem follow_behind (t : StyledText) (r : Reading) (body : List Char) :
    (r.behind t).follow body = (r.follow body).map (·.behind t) := by
  simp only [follow]
  split
  · split
    · cases hmarks : r.marks with
      | nil => simp [behind, hmarks, Except.map]
      | cons m rest =>
        have := close_behind t m rest r
        simpa [behind, hmarks] using this
    · split
      · rfl
      · next style hstyle =>
        have hfound := close?_moveMark t.chars.length style r.marks
        cases hm : close? style r.marks with
        | none =>
          rw [hm] at hfound
          simp only [behind, hfound, Option.map_none, Except.map]
        | some found =>
          rw [hm] at hfound
          simp only [behind, hfound, Option.map_some]
          exact close_behind t found.1 found.2 r
  · cases styleOf (body.takeWhile (· != '=')) with
    | error fault => rfl
    | ok style =>
      simp [Except.map, behind, moveMark, StyledText.append, Nat.add_comm]

/-- Reading behind a text moves what is read. -/
theorem readParts_behind (t : StyledText) (r : Reading) (ps : List Part) :
    readParts (r.behind t) ps = (readParts r ps).map (·.behind t) := by
  induction ps generalizing r with
  | nil => rfl
  | cons p ps ih =>
    cases p with
    | text cs =>
      have hadd : (r.behind t).add (replacePictures (bareBrackets cs)) =
          (r.add (replacePictures (bareBrackets cs))).behind t := by
        simp [add, behind, StyledText.append_assoc]
      rw [readParts, readParts, hadd]
      exact ih _
    | mark body =>
      simp only [readParts, follow_behind]
      cases r.follow body with
      | error fault => rfl
      | ok r => exact ih r

theorem finish_behind (t : StyledText) (r : Reading) :
    (r.behind t).finish = t.append r.finish := by
  simp [finish, behind, StyledText.append, span_moveMark, Function.comp_def]

end Reading

/-- A blank in front of ordinary text that is read later is read first. -/
theorem readParts_blank (fuel : Nat) (before cs : List Char) (r : Reading) :
    readParts r (parts fuel (before ++ [' ']) cs) =
      readParts (r.add [' ']) (parts fuel before cs) := by
  have htext (before : List Char) (r : Reading) :
      readParts r (textPart (before ++ [' '])) = readParts (r.add [' ']) (textPart before) := by
    have hbare (cs : List Char) : replacePictures (bareBrackets (' ' :: cs)) =
        ' ' :: replacePictures (bareBrackets cs) := by
      cases cs <;> simp [bareBrackets, replacePictures, replaceFrom]
    by_cases hbefore : before = []
    · subst hbefore
      rfl
    · simp only [textPart, List.isEmpty_iff, List.append_eq_nil_iff, hbefore, false_and,
        if_false, List.reverse_append, List.reverse_singleton,
        List.singleton_append, readParts, hbare]
      rw [Reading.add_add, List.singleton_append]
  induction fuel generalizing before cs r with
  | zero => exact htext before r
  | succ fuel ih =>
    cases cs with
    | nil => exact htext before r
    | cons c rest =>
      simp only [parts]
      split
      · split
        · simp only [List.append_assoc]
          rw [readParts_append, readParts_append, htext]
        · rw [← List.append_assoc]
          exact ih _ _ _
      · split
        · rw [← List.cons_append]
          exact ih _ _ _
        · rw [← List.append_assoc]
          exact ih _ _ _

/-! ## Headings -/

/-- What is read of a heading in a style, and the blank behind it. -/
def headingText (heading : List Char) : StyledText :=
  ⟨heading ++ [' '], [⟨0, heading.length, true⟩]⟩

/-- Text that is left alone when it is read. -/
def Untouched (cs : List Char) : Prop :=
  cs ≠ [] ∧ (∀ c ∈ cs, c ≠ '[' ∧ c ≠ '\\') ∧
    visible (replacePictures (bareBrackets cs)) = cs

/-- The mark for red opens. -/
theorem follow_red (r : Reading) :
    r.follow "red".toList =
      .ok { r with marks := ⟨r.text.chars.length, "red", []⟩ :: r.marks } := by
  have hname : "red".toList.takeWhile (· != '=') = "red".toList := by decide
  have hstyle : styleOf "red".toList = .ok "red" := by decide +kernel
  simp only [Reading.follow, hname]
  rw [hstyle]
  rfl

/-- The mark that closes red closes it. -/
theorem follow_closeRed (t : StyledText) (start : Nat) :
    Reading.follow "/red".toList ⟨t, [⟨start, "red", []⟩]⟩ =
      .ok ⟨⟨t.chars, t.spans ++ [⟨start, t.chars.length, true⟩]⟩, []⟩ := by
  have hname : "/red".toList.takeWhile (· != '=') = '/' :: "red".toList := by decide
  have htrim : trimBlanks "red".toList = "red".toList := by decide
  have hstyle : styleOf "red".toList = .ok "red" := by decide +kernel
  have hread : OpenMark.isSound ⟨0, "red", []⟩ = true := by decide +kernel
  have hsound : OpenMark.isSound ⟨start, "red", []⟩ = true := by
    simp only [OpenMark.isSound, OpenMark.isCall] at hread ⊢
    exact hread
  simp only [Reading.follow, hname]
  rw [htrim, hstyle]
  simp [close?, Reading.close, OpenMark.canClose, OpenMark.isCall, OpenMark.span, hsound]

/-- A text behind a heading in a style is read as it is by itself. -/
theorem read_headed {heading : List Char} (h : Untouched heading) (cs : List Char) :
    read ("[red]".toList ++ heading ++ "[/red] ".toList ++ cs) =
      (read cs).map ((headingText heading).append ·) := by
  obtain ⟨hne, hplain, hsame⟩ := h
  have hparts : parts ("[red]".toList ++ heading ++ "[/red] ".toList ++ cs).length []
      ("[red]".toList ++ heading ++ "[/red] ".toList ++ cs) =
      [.mark "red".toList, .text heading, .mark "/red".toList] ++
        parts (cs.length + 11) ([] ++ [' ']) cs := by
    have hed : ∀ d ∈ "ed".toList, d ≠ '[' ∧ d ≠ ']' := List.forall_iff_forall_mem.mp (by decide)
    have hred : ∀ d ∈ "red".toList, d ≠ '[' ∧ d ≠ ']' := List.forall_iff_forall_mem.mp (by decide)
    have hwhole : "[red]".toList ++ heading ++ "[/red] ".toList ++ cs =
        '[' :: 'r' :: ("ed".toList ++ ']' :: (heading ++ ("[/red] ".toList ++ cs))) := by
      simp only [List.append_assoc]
      rfl
    rw [parts_eq_of_length_le (n := heading.length + (cs.length + 12 + 1) + 1) (Nat.le_refl _)
      (by simp only [List.length_append]; simp; omega), hwhole]
    calc parts (heading.length + (cs.length + 12 + 1) + 1) []
          ('[' :: 'r' :: ("ed".toList ++ ']' :: (heading ++ ("[/red] ".toList ++ cs))))
        = Part.mark "red".toList :: parts (heading.length + (cs.length + 12 + 1)) []
            (heading ++ ("[/red] ".toList ++ cs)) := parts_mark (by decide) hed _ _ _
      _ = Part.mark "red".toList :: parts (cs.length + 12 + 1) (heading.reverse ++ [])
            ('[' :: '/' :: ("red".toList ++ ']' :: (' ' :: cs))) := by
          rw [parts_append_of_plain hplain]
          rfl
      _ = _ := by
          rw [parts_mark (by decide) hred, parts_cons_of_plain (by decide) (by decide)]
          simp [textPart, hne]
  have hheading : readParts {} [.mark "red".toList, .text heading, .mark "/red".toList] =
      .ok ⟨⟨heading, [⟨0, heading.length, true⟩]⟩, []⟩ := by
    simp only [readParts, follow_red, Reading.add, StyledText.append_ofChars, hsame]
    rw [List.nil_append, List.length_nil, follow_closeRed]
    rfl
  have hblank : (⟨⟨heading, [⟨0, heading.length, true⟩]⟩, []⟩ : Reading).add [' '] =
      ({} : Reading).behind (headingText heading) := by
    simp [Reading.add, Reading.behind, headingText, StyledText.append, StyledText.ofChars,
      visible, isDropped]
  rw [read, hparts, readParts_append, hheading, Except.bind, readParts_blank, hblank,
    Reading.readParts_behind, read, parts_eq_of_length_le (n := cs.length) (by omega)
    (Nat.le_refl _)]
  cases readParts {} (parts cs.length [] cs) with
  | error fault => rfl
  | ok r => simp [Except.map, Reading.finish_behind]

end Markup

end TypedCommands.Terminal
