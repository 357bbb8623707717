import TypedCommands.Proofs.Terminal.Columns
import TypedCommands.Proofs.Terminal.Markup
import TypedCommands.Terminal.Console

/-!
# Texts that are read as they are

A terminal reads a text that means itself as it is.  Where no picture is named, none is put
in; where nothing is escaped, no backslash is taken away; and what holds no mark has no style.

Main results:

- Theorem `replacePictures_of_namesNoPicture`: where no picture is named, none is put in.
- Theorem `read_of_isLiteral`: a text that means itself is read as it is.
-/

namespace TypedCommands.Terminal

open TypedCommands.Text
open Console (IsLiteral Metrics NamesNoPicture isOrdinary)

/-- What is known of the way a terminal measures and reads. -/
def metrics : Metrics where
  columns := columns
  widths s := (tableOf s).widths
  isPicture name := (replacement? name).isSome

/-! ## Names of pictures -/

/-- What names no picture has no part behind something that names one. -/
theorem namesNoPicture_of_append {front cs : List Char}
    (h : NamesNoPicture metrics (front ++ cs)) : NamesNoPicture metrics cs := by
  rintro before name back rfl hname
  exact h (front ++ before) name back (by rw [List.append_assoc]) hname

/-- The text behind a colon that may begin a name; none stands for no such colon. -/
def pendingText : Option (List Char) → List Char
  | none => []
  | some cs => ':' :: cs.reverse

/-- The same while a name is being read. -/
theorem replaceFrom_of_namesNoPicture {pending : Option (List Char)} {cs : List Char}
    (h : NamesNoPicture metrics (pendingText pending ++ cs))
    (hpending : ∀ before, pending = some before → ∀ c ∈ before, c ≠ ':' ∧ isBlank c = false) :
    replaceFrom pending cs = pendingText pending ++ cs := by
  induction cs generalizing pending with
  | nil => cases pending <;> simp [replaceFrom, pendingText]
  | cons c rest ih =>
    have hnone : NamesNoPicture metrics (pendingText none ++ rest) := by
      have hcut : pendingText pending ++ c :: rest = (pendingText pending ++ [c]) ++ rest := by
        simp
      rw [hcut] at h
      exact namesNoPicture_of_append h
    have hrest : replaceFrom none rest = rest := ih hnone (by simp)
    cases pending with
    | none =>
      by_cases hc : c = ':'
      · subst hc
        rw [replaceFrom, if_pos rfl]
        exact ih h (by simp)
      · rw [replaceFrom, if_neg hc, hrest]
        rfl
    | some before =>
      have hbefore := hpending before rfl
      rw [replaceFrom]
      split
      · next hc =>
        subst hc
        have hno : replacement? before.reverse = none := by
          simpa [metrics] using h [] before.reverse rest (by simp [pendingText])
            fun d hd => hbefore d (List.mem_reverse.1 hd)
        rw [hno, hrest]
        simp [pendingText]
      · next hc =>
        split
        · rw [hrest]
          simp [pendingText]
        · next hblank =>
          have hmore : pendingText (some (c :: before)) ++ rest =
              pendingText (some before) ++ c :: rest := by
            simp [pendingText]
          rw [ih (hmore ▸ h), hmore]
          intro other hother d hd
          cases hother
          rcases List.mem_cons.1 hd with rfl | hd
          · exact ⟨hc, by simpa using hblank⟩
          · exact hbefore d hd

/-- Where no picture is named, none is put in. -/
theorem replacePictures_of_namesNoPicture {cs : List Char} (h : NamesNoPicture metrics cs) :
    replacePictures cs = cs := by
  have hstart : NamesNoPicture metrics (pendingText none ++ cs) := h
  exact replaceFrom_of_namesNoPicture hstart (by simp)

/-! ## Texts that mean themselves -/

/-- An ordinary character is not left out, it is no tab, and it is joined to no other one. -/
theorem of_isOrdinary {c : Char} (h : isOrdinary c = true) :
    isDropped c = false ∧ c ≠ '\t' ∧ isPlain c = true := by
  simp only [isOrdinary, List.contains_cons, List.contains_nil, Bool.or_false, Bool.not_eq_true',
    Bool.or_eq_false_iff, beq_eq_false_iff_ne, ne_eq] at h
  simp [isDropped, isPlain, joiner, pictureMark, h]

variable {cs : List Char}

/-- So nothing of a text of ordinary characters is left out. -/
theorem visible_of_isOrdinary (h : ∀ c ∈ cs, isOrdinary c = true) : visible cs = cs := by
  rw [Terminal.visible, List.filter_eq_self]
  intro c hc
  rw [(of_isOrdinary (h c hc)).1]
  rfl

/-- It has no tabs. -/
theorem noTab_of_isOrdinary (h : ∀ c ∈ cs, isOrdinary c = true) : '\t' ∉ cs :=
  fun hc => (of_isOrdinary (h _ hc)).2.1 rfl

/-- Nothing in it is joined. -/
theorem plain_of_isOrdinary (h : ∀ c ∈ cs, isOrdinary c = true) : Plain cs :=
  fun c hc => (of_isOrdinary (h c hc)).2.2

/-- A text that means itself is left alone when it is read. -/
theorem visible_replacePictures (h : IsLiteral metrics cs) :
    visible (replacePictures (Markup.bareBrackets cs)) = cs := by
  rw [Markup.bareBrackets_of_escapesNothing h.noEscape,
    replacePictures_of_namesNoPicture h.noPicture, visible_of_isOrdinary h.ordinary]

/-- It is read as it is. -/
theorem read_of_isLiteral (h : IsLiteral metrics cs) : Markup.read cs = .ok ⟨cs, []⟩ := by
  rw [Markup.read_of_holdsNoMark h.noMark, StyledText.ofChars, visible_replacePictures h]

end TypedCommands.Terminal
