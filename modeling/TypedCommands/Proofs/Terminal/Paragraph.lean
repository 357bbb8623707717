import TypedCommands.Terminal.Paragraph

/-!
# Lines of texts

A text is laid out in lines by its characters alone.  The styles of a line are what is left
of the styles of the text, so that a line has no style that cannot be made out unless the
text has one.

Main results:

- Theorem `isSound_layOut`: the lines of a text whose styles can all be made out have such
  styles only.
-/

namespace TypedCommands.Terminal

open TypedCommands.Text

/-! ## Styles of lines -/

namespace StyledText

theorem isSound_iff {t : StyledText} : t.isSound = true ↔ ∀ s ∈ t.spans, s.sound = true :=
  List.all_eq_true

theorem isSound_ofChars (cs : List Char) : (ofChars cs).isSound = true := rfl

/-- Two sound texts make a sound one. -/
theorem isSound_append {t u : StyledText} (ht : t.isSound = true) (hu : u.isSound = true) :
    (t.append u).isSound = true := by
  rw [isSound_iff] at ht hu ⊢
  intro s hs
  rcases List.mem_append.1 hs with hs | hs
  · exact ht s hs
  · obtain ⟨moved, hmoved, rfl⟩ := List.mem_map.1 hs
    exact hu moved hmoved

/-- Clipping keeps styles sound. -/
theorem isSound_clipSpans {n : Nat} {spans : List Span} (h : ∀ s ∈ spans, s.sound = true) :
    ∀ s ∈ clipSpans n spans, s.sound = true := by
  intro s hs
  obtain ⟨clipped, hclipped, rfl⟩ := List.mem_map.1 hs
  exact h clipped (List.mem_filter.1 hclipped).1

/-- The front of a sound text is sound. -/
theorem isSound_take {t : StyledText} (h : t.isSound = true) (n : Nat) :
    (t.take n).isSound = true := by
  rw [take]
  split
  · exact h
  · exact isSound_iff.2 (isSound_clipSpans (isSound_iff.1 h))

/-- Other characters keep a text sound. -/
theorem isSound_replace {t : StyledText} (h : t.isSound = true) (cs : List Char) :
    (t.replace cs).isSound = true := by
  rw [replace]
  split
  · exact isSound_iff.2 (isSound_clipSpans (isSound_iff.1 h))
  · exact h

/-- Slices with sound styles are sound. -/
theorem isSound_slicesFrom {spans : List Span} (h : ∀ s ∈ spans, s.sound = true) (gap : Nat)
    (lengths : List Nat) (start : Nat) (cs : List Char) :
    ∀ t ∈ slicesFrom spans gap start cs lengths, t.isSound = true := by
  induction lengths generalizing start cs with
  | nil => simp [slicesFrom]
  | cons n lengths ih =>
    intro t ht
    rcases List.mem_cons.1 ht with rfl | ht
    · refine isSound_iff.2 fun s hs => ?_
      obtain ⟨whole, hwhole, hwithin⟩ := List.mem_filterMap.1 hs
      simp only [Span.within?] at hwithin
      split at hwithin
      · cases hwithin
        exact h whole hwhole
      · cases hwithin
    · exact ih _ _ t ht

/-- The parts of a sound text are sound. -/
theorem isSound_divide {t : StyledText} (h : t.isSound = true) (gap : Nat)
    (lengths : List Nat) : ∀ u ∈ t.divide gap lengths, u.isSound = true := by
  intro u hu
  rw [divide] at hu
  split at hu
  · rw [List.mem_singleton.1 hu]
    exact h
  · exact isSound_slicesFrom (isSound_iff.1 h) _ _ _ _ u hu

theorem isSound_fill {t : StyledText} (h : t.isSound = true) (n : Nat) :
    (t.fill n).isSound = true := h

theorem isSound_extend {t : StyledText} (h : t.isSound = true) (n : Nat) :
    (t.extend n).isSound = true := by
  rw [isSound_iff] at h ⊢
  intro s hs
  obtain ⟨whole, hwhole, rfl⟩ := List.mem_map.1 hs
  have := h whole hwhole
  split <;> exact this

/-- Indenting keeps a text sound. -/
theorem isSound_indent {t : StyledText} (h : t.isSound = true) (n : Nat) :
    (t.indent n).isSound = true := by
  rw [isSound_iff] at h ⊢
  intro s hs
  obtain ⟨moved, hmoved, rfl⟩ := List.mem_map.1 hs
  exact h moved hmoved

end StyledText

open StyledText

/-- Sound parts make a sound text. -/
theorem isSound_joinAtStops {parts : List StyledText} (h : ∀ t ∈ parts, t.isSound = true)
    (column : Nat) : (joinAtStops column parts).isSound = true := by
  fun_induction joinAtStops column parts with
  | case1 => rfl
  | case2 _ last => exact h last (List.mem_singleton_self last)
  | case3 _ part rest _ here _ ih =>
    have hpart := h part List.mem_cons_self
    have hhere : here.isSound = true := isSound_replace hpart _
    exact isSound_append (isSound_extend hhere _)
      (ih fun t ht => h t (List.mem_cons_of_mem _ ht))

/-- Cutting keeps a text sound. -/
theorem isSound_truncate {t : StyledText} (h : t.isSound = true) (overflow : Overflow)
    (width : Nat) : (truncate overflow width t).isSound = true := by
  rw [truncate.eq_def]
  split
  · exact h
  · cases overflow <;> exact isSound_replace h _

/-- Placing keeps a text sound. -/
theorem isSound_place {t : StyledText} (h : t.isSound = true) (placement : Placement)
    (overflow : Overflow) (width : Nat) : (place placement overflow width t).isSound = true := by
  have hkept := isSound_truncate (isSound_replace h (trimEnd t.chars)) overflow width
  cases placement with
  | natural => exact h
  | left => exact isSound_fill h _
  | right => exact isSound_indent hkept _
  | centre => exact isSound_fill (isSound_indent hkept _) _

/-- The lines of a sound text are sound. -/
theorem isSound_layOutLine {t : StyledText} (h : t.isSound = true) (placement : Placement)
    (overflow : Overflow) (width : Nat) :
    ∀ line ∈ layOutLine placement overflow width t, line.isSound = true := by
  intro line hline
  have hexpanded : (expandTabs t).isSound = true :=
    isSound_joinAtStops (isSound_divide h _ _) _
  obtain ⟨part, hpart, rfl⟩ := List.mem_map.1 hline
  have hsound : part.isSound = true := by
    split at hpart
    · rw [List.mem_singleton.1 hpart]
      exact hexpanded
    · exact isSound_divide hexpanded _ _ part hpart
  exact isSound_truncate (isSound_place (isSound_take hsound _) _ _ _) _ _

/-- Lines have styles that can be made out if the whole text has. -/
theorem isSound_layOut {t : StyledText} (h : t.isSound = true) (placement : Placement)
    (overflow : Overflow) (width : Nat) :
    ∀ line ∈ layOut placement overflow width t, line.isSound = true := by
  intro line hline
  obtain ⟨part, hpart, hline⟩ := List.mem_flatMap.1 hline
  exact isSound_layOutLine (isSound_divide h _ _ part hpart) _ _ _ line hline

end TypedCommands.Terminal
