import TypedCommands.Proofs.Document.Yaml.Quoted
import TypedCommands.Proofs.Text.Hex

/-!
# Texts between double quotes read back

Between double quotes every character is either written as it is or as an escape that is
read for it.  A place where a long text was folded stands for nothing, and a blank behind
it is escaped, since blanks at the front of a line are not read.

Main results:

- Theorem `readEscape_escapeOf`: an escape is read as the character it was written for.
- Theorem `reads_double`: a text between double quotes is read back as it is.
-/

namespace TypedCommands.Yaml

open TypedCommands.Text

/-! ## Escapes -/

/-- A code is read as the character that it was written for. -/
theorem readCode_hexDigits {c : Char} {width : Nat} (h : c.toNat < 16 ^ width) (rest : List Char) :
    readCode width (hexDigits capitalHexDigit width c.toNat ++ rest) = .ok (c, rest) := by
  have htake : (hexDigits capitalHexDigit width c.toNat ++ rest).take width =
      hexDigits capitalHexDigit width c.toNat :=
    List.take_left' (length_hexDigits ..)
  have hdrop : (hexDigits capitalHexDigit width c.toNat ++ rest).drop width = rest :=
    List.drop_left' (length_hexDigits ..)
  have hle := toNat_le c
  rw [readCode, htake, hdrop, hexNumber?_hexDigits hexValue?_capitalHexDigit, Nat.mod_eq_of_lt h]
  simp only [length_hexDigits]
  rw [if_neg (by omega), if_neg (by omega), if_neg (by omega), Char.ofNat_toNat]

/-- The letter of a short escape stands for the character it was written for. -/
theorem lookup_escapes {c d : Char} (h : shortEscapes.lookup c = some d) :
    escapes.lookup d = some c := by
  have hall : ∀ p ∈ shortEscapes, escapes.lookup p.2 = some p.1 := by decide
  obtain ⟨front, behind, hsplit, -⟩ := List.lookup_eq_some_iff.mp h
  exact hall (c, d) (by simp [hsplit])

/-- A code in hexadecimal digits is read back as its character. -/
theorem readEscape_code {letter : Char} {width : Nat} (hletter : escapes.lookup letter = none)
    (hwidth : codeLength? letter = some width) {c : Char} (h : c.toNat < 16 ^ width)
    (rest : List Char) :
    readEscape (letter :: (hexDigits capitalHexDigit width c.toNat ++ rest)) = .ok ([c], rest) := by
  simp only [readEscape, hletter, hwidth, readCode_hexDigits h]
  rfl

/-- An escape is read as the character that it was written for. -/
theorem readEscape_escapeOf (c : Char) (rest : List Char) :
    ∃ behind, escapeOf c ++ rest = '\\' :: behind ∧ rest.length ≤ behind.length ∧
      readEscape behind = .ok ([c], rest) := by
  have hle := toNat_le c
  unfold escapeOf
  split
  · next d hd => exact ⟨d :: rest, rfl, by simp, by simp [readEscape, lookup_escapes hd]⟩
  · dsimp only
    split_ifs with hbyte hshort
    · exact ⟨_, rfl, by simp; omega, readEscape_code rfl rfl (by omega) rest⟩
    · exact ⟨_, rfl, by simp; omega, readEscape_code rfl rfl (by omega) rest⟩
    · exact ⟨_, rfl, by simp; omega, readEscape_code rfl rfl (by omega) rest⟩

theorem isGap_of_isLiteral {c : Char} (h : isLiteral c = true) (hblank : c ≠ ' ') :
    isGap c = false :=
  isGap_eq_false_of (p := fun d => isLiteral d && d != ' ') (by decide) (by simp [h, hblank])

namespace Reads

variable {written text rest : List Char}

/-- A quote ends the text. -/
theorem double_end (rest : List Char) : Reads readDouble ('"' :: rest) [] rest := by
  intro fuel hfuel
  obtain ⟨fuel, rfl⟩ : ∃ n, fuel = n + 1 := ⟨fuel - 1, by simp at hfuel; omega⟩
  simp [readDouble]

/-- A character that is written as it is stands for itself. -/
theorem double_char {c : Char} (hc : isLiteral c = true) (hblank : c ≠ ' ')
    (h : Reads readDouble written text rest) :
    Reads readDouble (c :: written) (c :: text) rest := by
  have hquote : c ≠ '"' := by rintro rfl; cases hc
  have hslash : c ≠ '\\' := by rintro rfl; cases hc
  intro fuel hfuel
  obtain ⟨fuel, rfl⟩ : ∃ n, fuel = n + 1 := ⟨fuel - 1, by simp at hfuel; omega⟩
  simp [readDouble, hquote, hslash, isGap_of_isLiteral hc hblank,
    h fuel (by simpa using hfuel), putBefore, Except.map]

/-- What follows a backslash is read for what it stands for. -/
theorem double_slash {behind : List Char} (part : List Char)
    (hpart : readEscape behind = .ok (part, written))
    (hlength : written.length ≤ behind.length) (h : Reads readDouble written text rest) :
    Reads readDouble ('\\' :: behind) (part ++ text) rest := by
  intro fuel hfuel
  obtain ⟨fuel, rfl⟩ : ∃ n, fuel = n + 1 := ⟨fuel - 1, by simp at hfuel; omega⟩
  simp [readDouble, hpart, h fuel (by simp at hfuel; omega), putBefore, Except.map]

/-- An escape is read as the character it stands for. -/
theorem double_escape (c : Char) (h : Reads readDouble written text rest) :
    Reads readDouble (escapeOf c ++ written) (c :: text) rest := by
  obtain ⟨behind, hwritten, hlength, hpart⟩ := readEscape_escapeOf c written
  rw [hwritten]
  exact h.double_slash [c] hpart hlength

/-- A place where the text was folded stands for nothing. -/
theorem double_fold {c : Char} (hc : isGap c = false)
    (h : Reads readDouble (c :: written) text rest) :
    Reads readDouble ('\\' :: nextLine ++ c :: written) text rest := by
  refine double_slash [] ?_ (by simp) h
  exact readBreaks_margin [] (by simp) hc written (by simp [margin])

theorem double_blank (h : Reads readDouble written text rest) :
    Reads readDouble ('\\' :: ' ' :: written) (' ' :: text) rest :=
  h.double_slash [' '] rfl (by simp)

end Reads

theorem escapeOf_head (c : Char) : ∃ more, escapeOf c = '\\' :: more := by
  obtain ⟨more, hmore, -⟩ := readEscape_escapeOf c []
  exact ⟨more, by simpa using hmore⟩

/-- What is written of a text that begins with no blank begins with no gap. -/
theorem doubleRest_head (column : Nat) (first fresh : Bool) (cs : List Char)
    (hcs : cs.head? ≠ some ' ') (rest : List Char) :
    ∃ c more, doubleRest column first fresh cs ++ rest = c :: more ∧ isGap c = false := by
  cases cs with
  | nil => exact ⟨'"', rest, rfl, rfl⟩
  | cons c cs =>
    have hblank : c ≠ ' ' := by simpa using hcs
    obtain ⟨more, hmore⟩ := escapeOf_head c
    rw [doubleRest]
    dsimp only
    split_ifs with hc hfold hfold
    · exact ⟨'\\', _, rfl, rfl⟩
    · exact ⟨c, _, rfl, isGap_of_isLiteral hc hblank⟩
    · exact ⟨'\\', _, by rw [hmore]; rfl, rfl⟩
    · exact ⟨'\\', _, by rw [hmore]; rfl, rfl⟩

/-- Behind a blank, what is written goes on on the same line. -/
theorem goesOn_doubleRest (cs : List Char) (column : Nat) (first fresh : Bool)
    (rest : List Char) : GoesOn (doubleRest column first fresh cs ++ rest) := by
  induction cs generalizing column first fresh with
  | nil => exact .of_isGap_eq_false rfl rest
  | cons c cs ih =>
    by_cases hblank : c = ' '
    · subst hblank
      rw [doubleRest]
      dsimp only
      rw [if_pos (by decide)]
      split_ifs
      · exact .of_isGap_eq_false rfl _
      · exact (ih (column + 1) false false).blank
    · obtain ⟨d, more, hcons, hd⟩ :=
        doubleRest_head column first fresh (c :: cs) (by simpa using hblank) rest
      rw [hcons]
      exact .of_isGap_eq_false hd more

/-- A text behind a place where it was folded, with a blank at its front escaped. -/
theorem reads_double_folded {c : Char} {cs rest : List Char}
    (htail : ∀ column, Reads readDouble (doubleRest column false false cs ++ rest) cs rest)
    (hall : ∀ column, Reads readDouble (doubleRest column false true (c :: cs) ++ rest) (c :: cs)
      rest) :
    Reads readDouble
      (foldedAt (some c) ++ doubleRest (foldedColumn (some c)) false true (c :: cs) ++ rest)
      (c :: cs) rest := by
  by_cases hblank : c = ' '
  · subst hblank
    have hwritten : foldedAt (some ' ') ++ doubleRest (foldedColumn (some ' ')) false true
        (' ' :: cs) ++ rest =
        '\\' :: nextLine ++ '\\' :: ' ' :: (doubleRest (margin + 2) false false cs ++ rest) := by
      have hliteral : isLiteral ' ' = true := rfl
      simp [foldedAt, foldedColumn, doubleRest, hliteral, margin, foldColumn]
    rw [hwritten]
    exact ((htail (margin + 2)).double_blank).double_fold rfl
  · obtain ⟨d, more, hcons, hd⟩ :=
      doubleRest_head margin false true (c :: cs) (by simpa using hblank) rest
    have hwritten : foldedAt (some c) ++ doubleRest (foldedColumn (some c)) false true
        (c :: cs) ++ rest = '\\' :: nextLine ++ d :: more := by
      rw [← hcons]
      simp [foldedAt, foldedColumn, hblank]
    rw [hwritten]
    exact (hcons ▸ hall margin).double_fold hd

/-- A text between double quotes is read back as it is. -/
theorem reads_double (cs : List Char) (column : Nat) (first fresh : Bool) (rest : List Char) :
    Reads readDouble (doubleRest column first fresh cs ++ rest) cs rest := by
  match cs with
  | [] => exact Reads.double_end rest
  | c :: cs =>
    have hbehind (column : Nat) (first fresh : Bool) := reads_double cs column first fresh rest
    rw [doubleRest]
    dsimp only
    split_ifs with hc hfold hfold
    · have hnext := hbehind (foldedColumn (some c) + 1) false false
      by_cases hblank : c = ' '
      · subst hblank
        exact hnext.double_blank.double_fold rfl
      · have hwritten : foldedAt (some c) = '\\' :: nextLine := by simp [foldedAt, hblank]
        rw [hwritten, List.append_assoc]
        exact (hnext.double_char hc hblank).double_fold (isGap_of_isLiteral hc hblank)
    · by_cases hblank : c = ' '
      · subst hblank
        exact (hbehind (column + 1) false false).blank readsGaps_readDouble (goesOn_doubleRest ..)
      · exact (hbehind (column + 1) false false).double_char hc hblank
    · obtain ⟨d, ds, rfl⟩ : ∃ d ds, cs = d :: ds :=
        List.exists_cons_of_ne_nil (by rintro rfl; simp at hfold)
      rw [List.append_assoc, List.append_assoc, ← List.append_assoc (foldedAt _)]
      exact (reads_double_folded (fun column => reads_double ds column false false rest)
        fun column => hbehind column false true).double_escape c
    · rw [List.append_assoc]
      exact (hbehind _ false true).double_escape c
termination_by cs.length

end TypedCommands.Yaml
