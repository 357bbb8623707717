import Mathlib.Data.List.Basic
import TypedCommands.Document.Json.Reader
import TypedCommands.Document.Json.Writer
import TypedCommands.Proofs.Text.Hex

/-!
# Written texts read back

Between double quotes a character is written as it is or as an escape, and in both forms it
is read as one character.  An escape of four hexadecimal digits is read only where the text
goes on behind them, as it does in front of a closing quote.

Main results:

- Theorem `readText_escapeChar`: a written character is read as itself.
- Theorem `readText_written`: a written text is read as itself.
-/

namespace TypedCommands.Json

open TypedCommands.Text

/-! ## Codes -/

theorem charOfCode_toNat (c : Char) : charOfCode c.toNat = c := by
  have hvalid : c.toNat.isValidChar := c.valid
  rw [charOfCode, if_pos hvalid, Char.ofNat_toNat]

/-- Four digits are read as the code that they were written for where the text goes on. -/
theorem hexEscape_hexDigits {n : Nat} (h : n < 16 ^ 4) (here : List Char) (d : Char)
    (rest : List Char) :
    hexEscape here (hexDigits hexDigit 4 n ++ d :: rest) = .ok (n, d :: rest) := by
  have hnumber : hexNumber? (hexDigits hexDigit 4 n) = some n := by
    rw [hexNumber?_hexDigits hexValue?_hexDigit, Nat.mod_eq_of_lt h]
  simp only [hexDigits, List.nil_append, List.cons_append, hexEscape] at hnumber ⊢
  rw [hnumber]

/-- A control character is read from its code. -/
theorem unicodeEscape_hexDigits {c : Char} (h : c.toNat < 0x20) (d : Char) (rest : List Char) :
    unicodeEscape (hexDigits hexDigit 4 c.toNat ++ d :: rest) = .ok (c, d :: rest) := by
  rw [unicodeEscape, hexEscape_hexDigits (by omega)]
  simp only [charOfCode_toNat]
  rw [if_neg (by omega)]

/-! ## Characters -/

variable {c : Char}

theorem ne_of_isPlain (h : isPlain c = true) : c ≠ '"' ∧ c ≠ '\\' ∧ 0x1F < c.toNat := by
  simp only [isPlain, Bool.and_eq_true, decide_eq_true_eq, bne_iff_ne] at h
  exact ⟨h.1.2, h.2, h.1.1⟩

/-- A character that is escaped and has no letter of its own is a control character. -/
theorem toNat_lt_of_not_isPlain (h : ¬ isPlain c = true) (hquote : ¬ (c = '"' ∨ c = '\\')) :
    c.toNat < 0x20 := by
  by_contra hcode
  obtain ⟨hne, hslash⟩ := not_or.mp hquote
  exact h (by simp [isPlain, hne, hslash]; omega)

theorem escapeChar_ne_nil (c : Char) : escapeChar c ≠ [] := by
  unfold escapeChar
  split_ifs <;> exact List.cons_ne_nil _ _

/-- A character that is written as it is stands for itself. -/
theorem readText_plain (hplain : isPlain c = true) (start : List Char) (fuel : Nat)
    (rest : List Char) :
    readText start (fuel + 1) (c :: rest) =
      (readText start fuel rest).map fun r => (c :: r.1, r.2) := by
  obtain ⟨hquote, hslash, hcode⟩ := ne_of_isPlain hplain
  rw [readText.eq_def]
  simp only [hquote, hslash, if_false]
  rw [if_neg (by omega)]

/-- A letter behind a backslash is read for what it stands for. -/
theorem readText_letter {e d : Char} (hletter : e ≠ 'u') (hd : escapedChar? e = some d)
    (start : List Char) (fuel : Nat) (rest : List Char) :
    readText start (fuel + 1) ('\\' :: e :: rest) =
      (readText start fuel rest).map fun r => (d :: r.1, r.2) := by
  rw [readText]
  · simp only [hd, Char.reduceEq, if_false, if_true]
  · exact hletter

/-- A written character is read as itself where the text goes on behind it. -/
theorem readText_escapeChar (start : List Char) (fuel : Nat) (c d : Char) (rest : List Char) :
    readText start (fuel + 1) (escapeChar c ++ d :: rest) =
      (readText start fuel (d :: rest)).map fun r => (c :: r.1, r.2) := by
  unfold escapeChar
  split_ifs with hplain hquote hb hf hn hr ht
  · exact readText_plain hplain start fuel (d :: rest)
  · rcases hquote with rfl | rfl
    · exact readText_letter (by decide) rfl start fuel (d :: rest)
    · exact readText_letter (by decide) rfl start fuel (d :: rest)
  · exact readText_letter (by decide) (by rw [hb]; rfl) start fuel (d :: rest)
  · exact readText_letter (by decide) (by rw [hf]; rfl) start fuel (d :: rest)
  · exact readText_letter (by decide) (by rw [hn]; rfl) start fuel (d :: rest)
  · exact readText_letter (by decide) (by rw [hr]; rfl) start fuel (d :: rest)
  · exact readText_letter (by decide) (by rw [ht]; rfl) start fuel (d :: rest)
  · have hcode := unicodeEscape_hexDigits (toNat_lt_of_not_isPlain hplain hquote) d rest
    simp only [List.cons_append, readText, hcode]
    rfl

/-! ## Texts -/

/-- Escaping never makes a text shorter. -/
theorem length_le_flatMap_escapeChar (cs : List Char) :
    cs.length ≤ (cs.flatMap escapeChar).length := by
  induction cs with
  | nil => exact Nat.le_refl 0
  | cons c cs ih =>
    have hpos := List.length_pos_iff.mpr (escapeChar_ne_nil c)
    rw [List.flatMap_cons, List.length_append, List.length_cons]
    omega

/-- A written text is read as itself, up to its closing quote and not beyond. -/
theorem readText_written (start cs rest : List Char) {fuel : Nat} (h : cs.length < fuel) :
    readText start fuel (cs.flatMap escapeChar ++ '"' :: rest) = .ok (cs, rest) := by
  induction cs generalizing fuel with
  | nil =>
    obtain ⟨fuel, rfl⟩ : ∃ n, fuel = n + 1 := ⟨fuel - 1, by simp at h; omega⟩
    simp [readText]
  | cons c cs ih =>
    obtain ⟨fuel, rfl⟩ : ∃ n, fuel = n + 1 := ⟨fuel - 1, by simp at h; omega⟩
    have hfuel : cs.length < fuel := by simpa using h
    have hrest := ih hfuel
    obtain ⟨d, more, hmore⟩ :
        ∃ d more, cs.flatMap escapeChar ++ '"' :: rest = d :: more :=
      List.exists_cons_of_ne_nil (by simp)
    rw [List.flatMap_cons, List.append_assoc, hmore, readText_escapeChar, ← hmore, hrest]
    rfl

/-- A text between quotes is read as itself with the fuel that its reader is given. -/
theorem readText_writeText (s : String) (rest : List Char) :
    ∃ cs, writeText s ++ rest = '"' :: cs ∧
      ∀ start, readText start (cs.length + 1) cs = .ok (s.toList, rest) := by
  refine ⟨s.toList.flatMap escapeChar ++ '"' :: rest, by simp [writeText], fun start => ?_⟩
  have hlength := length_le_flatMap_escapeChar s.toList
  refine readText_written start s.toList rest ?_
  rw [List.length_append]
  omega

end TypedCommands.Json
