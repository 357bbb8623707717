import Mathlib.Data.List.Basic
import Mathlib.Tactic.IntervalCases
import TypedCommands.Number.Whole

/-!
# The numerals of whole numbers

A whole number is written with ASCII digits, none of them a leading zero, and with a sign in
front if it is negative.  Its digits are read as the number again, and there are too many of
them exactly if the number is too long to be written.

Main results:

- Theorem `Whole.toList_toString`: the characters of a numeral.
- Theorem `Whole.ofDigits_digits`: what the digits of a numeral are read as.
- Theorem `Whole.length_digits_le_iff`: when the digits of a numeral are too many.
-/

namespace TypedCommands

open TypedCommands.Text

namespace Whole

/-- The values of the digits that a number is written with. -/
def digits (m : Nat) : List Nat := (Nat.toDigits 10 m).map fun c => c.toNat - 0x30

/-- The characters of the numeral of a whole number. -/
theorem toList_toString (n : Int) :
    (toString n).toList = (if n < 0 then ['-'] else []) ++ Nat.toDigits 10 n.natAbs := by
  cases n with
  | ofNat m =>
    change (Nat.repr m).toList = _
    simp [Nat.repr_eq_ofList_toDigits]
  | negSucc m =>
    change ("-" ++ Nat.repr (m + 1)).toList = _
    simp [Nat.repr_eq_ofList_toDigits, Int.negSucc_lt_zero]

variable {m : Nat}

theorem asciiDigit?_of_mem_toDigits {c : Char} (h : c ∈ Nat.toDigits 10 m) :
    asciiDigit? c = some (c.toNat - 0x30) := by
  have hdigit := Nat.isDigit_of_mem_toDigits (by omega) (by omega) h
  exact if_pos (Char.isDigit_iff_toNat.mp hdigit)

/-- A numeral begins with a digit. -/
theorem exists_cons_toDigits (m : Nat) :
    ∃ c rest, Nat.toDigits 10 m = c :: rest ∧ asciiDigit? c = some (c.toNat - 0x30) := by
  obtain ⟨c, rest, hcons⟩ := List.exists_cons_of_length_pos
    (Nat.length_toDigits_pos (b := 10) (n := m))
  refine ⟨c, rest, hcons, asciiDigit?_of_mem_toDigits (m := m) ?_⟩
  rw [hcons]
  exact List.mem_cons_self

/-- The first digit of a number is no zero. -/
theorem head?_toDigits (h : 0 < m) : (Nat.toDigits 10 m).head? ≠ some '0' := by
  induction m using Nat.strong_induction_on with
  | _ m ih =>
    rw [Nat.toDigits_eq_if (by decide)]
    split
    · next hsmall => interval_cases m <;> decide
    · next hlarge =>
      have hnonempty : Nat.toDigits 10 (m / 10) ≠ [] :=
        List.ne_nil_of_length_pos Nat.length_toDigits_pos
      rw [List.head?_append_of_ne_nil _ hnonempty]
      exact ih (m / 10) (by omega) (by omega)

theorem length_digits (m : Nat) : (digits m).length = (Nat.toDigits 10 m).length :=
  List.length_map ..

/-- The digits of a number are read as the number. -/
theorem ofDigits_digits (m : Nat) : ofDigits (digits m) = m := by
  have h := Nat.ofDigitChars_toDigits (b := 10) (n := m) (by decide) (by decide)
  rw [Nat.ofDigitChars_eq_foldl] at h
  simp only [digits, ofDigits, List.foldl_map]
  exact h

/-- A number that can be written has no more digits than a numeral may have. -/
theorem length_digits_le_iff (m : Nat) : (digits m).length ≤ digitLimit ↔ m < tooLongNumber := by
  have hpos : 0 < digitLimit := by decide
  rw [length_digits, tooLongNumber, Double.tenTo, Nat.pow_eq]
  generalize digitLimit = limit at hpos ⊢
  exact Nat.length_toDigits_le_iff (by decide) hpos

end Whole

/-- Digits in front of something that is no digit are read, and nothing else. -/
theorem Numeral.spanDigits_append {digit : Char → Option Nat} {value : Char → Nat}
    {cs rest : List Char} (hcs : ∀ c ∈ cs, digit c = some (value c))
    (hrest : ∀ c, rest.head? = some c → digit c = none) :
    spanDigits digit (cs ++ rest) = (cs.map value, rest) := by
  induction cs with
  | nil =>
    cases rest with
    | nil => rfl
    | cons c rest => simp [spanDigits, hrest c rfl]
  | cons c cs ih =>
    have hmore := ih fun d hd => hcs d (List.mem_cons_of_mem c hd)
    simp [spanDigits, hcs c List.mem_cons_self, hmore]

end TypedCommands
