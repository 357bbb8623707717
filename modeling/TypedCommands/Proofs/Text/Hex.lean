import Mathlib.Algebra.Group.Nat.Defs
import TypedCommands.Text.Hex

/-!
# Hexadecimal numerals read back

A code is written with a fixed number of hexadecimal digits.  They are read as the code,
whichever letters the digits from ten on are written with.

Main results:

- Theorem `hexNumber?_hexDigits`: what the digits of a code are read as.
-/

namespace TypedCommands.Text

/-- No character has a code above the last one. -/
theorem toNat_le (c : Char) : c.toNat ≤ 0x10FFFF := by
  have hvalid := c.valid
  simp only [UInt32.isValidChar, Nat.isValidChar, Char.toNat] at *
  omega

theorem hexValue?_capitalHexDigit {n : Nat} (h : n < 16) :
    hexValue? (capitalHexDigit n) = some n := by
  revert n
  decide

theorem hexValue?_hexDigit {n : Nat} (h : n < 16) : hexValue? (hexDigit n) = some n := by
  revert n
  decide

theorem hexNumber?_append (cs ds : List Char) :
    hexNumber? (cs ++ ds) =
      ds.foldl (fun n c => n.bind fun m => (hexValue? c).map (16 * m + ·)) (hexNumber? cs) :=
  List.foldl_append ..

/-- The last digits of a code are read as the code without what stands in front of them. -/
theorem hexNumber?_hexDigits {digit : Nat → Char}
    (hdigit : ∀ {n}, n < 16 → hexValue? (digit n) = some n) (width n : Nat) :
    hexNumber? (hexDigits digit width n) = some (n % 16 ^ width) := by
  induction width generalizing n with
  | zero => simp [hexDigits, hexNumber?, Nat.mod_one]
  | succ width ih =>
    have hlast : n % 16 < 16 := Nat.mod_lt _ (by decide)
    rw [hexDigits, hexNumber?_append, ih]
    simp only [List.foldl_cons, List.foldl_nil, Option.bind_some, hdigit hlast, Option.map_some,
      Option.some.injEq]
    rw [Nat.pow_succ', Nat.mod_mul]
    omega

end TypedCommands.Text
