import TypedCommands.Number.Double
import TypedCommands.Text.DecimalDigit

/-!
# Decimal numerals

Reading of numbers written in base ten: floating-point numerals with an optional
sign, point and exponent, the words for infinity and for no number, and the
rounding of what they write to the nearest double.
-/

namespace TypedCommands

open TypedCommands.Text

/-- A decimal numeral: a sign, digit values and the power of ten of the last digit. -/
structure Numeral where
  /-- Whether a minus sign stands in front. -/
  negative : Bool
  /-- The digit values, the leading one first. -/
  digits : List Nat
  /-- The power of ten that one unit of the last digit is. -/
  exponent : Int

namespace Numeral

/-- The double nearest to a numeral. -/
def toDouble (n : Numeral) : Double :=
  let digits := n.digits.dropWhile (· == 0)
  let top : Int := digits.length + n.exponent
  if digits.isEmpty then ⟨n.negative, 0⟩
  else if 310 < top then Double.infinity n.negative
  else if top < -330 then ⟨n.negative, 0⟩
  else
    match n.exponent with
    | .ofNat e => Double.ofQuotient n.negative (ofDigits digits * Double.tenTo e) 1
    | .negSucc e => Double.ofQuotient n.negative (ofDigits digits) (Double.tenTo (e + 1))

/-- The digits at the front of a text and what follows them. -/
def spanDigits (digit : Char → Option Nat) : List Char → List Nat × List Char
  | [] => ([], [])
  | c :: rest =>
    match digit c with
    | none => ([], c :: rest)
    | some d => let more := spanDigits digit rest; (d :: more.1, more.2)

/-- An optional sign at the front of a text, and what follows it. -/
def spanSign : List Char → Bool × List Char
  | '-' :: rest => (true, rest)
  | '+' :: rest => (false, rest)
  | cs => (false, cs)

/-- The exponent part that makes up a whole text: a letter e, a sign and digits, or nothing. -/
def exponent? (digit : Char → Option Nat) : List Char → Option Int
  | [] => some 0
  | c :: rest =>
    if c = 'e' ∨ c = 'E' then
      let sign := spanSign rest
      match spanDigits digit sign.2 with
      | ([], _) => none
      | (ds, []) => some (if sign.1 then -(ofDigits ds : Int) else ofDigits ds)
      | (_, _ :: _) => none
    else none

/-- The numeral that makes up a whole text: digits, an optional point, an optional exponent. -/
def ofText? (digit : Char → Option Nat) (cs : List Char) : Option Numeral :=
  let sign := spanSign cs
  let whole := spanDigits digit sign.2
  let fraction :=
    match whole.2 with
    | '.' :: rest => spanDigits digit rest
    | rest => ([], rest)
  let digits := whole.1 ++ fraction.1
  if digits.isEmpty then none
  else (exponent? digit fraction.2).map fun e => ⟨sign.1, digits, e - fraction.1.length⟩

end Numeral

namespace Double

/-- Small letters in place of the ASCII capitals. -/
def asciiLower (cs : List Char) : List Char := cs.map Char.toLower

/-- The double that a text writes: a numeral, infinity or no number, with an optional sign. -/
def ofText? (cs : List Char) : Option Double :=
  let sign := Numeral.spanSign cs
  let word := String.ofList (asciiLower sign.2)
  if word = "inf" ∨ word = "infinity" then some (infinity sign.1)
  else if word = "nan" then some notANumber
  else (Numeral.ofText? digitValue? cs).map Numeral.toDouble

end Double

end TypedCommands
