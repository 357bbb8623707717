/-!
# Double precision numbers

A binary64 number by its sign and the 63 bits below the sign.  Read as a number
these bits order the magnitudes; the value of a finite one is a whole number of
units times a power of two.

Main results:

- Theorem `ofBits_toBits`: a number is recovered from its bits.
-/

namespace TypedCommands

/-- A binary64 number. -/
structure Double where
  /-- Whether the sign bit is set. -/
  negative : Bool
  /-- The bits below the sign bit: eleven of the exponent, then 52 of the fraction. -/
  magnitude : Nat
  deriving DecidableEq, Repr, Inhabited

namespace Double

/-- The weight of the sign bit: the 63rd power of two. -/
def signWeight : Nat := 0x8000000000000000

/-- The weight of the lowest bit of the exponent: the 52nd power of two. -/
def exponentWeight : Nat := 0x10000000000000

/-- The magnitude of infinity. -/
def infiniteMagnitude : Nat := 2047 * exponentWeight

/-- Positive zero. -/
def zero : Double := ⟨false, 0⟩

/-- Infinity with a sign. -/
def infinity (negative : Bool) : Double := ⟨negative, infiniteMagnitude⟩

/-- Not a number. -/
def notANumber : Double := ⟨false, infiniteMagnitude + exponentWeight / 2⟩

/-- Whether a number is no number. -/
def isNaN (x : Double) : Bool := infiniteMagnitude < x.magnitude

/-- Whether a number is infinite. -/
def isInfinite (x : Double) : Bool := x.magnitude == infiniteMagnitude

/-- Whether a number is zero of either sign. -/
def isZero (x : Double) : Bool := x.magnitude == 0

/-- The number with 64 given bits. -/
def ofBits (bits : Nat) : Double := ⟨signWeight ≤ bits, bits % signWeight⟩

/-- The 64 bits of a number. -/
def toBits (x : Double) : Nat := (if x.negative then signWeight else 0) + x.magnitude

/-- Every number is read back from its bits. -/
theorem ofBits_toBits (x : Double) (h : x.magnitude < signWeight) : ofBits x.toBits = x := by
  obtain ⟨s, m⟩ := x
  replace h : m < signWeight := h
  cases s
  · have sign : ¬ signWeight ≤ 0 + m := by omega
    have rest : (0 + m) % signWeight = m := by rw [Nat.zero_add, Nat.mod_eq_of_lt h]
    simp only [ofBits, toBits, Bool.false_eq_true, if_false, sign, rest, decide_false]
  · have sign : signWeight ≤ signWeight + m := by omega
    have rest : (signWeight + m) % signWeight = m := by
      rw [Nat.add_mod_left, Nat.mod_eq_of_lt h]
    simp only [ofBits, toBits, if_true, sign, rest, decide_true]

/-- The whole number of units of a finite number. -/
def units (x : Double) : Nat :=
  if x.magnitude / exponentWeight = 0 then x.magnitude % exponentWeight
  else exponentWeight + x.magnitude % exponentWeight

/-- The power of two that one unit of a finite number is. -/
def unitExponent (x : Double) : Int := max (x.magnitude / exponentWeight : Nat) 1 - 1075

/-- Division to the nearest whole number, a half going to the even neighbour. -/
def divideToEven (num den : Nat) : Nat :=
  let q := num / den
  let r := num % den
  if 2 * r < den then q else if den < 2 * r then q + 1 else q + q % 2

/-- A power of ten. -/
def tenTo (exponent : Nat) : Nat := Nat.pow 10 exponent

/-- A quotient times a power of two as a quotient. -/
def scale (num den : Nat) (exponent : Int) : Nat × Nat :=
  match exponent with
  | .ofNat e => (num <<< e, den)
  | .negSucc e => (num, den <<< (e + 1))

/-- The number nearest to a quotient of positive numbers, with a sign. -/
def ofQuotient (negative : Bool) (num den : Nat) : Double :=
  if num = 0 then ⟨negative, 0⟩
  else
    let guess : Int := (Nat.log2 num : Int) - (Nat.log2 den : Int) - 53
    let g := scale num den (-guess)
    let exponent := max (if 2 * exponentWeight ≤ g.1 / g.2 then guess + 1 else guess) (-1074)
    let s := scale num den (-exponent)
    let magnitude := (exponent + 1074).toNat * exponentWeight + divideToEven s.1 s.2
    ⟨negative, min magnitude infiniteMagnitude⟩

/-- The number nearest to a whole number. -/
def ofNat (n : Nat) : Double := ofQuotient false n 1

/-- The number with the other sign. -/
def opposite (x : Double) : Double := { x with negative := !x.negative }

/-- A finite number as a quotient of whole numbers. -/
def quotient (x : Double) : Int × Nat :=
  let q := scale x.units 1 x.unitExponent
  (if x.negative then -(q.1 : Int) else q.1, q.2)

/-- The number nearest to a quotient with a sign of its own. -/
def ofSignedQuotient (num : Int) (den : Nat) : Double := ofQuotient (num < 0) num.natAbs den

/-- The rounded sum of two numbers; an infinite one stays what it is. -/
def add (x y : Double) : Double :=
  if infiniteMagnitude ≤ x.magnitude then x
  else if infiniteMagnitude ≤ y.magnitude then y
  else
    let a := x.quotient
    let b := y.quotient
    ofSignedQuotient (a.1 * b.2 + b.1 * a.2) (a.2 * b.2)

/-- The rounded product of two numbers; an infinite one stays what it is. -/
def multiply (x y : Double) : Double :=
  if infiniteMagnitude ≤ x.magnitude then x
  else if infiniteMagnitude ≤ y.magnitude then y
  else
    let a := x.quotient
    let b := y.quotient
    ofSignedQuotient (a.1 * b.1) (a.2 * b.2)

/-- The nearest whole number between a finite number and zero, with its sign. -/
def truncate (x : Double) : Int :=
  let n : Nat :=
    match x.unitExponent with
    | .ofNat e => x.units <<< e
    | .negSucc e => x.units >>> (e + 1)
  if x.negative then -(n : Int) else n

end Double

end TypedCommands
