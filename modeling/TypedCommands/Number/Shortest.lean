import TypedCommands.Number.Double

/-!
# Shortest decimal text of a double

A finite double is written with the fewest digits that read back as the same
double, and of those with the digits nearest to it.  The search takes the grids of
one to seventeen digits in turn and tests on each the two neighbours of the value.
-/

namespace TypedCommands.Double

/-- The number of decimal digits of a number, one for zero. -/
def decimalLength (n : Nat) : Nat := (Nat.toDigits 10 n).length

/-- The place of the decimal point of a positive quotient: it lies below this power of ten. -/
def decimalPoint (num den : Nat) : Int :=
  if den ≤ num then decimalLength (num / den)
  else 1 - (decimalLength ((den + num - 1) / num - 1) : Int)

/-- A quotient times a power of ten as a quotient. -/
def scaleTen (num den : Nat) (exponent : Int) : Nat × Nat :=
  match exponent with
  | .ofNat e => (num * tenTo e, den)
  | .negSucc e => (num, den * tenTo (e + 1))

/-- A value in quarters of its unit, with the bounds of what rounds to it, over one denominator. -/
structure Interval where
  /-- The numerator of the lower bound. -/
  low : Nat
  /-- The numerator of the value. -/
  value : Nat
  /-- The numerator of the upper bound. -/
  high : Nat
  /-- The denominator. -/
  den : Nat
  /-- Whether the bounds themselves round to the value. -/
  closed : Bool

/-- The interval of numbers that round to a positive finite double. -/
def roundingInterval (x : Double) : Interval :=
  let m := x.units
  let s := scale 1 4 x.unitExponent
  let below := if x.magnitude % exponentWeight = 0 ∧ 1 < x.magnitude / exponentWeight then 1 else 2
  ⟨(4 * m - below) * s.1, 4 * m * s.1, (4 * m + 2) * s.1, s.2, m % 2 == 0⟩

/-- Whether a quotient lies in an interval. -/
def Interval.contains (i : Interval) (num den : Nat) : Bool :=
  if i.closed then i.low * den ≤ num * i.den && num * i.den ≤ i.high * den
  else i.low * den < num * i.den && num * i.den < i.high * den

/--
Of the two neighbours of the value on the grid of multiples of a power of ten, the
one in the interval; of two the nearer, and at one distance the even one.
-/
def Interval.onGrid? (i : Interval) (exponent : Int) : Option Nat :=
  let v := scaleTen i.value i.den (-exponent)
  let below := v.1 / v.2
  let inside (n : Nat) : Bool :=
    let g := scaleTen n 1 exponent
    i.contains g.1 g.2
  let twice := 2 * (v.1 % v.2)
  match inside below, inside (below + 1) with
  | true, true =>
    some (if twice < v.2 then below else if v.2 < twice then below + 1 else below + below % 2)
  | true, false => some below
  | false, true => some (below + 1)
  | false, false => none

/-- Search the grids of ever more digits; `left` of them remain. -/
def searchGrids (i : Interval) (point : Int) : Nat → Nat → Nat × Int
  | 0, n => (i.value / i.den, point - n)
  | left + 1, n =>
    match i.onGrid? (point - n) with
    | some d => (d, point - n)
    | none => searchGrids i point left (n + 1)

/-- The digits of a positive finite double and the power of ten of its decimal point. -/
def shortestDigits (x : Double) : List Char × Int :=
  let i := x.roundingInterval
  let found := searchGrids i (decimalPoint i.value i.den) 17 1
  let digits := Nat.toDigits 10 found.1
  let point := found.2 + digits.length
  ((digits.reverse.dropWhile (· == '0')).reverse, point)

/-- How the digits of a number are laid out. -/
structure Layout where
  /-- The least place of the decimal point that is written positionally. -/
  leastPoint : Int
  /-- The greatest such place. -/
  greatestPoint : Int
  /-- The least number of digits of an exponent. -/
  exponentDigits : Nat
  /-- The text of infinity. -/
  infinite : String
  /-- The text of no number. -/
  invalid : String

/-- Values are shown positionally from 0.0001 up to sixteen digits in front of the point. -/
def display : Layout := ⟨-3, 16, 2, "inf", "nan"⟩

/-- Digits with a decimal point: zeros fill up to the point, and a zero stands for no fraction. -/
def positional (digits : List Char) (point : Int) : List Char :=
  if point ≤ 0 then '0' :: '.' :: List.replicate (-point).toNat '0' ++ digits
  else
    let n := point.toNat
    if digits.length ≤ n then digits ++ List.replicate (n - digits.length) '0' ++ ['.', '0']
    else digits.take n ++ '.' :: digits.drop n

/-- Digits with one in front of the point and an exponent of ten. -/
def scientific (l : Layout) (digits : List Char) (point : Int) : List Char :=
  let e := point - 1
  let eDigits := Nat.toDigits 10 e.natAbs
  let mantissa :=
    match digits with
    | d :: d' :: rest => d :: '.' :: d' :: rest
    | ds => ds
  mantissa ++ 'e' :: (if e < 0 then '-' else '+') ::
    List.replicate (l.exponentDigits - eDigits.length) '0' ++ eDigits

/-- The text of a double in a layout. -/
def render (l : Layout) (x : Double) : String :=
  if x.isNaN then l.invalid
  else
    let sign := if x.negative then "-" else ""
    if x.isInfinite then sign ++ l.infinite
    else if x.isZero then sign ++ "0.0"
    else
      let d := x.shortestDigits
      let body :=
        if l.leastPoint ≤ d.2 ∧ d.2 ≤ l.greatestPoint then positional d.1 d.2
        else scientific l d.1 d.2
      sign ++ String.ofList body

end TypedCommands.Double
