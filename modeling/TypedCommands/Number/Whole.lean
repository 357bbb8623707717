import TypedCommands.Number.Numeral
import TypedCommands.Text.Blank
import TypedCommands.Text.Quoted

/-!
# Whole numbers in base ten

Two readings of a whole number.  The strict one takes an optional sign and ASCII
digits; the lenient one also takes blanks at both ends, digits of every script and
single underscores between digits.  Both refuse numerals of more than 4300 digits.
-/

namespace TypedCommands.Whole

open TypedCommands.Text

/-- The greatest number of digits of a numeral. -/
def digitLimit : Nat := 4300

/-- The wording for a numeral of too many digits. -/
def tooLong (digits : Nat) : String :=
  "Exceeds the limit (" ++ toString digitLimit ++
    " digits) for integer string conversion: value has " ++ toString digits ++
    " digits; use sys.set_int_max_str_digits() to increase the limit"

/-- The least number that has too many digits to be written. -/
def tooLongNumber : Nat := Double.tenTo digitLimit

/-- Whether a number has too many digits to be written. -/
def isTooLong (n : Int) : Bool := tooLongNumber ≤ n.natAbs

/-- The wording for a number that has too many digits to be written. -/
def unwritable : String :=
  "Exceeds the limit (" ++ toString digitLimit ++
    " digits) for integer string conversion; use sys.set_int_max_str_digits() to increase the limit"

/-- Digits with a sign. -/
def signed (negative : Bool) (digits : List Nat) : Int :=
  if negative then -(ofDigits digits : Int) else ofDigits digits

/-- The number of a sign and digits, unless they are too many. -/
def ofSigned (negative : Bool) (digits : List Nat) : Except String Int :=
  if digitLimit < digits.length then .error (tooLong digits.length)
  else .ok (signed negative digits)

/-- The strict reading: an optional sign, then ASCII digits and nothing else. -/
def read (text : String) : Except String Int :=
  let sign := Numeral.spanSign text.toList
  match sign.2.mapM asciiDigit? with
  | none | some [] => .error "invalid syntax"
  | some digits => ofSigned sign.1 digits

/--
The digits at the front of a text in which single underscores may stand between
digits, and what follows.  The flag tells that no underscore may come next; there is
no result for an underscore in a wrong place.
-/
def spanGrouped : Bool → List Char → Option (List Nat × List Char)
  | barred, [] => if barred then none else some ([], [])
  | barred, c :: rest =>
    match digitValue? c with
    | some d => (spanGrouped false rest).map fun more => (d :: more.1, more.2)
    | none =>
      if barred then none
      else if c = '_' then spanGrouped true rest
      else some ([], c :: rest)

/-- The wording for a text that writes no number. -/
def notANumeral (text : String) : String :=
  "invalid literal for int() with base 10: " ++
    String.ofList ((quoted text).toList.take 200)

/-- The blanks that may surround a numeral: all but the information separators. -/
def isPadding (c : Char) : Bool := isBlank c && !(0x1C ≤ c.toNat && c.toNat ≤ 0x1F)

/-- The lenient reading: blanks around, digits of every script, grouped by underscores. -/
def readLenient (text : String) : Except String Int :=
  let sign := Numeral.spanSign (trimWhere isPadding text.toList)
  match spanGrouped true sign.2 with
  | none => .error (notANumeral text)
  | some (digits, rest) =>
    match ofSigned sign.1 digits with
    | .error message => .error message
    | .ok n => if rest.isEmpty then .ok n else .error (notANumeral text)

end TypedCommands.Whole
