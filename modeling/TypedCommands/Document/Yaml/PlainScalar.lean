import TypedCommands.Document.Yaml.Character
import TypedCommands.Number.Whole
import TypedCommands.Value

/-!
# Plain scalars

What a scalar without quotes stands for.  A few words mean nothing, yes or no;
numerals of several bases and of base sixty mean numbers; dates with or without a
time of day mean dates and moments.  Everything else is the text itself, but for the
two marks `<<` and `=`, which stand for no value.

Main definitions:

- Definition `Plain.value?`: the value of a scalar without quotes that is not its own text.
-/

namespace TypedCommands.Yaml.Plain

open TypedCommands.Text

/-- The words for nothing, yes and no. -/
def words : List (String × Value) :=
  [("", .null), ("~", .null), ("null", .null), ("Null", .null), ("NULL", .null),
    ("yes", .bool true), ("Yes", .bool true), ("YES", .bool true),
    ("no", .bool false), ("No", .bool false), ("NO", .bool false),
    ("true", .bool true), ("True", .bool true), ("TRUE", .bool true),
    ("false", .bool false), ("False", .bool false), ("FALSE", .bool false),
    ("on", .bool true), ("On", .bool true), ("ON", .bool true),
    ("off", .bool false), ("Off", .bool false), ("OFF", .bool false)]

/-- The words for infinities and for no number. -/
def realWords : List (String × Double) :=
  let unsigned := [(".inf", .infinity false), (".Inf", .infinity false), (".INF", .infinity false)]
  unsigned ++ unsigned.map (fun w => ("+" ++ w.1, w.2)) ++
    unsigned.map (fun w => ("-" ++ w.1, .infinity true)) ++
    [(".nan", .notANumber), (".NaN", .notANumber), (".NAN", .notANumber)]

/-- Whether a character is an ASCII digit. -/
def isDigit (c : Char) : Bool := (asciiDigit? c).isSome

/-- The digits of a numeral of ASCII digits and underscores. -/
def digitsOf (cs : List Char) : List Nat := cs.filterMap asciiDigit?

/-- The number that digits of a base write. -/
def ofBase (base : Nat) (digits : List Nat) : Nat := digits.foldl (fun n d => n * base + d) 0

/-- Digits of a base with underscores among them, at least one of both. -/
def basedDigits? (base : Nat) (cs : List Char) : Option (List Nat) :=
  if cs.isEmpty then none
  else
    (cs.filter (· != '_')).mapM fun c => (hexValue? c).bind fun d =>
      if d < base then some d else none

/-- A whole number, unless it was written without a digit. -/
def basedNumber (base : Nat) (digits : List Nat) : Except Fault Nat :=
  if digits.isEmpty then
    .error (.range ("invalid literal for int() with base " ++ toString base ++ ": ''"))
  else .ok (ofBase base digits)

/-- A whole number in base ten, unless its digits are too many. -/
def decimalNumber (digits : List Nat) : Except Fault Nat :=
  if Whole.digitLimit < digits.length then .error (.range (Whole.tooLong digits.length))
  else .ok (ofBase 10 digits)

/-- Whether a text is a digit and then digits and underscores. -/
def isGrouped : List Char → Bool
  | [] => false
  | c :: rest => isDigit c && rest.all fun d => isDigit d || d == '_'

/-- Whether a text is a numeral below sixty of one digit or two. -/
def isSixtieth : List Char → Bool
  | [a] => isDigit a
  | [a, b] => isDigit b && (digitsOf [a]).any (· < 6)
  | _ => false

/-- A whole number in base sixty, the digits of each place in base ten. -/
def sixtyNumber (parts : List (List Nat)) : Except Fault Nat :=
  parts.foldlM (fun n ds => (decimalNumber ds).map (n * 60 + ·)) 0

/-- The whole number that a numeral without a sign writes, if it is one. -/
def natural? (cs : List Char) : Option (Except Fault Nat) :=
  match cs with
  | ['0'] => some (.ok 0)
  | '0' :: 'b' :: rest => (basedDigits? 2 rest).map (basedNumber 2)
  | '0' :: 'x' :: rest => (basedDigits? 16 rest).map (basedNumber 16)
  | '0' :: rest => (basedDigits? 8 rest).map fun ds => .ok (ofBase 8 ds)
  | _ =>
    match cs.splitOn ':' with
    | first :: more =>
      if isGrouped first && more.all isSixtieth then
        some (if more.isEmpty then decimalNumber (digitsOf first)
          else sixtyNumber ((first :: more).map digitsOf))
      else none
    | [] => none

/-- The whole number that a numeral writes, if it is one. -/
def integer? (cs : List Char) : Option (Except Fault Int) :=
  let sign := Numeral.spanSign cs
  (natural? sign.2).map fun r => r.map fun n => if sign.1 then -(n : Int) else n

/-- Whether a text is empty or an exponent: a letter e, a sign and digits. -/
def isExponent : List Char → Bool
  | [] => true
  | e :: sign :: digits =>
    (e == 'e' || e == 'E') && (sign == '+' || sign == '-') && !digits.isEmpty &&
      digits.all isDigit
  | _ => false

/-- Whether a text is digits and underscores and perhaps an exponent. -/
def isFraction (cs : List Char) : Bool :=
  isExponent (cs.dropWhile fun c => isDigit c || c == '_')

/-- The floating-point number of the characters of a numeral, underscores left out. -/
def realOf (cs : List Char) : Double :=
  (Double.ofText? (cs.filter (· != '_'))).getD .zero

/--
A floating-point number in base sixty, the last place first; `base` is its weight, which
has to be a finite number itself.
-/
def sixtyReal (base : Nat) (sum : Double) : List (List Char) → Except Fault Double
  | [] => .ok sum
  | part :: rest =>
    let weight := Double.ofNat base
    if weight.isInfinite then .error .tooLarge
    else sixtyReal (base * 60) (sum.add ((realOf part).multiply weight)) rest

/-- The floating-point number that a numeral without a sign writes, if it is one. -/
def unsignedReal? (cs : List Char) : Option (Except Fault Double) :=
  let parts := cs.takeWhile (· != '.')
  match cs.dropWhile (· != '.') with
  | [] => none
  | _ :: fraction =>
    match parts.splitOn ':' with
    | [whole] => if isGrouped whole && isFraction fraction then some (.ok (realOf cs)) else none
    | whole :: more =>
      if isGrouped whole && more.all isSixtieth &&
          fraction.all (fun c => isDigit c || c == '_') then
        some (sixtyReal 1 .zero (cs.splitOn ':').reverse)
      else none
    | [] => none

/-- The floating-point number that a numeral writes, if it is one. -/
def real? (cs : List Char) : Option (Except Fault Double) :=
  match realWords.lookup (String.ofList cs) with
  | some x => some (.ok x)
  | none =>
    match cs with
    | '.' :: d :: rest => if isDigit d && isFraction rest then some (.ok (realOf cs)) else none
    | _ =>
      let sign := Numeral.spanSign cs
      (unsignedReal? sign.2).map fun r => r.map fun x => if sign.1 then x.opposite else x

/-! ## Dates -/

/-- The number of at least `least` and at most `most` digits at the front, and what follows. -/
def spanNumber? (least most : Nat) (cs : List Char) : Option (Nat × List Char) :=
  let ds := (cs.take most).takeWhile isDigit
  if ds.length < least then none else some (ofDigits (digitsOf ds), cs.drop ds.length)

/-- What follows a given character at the front. -/
def after? (c : Char) : List Char → Option (List Char)
  | [] => none
  | d :: rest => if d = c then some rest else none

/-- The parts of a date at the front with a month and a day of at least `least` digits. -/
def spanDate? (least : Nat) (cs : List Char) : Option ((Nat × Nat × Nat) × List Char) := do
  let (year, cs) ← spanNumber? 4 4 cs
  let (month, cs) ← spanNumber? least 2 (← after? '-' cs)
  let (day, cs) ← spanNumber? least 2 (← after? '-' cs)
  return ((year, month, day), cs)

/-- What follows the mark between a date and a time of day. -/
def afterDate? (cs : List Char) : Option (List Char) :=
  match cs with
  | c :: rest =>
    if c = 'T' ∨ c = 't' then some rest
    else if isInline c then some (rest.dropWhile isInline)
    else none
  | [] => none

/-- The distance from universal time that a text writes; there is none in the empty text. -/
def zone? (cs : List Char) : Option (Option Int) :=
  match cs, cs.dropWhile isInline with
  | [], _ => some none
  | _, ['Z'] => some (some 0)
  | _, sign :: rest =>
    if sign = '+' ∨ sign = '-' then do
      let (hours, rest) ← spanNumber? 1 2 rest
      let minutes ←
        match rest with
        | [] => some 0
        | ':' :: rest => (spanNumber? 2 2 rest).bind fun m => if m.2.isEmpty then some m.1 else none
        | _ => none
      let distance : Int := (hours * 60 + minutes) * 60000000
      return some (if sign = '-' then -distance else distance)
    else none
  | _, [] => none

/-- A date, if its parts name a day. -/
def dateOf (parts : Nat × Nat × Nat) : Except Fault Date :=
  if parts.1 = 0 then .error (.range "year 0 is out of range")
  else if parts.2.1 = 0 ∨ 12 < parts.2.1 then .error (.range "month must be in 1..12")
  else
    match Date.ofParts? parts.1 parts.2.1 parts.2.2 with
    | some d => .ok d
    | none => .error (.range "day is out of range for month")

/-- A moment, if its parts are in range; the zone is judged first. -/
def momentOf (parts : Nat × Nat × Nat) (hour minute second micro : Nat) (ahead : Option Int) :
    Except Fault Moment :=
  if ahead.any fun distance => Moment.dayMicros ≤ distance.natAbs then
    .error (.range ("offset must be a timedelta strictly between -timedelta(hours=24) and " ++
      "timedelta(hours=24), not " ++ Value.shownSpan (ahead.getD 0) ++ "."))
  else
    match dateOf parts with
    | .error fault => .error fault
    | .ok date =>
      if 23 < hour then .error (.range "hour must be in 0..23")
      else if 59 < minute then .error (.range "minute must be in 0..59")
      else if 59 < second then .error (.range "second must be in 0..59")
      else .ok ⟨date, hour, minute, second, micro, ahead⟩

/-- The digits of a fraction as millionths. -/
def microOf (digits : List Nat) : Nat := ofDigits ((digits ++ List.replicate 6 0).take 6)

/-- The moment that a text writes, if it has the form of one. -/
def moment? (cs : List Char) : Option (Except Fault Moment) := do
  let (parts, cs) ← spanDate? 1 cs
  let (hour, cs) ← spanNumber? 1 2 (← afterDate? cs)
  let (minute, cs) ← spanNumber? 2 2 (← after? ':' cs)
  let (second, cs) ← spanNumber? 2 2 (← after? ':' cs)
  let fraction :=
    match cs with
    | '.' :: rest => rest.takeWhile isDigit
    | _ => []
  let rest :=
    match cs with
    | '.' :: rest => rest.dropWhile isDigit
    | cs => cs
  return momentOf parts hour minute second (microOf (digitsOf fraction)) (← zone? rest)

/-- The date that a text writes, if it has the form of one. -/
def date? (cs : List Char) : Option (Except Fault Date) :=
  match spanDate? 2 cs with
  | some (parts, []) => some (dateOf parts)
  | _ => none

/-! ## All kinds -/

/-- The marks that stand for no value: of a merged dictionary and of a default. -/
def isMark (cs : List Char) : Bool := cs == ['<', '<'] || cs == ['=']

/-- What a plain scalar stands for, if it is not its own text. -/
def value? (cs : List Char) : Option (Except Fault Value) :=
  match words.lookup (String.ofList cs) with
  | some v => some (.ok v)
  | none =>
    if isMark cs then some (.error .construction)
    else
      match real? cs with
      | some r => some (r.map .float)
      | none =>
        match integer? cs with
        | some r => some (r.map .int)
        | none =>
          match date? cs with
          | some r => some (r.map .date)
          | none => (moment? cs).map fun r => r.map .moment

/-- What a plain scalar stands for. -/
def value (text : String) : Except Fault Value := (value? text.toList).getD (.ok (.text text))

end TypedCommands.Yaml.Plain
