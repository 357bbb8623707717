import TypedCommands.Text.DecimalDigit

/-!
# Calendar dates

Days of the proleptic Gregorian calendar in the years 1 to 9999, and moments: a
day, a time of day and perhaps a distance from universal time.  A date carries the
proof that it names a day, so that only real days can be written.

Main definitions:

- Definition `Date`: a day of the calendar, read and written with hyphens.
- Definition `Moment`: a day and a time of day, in universal time or at a distance from it.
-/

namespace TypedCommands

open TypedCommands.Text

/-- The decimal digits of a number with zeros in front up to a width. -/
def paddedDigits (width n : Nat) : List Char :=
  let ds := Nat.toDigits 10 n
  List.replicate (width - ds.length) '0' ++ ds

/-- Whether a year has a 29th of February. -/
def isLeapYear (year : Nat) : Bool := year % 4 == 0 && (year % 100 != 0 || year % 400 == 0)

/-- The number of days of a month. -/
def daysInMonth (year month : Nat) : Nat :=
  if month = 2 then if isLeapYear year then 29 else 28
  else if month = 4 ∨ month = 6 ∨ month = 9 ∨ month = 11 then 30
  else 31

/-- A year, a month and a day that name a day of the calendar. -/
abbrev IsDay (year month day : Nat) : Prop :=
  (1 ≤ year ∧ year ≤ 9999) ∧ (1 ≤ month ∧ month ≤ 12) ∧ 1 ≤ day ∧ day ≤ daysInMonth year month

/-- A day of the calendar. -/
structure Date where
  /-- The year, 1 to 9999. -/
  year : Nat
  /-- The month, 1 to 12. -/
  month : Nat
  /-- The day of the month. -/
  day : Nat
  /-- The three name a day. -/
  isDay : IsDay year month day
  deriving DecidableEq, Repr

namespace Date

/-- The date of a year, a month and a day, if they name one. -/
def ofParts? (year month day : Nat) : Option Date :=
  if h : IsDay year month day then some ⟨year, month, day, h⟩ else none

/-- The ten characters of a date: year, month and day with hyphens between them. -/
def digits (d : Date) : List Char :=
  paddedDigits 4 d.year ++ '-' :: paddedDigits 2 d.month ++ '-' :: paddedDigits 2 d.day

/-- The text of a date. -/
def render (d : Date) : String := String.ofList d.digits

/-- Why a text is no date. -/
inductive Fault where
  /-- It is not four, two and two digits with hyphens between them. -/
  | shape
  /-- There is no such month, or the day is zero. -/
  | unmatched (text : String)
  /-- The day is above 31; its last digit is left over. -/
  | leftOver (c : Char)
  /-- The year is zero. -/
  | yearZero
  /-- The month has no such day. -/
  | noSuchDay
  deriving DecidableEq, Repr

/-- The format that dates are written in. -/
def format : String := "%Y-%m-%d"

/-- The wording of a fault. -/
def Fault.message : Fault → String
  | .shape => "expected format YYYY-MM-DD"
  | .unmatched text => "time data '" ++ text ++ "' does not match format '" ++ format ++ "'"
  | .leftOver c => "unconverted data remains: " ++ String.singleton c
  | .yearZero => "year 0 is out of range"
  | .noSuchDay => "day is out of range for month"

/-- The number of days of a year before a month. -/
def daysBefore (year : Nat) : Nat → Nat
  | 0 => 0
  | month + 1 => if month = 0 then 0 else daysBefore year month + daysInMonth year month

/-- The number of a day, counted from the first day of the year 1. -/
def dayNumber (d : Date) : Nat :=
  let past := d.year - 1
  past * 365 + past / 4 - past / 100 + past / 400 + daysBefore d.year d.month + d.day

/-- The year, month and day and the last character of a text of the right shape. -/
def parts? : List Char → Option (Nat × Nat × Nat × Char)
  | [a, b, c, d, '-', e, f, '-', g, h] =>
    match [a, b, c, d].mapM asciiDigit?, [e, f].mapM asciiDigit?, [g, h].mapM asciiDigit? with
    | some year, some month, some day => some (ofDigits year, ofDigits month, ofDigits day, h)
    | _, _, _ => none
  | _ => none

/-- Read a date; the month is judged first, then the day, the year and the length of the month. -/
def read (text : String) : Except Fault Date :=
  match parts? text.toList with
  | none => .error .shape
  | some (year, month, day, last) =>
    if month = 0 ∨ 12 < month ∨ day = 0 then .error (.unmatched text)
    else if 31 < day then .error (.leftOver last)
    else if year = 0 then .error .yearZero
    else
      match ofParts? year month day with
      | some d => .ok d
      | none => .error .noSuchDay

end Date

/--
A day with a time of day, and the millionths of a second that local time is ahead of
universal time.
-/
structure Moment where
  /-- The day. -/
  date : Date
  /-- The hour. -/
  hour : Nat := 0
  /-- The minute. -/
  minute : Nat := 0
  /-- The second. -/
  second : Nat := 0
  /-- The millionths of a second. -/
  micro : Nat := 0
  /-- The distance from universal time in millionths of a second, none without a zone. -/
  ahead : Option Int := some 0
  deriving DecidableEq, Repr

namespace Moment

/-- The millionths of a second of a day. -/
def dayMicros : Int := 86400000000

/-- Midnight of a day in universal time. -/
def midnight (d : Date) : Moment := { date := d }

/-- A distance from universal time as a sign, hours, minutes and, if any, seconds. -/
def zoneText (ahead : Int) : List Char :=
  let micro := ahead.natAbs % 1000000
  let n := ahead.natAbs / 1000000
  (if ahead < 0 then '-' else '+') :: paddedDigits 2 (n / 3600) ++ ':' ::
    paddedDigits 2 (n / 60 % 60) ++
    (if n % 60 = 0 && micro = 0 then [] else ':' :: paddedDigits 2 (n % 60)) ++
    (if micro = 0 then [] else '.' :: paddedDigits 6 micro)

/-- The text of a moment with a given character between day and time. -/
def renderWith (separator : Char) (m : Moment) : String :=
  String.ofList <|
    m.date.digits ++ separator :: paddedDigits 2 m.hour ++ ':' :: paddedDigits 2 m.minute ++
      ':' :: paddedDigits 2 m.second ++
      (if m.micro = 0 then [] else '.' :: paddedDigits 6 m.micro) ++
      (match m.ahead with
        | none => []
        | some ahead => zoneText ahead)

/-- The text of a moment with a T between day and time. -/
def render (m : Moment) : String := renderWith 'T' m

/-! ## Reading -/

/-- Read two digits. -/
def twoDigits? : List Char → Option (Nat × List Char)
  | a :: b :: rest =>
    match [a, b].mapM asciiDigit? with
    | some digits => some (ofDigits digits, rest)
    | none => none
  | _ => none

/-- Read two digits behind a colon; zero if there is no colon. -/
def colonDigits? : List Char → Option (Nat × List Char)
  | ':' :: rest => twoDigits? rest
  | rest => some (0, rest)

/-- Read the decimals of a second as millionths; zero if there is no point. -/
def micros? : List Char → Option (Nat × List Char)
  | '.' :: rest =>
    let decimals := rest.takeWhile fun c => (asciiDigit? c).isSome
    match (decimals ++ List.replicate 6 '0').take 6 |>.mapM asciiDigit? with
    | some digits =>
      if decimals.isEmpty then none else some (ofDigits digits, rest.drop decimals.length)
    | none => none
  | rest => some (0, rest)

/-- Read a distance from universal time. -/
def zone? : List Char → Option (Option Int)
  | [] => some none
  | ['Z'] => some (some 0)
  | sign :: rest => do
    let (hours, rest) ← twoDigits? rest
    let (minutes, rest) ← colonDigits? rest
    let (seconds, rest) ← colonDigits? rest
    let (micro, rest) ← micros? rest
    let distance : Int := ((hours * 60 + minutes) * 60 + seconds) * 1000000 + micro
    if !rest.isEmpty || dayMicros ≤ distance then none
    else if sign = '+' then some (some distance)
    else if sign = '-' then some (some (-distance))
    else none

/-- Read a moment; whatever the text leaves out is zero, but the zone, which is unknown. -/
def read (text : String) : Option Moment := do
  let (day, time) := (text.toList.take 10, (text.toList.drop 10).drop 1)
  let date ← (Date.read (String.ofList day)).toOption
  if time.isEmpty then some { date, ahead := none }
  else
    let (hour, time) ← twoDigits? time
    let (minute, time) ← colonDigits? time
    let (second, time) ← colonDigits? time
    let (micro, time) ← micros? time
    let ahead ← zone? time
    if 23 < hour || 59 < minute || 59 < second then none
    else some { date, hour, minute, second, micro, ahead }

/-! ## Comparison -/

/-- The millionths of a second of local time since the year 1. -/
def localMicros (m : Moment) : Int :=
  (((m.date.dayNumber * 24 + m.hour) * 60 + m.minute) * 60 + m.second) * 1000000 + m.micro

/-- Whether two moments are the same; those with zones may show different local times. -/
def isSameAs (m n : Moment) : Bool :=
  match m.ahead, n.ahead with
  | some a, some b => m.localMicros - a == n.localMicros - b
  | none, none => m.localMicros == n.localMicros
  | _, _ => false

end Moment

end TypedCommands
