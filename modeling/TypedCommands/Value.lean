import TypedCommands.Calendar
import TypedCommands.Number.Shortest
import TypedCommands.Number.Whole
import TypedCommands.Text.Quoted

/-!
# Values

The values that fields hold, that commands answer with and that documents contain.
A value has a text of its own and a form in which it is shown inside messages and
inside other values: texts in quotes, lists in square brackets, tuples in round
ones, dictionaries in braces.

Not every value has these texts.  A number may have too many digits, a record may have a
field that was never assigned, and an object may fail when it is asked for its text.

Main definitions:

- Definition `Value`: the values, with dictionaries and records inside one another.
- Definitions `Value.asText` and `Value.asShown`: the two texts of a value, or why a text
  cannot be made.
- Definition `sameKey`: two values are the same key of a dictionary.
-/

namespace TypedCommands

open TypedCommands.Text

/-- The text that an object has of its own. -/
inductive OwnText where
  /-- There is one. -/
  | made (words : String)
  /-- The object fails when it is asked for it; given is the class of the exception. -/
  | fails (exception : String)
  deriving DecidableEq, Repr

/-- A value of a class of its own. -/
inductive Custom where
  /-- A text of a class derived from texts. -/
  | text (className content : String)
  /-- A number of a class derived from integers. -/
  | integer (className : String) (content : Int)
  /-- Any other object, with its text and the form it is shown in. -/
  | object (className : String) (words form : OwnText)
  deriving DecidableEq, Repr

/-- Why the text of a value cannot be made. -/
inductive TextFault where
  /-- A number in it has more digits than numerals may have. -/
  | tooLong
  /-- A record in it has a field that was never assigned. -/
  | unassigned (field : String)
  /-- An object in it fails; given is the class of the exception. -/
  | raised (exception : String)
  deriving DecidableEq, Repr

/-- What keeps the numeral of a number from being written. -/
def numeralFault? (n : Int) : Option TextFault := if Whole.isTooLong n then some .tooLong else none

/-- What keeps an object from giving a text. -/
def OwnText.fault? : OwnText → Option TextFault
  | .made _ => none
  | .fails exception => some (.raised exception)

/-- The text of an object, nothing if there is none. -/
def OwnText.words : OwnText → String
  | .made words => words
  | .fails _ => ""

namespace Custom

/-- The name of the class. -/
def className : Custom → String
  | .text name _ => name
  | .integer name _ => name
  | .object name _ _ => name

/-- The text of the value, where it can be made. -/
def render : Custom → String
  | .text _ content => content
  | .integer _ content => toString content
  | .object _ words _ => words.words

/-- The form in which the value is shown, where it can be made. -/
def shown : Custom → String
  | .text _ content => quoted content
  | .integer _ content => toString content
  | .object _ _ form => form.words

/-- What keeps the text of the value from being made. -/
def renderFault? : Custom → Option TextFault
  | .text _ _ => none
  | .integer _ content => numeralFault? content
  | .object _ words _ => words.fault?

/-- What keeps the value from being shown. -/
def shownFault? : Custom → Option TextFault
  | .text _ _ => none
  | .integer _ content => numeralFault? content
  | .object _ _ form => form.fault?

end Custom

/-- A value. -/
inductive Value where
  /-- No value. -/
  | null
  /-- A truth value. -/
  | bool (b : Bool)
  /-- A whole number. -/
  | int (n : Int)
  /-- A floating-point number. -/
  | float (x : Double)
  /-- A text. -/
  | text (s : String)
  /-- A day. -/
  | date (d : Date)
  /-- A moment. -/
  | moment (m : Moment)
  /-- A list. -/
  | list (items : List Value)
  /-- A tuple. -/
  | tuple (items : List Value)
  /-- A dictionary, in the order its keys were first given. -/
  | dict (entries : List (Value × Value))
  /-- A record: its own text if it has one, and what was assigned to each of its fields. -/
  | record (schema : String) (own : Option OwnText) (fields : List (String × Option Value))
  /-- A value of a class of its own. -/
  | custom (c : Custom)
  deriving Inhabited, Repr

namespace Value

/-- The name of the type of a value. -/
def typeName : Value → String
  | .null => "NoneType"
  | .bool _ => "bool"
  | .int _ => "int"
  | .float _ => "float"
  | .text _ => "str"
  | .date _ => "date"
  | .moment _ => "datetime"
  | .list _ => "list"
  | .tuple _ => "tuple"
  | .dict _ => "dict"
  | .record schema _ _ => schema
  | .custom c => c.className

/-- A date as it is shown. -/
def shownDate (d : Date) : String :=
  "datetime.date(" ++ toString d.year ++ ", " ++ toString d.month ++ ", " ++ toString d.day ++ ")"

/-- A span of millionths of a second as it is shown: days, and a rest that is not negative. -/
def shownSpan (micros : Int) : String :=
  let rest := Int.fmod micros Moment.dayMicros
  let parts : List (String × Int) :=
    [("days=", Int.fdiv micros Moment.dayMicros), ("seconds=", rest / 1000000),
      ("microseconds=", rest % 1000000)]
  let shown := (parts.filter (·.2 != 0)).map fun part => part.1 ++ toString part.2
  "datetime.timedelta(" ++ (if shown.isEmpty then "0" else ", ".intercalate shown) ++ ")"

/-- A distance from universal time as it is shown. -/
def shownZone (ahead : Int) : String :=
  if ahead = 0 then "datetime.timezone.utc" else "datetime.timezone(" ++ shownSpan ahead ++ ")"

/-- A moment as it is shown; seconds and their parts are left out when they are zero. -/
def shownMoment (m : Moment) : String :=
  let parts := [m.date.year, m.date.month, m.date.day, m.hour, m.minute] ++
    (if m.micro = 0 then if m.second = 0 then [] else [m.second] else [m.second, m.micro])
  let zone :=
    match m.ahead with
    | none => ""
    | some ahead => ", tzinfo=" ++ shownZone ahead
  "datetime.datetime(" ++ ", ".intercalate (parts.map toString) ++ zone ++ ")"

mutual

/-- The form in which a value is shown, where it can be made. -/
def shown : Value → String
  | .null => "None"
  | .bool b => if b then "True" else "False"
  | .int n => toString n
  | .float x => Double.render Double.display x
  | .text s => quoted s
  | .date d => shownDate d
  | .moment m => shownMoment m
  | .list items => "[" ++ ", ".intercalate (shownItems items) ++ "]"
  | .tuple items =>
    match shownItems items with
    | [one] => "(" ++ one ++ ",)"
    | several => "(" ++ ", ".intercalate several ++ ")"
  | .dict entries => "\x7b" ++ ", ".intercalate (shownEntries entries) ++ "\x7d"
  | .record schema _ fields => schema ++ "(" ++ ", ".intercalate (shownFields fields) ++ ")"
  | .custom c => c.shown

/-- The forms in which the items of a list are shown. -/
def shownItems : List Value → List String
  | [] => []
  | v :: rest => v.shown :: shownItems rest

/-- The forms in which the entries of a dictionary are shown. -/
def shownEntries : List (Value × Value) → List String
  | [] => []
  | (k, v) :: rest => (k.shown ++ ": " ++ v.shown) :: shownEntries rest

/-- The forms in which the fields of a record are shown. -/
def shownFields : List (String × Option Value) → List String
  | [] => []
  | (name, some v) :: rest => (name ++ "=" ++ v.shown) :: shownFields rest
  | (name, none) :: rest => (name ++ "=") :: shownFields rest

end

/-- The text of a value, where it can be made. -/
def render : Value → String
  | .text s => s
  | .date d => d.render
  | .moment m => m.renderWith ' '
  | .custom c => c.render
  | .record _ (some own) _ => own.words
  | v => v.shown

mutual

/-- What keeps a value from being shown; of several faults the one that is met first. -/
def shownFault? : Value → Option TextFault
  | .int n => numeralFault? n
  | .list items => itemsFault? items
  | .tuple items => itemsFault? items
  | .dict entries => entriesFault? entries
  | .record _ _ fields => fieldsFault? fields
  | .custom c => c.shownFault?
  | _ => none

/-- What keeps the items of a list from being shown. -/
def itemsFault? : List Value → Option TextFault
  | [] => none
  | v :: rest => v.shownFault?.or (itemsFault? rest)

/-- What keeps the entries of a dictionary from being shown. -/
def entriesFault? : List (Value × Value) → Option TextFault
  | [] => none
  | (k, v) :: rest => k.shownFault?.or (v.shownFault?.or (entriesFault? rest))

/-- What keeps the fields of a record from being shown, private ones included. -/
def fieldsFault? : List (String × Option Value) → Option TextFault
  | [] => none
  | (_, some v) :: rest => v.shownFault?.or (fieldsFault? rest)
  | (name, none) :: _ => some (.unassigned name)

end

/-- What keeps the text of a value from being made; parts of a value are shown in it. -/
def renderFault? : Value → Option TextFault
  | .custom c => c.renderFault?
  | .record _ (some own) _ => own.fault?
  | v => v.shownFault?

/-- The text of a value, if it can be made. -/
def asText (v : Value) : Except TextFault String :=
  match v.renderFault? with
  | none => .ok v.render
  | some fault => .error fault

/-- The form in which a value is shown, if it can be made. -/
def asShown (v : Value) : Except TextFault String :=
  match v.shownFault? with
  | none => .ok v.shown
  | some fault => .error fault

theorem render_text (s : String) : (Value.text s).render = s := rfl

end Value

/-- The text that a value is, also one of a class derived from texts. -/
def Value.content? : Value → Option String
  | .text s => some s
  | .custom (.text _ content) => some content
  | _ => none

/-- Whether two values are the same text, whatever their classes. -/
def sameContent (a b : Value) : Bool := a.content?.isSome && a.content? == b.content?

/-- Whether two values are the same text. -/
def sameText : Value → Value → Bool
  | .text s, .text t => s == t
  | _, _ => false

/--
The whole number that a truth value, a floating-point number or a whole number, also one of
a class derived from integers, is equal to.
-/
def wholeNumber? : Value → Option Int
  | .bool b => some (if b then 1 else 0)
  | .int n => some n
  | .custom (.integer _ content) => some content
  | .float x =>
    if Double.infiniteMagnitude ≤ x.magnitude then none
    else
      let q := x.quotient
      if q.1 % q.2 = 0 then some (q.1 / q.2) else none
  | _ => none

/-- Whether a value is the floating-point number that is equal to none. -/
def isNotANumber : Value → Bool
  | .float x => Double.infiniteMagnitude < x.magnitude
  | _ => false

mutual

/--
Whether two values are the same key: the same number or moment, tuples of such values,
or shown alike.
-/
def sameKey : Value → Value → Bool
  | .tuple xs, b =>
    match b with
    | .tuple ys => sameKeys xs ys
    | _ => false
  | .moment m, b =>
    match b with
    | .moment n => m.isSameAs n
    | _ => false
  | a, b =>
    match wholeNumber? a, wholeNumber? b with
    | some m, some n => m == n
    | none, none =>
      !isNotANumber a && (sameContent a b || (a.typeName == b.typeName && a.shown == b.shown))
    | _, _ => false

/-- Whether two lists of values are the same place by place. -/
def sameKeys : List Value → List Value → Bool
  | [], [] => true
  | x :: xs, y :: ys => sameKey x y && sameKeys xs ys
  | _, _ => false

end

mutual

/-- Whether a value can be a key: no list and no dictionary, and no tuple that holds one. -/
def canBeKey : Value → Bool
  | .list _ => false
  | .dict _ => false
  | .tuple items => allCanBeKeys items
  | _ => true

/-- Whether all values of a list can be keys. -/
def allCanBeKeys : List Value → Bool
  | [] => true
  | v :: rest => canBeKey v && allCanBeKeys rest

end

/-- Set a key of an ordered mapping; a known key keeps its place. -/
def assocSet {α β : Type} (same : α → α → Bool) (k : α) (v : β) : List (α × β) → List (α × β)
  | [] => [(k, v)]
  | (k', v') :: rest =>
    if same k' k then (k', v) :: rest else (k', v') :: assocSet same k v rest

/-- The ordered mapping of a list of pairs: the last value of a key counts, at its first place. -/
def assocOfPairs {α β : Type} (same : α → α → Bool) (pairs : List (α × β)) : List (α × β) :=
  pairs.foldl (fun m p => assocSet same p.1 p.2 m) []

end TypedCommands
