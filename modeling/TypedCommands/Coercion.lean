import TypedCommands.FieldType
import TypedCommands.Number.Whole

/-!
# Coercion of argument texts

How the text of an argument becomes a value of a field's type.  A class with a
converter of its own comes first; then texts, whole and floating-point numbers,
truth values and dates; then classes derived from texts.  Nothing else can be
bound, whatever the text.

Main results:

- Theorem `coerce_of_converter?_eq_none`: a type without a converter is unsupported,
  whatever the text.
-/

namespace TypedCommands

/-- The texts that mean yes and the texts that mean no. -/
def flagWords : List (String × Bool) :=
  [("1", true), ("t", true), ("T", true), ("TRUE", true), ("true", true), ("True", true),
    ("0", false), ("f", false), ("F", false), ("FALSE", false), ("false", false),
    ("False", false)]

/-- A converter's refusal of a text. -/
def refuse (message : String) : Except Failure Value := .error (.defect (.refused message))

/-- A text as it is. -/
def convertText : Converter := fun s => .ok (.text s)

/-- A whole number in the strict reading. -/
def convertInteger : Converter := fun s =>
  match Whole.read s with
  | .ok n => .ok (.int n)
  | .error message => refuse message

/-- A floating-point number without underscores and without blanks around it. -/
def convertReal : Converter := fun s =>
  let cs := s.toList
  if cs.contains '_' || Text.trimBlanks cs != cs then refuse "invalid syntax"
  else
    match Double.ofText? cs with
    | some x => .ok (.float x)
    | none => refuse "invalid syntax"

/-- One of the words for yes and no. -/
def convertFlag : Converter := fun s =>
  match flagWords.lookup s with
  | some b => .ok (.bool b)
  | none => refuse "invalid syntax"

/-- A day. -/
def convertDate : Converter := fun s =>
  match Date.read s with
  | .ok d => .ok (.date d)
  | .error fault => refuse fault.message

/-- A day as its midnight in universal time. -/
def convertMoment : Converter := fun s =>
  match Date.read s with
  | .ok d => .ok (.moment (Moment.midnight d))
  | .error fault => refuse fault.message

/-- Calling a class that is derived from texts makes a text of this class. -/
def ValueClass.call (c : ValueClass) (make : String → Except Failure String) : Converter :=
  fun s => (make s).map fun content => .custom (.text c.name content)

/-- The converter of a type, with the kind of value that messages call it. -/
def FieldType.converter? : FieldType → Option (String × Converter)
  | .defined c =>
    match c.parse with
    | some convert => some (c.name, convert)
    | none => c.ofText.map fun make => (c.name, c.call make)
  | .builtin .text => some ("string", convertText)
  | .builtin .integer => some ("integer", convertInteger)
  | .builtin .real => some ("float", convertReal)
  | .builtin .flag => some ("bool", convertFlag)
  | .builtin .date => some ("date", convertDate)
  | .builtin .moment => some ("date", convertMoment)
  | _ => none

/-- The value of a type that a text writes. -/
def coerce (type : FieldType) (text : String) : Except Failure Value :=
  match type.converter? with
  | none => .error (.ofProblem (.unsupported type.label))
  | some (kind, convert) =>
    match convert text with
    | .ok v => .ok v
    | .error failure =>
      match failure.refusal? with
      | some cause => .error (.ofProblem (.invalidValue text kind cause))
      | none => .error failure

theorem coerce_of_converter?_eq_none {type : FieldType} (h : type.converter? = none)
    (text : String) : coerce type text = .error (.ofProblem (.unsupported type.label)) := by
  simp [coerce, h]

end TypedCommands
