import TypedCommands.Coercion
import TypedCommands.FieldType.Forward
import TypedCommands.Text.Lowercase

/-!
# Schemas

A schema declares the fields of a kind of record: their names, types and defaults,
and a binding tag that says how arguments reach them.  A tag is a binding name, an
optional comma and the word `positional`; without a name the field's own name in
lower case is used.

Main results:

- Theorem `BindingTag.binding_absent`: a field without a tag is bound by its name in
  lower case and takes no unnamed arguments.
-/

namespace TypedCommands

open TypedCommands.Text

/-- What a field declares as its binding tag. -/
inductive BindingTag where
  /-- Nothing. -/
  | absent
  /-- A text. -/
  | text (s : String)
  /-- Something that is no text; given is the name of its type. -/
  | other (type : String)
  deriving DecidableEq, Repr

/-- A field of a schema. -/
structure Field where
  /-- The name of the field. -/
  name : String
  /-- The type it is declared with. -/
  type : FieldType
  /-- The value it starts with, if there is one. -/
  default : Option Value := none
  /-- Whether a value for it can be given when a record is built. -/
  inConstructor : Bool := true
  /-- Its binding tag. -/
  tag : BindingTag := .absent
  /-- What the texts in its type stand for. -/
  scope : Scope := .builtins

/--
A kind of record.  Its records are built of values for their fields and of nothing else: a
constructor of a class's own, values that only a constructor takes, and annotations that
declare no field are not expressed.
-/
structure Schema where
  /-- The name of the schema. -/
  name : String
  /-- Its fields, in the order they are declared. -/
  fields : List Field
  /-- Whether its records cannot be changed. -/
  frozen : Bool := false

/-- The key under which a field's metadata holds its tag. -/
def tagKey : String := "command"

/-- The word that makes a field positional. -/
def positionalFlag : String := "positional"

/-- Whether a name that is not empty can never be the name of an argument. -/
def isUnmatchable (cs : List Char) : Bool :=
  cs.any isBlank || cs.contains nameSeparator || (cs.head?.map isQuote).getD false

namespace BindingTag

/-- Judge a binding name; a name that is empty cannot be judged. -/
def checkName (field : String) (cs : List Char) (positional : Bool) :
    Except Failure (String × Bool) :=
  match cs with
  | [] => .error (.defect .emptyName)
  | c :: rest =>
    if isUnmatchable (c :: rest) then
      .error (.ofProblem (.tag (.unmatchable field (String.ofList (c :: rest)))))
    else .ok (String.ofList (c :: rest), positional)

/-- The name before the comma, or the field's own name in lower case if there is none. -/
def nameOr (field : String) (cs : List Char) : List Char :=
  if cs.isEmpty then (lowercase field).toList else cs

/-- The binding name of a field, and whether it takes unnamed arguments. -/
def binding (field : String) : BindingTag → Except Failure (String × Bool)
  | .absent => .ok (lowercase field, false)
  | .other type => .error (.ofProblem (.tag (.notText field type)))
  | .text s =>
    match s.toList.splitOn ',' with
    | [] => .error (.defect .emptyName)
    | [name] => checkName field (nameOr field name) false
    | [name, flag] =>
      if trimBlanks flag = positionalFlag.toList then checkName field (nameOr field name) true
      else .error (.ofProblem (.tag (.misconfigured field s)))
    | _ => .error (.ofProblem (.tag (.misconfigured field s)))

/-- Without a tag a field is bound by its name in lower case. -/
theorem binding_absent (field : String) :
    binding field .absent = .ok (lowercase field, false) := rfl

end BindingTag

/-- What is offered in the place of a schema. -/
inductive Candidate where
  /-- A schema. -/
  | schema (s : Schema)
  /-- A class that declares no fields; given is how it is shown. -/
  | plainClass (shown : String)
  /-- A value. -/
  | value (v : Value)

/-- How something that is no schema is shown. -/
def Candidate.shown : Candidate → String
  | .schema s => s.name
  | .plainClass shown => shown
  | .value v => v.shown

namespace Schema

/-- The fields that have to be given when a record is built. -/
def requiredFields (s : Schema) : List String :=
  (s.fields.filter fun f => f.inConstructor && f.default.isNone).map (·.name)

end Schema

/--
The schema of a candidate, if its records can be built from nothing and changed.  Only the
fields are judged; what a constructor of the class's own would ask for is not expressed.
-/
def Candidate.buildable : Candidate → Except Problem Schema
  | .schema s =>
    match s.requiredFields with
    | [] => if s.frozen then .error (.destination (.frozen s.name)) else .ok s
    | required => .error (.destination (.requiresFields s.name required))
  | c => .error (.destination (.notSchema c.shown))

end TypedCommands
