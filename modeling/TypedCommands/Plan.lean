import TypedCommands.Schema

/-!
# Binding plans

A plan says for every public field of a schema under which name arguments reach it
and whether unnamed arguments do.  Fields whose name begins with an underscore are
private and are never bound.

Main definitions:

- Definition `Plan`: the bindings of the public fields, in the order they are declared.
- Definition `Candidate.plan`: the plan of a class, or why it has none.
-/

namespace TypedCommands

/-- How one field receives the texts of arguments. -/
structure FieldBinding where
  /-- The field. -/
  field : String
  /-- The name that arguments are matched against. -/
  name : String
  /-- Whether unnamed arguments may reach the field. -/
  positional : Bool
  /-- The type of the field without one `none`. -/
  target : FieldType
  /-- Whether the declared type allows no value. -/
  optional : Bool

namespace FieldBinding

/-- Whether the field is set by its name alone. -/
def isFlag (b : FieldBinding) : Bool := b.target.isFlag

/-- Whether the field collects values. -/
def isSequence (b : FieldBinding) : Bool := b.target.isSequence

/-- The type that texts are converted to: of the elements, for a field that collects values. -/
def valueType (b : FieldBinding) : FieldType :=
  if b.isSequence then b.target.element else b.target

end FieldBinding

/-- The bindings of all public fields of a schema, in declaration order. -/
structure Plan where
  /-- The name of the schema. -/
  schema : String
  /-- The bindings. -/
  bindings : List FieldBinding

namespace Plan

/-- The binding with a name. -/
def find? (p : Plan) (name : String) : Option FieldBinding :=
  p.bindings.find? (·.name == name)

/-- The bindings that unnamed arguments may reach. -/
def positional (p : Plan) : List FieldBinding := p.bindings.filter (·.positional)

end Plan

/-- Whether a field is private. -/
def isPrivate (name : String) : Bool := name.toList.head? == some '_'

/-- The failure of a plan for a schema when the type of a field is not known. -/
def TypeFault.failure (schema : String) : TypeFault → Failure
  | .undefined name => .ofProblem (.configuration (.undefinedName schema name))
  | .escaped exception => .defect (.raised exception)

/-- The types of all fields, private ones included, with every text in them resolved. -/
def resolveFieldTypes (schema : String) : List Field → Except Failure (List (Field × FieldType))
  | [] => .ok []
  | f :: rest =>
    match f.type.resolve f.scope with
    | .error fault => .error (fault.failure schema)
    | .ok type => (resolveFieldTypes schema rest).map ((f, type) :: ·)

/-- Add the bindings of fields one by one; `done` holds those of the fields before. -/
def bindFields (schema : String) (done : List FieldBinding) :
    List (Field × FieldType) → Except Failure (List FieldBinding)
  | [] => .ok done
  | (f, type) :: rest =>
    if isPrivate f.name then bindFields schema done rest
    else
      match f.tag.binding f.name with
      | .error failure => .error failure
      | .ok (name, positional) =>
        match done.find? (·.name == name) with
        | some earlier =>
          .error (.ofProblem (.tag (.clash earlier.field f.name schema name)))
        | none =>
          let target := type.withoutNone
          bindFields schema (done ++ [⟨f.name, name, positional, target.1, target.2⟩]) rest

/-- The plan of a schema. -/
def Schema.plan (s : Schema) : Except Failure Plan :=
  match resolveFieldTypes s.name s.fields with
  | .error failure => .error failure
  | .ok typed => (bindFields s.name [] typed).map (Plan.mk s.name)

/-- Whether plans can be kept for a candidate: it is a class, or a value that can be a key. -/
def Candidate.canBeKey : Candidate → Bool
  | .value v => TypedCommands.canBeKey v
  | _ => true

/-- The plan of a candidate; only schemas have one. -/
def Candidate.plan : Candidate → Except Failure Plan
  | .schema s => s.plan
  | c =>
    if c.canBeKey then .error (.ofProblem (.configuration (.notSchema c.shown)))
    else .error (.defect .notAKey)

end TypedCommands
