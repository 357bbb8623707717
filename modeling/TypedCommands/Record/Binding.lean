import TypedCommands.Record
import TypedCommands.Source

/-!
# Binding arguments into records

An argument reaches a field of a record in one of three ways.  An unnamed argument
whose value is the name of a flag sets that flag.  Any other unnamed argument goes
to the next positional field; a positional field that collects values never hands
over to the next one.  A named argument goes to the field of that name.

Binding is best effort: when an argument fails, the fields bound before it keep
their new values.  A field that collects values appends them to the list that it holds,
which other fields may hold as well.  If it holds none when an argument reaches it, it holds
a new empty list from then on, even if that argument fails.

Main results:

- Theorem `Record.bindAll_append_of_failure`: what follows a failing argument is never
  looked at.
-/

namespace TypedCommands

/-- Where an argument goes: the binding, the text it is given and the place after it. -/
structure Route where
  /-- The binding of the field. -/
  binding : FieldBinding
  /-- The text that is converted. -/
  text : String
  /-- The number of the next positional field. -/
  place : Nat

namespace Plan

/-- The flag that an unnamed argument sets, if it sets one. -/
def flag? (p : Plan) (a : Argument) : Option FieldBinding :=
  (p.find? a.value).filter (·.isFlag)

/-- Where an argument goes when `place` positional fields are used up. -/
def route? (p : Plan) (place : Nat) (a : Argument) : Option Route :=
  if a.name = "" then
    match p.flag? a with
    | some b => some ⟨b, "true", place⟩
    | none =>
      p.positional[place]?.map fun b =>
        ⟨b, a.value, if b.isSequence then place else place + 1⟩
  else (p.find? a.name).map fun b => ⟨b, a.value, place⟩

end Plan

namespace Record

/-- Give a text to a field: the record afterwards, and the failure if there was one. -/
def assign (r : Record) (b : FieldBinding) (text : String) : Record × Option Failure :=
  if b.isSequence then
    match r.get? b.field with
    | none => (r, some (.defect (.unassigned b.field)))
    | some .null =>
      let started := r.set b.field (.list [])
      match coerce b.valueType text with
      | .ok v => (started.append b.field v, none)
      | .error failure => (started, some failure)
    | some (.list _) =>
      match coerce b.valueType text with
      | .ok v => (r.append b.field v, none)
      | .error failure => (r, some failure)
    | some _ => (r, some (.defect (.notAList b.field)))
  else
    match coerce b.valueType text with
    | .ok v => (r.set b.field v, none)
    | .error failure => (r, some failure)

/-- A record in the middle of binding. -/
structure Progress where
  /-- The record as it is now. -/
  record : Record
  /-- The number of positional fields that are used up. -/
  place : Nat := 0
  /-- The failure that ended binding. -/
  failure : Option Failure := none

/-- Bind one argument. -/
def bindOne (p : Plan) (now : Progress) (a : Argument) : Progress :=
  match p.route? now.place a with
  | none => { now with failure := some (.ofProblem (.unrecognised a)) }
  | some route =>
    match now.record.assign route.binding route.text with
    | (record, none) => ⟨record, route.place, none⟩
    | (record, some failure) => ⟨record, now.place, some failure⟩

/-- Bind arguments until one fails. -/
def bindAll (p : Plan) : Progress → List Argument → Progress
  | now, [] => now
  | now, a :: rest =>
    let after := bindOne p now a
    match after.failure with
    | none => bindAll p after rest
    | some _ => after

/-- The arguments that are bound before one fails, each with the record after it. -/
def bindTrace (p : Plan) : Progress → List Argument → List (Argument × Record)
  | _, [] => []
  | now, a :: rest =>
    let after := bindOne p now a
    match after.failure with
    | none => (a, after.record) :: bindTrace p after rest
    | some _ => []

/-- Behind a failure no more arguments are bound. -/
theorem bindAll_append_of_failure {p : Plan} {now : Progress} {xs : List Argument}
    {failure : Failure} (h : (bindAll p now xs).failure = some failure)
    (start : now.failure = none) (ys : List Argument) :
    bindAll p now (xs ++ ys) = bindAll p now xs := by
  induction xs generalizing now with
  | nil => simp [bindAll, start] at h
  | cons a xs ih =>
    simp only [List.cons_append, bindAll] at h ⊢
    split
    · next hn =>
      rw [hn] at h
      exact ih h hn
    · rfl

/-- The plan that arguments are bound to this record with, if it can be changed. -/
def bindingPlan (r : Record) : Except Failure Plan :=
  if r.schema.frozen then
    .error (.ofProblem (.destination (.notMutableRecord r.schema.name)))
  else r.schema.plan

/-- Bind all arguments of a source: the record afterwards, and the failure if there was one. -/
def bind (r : Record) (s : Source) : Record × Option Failure :=
  match r.bindingPlan with
  | .error failure => (r, some failure)
  | .ok p =>
    let after := bindAll p { record := r } s.arguments
    match after.failure with
    | some failure => (after.record, some failure)
    | none => (after.record, s.fault.map fun f => Failure.ofProblem (.malformed f))

/-- The arguments of a source that are bound, each with the record after it. -/
def trace (r : Record) (s : Source) : List (Argument × Record) :=
  match r.bindingPlan with
  | .error _ => []
  | .ok p => bindTrace p { record := r } s.arguments

end Record

/-- The failure of binding into something that is no record at all. -/
def Value.bindFailure (v : Value) : Failure :=
  .ofProblem (.destination (.notMutableRecord v.typeName))

/-- Build a record of a candidate schema from nothing and bind the arguments of a source to it. -/
def Candidate.bindNew (c : Candidate) (s : Source) : Except Failure Record :=
  match c.buildable with
  | .error problem => .error (.ofProblem problem)
  | .ok made =>
    match made.blank.bind s with
    | (r, none) => .ok r
    | (_, some failure) => .error failure

end TypedCommands
