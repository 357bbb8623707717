import TypedCommands.Record

/-!
# Plain views of records

A record as pairs of its public fields and plain values: nothing, truth values,
numbers, texts and lists of these.  Dates become their text and every other value
the text it has of its own.  Where such a text cannot be made there is no plain view.

Main definitions:

- Definition `Value.plain`: the plain view of a value, or why it cannot be made.
- Definition `Record.plain`: the plain view of a record.
-/

namespace TypedCommands

/-- The failure of an operation that asks for a text which cannot be made. -/
def TextFault.failure : TextFault → Failure
  | .tooLong => .defect .tooLong
  | .unassigned field => .defect (.unassigned field)
  | .raised exception => .defect (.raised exception)

namespace Value

mutual

/-- The plain view of a value, if the texts in it can be made. -/
def plain : Value → Except TextFault Value
  | .null => .ok .null
  | .bool b => .ok (.bool b)
  | .int n => .ok (.int n)
  | .float x => .ok (.float x)
  | .text s => .ok (.text s)
  | .date d => .ok (.text d.render)
  | .moment m => .ok (.text m.render)
  | .list items => (plainItems items).map .list
  | .tuple items => (plainItems items).map .list
  | .dict entries => (Value.dict entries).asText.map .text
  | .record schema own fields => (Value.record schema own fields).asText.map .text
  | .custom (.integer name n) => .ok (.custom (.integer name n))
  | .custom (.text _ content) => .ok (.text content)
  | .custom (.object name words form) => (Value.custom (.object name words form)).asText.map .text

/-- The plain views of the items of a list, if all of them can be made. -/
def plainItems : List Value → Except TextFault (List Value)
  | [] => .ok []
  | v :: rest =>
    match plain v with
    | .error fault => .error fault
    | .ok w => (plainItems rest).map (w :: ·)

end

end Value

/-- The plain views of the public fields among fields with their values. -/
def plainValues : List (String × Option Value) → Except Failure (List (String × Value))
  | [] => .ok []
  | (name, held) :: rest =>
    if isPrivate name then plainValues rest
    else
      match held with
      | none => .error (.defect (.unassigned name))
      | some v =>
        match v.plain with
        | .error fault => .error fault.failure
        | .ok w => (plainValues rest).map ((name, w) :: ·)

/-- The plain view of a record: its public fields in declaration order. -/
def Record.plain (r : Record) : Except Failure (List (String × Value)) := plainValues r.values

/-- The plain view of a value that is a record; any other value has none. -/
def Value.plainFields? : Value → Option (Except Failure (List (String × Value)))
  | .record _ _ fields => some (plainValues fields)
  | _ => none

/-- The wording for something that is no record and so has no plain view. -/
def noPlainView (type : String) : String := "expected a dataclass instance, got " ++ type

end TypedCommands
