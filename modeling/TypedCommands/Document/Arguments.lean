import TypedCommands.Argument
import TypedCommands.Document.Json.Reader
import TypedCommands.Document.Json.Writer

/-!
# Arguments as documents

A list of arguments as a plain value, the shape that JSON and YAML texts of it have:
one entry named `arguments` with a dictionary for each argument.  Reading takes more
than writing gives: other values in the place of texts are read as their text, and
starts may be given as numbers of any kind or as numerals.

Main results:

- Theorem `Argument.ofEntry_toEntry`: an argument is recovered from its dictionary.
- Theorem `Argument.ofDocument_toDocument`: so is a list of arguments from its document.
-/

namespace TypedCommands

/-- Why a value is no list of arguments. -/
inductive DocumentFault where
  /-- The whole is no dictionary. -/
  | notADictionary
  /-- The entry of the arguments cannot be gone through. -/
  | notAList
  /-- An item is no dictionary. -/
  | notAnEntry
  /-- An item has no raw text. -/
  | missingRaw
  /-- The text of a value in the place of a text cannot be made. -/
  | textless (fault : TextFault)
  /-- A start is nothing that a number can be made of. -/
  | startKind
  /-- A start is no numeral, or no number; given is the wording. -/
  | startText (message : String)
  /-- A start is infinite. -/
  | startInfinite
  deriving DecidableEq, Repr

namespace Argument

/-- The dictionary of an argument. -/
def toEntry (a : Argument) : Value :=
  .dict [(.text "raw", .text a.raw), (.text "name", .text a.name), (.text "value", .text a.value),
    (.text "start", .int a.start)]

/-- The value under a key of a dictionary. -/
def valueAt? (key : String) (entries : List (Value × Value)) : Option Value :=
  (entries.find? fun e => sameText e.1 (.text key)).map (·.2)

/-- The text that a value gives. -/
def textOf (v : Value) : Except DocumentFault String := v.asText.mapError .textless

/-- A text gives itself. -/
theorem textOf_text (s : String) : textOf (.text s) = .ok s := rfl

/-- The text under a key of a dictionary, empty if there is none. -/
def textEntry (key : String) (entries : List (Value × Value)) : Except DocumentFault String :=
  textOf ((valueAt? key entries).getD (.text ""))

/-- The start that a value gives. -/
def startOf : Value → Except DocumentFault Int
  | .int n => .ok n
  | .bool b => .ok (if b then 1 else 0)
  | .float x =>
    if x.isNaN then .error (.startText "cannot convert float NaN to integer")
    else if x.isInfinite then .error .startInfinite
    else .ok x.truncate
  | .text s =>
    match Whole.readLenient s with
    | .ok n => .ok n
    | .error message => .error (.startText message)
  | _ => .error .startKind

/-- The argument of a dictionary. -/
def ofEntry : Value → Except DocumentFault Argument
  | .dict entries =>
    match valueAt? "raw" entries with
    | none => .error .missingRaw
    | some raw => do
      let raw ← textOf raw
      let name ← textEntry "name" entries
      let value ← textEntry "value" entries
      let start ← startOf ((valueAt? "start" entries).getD (.int 0))
      return ⟨raw, name, value, start⟩
  | _ => .error .notAnEntry

/-- An argument is recovered from its dictionary. -/
theorem ofEntry_toEntry (a : Argument) : ofEntry a.toEntry = .ok a := by
  cases a
  simp [toEntry, ofEntry, valueAt?, textEntry, textOf_text, startOf, sameText, bind, Except.bind,
    pure, Except.pure]

/-- The document of a list of arguments. -/
def toDocument (arguments : List Argument) : Value :=
  .dict [(.text "arguments", .list (arguments.map toEntry))]

/-- The items that a value gives when it is gone through. -/
def itemsOf : Value → Except DocumentFault (List Value)
  | .list items => .ok items
  | .tuple items => .ok items
  | .text s => .ok (s.toList.map fun c => .text (String.singleton c))
  | .dict entries => .ok (entries.map (·.1))
  | _ => .error .notAList

/-- The arguments of items, the first fault counting. -/
def ofItems : List Value → Except DocumentFault (List Argument)
  | [] => .ok []
  | v :: rest =>
    match ofEntry v with
    | .error fault => .error fault
    | .ok a => (ofItems rest).map (a :: ·)

/-- The arguments of a document; without an entry for them there are none. -/
def ofDocument : Value → Except DocumentFault (List Argument)
  | .dict entries =>
    match itemsOf ((valueAt? "arguments" entries).getD (.list [])) with
    | .error fault => .error fault
    | .ok items => ofItems items
  | _ => .error .notADictionary

/-- The items of a document give its arguments again. -/
theorem ofItems_toEntry (arguments : List Argument) :
    ofItems (arguments.map toEntry) = .ok arguments := by
  induction arguments with
  | nil => rfl
  | cons a arguments ih =>
    rw [List.map_cons, ofItems, ofEntry_toEntry, ih]
    rfl

/-- The document of arguments gives these arguments again. -/
theorem ofDocument_toDocument (arguments : List Argument) :
    ofDocument (toDocument arguments) = .ok arguments := by
  rw [← ofItems_toEntry arguments]
  simp [ofDocument, toDocument, valueAt?, sameText, itemsOf, ofItems_toEntry]

/-- The JSON text of a list of arguments. -/
def toJson (layout : Json.Layout) (arguments : List Argument) : String :=
  Json.render layout (toDocument arguments)

end Argument

end TypedCommands
