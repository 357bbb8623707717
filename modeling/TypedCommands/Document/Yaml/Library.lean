import TypedCommands.Document.Yaml
import TypedCommands.Document.Yaml.Node
import TypedCommands.Document.Yaml.Writer

/-!
# A library for YAML texts

The writer and the reader of YAML texts as a library.  Of the documents that could be written
only those of lists of arguments are.

Main results:

- Theorem `dump_toDocument`: the document of a list of arguments is written.
-/

namespace TypedCommands

namespace Yaml

/-- The text of the document of a list of arguments, nothing for any other value. -/
def dump (v : Value) : String :=
  match Argument.ofDocument v with
  | .ok arguments => String.ofList (writeArguments arguments)
  | .error _ => ""

/-- The document of a list of arguments is written with all of them. -/
theorem dump_toDocument (arguments : List Argument) :
    dump (Argument.toDocument arguments) = String.ofList (writeArguments arguments) := by
  rw [dump, Argument.ofDocument_toDocument]

/-- The writer and the reader. -/
def library : Library Fault where
  dump := dump
  load := read

/-- What is loaded of the text of arguments is what is read of what is written. -/
theorem load_dump_eq_read (arguments : List Argument) :
    library.load (library.dump (Argument.toDocument arguments)) =
      read (String.ofList (writeArguments arguments)) := by
  rw [← dump_toDocument]
  rfl

end Yaml

end TypedCommands
