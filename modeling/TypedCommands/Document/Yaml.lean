import TypedCommands.Document.Arguments

/-!
# Arguments as YAML texts

Lists of arguments are written as YAML texts and read from them by a library that dumps values
as texts and loads them.  A document that holds nothing counts as an empty dictionary, and so
as no arguments.

Main definitions:

- Definition `Yaml.Library`: what is asked of the library.
- Definitions `Argument.toYaml` and `Argument.ofYaml`: arguments as YAML texts.
-/

namespace TypedCommands

/--
A library for YAML texts.  Values are dumped in block style, with all characters that can be
printed as they are; a text is loaded as a plain value, or a fault is found in it.
-/
structure Yaml.Library (Fault : Type) where
  /-- The text of a value. -/
  dump : Value → String
  /-- The value of a text. -/
  load : String → Except Fault Value

/-- Whether a value counts as nothing. -/
def Value.isNothing : Value → Bool
  | .null => true
  | .bool b => !b
  | .int n => n == 0
  | .float x => x.isZero
  | .text s => s.isEmpty
  | .list items => items.isEmpty
  | .tuple items => items.isEmpty
  | .dict entries => entries.isEmpty
  | _ => false

/-- Why a text is no list of arguments. -/
inductive YamlFault (Fault : Type) where
  /-- The library cannot load the text. -/
  | text (fault : Fault)
  /-- Its document is no list of arguments. -/
  | document (fault : DocumentFault)
  deriving DecidableEq, Repr

namespace Argument

variable {Fault : Type}

/-- The YAML text of a list of arguments. -/
def toYaml (library : Yaml.Library Fault) (arguments : List Argument) : String :=
  library.dump (toDocument arguments)

/-- The arguments of a YAML text. -/
def ofYaml (library : Yaml.Library Fault) (text : String) :
    Except (YamlFault Fault) (List Argument) :=
  match library.load text with
  | .error fault => .error (.text fault)
  | .ok v =>
    match ofDocument (if v.isNothing then .dict [] else v) with
    | .error fault => .error (.document fault)
    | .ok arguments => .ok arguments

end Argument

end TypedCommands
