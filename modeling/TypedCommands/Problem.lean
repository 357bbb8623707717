import TypedCommands.Line.Scanner
import TypedCommands.Text.Quoted

/-!
# Problems and their wording

Everything that can be wrong with a command line, with what a user typed, or with
the schemas and tables it is read against.  A problem is a cause; its wording is
one function of it.  A command error is a problem together with the path of the
command it arose under, if it arose under one.

Problems fall into disjoint categories, so that a caller can decide how to surface
them: a line that cannot be scanned, input that its author can correct, and
schemas or tables that are themselves wrong.

Main results:

- Theorem `CommandError.under_command`: a command error takes the path of a command
  unless it already has one.
-/

namespace TypedCommands

open TypedCommands.Text

/-- Why a line is malformed: what its scanner complained about, or a wording given directly. -/
inductive LineTrouble where
  /-- A complaint of the line scanner. -/
  | complaint (c : Line.Complaint)
  /-- A wording given directly. -/
  | worded (message : String)
  deriving DecidableEq, Repr

/-- A malformed line, with the place in characters and in UTF-8 bytes. -/
structure LineFault where
  /-- Why the line is malformed. -/
  trouble : LineTrouble
  /-- The index in the line of the place. -/
  index : Int
  /-- The number of bytes in front of the place. -/
  offset : Int
  deriving DecidableEq, Repr

/-- The wording of a malformed line. -/
def LineFault.message (f : LineFault) : String :=
  match f.trouble with
  | .complaint .leadingSeparator =>
    "arguments may not start with the name separator = at position " ++ toString f.offset
  | .complaint .repeatedSeparator =>
    "argument contains multiple name separators = as position " ++ toString f.offset
  | .complaint (.unexpected c) =>
    "unexpected character at pos " ++ toString f.offset ++ ": " ++ quoted (String.singleton c)
  | .complaint .unterminatedQuote => "unterminated quote as position " ++ toString f.offset
  | .worded message => message

/-- The line fault of a scanner's fault. -/
def LineFault.ofFault (f : Line.Fault) : LineFault := ⟨.complaint f.complaint, f.index, f.offset⟩

/-- Why something is no destination for arguments. -/
inductive DestinationTrouble where
  /-- It is not a record that can be changed; given is the name of its type. -/
  | notMutableRecord (type : String)
  /-- It is not a record schema; given is how it is shown. -/
  | notSchema (shown : String)
  /-- Fields without a default have to be given. -/
  | requiresFields (schema : String) (fields : List String)
  /-- Records of the schema cannot be changed. -/
  | frozen (schema : String)
  /-- A wording given directly. -/
  | worded (message : String)
  deriving DecidableEq, Repr

/-- Names in quotes with commas between them. -/
def quotedNames (names : List String) : String := ", ".intercalate (names.map quoted)

/-- The wording of trouble with a destination. -/
def DestinationTrouble.message : DestinationTrouble → String
  | .notMutableRecord type => "bind destination must be a mutable dataclass instance, got " ++ type
  | .notSchema shown => "bind destination must be a dataclass, got " ++ shown
  | .requiresFields schema fields =>
    schema ++ " cannot be built without arguments: no default for " ++ quotedNames fields
  | .frozen schema => "bind destination must be a mutable dataclass, " ++ schema ++ " is frozen"
  | .worded message => message

/-- Why a field's binding tag is refused. -/
inductive TagTrouble where
  /-- The tag is no text; given is the name of its type. -/
  | notText (field type : String)
  /-- The tag is not a name with an optional mark for positional fields. -/
  | misconfigured (field tag : String)
  /-- No argument can have the name. -/
  | unmatchable (field name : String)
  /-- Two fields share a binding name. -/
  | clash (first second schema name : String)
  /-- A wording given directly. -/
  | worded (message : String)
  deriving DecidableEq, Repr

/-- The wording of trouble with a tag. -/
def TagTrouble.message : TagTrouble → String
  | .notText field type =>
    "binding tag on field " ++ quoted field ++ " must be a string, got " ++ type
  | .misconfigured field tag =>
    "misconfigured binding tag " ++ quoted tag ++ " on field " ++ quoted field ++
      ", format \"name[,positional]\""
  | .unmatchable field name =>
    "binding name " ++ quoted name ++ " on field " ++ quoted field ++
      " can never match an argument"
  | .clash first second schema name =>
    "fields " ++ quoted first ++ " and " ++ quoted second ++ " of " ++ schema ++
      " share the binding name " ++ quoted name
  | .worded message => message

/-- Why a schema or a command table is wrong in any other way. -/
inductive ConfigurationTrouble where
  /-- Something that is no schema has no binding plan; given is how it is shown. -/
  | notSchema (shown : String)
  /-- A field type mentions a name that is not defined. -/
  | undefinedName (schema name : String)
  /-- A key of a command table can never be typed as a command; given is how it is shown. -/
  | commandName (shown : String)
  /-- A key of a command table leads to something that is no command. -/
  | notCommand (shown type : String)
  /-- A wording given directly. -/
  | worded (message : String)
  deriving DecidableEq, Repr

/-- The wording of trouble with a schema or a table. -/
def ConfigurationTrouble.message : ConfigurationTrouble → String
  | .notSchema shown => shown ++ " is not a dataclass"
  | .undefinedName schema name =>
    "cannot resolve field types of " ++ schema ++ ": name '" ++ name ++ "' is not defined"
  | .commandName shown => shown ++ " cannot be used as a command name"
  | .notCommand shown type => "command " ++ shown ++ " must be a Command, got " ++ type
  | .worded message => message

/-- Everything that can be wrong. -/
inductive Problem where
  /-- The line is malformed. -/
  | malformed (fault : LineFault)
  /-- An argument matches no field. -/
  | unrecognised (argument : Argument)
  /-- A value does not fit the type of its field. -/
  | invalidValue (value kind cause : String)
  /-- There are no arguments at all. -/
  | noInput
  /-- The first argument is not shaped like a command. -/
  | expectedCommand (argument : Argument)
  /-- The first argument names no command. -/
  | unmatchedCommand (argument : Argument)
  /-- Any other mistake in the input. -/
  | input (message : String)
  /-- Something is no destination for arguments. -/
  | destination (trouble : DestinationTrouble)
  /-- A binding tag is refused. -/
  | tag (trouble : TagTrouble)
  /-- There is no conversion to a type; given is its label. -/
  | unsupported (type : String)
  /-- The command that was reached does nothing. -/
  | noHandler
  /-- Any other mistake in a schema or a table. -/
  | configuration (trouble : ConfigurationTrouble)
  /-- A problem of no category. -/
  | bare (message : String)
  deriving DecidableEq, Repr

/-- Who has to do something about a problem. -/
inductive Category where
  /-- The line cannot be scanned. -/
  | line
  /-- The author of the input can correct it. -/
  | input
  /-- The schemas or tables are wrong. -/
  | configuration
  /-- None of these. -/
  | other
  deriving DecidableEq, Repr

namespace Problem

/-- The category of a problem. -/
def category : Problem → Category
  | .malformed _ => .line
  | .unrecognised _ | .invalidValue .. | .noInput | .expectedCommand _ | .unmatchedCommand _
  | .input _ => .input
  | .destination _ | .tag _ | .unsupported _ | .noHandler | .configuration _ => .configuration
  | .bare _ => .other

/-- The wording of a problem. -/
def message : Problem → String
  | .malformed fault => fault.message
  | .unrecognised a => "unrecognised argument: '" ++ a.raw ++ "'"
  | .invalidValue value kind cause =>
    "invalid value: failed to parse '" ++ value ++ "' as " ++ kind ++ ": " ++ cause
  | .noInput => "no arguments returned"
  | .expectedCommand _ => "invalid input: expected command"
  | .unmatchedCommand a => "no matched command: '" ++ a.raw ++ "'"
  | .input message => message
  | .destination trouble => trouble.message
  | .tag trouble => trouble.message
  | .unsupported type => "unsupported destination kind: " ++ type
  | .noHandler => "no resolver configured"
  | .configuration trouble => trouble.message
  | .bare message => message

end Problem

/-- A problem and the path of the command it arose under. -/
structure CommandError where
  /-- What is wrong. -/
  problem : Problem
  /-- The path of the command, none outside of any. -/
  command : Option String := none
  deriving DecidableEq, Repr

namespace CommandError

/-- The wording without the command. -/
def text (e : CommandError) : String := e.problem.message

/-- The wording, with the path of the command in front if there is one. -/
def message (e : CommandError) : String :=
  match e.command with
  | none => e.text
  | some path => if path = "" then e.text else path ++ ": " ++ e.text

/-- The error as it leaves a command: it takes the path unless it already has one. -/
def under (path : String) (e : CommandError) : CommandError :=
  match e.command with
  | none => { e with command := some path }
  | some _ => e

theorem under_command (path : String) (e : CommandError) :
    (e.under path).command = some (e.command.getD path) := by
  unfold under
  split <;> simp_all

theorem under_problem (path : String) (e : CommandError) : (e.under path).problem = e.problem := by
  unfold under
  split <;> rfl

end CommandError

/-- A failure that is no command error: a mistake that no wording of the library covers. -/
inductive Defect where
  /-- A field that nothing has assigned was read. -/
  | unassigned (field : String)
  /-- A list field holds something that is no list. -/
  | notAList (field : String)
  /-- A field without a name has no binding name. -/
  | emptyName
  /-- A record was built without a required field, or with one it does not take. -/
  | wrongFields
  /-- Something was asked of a value that only a value that can be a key has an answer to. -/
  | notAKey
  /-- A text was asked of a value with a number that has more digits than numerals may have. -/
  | tooLong
  /-- A text was asked of an object that fails; given is the name of the exception's class. -/
  | raised (exception : String)
  /-- A converter or a command refused a value for a reason of its own. -/
  | refused (message : String)
  /-- A converter or a command broke down. -/
  | broken (message : String)
  deriving DecidableEq, Repr

/-- How an operation can fail. -/
inductive Failure where
  /-- With a command error. -/
  | command (e : CommandError)
  /-- With something else. -/
  | defect (d : Defect)
  deriving DecidableEq, Repr

namespace Failure

/-- The failure for a problem outside of any command. -/
def ofProblem (p : Problem) : Failure := .command ⟨p, none⟩

/-- The failure as it leaves a command; only command errors take its path. -/
def under (path : String) : Failure → Failure
  | .command e => .command (e.under path)
  | .defect d => .defect d

/--
The reason a converter gives for refusing a value.  A refused tag counts as one,
every other command error and every breakdown does not.
-/
def refusal? : Failure → Option String
  | .command ⟨.tag trouble, path⟩ => some (CommandError.message ⟨.tag trouble, path⟩)
  | .defect (.refused message) => some message
  | _ => none

end Failure

end TypedCommands
