import TypedCommands.Command
import TypedCommands.Console

/-!
# What the shell runs on

The shell imports modules by their names, prints on a console, writes documents as YAML texts
and leaves it to the reader of its command line to complain about what was typed.  None of
that is its own work: a host does it, in its own way.

Main definitions:

- Definition `Module`: what a module gives under a name.
- Definition `Host`: all that the shell asks of others.
-/

namespace TypedCommands.Shell

/-! ## Modules -/

/-- Something that a module offers. -/
inductive Offer where
  /-- A class: a schema, or a class that declares no fields. -/
  | kind (c : Candidate)
  /-- A table of commands. -/
  | table (t : CommandTable)
  /-- Anything else. -/
  | other

/-- Why something that is asked for by its name is not given. -/
inductive Absence where
  /-- There is no such thing; given is the wording of the host. -/
  | missing (reason : String)
  /-- Another exception comes up in the search; given is the name of its class. -/
  | raised (exception : String)
  deriving DecidableEq, Repr

/-- A module: what it gives under a name. -/
abbrev Module := String → Except Absence Offer

/-! ## Commands and complaints -/

/-- A shell command. -/
inductive Task where
  | bind
  | commands
  | grammar
  | lex
  | resolve
  | version
  deriving DecidableEq, Repr

/-- A value that a shell command does not accept. -/
structure Refusal where
  /-- The option it was given to, if it is named. -/
  option : Option String := none
  /-- What is wrong with it. -/
  reason : String
  deriving DecidableEq, Repr

/-- What a run of the shell leaves. -/
structure Report where
  /-- The status. -/
  status : Nat := 0
  /-- What is printed. -/
  output : String := ""
  /-- What is printed for errors. -/
  errors : String := ""
  deriving DecidableEq, Repr

/-- All that the shell asks of others. -/
structure Host where
  /-- The module with a name. -/
  importModule : String → Except Absence Module
  /-- The console for output and the one for errors, which are alike. -/
  console : Console
  /-- The YAML text of a value. -/
  dump : Value → String
  /-- The report of a shell command on a value that it does not accept. -/
  complain : Task → Refusal → Report
  /-- The version of the interpreter. -/
  interpreter : String
  /-- The name of the platform. -/
  platform : String

end TypedCommands.Shell
