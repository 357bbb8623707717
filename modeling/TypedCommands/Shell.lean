import TypedCommands.Command.Resolution
import TypedCommands.Document.Arguments
import TypedCommands.Grammar
import TypedCommands.Problem.Hierarchy
import TypedCommands.Record.Plain
import TypedCommands.Shell.Reference

/-!
# The shell

The shell shows how lines are scanned, bound and resolved.  Every run ends with a
report: what is printed and a status, which is 0 for success, 1 for a mistake in the
line and 2 for a mistake in a schema, a table or the use of the shell.  A run breaks down
without a report if something fails that the shell does not catch.

Main results:

- Theorem `statusOf_ne_zero`: no error has the status of success.
-/

namespace TypedCommands.Shell

open Console (Words Sheet Branch)

/-- Why a run of the shell breaks down without a report. -/
inductive Breakdown where
  /-- A failure of a command, a schema or a value that no message covers. -/
  | failure (f : Failure)
  /-- An exception of the host; given is the name of its class. -/
  | escaped (exception : String)
  deriving DecidableEq, Repr

/-- The class of the exception that a run breaks down with. -/
def Breakdown.exception : Breakdown → String
  | .failure f => f.exception
  | .escaped exception => exception

/-- How a run ends. -/
abbrev Ending := Except Breakdown Report

/-- What the console gives; the shell catches none of its exceptions. -/
def uncaught (printed : Except String String) : Except Breakdown String :=
  printed.mapError .escaped

/-- The report of a run that succeeds and prints a text. -/
def success (output : String) : Report := { output }

/-! ## Errors -/

/-- The status for an error of a category. -/
def statusOf : Category → Nat
  | .line => 1
  | .input => 1
  | .configuration => 2
  | .other => 1

/-- No error has the status of success. -/
theorem statusOf_ne_zero (c : Category) : statusOf c ≠ 0 := by
  cases c <;> simp [statusOf]

/-- The heading of an error of a category. -/
def headingOf : Category → String
  | .line => "Syntax error:"
  | .input => "Error:"
  | .configuration => "Configuration error:"
  | .other => "Error:"

/-- The words for an error: its message with marks as they come, behind a red heading. -/
def errorWords (e : CommandError) : Words :=
  .headed (headingOf e.problem.category) e.message

/-- The line that was scanned, moved in. -/
def lineWords (line : String) : Words := .plain ("  " ++ line)

/-- A mark below a place in that line. -/
def caretWords (index : Int) : Words :=
  .plain (String.ofList (List.replicate (index.toNat + 2) ' ') ++ "^")

/-- For a malformed line, the line and a mark below the place of the fault. -/
def printPlace (console : Console) (line : String) : Problem → Except Breakdown String
  | .malformed fault => do
    let shown ← uncaught (console.print (lineWords line))
    let caret ← uncaught (console.print (caretWords fault.index))
    return shown ++ caret
  | _ => return ""

/-- The report of a command error about a line. -/
def errorReport (console : Console) (line : String) (e : CommandError) : Ending := do
  let message ← uncaught (console.print (errorWords e))
  let place ← printPlace console line e.problem
  return { status := statusOf e.problem.category, errors := message ++ place }

/-! ## Answers -/

/-- The names of fields and the forms in which their values are shown, if these can be made. -/
def fieldCells : List (String × Value) → Except TextFault (List (String × String))
  | [] => .ok []
  | (name, v) :: rest =>
    match v.asShown with
    | .error fault => .error fault
    | .ok shown => (fieldCells rest).map ((name, shown) :: ·)

/-- The table of a record: a row for every field. -/
def recordSheet (name : String) (cells : List (String × String)) : Sheet where
  title := name
  headings := [{ text := "Field" }, { text := "Value" }]
  rows := cells.map fun cell => [.marked cell.1, .marked cell.2]

/-- What there is to see of an answer. -/
inductive View where
  /-- A table of fields with the name of their record. -/
  | record (name : String) (cells : List (String × String))
  /-- A value in its shown form. -/
  | value (shown : String)
  /-- An error. -/
  | error (e : CommandError)
  deriving DecidableEq, Repr

namespace View

/-- The view of a plain record, if it could be made and all its values can be shown. -/
def ofFields (name : String) : Except Failure (List (String × Value)) → Except Failure View
  | .error failure => .error failure
  | .ok fields => ((fieldCells fields).mapError TextFault.failure).map (.record name)

/-- The view of an outcome: a record as a table, anything else in its shown form. -/
def ofOutcome : Outcome → Except Failure View
  | .record r => ofFields r.schema.name r.plain
  | .value v =>
    match v.plainFields? with
    | some fields => ofFields v.typeName fields
    | none => (v.asShown.mapError TextFault.failure).map .value

/-- The view of an answer; of failures only command errors have one. -/
def ofAnswer : Except Failure Outcome → Except Failure View
  | .ok outcome => ofOutcome outcome
  | .error (.command e) => .ok (.error e)
  | .error (.defect d) => .error (.defect d)

/-- Print a view of the answer to a line; all texts are printed as words with marks. -/
def print (console : Console) (line : String) : View → Ending
  | record name cells => (uncaught (console.printSheet (recordSheet name cells))).map success
  | value shown => (uncaught (console.print (.marked shown))).map success
  | error e => errorReport console line e

end View

/-- How a run ends that shows the answer of a command to a line. -/
def conclude (console : Console) (line : String) (answer : Except Failure Outcome) : Ending :=
  match View.ofAnswer answer with
  | .error failure => .error (.failure failure)
  | .ok view => view.print console line

/-! ## Commands -/

/-- The forms in which the arguments of a line are shown. -/
inductive Format where
  | table
  | json
  | yaml
  deriving DecidableEq, Repr

/-- The name of a form. -/
def Format.name : Format → String
  | .table => "table"
  | .json => "json"
  | .yaml => "yaml"

/-- The table of the arguments of a line; their texts are shown as they are. -/
def argumentSheet (arguments : List Argument) : Sheet where
  title := toString arguments.length ++ " argument(s)"
  headings := [{ text := "#", side := .right }, { text := "Raw" }, { text := "Name" },
    { text := "Value" }]
  rows := (List.range arguments.length).zip arguments |>.map fun a =>
    [.marked (toString a.1), .plain a.2.raw, .plain a.2.name, .plain a.2.value]

/-- What stands behind the name of a command: its description, if there is one. -/
def remarkOf (description : String) : String :=
  if description = "" then "" else "  " ++ description

mutual

/-- The branch of a command: its name, its description, and its sub-commands in order. -/
def commandBranch (name : String) : Command → Branch
  | .node _ children description =>
    .node name (remarkOf description)
      (((commandBranches children).mergeSort fun a b => a.1 ≤ b.1).map (·.2))

/-- The branches of commands with their names. -/
def commandBranches : List (String × Command) → List (String × Branch)
  | [] => []
  | (name, c) :: rest => (name, commandBranch name c) :: commandBranches rest

end

/-- The branches of all commands of a table. -/
def tableBranches (t : CommandTable) : List Branch :=
  ((commandBranches t.commands).mergeSort fun a b => a.1 ≤ b.1).map (·.2)

/-- The name of the package. -/
def packageName : String := "cmdlang"

/-- The version of the package. -/
def version : String := "0.1.0"

/-- The versions of the package and of what it runs on. -/
def versionSheet (host : Host) : Sheet where
  headings := [{ text := "" }, { text := "" }]
  rows := [
    [.marked ("[bold]" ++ packageName ++ "[/bold]"), .marked ("v" ++ version)],
    [.marked "Python", .marked host.interpreter],
    [.marked "Platform", .marked host.platform]]
  framed := false

/-- The table that lines are resolved against unless another one is named. -/
def defaultTable : String := packageName ++ ".demo:COMMANDS"

/-- The schema that lines are bound to unless another one is named. -/
def defaultTarget : String := packageName ++ ".demo:SceneQuery"

/-- What the shell is asked to do. -/
inductive Request where
  /-- Bind a line to a new record of a class and show it. -/
  | bind (line target : String)
  /-- Show the commands of a table as a tree. -/
  | commands (table : String)
  /-- Show the grammar of arguments. -/
  | grammar
  /-- Show the arguments of a line. -/
  | lex (line : String) (format : Format)
  /-- Resolve a line against a table and show the answer. -/
  | resolve (line table : String)
  /-- Show the version. -/
  | version
  deriving DecidableEq, Repr

namespace Host

/-- Show the arguments of a line. -/
def showArguments (host : Host) (line : String) (format : Format) : Ending :=
  match tokenize line with
  | .error fault => errorReport host.console line ⟨.malformed fault, none⟩
  | .ok arguments =>
    match format with
    | .json => .ok (success (Argument.toJson (.lines 2) arguments ++ "\n"))
    | .yaml => .ok (success (host.dump (Argument.toDocument arguments)))
    | .table => (uncaught (host.console.printSheet (argumentSheet arguments))).map success

/-- The report of a reference to something of the wrong kind. -/
def wrongKind (host : Host) (task : Task) (option reference kind : String) : Ending :=
  .ok (host.complain task ⟨some option, Text.quoted reference ++ " is not a " ++ kind⟩)

/-- Do something with what a text refers to, unless it leads nowhere. -/
def withOffer (host : Host) (task : Task) (reference : String) (use : Offer → Ending) : Ending :=
  match host.load reference with
  | .error (.escaped exception) => .error (.escaped exception)
  | .error (.refused refusal) => .ok (host.complain task refusal)
  | .ok offer => use offer

/-- Do something with a table that a text refers to. -/
def withTable (host : Host) (task : Task) (reference : String) (use : CommandTable → Ending) :
    Ending :=
  host.withOffer task reference fun offer =>
    match offer with
    | .table t => use t
    | _ => host.wrongKind task "--table" reference "CommandTable"

/-- Do something with a class that a text refers to. -/
def withKind (host : Host) (task : Task) (reference : String) (use : Candidate → Ending) :
    Ending :=
  host.withOffer task reference fun offer =>
    match offer with
    | .kind c => use c
    | _ => host.wrongKind task "--target" reference "class"

/-- Do what is asked for. -/
def perform (host : Host) : Request → Ending
  | .bind line target =>
    host.withKind .bind target fun c =>
      conclude host.console line ((c.bindNew (Source.ofLine line)).map .record)
  | .commands table =>
    host.withTable .commands table fun t =>
      (uncaught (host.console.printTree (.marked ("[bold]" ++ table ++ "[/bold]"))
        (tableBranches t))).map success
  | .grammar => (uncaught (host.console.print (.plain Grammar.full))).map success
  | .lex line format => host.showArguments line format
  | .resolve line table =>
    host.withTable .resolve table fun t =>
      conclude host.console line (t.resolve (Source.ofLine line))
  | .version => (uncaught (host.console.printSheet (versionSheet host))).map success

end Host

end TypedCommands.Shell
