import TypedCommands.Document.Yaml.Library
import TypedCommands.Shell
import TypedCommands.Shell.Help
import TypedCommands.Shell.Registry
import TypedCommands.Terminal.Console

/-!
# The command line of the shell

The words of a command line name a shell command and give its options and its argument; what
they ask for is handed to a host.  A host that runs in a terminal keeps its modules in a
registry and complains as the reader of the command line does.

Main definitions:

- Definition `Registry.host`: a host in a terminal.
- Definition `Host.run`: the run of the words of a command line.
-/

namespace TypedCommands.Shell

/-! ## Descriptions of the commands -/

namespace Task

/-- All of them, in the order of their names. -/
def all : List Task := [bind, commands, grammar, lex, resolve, version]

/-- The name of the command. -/
def name : Task → String
  | bind => "bind"
  | commands => "commands"
  | grammar => "grammar"
  | lex => "lex"
  | resolve => "resolve"
  | version => "version"

/-- What the command does, in one sentence. -/
def summary : Task → String
  | bind => "Bind LINE into a new instance of a dataclass and show its fields."
  | commands => "Show every command of a command table as a tree."
  | grammar => "Print the argument grammar."
  | lex => "Lex LINE and show its arguments."
  | resolve => "Resolve LINE against a command table and show the result."
  | version => "Show detailed version information."

/-- Whether the command takes a line. -/
def takesLine : Task → Bool
  | bind => true
  | lex => true
  | resolve => true
  | _ => false

/-- The names of the forms in which arguments are shown. -/
def formatNames : List String := [Format.table, .json, .yaml].map Format.name

/-- The option that names a table. -/
def tableSwitch (help : String) : Switch :=
  { name := "--table", placeholder := some "TEXT", help, shownDefault := some defaultTable }

/-- The options of the command. -/
def switches : Task → List Switch
  | bind =>
    [{ name := "--target", letter := some 't', placeholder := some "TEXT"
       help := "Dataclass to bind into, as MODULE:CLASS", shownDefault := some defaultTarget }]
  | commands => [tableSwitch "Command table to show, as MODULE:ATTRIBUTE"]
  | lex =>
    [{ name := "--format", placeholder := some ("[" ++ "|".intercalate formatNames ++ "]")
       choices := formatNames, help := "Output format" }]
  | resolve => [tableSwitch "Command table to resolve against, as MODULE:ATTRIBUTE"]
  | grammar => []
  | version => []

/-- Examples of the command's use. -/
def remarks : Task → List String
  | lex =>
    ["  Examples:", "", "      cmdlang lex 'scenes \"big buck\" sort=-date'",
      "      cmdlang lex \"open 42 skip\" --format json"]
  | _ => []

/-- The description of the command. -/
def description (t : Task) : Description :=
  { path := packageName ++ " " ++ t.name
    summary := t.summary
    remarks := t.remarks
    takes := if t.takesLine then "[OPTIONS] LINE" else "[OPTIONS]"
    switches := t.switches }

end Task

/-- The description of the whole shell. -/
def description : Description :=
  { path := packageName
    summary := "Command argument language: lexer, binder and command resolver."
    takes := "[OPTIONS] COMMAND [ARGS]..."
    switches := [
      { name := "--version", help := "Show the version and exit." },
      { name := "--verbose", letter := some 'v', help := "Enable debug logging" }] }

/-- The help text of the whole shell. -/
def helpText : String := description.help (Task.all.map fun t => (t.name, t.summary))

/-- The line that tells the version. -/
def versionLine : String := packageName ++ ", version " ++ version ++ "\n"

/-- The report of a fault in the use of a command. -/
def misuse (d : Description) (fault : UsageFault) : Report :=
  { status := 2, errors := d.complaint fault }

/-! ## Hosts -/

/-- A host that runs in a terminal, with the modules of a registry. -/
def Registry.host (registry : Registry) : Host where
  importModule := registry.importModule
  console := Terminal.console
  dump := Yaml.library.dump
  complain task refusal := misuse task.description (.refusedValue refusal.option refusal.reason)
  interpreter := "3.11"
  platform := "linux"

/-! ## Runs -/

namespace Task

/-- The arguments of a command: the line, if it takes one, and no others. -/
def line (t : Task) (arguments : List String) : Except UsageFault String :=
  match t.takesLine, arguments with
  | true, [] => .error (.missingArgument "LINE")
  | true, [line] => .ok line
  | true, _ :: extra => .error (.extraArguments extra)
  | false, [] => .ok ""
  | false, extra => .error (.extraArguments extra)

/-- The form that a value of the option for it names, whatever its capitals. -/
def formatOf (value : String) : Option Format :=
  [Format.table, .json, .yaml].find? fun f => some f.name == choice? formatNames value

/-- What the options and the line of a command ask for. -/
def request (t : Task) (g : Given) (line : String) : Request :=
  match t with
  | bind => .bind line ((g.value? "--target").getD defaultTarget)
  | commands => .commands ((g.value? "--table").getD defaultTable)
  | grammar => .grammar
  | lex => .lex line (((g.value? "--format").bind formatOf).getD .table)
  | resolve => .resolve line ((g.value? "--table").getD defaultTable)
  | version => .version

/-- Read the words behind the name of a command and run it. -/
def run (host : Host) (t : Task) (words : List String) : Ending :=
  let d := t.description
  match readWords d.allSwitches true words.length words with
  | .error fault => .ok (misuse d fault)
  | .ok g =>
    if g.has "--help" then .ok (success (d.help []))
    else
      match checkChoices d.switches g with
      | .error fault => .ok (misuse d fault)
      | .ok _ =>
        match t.line g.arguments with
        | .error fault => .ok (misuse d fault)
        | .ok line => host.perform (t.request g line)

end Task

/-- Whether an option ends a run before any command. -/
def isEager (o : String × Option String) : Bool := o.1 == "--help" || o.1 == "--version"

/--
Read options of the whole shell and go on with the words behind them, unless an option
ends the run.
-/
def readOptions (words : List String) (next : List String → Ending) : Ending :=
  match readWords description.allSwitches false words.length words with
  | .error fault => .ok (misuse description fault)
  | .ok g =>
    match g.options.find? isEager with
    | some o => .ok (success (if o.1 = "--help" then helpText else versionLine))
    | none => next g.arguments

/--
Run the shell with the words of its command line.  A word in the place of a command
that names none is given a second chance as an option.
-/
def Host.run (host : Host) (words : List String) : Ending :=
  if words.isEmpty then .ok { status := 2, errors := helpText }
  else
    readOptions words fun arguments =>
      match arguments with
      | [] => .ok (misuse description .missingCommand)
      | name :: rest =>
        match Task.all.find? (·.name == name) with
        | some t => t.run host rest
        | none =>
          readOptions (name :: rest) fun _ =>
            let similar := Text.similarTexts name (Task.all.map Task.name)
            .ok (misuse description (.noSuchCommand name similar))

end TypedCommands.Shell
