import TypedCommands.Shell.Usage

/-!
# Descriptions of shell commands

How shell commands are used, and the help texts that say so: the usage line, what the
command does, and its options and sub-commands with a short text beside each.

Main definitions:

- Definition `Description.help`: the help text of a command.
- Definition `Description.complaint`: what is printed for a fault in its use.
-/

namespace TypedCommands.Shell

/-- A shell command as it is described. -/
structure Description where
  /-- The words that run it. -/
  path : String
  /-- What it does, in one sentence. -/
  summary : String
  /-- Lines that follow the sentence as they are. -/
  remarks : List String := []
  /-- What stands for the words that it takes. -/
  takes : String
  /-- Its options. -/
  switches : List Switch := []

/-- The option that asks for help. -/
def helpSwitch : Switch := { name := "--help", help := "Show this message and exit." }

/-- All options of a command. -/
def Description.allSwitches (d : Description) : List Switch := d.switches ++ [helpSwitch]

/-- The line that says how a command is used. -/
def Description.usage (d : Description) : String := "Usage: " ++ d.path ++ " " ++ d.takes

/-- The number of columns of help texts. -/
def helpWidth : Nat := 80

/-- The words of a text with the blanks in front of each. -/
def spacedWords : Nat → List Char → List (List Char × List Char)
  | 0, _ => []
  | fuel + 1, cs =>
    let front := cs.takeWhile (· == ' ')
    let word := (cs.drop front.length).takeWhile (· != ' ')
    if word.isEmpty then []
    else (front, word) :: spacedWords fuel (cs.drop (front.length + word.length))

/-- Lines filled with words; `line` is the one that is being filled. -/
def wrapHelp (width : Nat) (line : List Char) : List (List Char × List Char) → List (List Char)
  | [] => if line.isEmpty then [] else [line]
  | (front, word) :: rest =>
    if line.isEmpty then wrapHelp width word rest
    else if line.length + front.length + word.length ≤ width then
      wrapHelp width (line ++ front ++ word) rest
    else line :: wrapHelp width word rest

/-- A name and the text beside it. -/
abbrev HelpEntry := String × String

/-- A number of blanks. -/
def pad (n : Nat) : String := String.ofList (List.replicate n ' ')

/-- The lines of an entry whose text begins at a column. -/
def entryLines (column : Nat) (entry : HelpEntry) : List String :=
  let text := entry.2.toList
  match wrapHelp (helpWidth - column) [] (spacedWords (text.length + 1) text) with
  | [] => ["  " ++ entry.1]
  | first :: more =>
    ("  " ++ entry.1 ++ pad (column - 2 - entry.1.length) ++ String.ofList first) ::
      more.map fun line => pad column ++ String.ofList line

/-- A heading and the entries below it. -/
def sectionLines (heading : String) (entries : List HelpEntry) : List String :=
  let column := (entries.map (·.1.length)).foldl max 0 + 4
  heading :: entries.flatMap (entryLines column)

/-- The entry of an option. -/
def Switch.entry (s : Switch) : HelpEntry :=
  let letter :=
    match s.letter with
    | none => ""
    | some c => String.ofList ['-', c, ',', ' ']
  let value :=
    match s.placeholder with
    | none => ""
    | some p => " " ++ p
  let shown :=
    match s.shownDefault with
    | none => ""
    | some d => "  [default: " ++ d ++ "]"
  (letter ++ s.name ++ value, s.help ++ shown)

/-- The help text of a command with entries for its sub-commands. -/
def Description.help (d : Description) (commands : List HelpEntry) : String :=
  let remarks := if d.remarks.isEmpty then [] else "" :: d.remarks
  let below := if commands.isEmpty then [] else "" :: sectionLines "Commands:" commands
  let lines := [d.usage, "", "  " ++ d.summary] ++ remarks ++ [""] ++
    sectionLines "Options:" (d.allSwitches.map Switch.entry) ++ below
  String.join (lines.map (· ++ "\n"))

/-- What is printed for a fault in the use of a command. -/
def Description.complaint (d : Description) (fault : UsageFault) : String :=
  let reminder :=
    if fault.showsUsage then d.usage ++ "\nTry '" ++ d.path ++ " --help' for help.\n\n" else ""
  reminder ++ "Error: " ++ fault.message ++ "\n"

end TypedCommands.Shell
