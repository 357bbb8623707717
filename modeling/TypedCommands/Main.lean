import TypedCommands.Shell.Builtin
import TypedCommands.Shell.CommandLine

/-!
# The program

The shell as a program: its words come from the command line of the system, and it knows the
modules of the package.
-/

open TypedCommands

/--
Run the shell, print its report and end with its status; without a report the exception is
named.
-/
def main (arguments : List String) : IO UInt32 := do
  match Shell.packageModules.host.run arguments with
  | .ok report =>
    IO.print report.output
    IO.eprint report.errors
    return report.status.toUInt32
  | .error breakdown =>
    IO.eprintln breakdown.exception
    return 1
