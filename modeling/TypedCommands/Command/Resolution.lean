import TypedCommands.Command

/-!
# Resolution of a line to a command

The first argument names a command of the table.  From there the way leads down
into sub-commands for as long as the arguments that follow keep naming one.  The
first argument that does not is left for the handler; there is no way back.

Main definitions:

- Definition `CommandTable.resolve`: the answer of the command that a line names.
- Definition `CommandTable.walk`: every command with the names that lead to it.
-/

namespace TypedCommands

/-- Where the descent has ended: a command, its path and the cursor behind it. -/
structure Reached where
  /-- The command. -/
  command : Command
  /-- The names that led to it. -/
  path : List String
  /-- The arguments behind its path. -/
  cursor : Cursor

/-- The sub-command that an argument names. -/
def Command.child? (c : Command) (a : Argument) : Option Command :=
  if a.isName then c.children.lookup a.raw else none

/-- Go down into sub-commands; `left` bounds the number of arguments that can be taken. -/
def descend (left : Nat) (r : Reached) : Except LineFault Reached :=
  match left with
  | 0 => .ok r
  | left + 1 =>
    if r.command.children.isEmpty then .ok r
    else
      match r.cursor.peek with
      | (.error f, _) => .error f
      | (.ok none, cursor) => .ok { r with cursor := cursor }
      | (.ok (some a), cursor) =>
        match r.command.child? a with
        | none => .ok { r with cursor := cursor }
        | some child => descend left ⟨child, r.path ++ [a.raw], cursor.commit⟩

/-- A path as it stands in front of messages. -/
def pathText (path : List String) : String := " ".intercalate path

namespace CommandTable

/-- Find the command that the arguments of a source lead to. -/
def locate (t : CommandTable) (s : Source) : Except Problem Reached :=
  let cursor : Cursor := { source := s }
  match cursor.next with
  | (.failed f, _) => .error (.malformed f)
  | (.finished, _) => .error .noInput
  | (.argument a, cursor) =>
    if a.isName then
      match t.get? a.raw with
      | none => .error (.unmatchedCommand a)
      | some c =>
        match descend (s.arguments.length + 1) ⟨c, [a.raw], cursor⟩ with
        | .error f => .error (.malformed f)
        | .ok r => .ok r
    else .error (.expectedCommand a)

/--
Find the command that a source leads to and run its handler on what follows; `run`
says what it is to run a handler on a cursor.
-/
def resolveWith {m : Type → Type} [Monad m] (run : Handler → Cursor → m (Except Failure Outcome))
    (t : CommandTable) (s : Source) : m (Except Failure Outcome) :=
  match t.locate s with
  | .error problem => pure (.error (.ofProblem problem))
  | .ok r =>
    match r.command.handler with
    | none => pure (.error (.ofProblem .noHandler))
    | some handler => do
      match ← run handler r.cursor with
      | .ok outcome => pure (.ok outcome)
      | .error failure => pure (.error (failure.under (pathText r.path)))

/-- Find the command that a source leads to and let its handler answer to what follows. -/
def resolve (t : CommandTable) (s : Source) : Except Failure Outcome :=
  Id.run (t.resolveWith (fun handler cursor => pure (handler cursor)) s)

end CommandTable

/-! ## Walking a tree -/

mutual

/-- Every command below a list of commands, with the rest of its path. -/
def Command.walkAll : List (String × Command) → List (String × List (List String × Command))
  | [] => []
  | (name, c) :: rest => (name, Command.walkBelow name c) :: Command.walkAll rest

/-- A command and every command below it, parents first and siblings in order of their names. -/
def Command.walkBelow (name : String) : Command → List (List String × Command)
  | .node h children d =>
    ([name], .node h children d) ::
      ((Command.walkAll children).mergeSort (fun a b => a.1 ≤ b.1)).flatMap fun group =>
        group.2.map fun found => (name :: found.1, found.2)

end

/-- Every command of a table with its path, parents first and siblings in order of their names. -/
def CommandTable.walk (t : CommandTable) : List (List String × Command) :=
  ((Command.walkAll t.commands).mergeSort (fun a b => a.1 ≤ b.1)).flatMap (·.2)

end TypedCommands
