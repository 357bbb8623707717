import TypedCommands.Problem

/-!
# Sources of arguments

A source hands out arguments one by one.  It has finitely many, and after the last
one it answers for ever in one way: either it is finished or it reports one and the
same fault.  The arguments of a line make up a source whether or not the line can
be scanned to its end.

Main results:

- Theorem `Source.pull_of_nil`: a source without arguments is not changed by pulling.
-/

namespace TypedCommands

/-- Arguments and what follows them for ever: the end, or a fault. -/
structure Source where
  /-- The arguments in order. -/
  arguments : List Argument
  /-- The fault that follows them, none for the end. -/
  fault : Option LineFault := none

/-- The answer to a request for the next argument. -/
inductive Pulled where
  /-- The next argument. -/
  | argument (a : Argument)
  /-- There are no more. -/
  | finished
  /-- The rest of the line is malformed. -/
  | failed (f : LineFault)
  deriving DecidableEq, Repr

namespace Source

/-- Ask for the next argument. -/
def pull (s : Source) : Pulled × Source :=
  match s.arguments with
  | a :: rest => (.argument a, { s with arguments := rest })
  | [] =>
    match s.fault with
    | none => (.finished, s)
    | some f => (.failed f, s)

theorem pull_of_nil {s : Source} (h : s.arguments = []) : s.pull.2 = s := by
  unfold pull
  rw [h]
  cases s.fault <;> rfl

/-- The source of the arguments that a scanner still has to read. -/
def ofScanner (s : Line.Scanner) : Source :=
  let r := s.remaining
  ⟨r.1, r.2.fault.map LineFault.ofFault⟩

/-- The source of the arguments of a line. -/
def ofLine (line : String) : Source := ofScanner (Line.Scanner.ofLine line)

end Source

/-- All arguments of a line, or the fault that makes it malformed. -/
def tokenize (line : String) : Except LineFault (List Argument) :=
  let s := Source.ofLine line
  match s.fault with
  | none => .ok s.arguments
  | some f => .error f

end TypedCommands
