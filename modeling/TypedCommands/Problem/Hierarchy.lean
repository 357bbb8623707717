import TypedCommands.Problem

/-!
# The classes of errors

Callers tell errors apart by their classes.  All classes derive from one, and three of those
right below it are roots of the categories; some classes derive from a built-in class as well.

Main results:

- Theorem `Problem.lineage_categorised`: the category of a problem tells which of the roots
  its class derives from.
- Theorem `CommandError.refusal?_eq_some_iff_builtin`: which command errors are taken for the
  refusal of a value.
-/

namespace TypedCommands

/-- The class of a command error. -/
inductive ErrorClass where
  | command
  | line
  | input
  | unrecognised
  | invalidValue
  | noInput
  | expectedCommand
  | unmatchedCommand
  | configuration
  | destination
  | tag
  | unsupported
  | noHandler
  deriving DecidableEq, Repr

namespace ErrorClass

/-- The name of the class. -/
def name : ErrorClass → String
  | command => "CommandError"
  | .line => "ArgumentSyntaxError"
  | input => "InputError"
  | unrecognised => "UnrecognisedArgumentError"
  | invalidValue => "InvalidValueError"
  | noInput => "NoInputError"
  | expectedCommand => "ExpectedCommandError"
  | unmatchedCommand => "UnmatchedCommandError"
  | configuration => "ConfigurationError"
  | destination => "BindDestinationError"
  | tag => "BindingTagError"
  | unsupported => "UnsupportedDestinationError"
  | noHandler => "NoResolverError"

/-- The class that a class derives from. -/
def parent? : ErrorClass → Option ErrorClass
  | command => none
  | .line | input | configuration => some command
  | unrecognised | invalidValue | noInput | expectedCommand | unmatchedCommand => some input
  | destination | tag | unsupported | noHandler => some configuration

/-- The built-in class that a class derives from besides. -/
def builtin? : ErrorClass → Option String
  | destination | unsupported => some "TypeError"
  | tag => some "ValueError"
  | _ => none

/-- A class with the classes that it derives from, the closest first. -/
def lineage (c : ErrorClass) : List ErrorClass :=
  c :: (c.parent?.toList ++ (c.parent?.bind parent?).toList)

/-- The names of a class and of all its superclasses. -/
def bases (c : ErrorClass) : List String :=
  c.lineage.map name ++ c.builtin?.toList ++ ["Exception", "BaseException"]

end ErrorClass

/-- The class of the error for a problem. -/
def Problem.errorClass : Problem → ErrorClass
  | .malformed _ => .line
  | .unrecognised _ => .unrecognised
  | .invalidValue .. => .invalidValue
  | .noInput => .noInput
  | .expectedCommand _ => .expectedCommand
  | .unmatchedCommand _ => .unmatchedCommand
  | .input _ => .input
  | .destination _ => .destination
  | .tag _ => .tag
  | .unsupported _ => .unsupported
  | .noHandler => .noHandler
  | .configuration _ => .configuration
  | .bare _ => .command

/-- A class derives from at most one of the roots: the one of the category of its problems. -/
theorem Problem.lineage_categorised (p : Problem) :
    .command ∈ p.errorClass.lineage ∧
      (.line ∈ p.errorClass.lineage ↔ p.category = .line) ∧
      (.input ∈ p.errorClass.lineage ↔ p.category = .input) ∧
      (.configuration ∈ p.errorClass.lineage ↔ p.category = .configuration) := by
  cases p <;> simp [errorClass, ErrorClass.lineage, ErrorClass.parent?, category]

/-- A command error is taken for a refusal if its class derives from that of refusals. -/
theorem CommandError.refusal?_eq_some_iff_builtin (e : CommandError) (cause : String) :
    (Failure.command e).refusal? = some cause ↔
      e.problem.errorClass.builtin? = some "ValueError" ∧ cause = e.message := by
  obtain ⟨problem, path⟩ := e
  cases problem <;> simp [Failure.refusal?, Problem.errorClass, ErrorClass.builtin?, eq_comm]

/-- The class of the exception for a defect. -/
def Defect.exception : Defect → String
  | .unassigned _ | .notAList _ => "AttributeError"
  | .emptyName => "IndexError"
  | .wrongFields | .notAKey => "TypeError"
  | .tooLong | .refused _ => "ValueError"
  | .raised exception => exception
  | .broken _ => "RuntimeError"

/-- The class of the exception that a failure is. -/
def Failure.exception : Failure → String
  | .command e => e.problem.errorClass.name
  | .defect d => d.exception

end TypedCommands
