import TypedCommands.Cursor
import TypedCommands.Record.Binding

/-!
# Command trees

A command may have a handler that it runs, sub-commands, or both.  A command table
maps names to commands and keeps them in the order they were given.  Tables are
checked when they are made: a name has to be one that can be typed.

Main results:

- Theorem `CommandTable.isCommandName_of_ofEntries`: every name of a table can be used as
  one.
-/

namespace TypedCommands

open TypedCommands.Text

/-- What a command answers with. -/
inductive Outcome where
  /-- A value. -/
  | value (v : Value)
  /-- A record; fields of it may not be assigned. -/
  | record (r : Record)

/-- What a command does with the arguments behind its name. -/
abbrev Handler := Cursor → Except Failure Outcome

/-- A command: its handler, its sub-commands by name and a short description. -/
inductive Command where
  | node (handler : Option Handler) (children : List (String × Command)) (description : String)

namespace Command

/-- What the command does, if it does anything. -/
def handler : Command → Option Handler
  | node h _ _ => h

/-- The sub-commands with their names. -/
def children : Command → List (String × Command)
  | node _ cs _ => cs

/-- The short description. -/
def description : Command → String
  | node _ _ d => d

/-- Whether resolution may end on the command. -/
def isLeaf (c : Command) : Bool := c.handler.isSome

end Command

/-- Commands with their names, in the order they were given. -/
structure CommandTable where
  /-- The commands. -/
  commands : List (String × Command)

/-- What is offered in the place of a command. -/
inductive Entry where
  /-- A command. -/
  | command (c : Command)
  /-- Something that is no command; given is the name of its type. -/
  | other (type : String)

/-- Whether a text can be used as the name of a command. -/
def isCommandName (name : String) : Bool :=
  let cs := name.toList
  !cs.isEmpty && !(cs.head?.map isQuote).getD false && !cs.contains nameSeparator &&
    !cs.any isBlank

/-- The name that a key of a table gives, if it is a text that can be used as one. -/
def commandName? (key : Value) : Option String := key.content?.filter isCommandName

namespace CommandTable

/-- Check entries one by one, in their order. -/
def check : List (Value × Entry) → Except Problem (List (String × Command))
  | [] => .ok []
  | (key, entry) :: rest =>
    match commandName? key, entry with
    | none, _ => .error (.configuration (.commandName key.shown))
    | some _, .other type => .error (.configuration (.notCommand key.shown type))
    | some name, .command c => (check rest).map ((name, c) :: ·)

/-- Make a table of keys and entries; of one key given twice the last entry counts. -/
def ofEntries (entries : List (Value × Entry)) : Except Problem CommandTable :=
  (check (assocOfPairs sameKey entries)).map CommandTable.mk

/-- The command with a name. -/
def get? (t : CommandTable) (name : String) : Option Command := t.commands.lookup name

/-- The names in the order they were given. -/
def names (t : CommandTable) : List String := t.commands.map (·.1)

/-- Entries that pass the check of a table have names that can be used. -/
theorem isCommandName_of_check {entries : List (Value × Entry)} {cs : List (String × Command)}
    (h : check entries = .ok cs) : ∀ c ∈ cs, isCommandName c.1 = true := by
  induction entries generalizing cs with
  | nil =>
    rw [check] at h
    cases h
    simp
  | cons e entries ih =>
    obtain ⟨key, entry⟩ := e
    unfold check at h
    split at h
    · cases h
    · cases h
    · next name c hk =>
      have hn : isCommandName name = true := (Option.filter_eq_some_iff.1 hk).2
      cases hr : check entries with
      | error p => simp [hr, Except.map] at h
      | ok rest =>
        simp only [hr, Except.map, Except.ok.injEq] at h
        subst h
        intro d hd
        rcases List.mem_cons.1 hd with rfl | hd
        · exact hn
        · exact ih hr d hd

/-- The names of a table that was made can be used. -/
theorem isCommandName_of_ofEntries {entries : List (Value × Entry)} {t : CommandTable}
    (h : ofEntries entries = .ok t) : ∀ name ∈ t.names, isCommandName name = true := by
  unfold ofEntries at h
  cases hc : check (assocOfPairs sameKey entries) with
  | error p => simp [hc, Except.map] at h
  | ok cs =>
    simp only [hc, Except.map, Except.ok.injEq] at h
    subst h
    intro name hn
    obtain ⟨c, hc', rfl⟩ := List.mem_map.1 hn
    exact isCommandName_of_check hc c hc'

/-- Names in increasing order of their characters. -/
def sortNames (names : List String) : List String := names.mergeSort fun a b => a ≤ b

/-- The form in which a table is shown: its names in increasing order. -/
def shown (t : CommandTable) : String :=
  "CommandTable([" ++ quotedNames (sortNames t.names) ++ "])"

end CommandTable

namespace Command

/-- A command with a handler and sub-commands. -/
def make (handler : Option Handler) (entries : List (Value × Entry)) (description : String) :
    Except Problem Command :=
  (CommandTable.ofEntries entries).map fun t => node handler t.commands description

/-- Bind the arguments that a cursor still has to a new record. -/
def bindHandler (c : Candidate) : Handler := fun cursor =>
  (c.bindNew cursor.remaining).map .record

/-- A command that binds its arguments to a new record; the schema is judged beforehand. -/
def binding (c : Candidate) (entries : List (Value × Entry)) (description : String) :
    Except Problem Command :=
  match c.buildable with
  | .error problem => .error problem
  | .ok _ => make (some (bindHandler c)) entries description

/-- A command that answers with a value and looks at no arguments. -/
def constant (answer : Outcome) (entries : List (Value × Entry)) (description : String) :
    Except Problem Command :=
  make (some fun _ => .ok answer) entries description

end Command

end TypedCommands
