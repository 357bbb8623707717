import TypedCommands.Source

/-!
# Cursors

A cursor walks over a source and can look one argument ahead.  Looking ahead pulls
one argument and keeps it until it is taken or committed; the end of the source is
remembered in the same way, a fault is not.

Main results:

- Theorem `Cursor.peek_peek`: looking ahead twice answers the same and pulls nothing.
- Theorem `Cursor.remaining_peek`: looking ahead consumes nothing.
-/

namespace TypedCommands

/-- What looking ahead has left behind. -/
inductive Lookahead where
  /-- Nothing. -/
  | empty
  /-- The end of the source. -/
  | atEnd
  /-- An argument. -/
  | holding (a : Argument)
  deriving DecidableEq, Repr

/-- A place in a source, with one argument of lookahead. -/
structure Cursor where
  /-- What has not been pulled yet. -/
  source : Source
  /-- What looking ahead has left behind. -/
  ahead : Lookahead := .empty
  /-- The number of arguments pulled so far. -/
  pulled : Nat := 0

namespace Cursor

/-- What goes through the arguments of a cursor: the cursor itself. -/
def iterator (c : Cursor) : Cursor := c

/-- Pull one argument from the source, past the lookahead. -/
def pull (c : Cursor) : Pulled × Cursor :=
  let p := c.source.pull
  let count :=
    match p.1 with
    | .argument _ => c.pulled + 1
    | _ => c.pulled
  (p.1, { c with source := p.2, pulled := count })

/-- Take the next argument. -/
def next (c : Cursor) : Pulled × Cursor :=
  match c.ahead with
  | .holding a => (.argument a, { c with ahead := .empty })
  | .atEnd => (.finished, { c with ahead := .empty })
  | .empty => c.pull

/-- Look at the next argument without taking it; there is none at the end. -/
def peek (c : Cursor) : Except LineFault (Option Argument) × Cursor :=
  match c.ahead with
  | .holding a => (.ok (some a), c)
  | .atEnd => (.ok none, c)
  | .empty =>
    let p := c.pull
    match p.1 with
    | .argument a => (.ok (some a), { p.2 with ahead := .holding a })
    | .finished => (.ok none, { p.2 with ahead := .atEnd })
    | .failed f => (.error f, p.2)

/-- Drop what looking ahead has left behind. -/
def commit (c : Cursor) : Cursor := { c with ahead := .empty }

/-- The arguments that were not taken yet and what follows them. -/
def remaining (c : Cursor) : Source :=
  match c.ahead with
  | .holding a => { c.source with arguments := a :: c.source.arguments }
  | .atEnd => { arguments := [] }
  | .empty => c.source

/-- Take all arguments that remain; the answer is a fault if one follows them. -/
def drain (c : Cursor) : Except LineFault (List Argument) × Cursor :=
  match c.ahead with
  | .atEnd => (.ok [], { c with ahead := .empty })
  | _ =>
    let r := c.remaining
    let done : Cursor :=
      { source := { c.source with arguments := [] }
        ahead := .empty
        pulled := c.pulled + c.source.arguments.length }
    match r.fault with
    | none => (.ok r.arguments, done)
    | some f => (.error f, done)

/-- A second look ahead sees the same and changes nothing. -/
theorem peek_peek (c : Cursor) : c.peek.2.peek = c.peek := by
  obtain ⟨⟨arguments, fault⟩, ahead, pulled⟩ := c
  cases ahead
  · cases arguments <;> cases fault <;> rfl
  · rfl
  · rfl

/-- Looking ahead takes nothing away from what is left. -/
theorem remaining_peek (c : Cursor) : c.peek.2.remaining = c.remaining := by
  obtain ⟨⟨arguments, fault⟩, ahead, pulled⟩ := c
  cases ahead
  · cases arguments <;> cases fault <;> rfl
  · rfl
  · rfl

end Cursor

end TypedCommands
