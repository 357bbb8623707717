import TypedCommands.Text.Hex
import TypedCommands.Value

/-!
# Writing JSON texts

Values are written on one line or on many.  In texts only quotes, backslashes and
the characters below the blank are escaped; every other character is written as it
is.

Main definitions:

- Definition `Json.render`: the text of a value in a layout.
-/

namespace TypedCommands.Json

open TypedCommands.Text

/-- Whether a character is written as it is. -/
def isPlain (c : Char) : Bool := 0x20 ≤ c.toNat && c != '"' && c != '\\'

/-- A character as it is written in a text. -/
def escapeChar (c : Char) : List Char :=
  if isPlain c then [c]
  else if c = '"' ∨ c = '\\' then ['\\', c]
  else if c = '\x08' then ['\\', 'b']
  else if c = '\x0c' then ['\\', 'f']
  else if c = '\n' then ['\\', 'n']
  else if c = '\r' then ['\\', 'r']
  else if c = '\t' then ['\\', 't']
  else '\\' :: 'u' :: hexDigits hexDigit 4 c.toNat

/-- A text between double quotes. -/
def writeText (s : String) : List Char := '"' :: s.toList.flatMap escapeChar ++ ['"']

/-- How the parts of lists and objects are laid out. -/
inductive Layout where
  /-- On one line, with a blank behind commas and colons. -/
  | oneLine
  /-- Every part on a line of its own, moved in by a number of blanks for each level. -/
  | lines (indent : Nat)
  deriving DecidableEq, Repr

/-- What begins a line at a level. -/
def Layout.lineStart (l : Layout) (level : Nat) : List Char :=
  match l with
  | .oneLine => []
  | .lines indent => '\n' :: List.replicate (indent * level) ' '

/-- What separates two parts at a level. -/
def Layout.separator (l : Layout) (level : Nat) : List Char :=
  match l with
  | .oneLine => [',', ' ']
  | .lines _ => ',' :: l.lineStart level

/-- Parts with separators between them inside a pair of brackets. -/
def enclose (l : Layout) (level : Nat) (opening closing : Char) (parts : List (List Char)) :
    List Char :=
  if parts.isEmpty then [opening, closing]
  else
    opening :: l.lineStart (level + 1) ++ (l.separator (level + 1)).intercalate parts ++
      l.lineStart level ++ [closing]

/-- Floating-point numbers as they are written. -/
def numbers : Double.Layout := { Double.display with infinite := "Infinity", invalid := "NaN" }

mutual

/-- A value as it is written at a level. -/
def write (l : Layout) (level : Nat) : Value → List Char
  | .null => "null".toList
  | .bool b => (if b then "true" else "false").toList
  | .int n => (toString n).toList
  | .float x => (Double.render numbers x).toList
  | .text s => writeText s
  | .list items => enclose l level '[' ']' (writeItems l (level + 1) items)
  | .tuple items => enclose l level '[' ']' (writeItems l (level + 1) items)
  | .dict entries => enclose l level '\x7b' '\x7d' (writeEntries l (level + 1) entries)
  | v => writeText v.render

/-- The items of a list as they are written. -/
def writeItems (l : Layout) (level : Nat) : List Value → List (List Char)
  | [] => []
  | v :: rest => write l level v :: writeItems l level rest

/-- The entries of an object as they are written. -/
def writeEntries (l : Layout) (level : Nat) : List (Value × Value) → List (List Char)
  | [] => []
  | (k, v) :: rest =>
    (writeText k.render ++ ':' :: ' ' :: write l level v) :: writeEntries l level rest

end

/-- The text of a value. -/
def render (l : Layout) (v : Value) : String := String.ofList (write l 0 v)

end TypedCommands.Json
