import TypedCommands.Problem
import TypedCommands.Value

/-!
# Field types

The types that fields are declared with: classes, lists and other containers,
unions and texts that stand for a type not yet known.  Containers and unions have
a short and a long spelling; a type is shown in the spelling it was written in,
though both spellings mean the same.

Main results:

- Theorem `same_builtin_iff`: builtin classes are the same type when they are equal.
- Theorem `asHeld_asHeld`: what a long spelling holds can be held by another one as it is.
-/

namespace TypedCommands

open TypedCommands.Text

/-- The classes that need no definition. -/
inductive Builtin where
  | text
  | integer
  | real
  | flag
  | date
  | moment
  | dict
  | set
  | bytes
  | object
  | complex
  | tuple
  | list
  | any
  | none
  deriving DecidableEq, Repr

namespace Builtin

/-- The name of a builtin class. -/
def name : Builtin → String
  | .text => "str"
  | .integer => "int"
  | .real => "float"
  | .flag => "bool"
  | .date => "date"
  | .moment => "datetime"
  | .dict => "dict"
  | .set => "set"
  | .bytes => "bytes"
  | .object => "object"
  | .complex => "complex"
  | .tuple => "tuple"
  | .list => "list"
  | .any => "Any"
  | .none => "NoneType"

/-- The name with the module of the class in front, where it has one of its own. -/
def fullName : Builtin → String
  | .date => "datetime.date"
  | .moment => "datetime.datetime"
  | .any => "typing.Any"
  | b => b.name

end Builtin

/-- A way to make a value of an argument's text. -/
abbrev Converter := String → Except Failure Value

/-- A class defined by the author of a schema. -/
structure ValueClass where
  /-- The last part of the name. -/
  name : String
  /-- The name with the classes it is nested in. -/
  qualifiedName : String
  /-- The module the class is defined in. -/
  home : String
  /-- The converter of the class, if it has one of its own. -/
  parse : Option Converter := none
  /-- How the class makes the content of one of its texts, if it is derived from texts. -/
  ofText : Option (String → Except Failure String) := none

/-- The containers that take type arguments. -/
inductive Container where
  | list
  | longList
  | dict
  | tuple
  | set
  deriving DecidableEq, Repr

/-- The name of a container in its spelling. -/
def Container.name : Container → String
  | .list => "list"
  | .longList => "typing.List"
  | .dict => "dict"
  | .tuple => "tuple"
  | .set => "set"

/-- The two spellings of a union: members with bars between them, or a named form. -/
inductive UnionStyle where
  | short
  | long
  deriving DecidableEq, Repr

/-- A type that a field can be declared with. -/
inductive FieldType where
  /-- A builtin class. -/
  | builtin (b : Builtin)
  /-- A class defined by the author of the schema. -/
  | defined (c : ValueClass)
  /-- The null object in the place of a type. -/
  | nothing
  /-- A list in its long spelling without an element type. -/
  | openList
  /-- A container with type arguments. -/
  | container (c : Container) (arguments : List FieldType)
  /-- A union of two members or more. -/
  | union (style : UnionStyle) (members : List FieldType)
  /-- A text that stands for a type; it is marked as such where a long spelling holds it. -/
  | forward (marked : Bool) (text : String)

namespace FieldType

/-! ## Equality of types -/

mutual

/--
Whether two types are the same; the order of the members of a union is no part of it.  A
class is known by its module and its name in it.
-/
def same : FieldType → FieldType → Bool
  | .builtin a, .builtin b => a == b
  | .defined a, .defined b => a.home == b.home && a.qualifiedName == b.qualifiedName
  | .nothing, .nothing => true
  | .openList, .openList => true
  | .container c xs, .container d ys => c == d && sameArguments xs ys
  | .union _ xs, .union _ ys => xs.length == ys.length && includedIn xs ys
  | .forward m s, .forward n t => m == n && s == t
  | _, _ => false

/-- Whether two lists of types are the same place by place. -/
def sameArguments : List FieldType → List FieldType → Bool
  | [], [] => true
  | x :: xs, y :: ys => same x y && sameArguments xs ys
  | _, _ => false

/-- Whether every type of a list is in another. -/
def includedIn : List FieldType → List FieldType → Bool
  | [], _ => true
  | x :: xs, ys => ys.any (fun y => same x y) && includedIn xs ys

end

/-- Builtin classes are the same type when they are equal. -/
theorem same_builtin_iff (a b : Builtin) : same (.builtin a) (.builtin b) = true ↔ a = b := by
  simp [same]

/-! ## Unions -/

/--
A type as a long spelling holds it: the null object becomes its class, and a text is
marked.
-/
def asHeld : FieldType → FieldType
  | .nothing => .builtin .none
  | .forward _ text => .forward true text
  | t => t

/-- What a long spelling holds can be held by another one as it is. -/
theorem asHeld_asHeld (t : FieldType) : t.asHeld.asHeld = t.asHeld := by
  cases t <;> rfl

/-- A list in its long spelling. -/
def longList (element : FieldType) : FieldType := .container .longList [element.asHeld]

/-- The members of a union, or the type itself as a union holds it. -/
def members : FieldType → List FieldType
  | .union _ ms => ms
  | t => [t.asHeld]

/-- The types of a list that are not the same as one before them. -/
def distinct : List FieldType → List FieldType → List FieldType
  | _, [] => []
  | seen, t :: rest =>
    if seen.any (same t) then distinct seen rest else t :: distinct (t :: seen) rest

/-- The union of types: nested unions are flattened, and a single member is the type itself. -/
def unionOf (style : UnionStyle) (types : List FieldType) : FieldType :=
  match distinct [] (types.flatMap members) with
  | [one] => one
  | several => .union style several

/-- Whether a type is written in a long spelling. -/
def isLong : FieldType → Bool
  | .openList => true
  | .container .longList _ => true
  | .union .long _ => true
  | .forward marked _ => marked
  | _ => false

/-- Whether a type is a text that stands for one. -/
def isText : FieldType → Bool
  | .forward _ _ => true
  | _ => false

/-- Whether a type is the null object. -/
def isNothing : FieldType → Bool
  | .nothing => true
  | _ => false

/--
Two types with a bar between them; a long spelling makes the whole union long.
Without one there is no union of a text, nor of the null object with itself.
-/
def either? (a b : FieldType) : Option FieldType :=
  if a.isLong || b.isLong then some (unionOf .long [a, b])
  else if a.isText || b.isText || (a.isNothing && b.isNothing) then none
  else some (unionOf .short [a, b])

/-- The type without one `none` among exactly two members, and whether there was one. -/
def withoutNone : FieldType → FieldType × Bool
  | .union style ms =>
    match ms.filter (fun t => !same t (.builtin .none)) with
    | [one] => if 1 < ms.length then (one, true) else (.union style ms, false)
    | _ => (.union style ms, false)
  | t => (t, false)

/-! ## Spelling -/

mutual

/-- A type as it is spelled inside another. -/
def spell : FieldType → String
  | .builtin b => b.fullName
  | .defined c => c.home ++ "." ++ c.qualifiedName
  | .nothing => "None"
  | .openList => "typing.List"
  | .container c arguments =>
    let inside := if arguments.isEmpty then "()" else ", ".intercalate (spellAll arguments)
    c.name ++ "[" ++ inside ++ "]"
  | .union .short ms => " | ".intercalate (spellMembers ms)
  | .union .long ms =>
    match spellAll ms with
    | [a, b] =>
      if a = "NoneType" then "typing.Optional[" ++ b ++ "]"
      else if b = "NoneType" then "typing.Optional[" ++ a ++ "]"
      else "typing.Union[" ++ a ++ ", " ++ b ++ "]"
    | several => "typing.Union[" ++ ", ".intercalate several ++ "]"
  | .forward false text => quoted text
  | .forward true text => "ForwardRef(" ++ quoted text ++ ")"

/-- The spellings of type arguments. -/
def spellAll : List FieldType → List String
  | [] => []
  | t :: rest => spell t :: spellAll rest

/-- The spellings of members between bars, where `none` is written as the null object. -/
def spellMembers : List FieldType → List String
  | [] => []
  | .builtin .none :: rest => "None" :: spellMembers rest
  | t :: rest => spell t :: spellMembers rest

end

/-- The label of a type in messages: the bare name of a class, any other type as it is spelled. -/
def label : FieldType → String
  | .builtin b => b.name
  | .defined c => c.qualifiedName
  | t => t.spell

/-- A type as it is shown in the place of a value. -/
def shown : FieldType → String
  | .builtin .any => "typing.Any"
  | .builtin b => "<class '" ++ b.fullName ++ "'>"
  | .defined c => "<class '" ++ c.home ++ "." ++ c.qualifiedName ++ "'>"
  | t => t.spell

/-! ## Lists and flags -/

/-- Whether fields of the type are set by their name alone. -/
def isFlag : FieldType → Bool
  | .builtin .flag => true
  | _ => false

/-- Whether fields of the type collect values. -/
def isSequence : FieldType → Bool
  | .builtin .list => true
  | .openList => true
  | .container .list _ => true
  | .container .longList _ => true
  | _ => false

/-- The first type argument; without one the elements are texts. -/
def element : FieldType → FieldType
  | .container _ (t :: _) => t
  | _ => .builtin .text

end FieldType

end TypedCommands
