import TypedCommands.FieldType

/-!
# Texts that stand for types

A field may be declared with a text that spells its type over the names that are known where
the field is declared.  Such texts are read when a schema is planned.  A text is an expression
of names, perhaps with points in them, of bars and of brackets with commas between the types in
them; what any other text stands for is left to the scope of the field.

Names are looked up from the left.  A name that is not defined makes the plan fail; so does an
expression that makes no sense or no text of the language, but with an exception of the
language itself.

Main definitions and results:

- Definition `Scope`: what the names of a text mean.
- Definition `TypeExpr.ofText?`: the expression that a text spells, if it spells one.
- Definition `FieldType.resolve`: the type that a field is declared with, once its texts are
  read.
- Theorem `isFlat_of_ne_union`: what is no union needs no care to be a member of one.
-/

namespace TypedCommands

namespace FieldType

/-! ## Flat types -/

/-- The members of a type are no unions, and they cannot be thinned out further. -/
structure IsFlat (t : FieldType) : Prop where
  /-- A member has no members but itself. -/
  whole : ∀ m ∈ t.members, m.members = [m]
  /-- No two members are the same. -/
  distinct_members : distinct [] t.members = t.members
  /-- A single member would not be written as a union. -/
  several : ∀ style ms, t = .union style ms → ms.length ≠ 1

variable {t : FieldType}

/-- The only member of a type that is no union is the type as a union holds it. -/
theorem members_of_ne_union (h : ∀ style ms, t ≠ .union style ms) : t.members = [t.asHeld] := by
  cases t with
  | union style ms => exact absurd rfl (h style ms)
  | _ => rfl

/-- A union holds no union for a type that is none. -/
theorem asHeld_ne_union (h : ∀ style ms, t ≠ .union style ms) (style : UnionStyle)
    (ms : List FieldType) : t.asHeld ≠ .union style ms := by
  cases t with
  | union style ms => exact absurd rfl (h style ms)
  | _ => exact nofun

/-- A type that is no union is flat. -/
theorem isFlat_of_ne_union (h : ∀ style ms, t ≠ .union style ms) : t.IsFlat := by
  have hmembers := members_of_ne_union h
  refine ⟨fun m hm => ?_, ?_, fun style ms ht => absurd ht (h style ms)⟩
  · rw [hmembers, List.mem_singleton] at hm
    rw [hm, members_of_ne_union (asHeld_ne_union h), asHeld_asHeld]
  · rw [hmembers]
    rfl

end FieldType

/-! ## Scopes -/

/-- Why it is not known what a text stands for. -/
inductive TypeFault where
  /-- A name in it is not defined. -/
  | undefined (name : String)
  /-- Reading it ends with another exception; given is its class. -/
  | escaped (exception : String)
  deriving DecidableEq, Repr

namespace TypeFault

/-- The exception for a text that is no expression. -/
def malformed : TypeFault := .escaped "SyntaxError"

/-- The exception for an expression that makes no sense. -/
def misused : TypeFault := .escaped "TypeError"

end TypeFault

/-- What a name stands for. -/
inductive Meaning where
  /-- A type, in which no texts are left. -/
  | type (t : FieldType)
  /-- The long spelling of a type or nothing, which takes the type in brackets. -/
  | optional
  /-- The long spelling of a union, which takes its members in brackets. -/
  | union

/-- The types that names stand for are flat. -/
def Meaning.IsFlat : Meaning → Prop
  | .type t => t.IsFlat
  | _ => True

/-- There is no type where all texts are malformed. -/
theorem isFlat_of_malformed (text : String) (t : FieldType)
    (h : (fun _ : String => Except.error TypeFault.malformed) text = .ok t) : t.IsFlat := by
  cases h

/-- What the texts stand for that fields are declared with in one place. -/
structure Scope where
  /-- What a name stands for, given are its parts between the points. -/
  lookup : List String → Except TypeFault Meaning
  /-- What a text stands for that is no expression of names, bars and brackets. -/
  other : String → Except TypeFault FieldType := fun _ => .error .malformed
  /-- The language flattens a union when it is made. -/
  isFlat_lookup : ∀ path m, lookup path = .ok m → m.IsFlat
  /-- The same goes for what other texts stand for. -/
  isFlat_other : ∀ text t, other text = .ok t → t.IsFlat

/-! ## Expressions -/

/-- An expression that spells a type. -/
inductive TypeExpr where
  /-- The null object. -/
  | nothing
  /-- A name, given are its parts between the points. -/
  | name (path : List String)
  /-- Two expressions with a bar between them. -/
  | either (a b : TypeExpr)
  /-- An expression with others in brackets behind it. -/
  | index (head : TypeExpr) (arguments : List TypeExpr)

namespace TypeExpr

/-- A part of a text that spells a type. -/
inductive Piece where
  /-- A name or the null object. -/
  | term (e : TypeExpr)
  /-- The bar between members of a union. -/
  | bar
  /-- The comma between types in brackets. -/
  | comma
  /-- The bracket in front of types. -/
  | opening
  /-- The bracket behind types. -/
  | closing

/-- The words that are no names. -/
def keywords : List String :=
  ["False", "None", "True", "and", "as", "assert", "async", "await", "break", "class", "continue",
    "def", "del", "elif", "else", "except", "finally", "for", "from", "global", "if", "import",
    "in", "is", "lambda", "nonlocal", "not", "or", "pass", "raise", "return", "try", "while",
    "with", "yield"]

/-- Whether a character may stand in a word: in a name, or between its parts. -/
def isWordChar (c : Char) : Bool := c.isAlphanum || c == '_' || c == '.'

/-- Whether characters of words are a name without points. -/
def isIdentifier (cs : List Char) : Bool :=
  match cs with
  | [] => false
  | c :: _ => !c.isDigit && !keywords.contains (String.ofList cs)

/-- A word as an expression. -/
def ofWord? (word : List Char) : Option TypeExpr :=
  if word = "None".toList then some .nothing
  else
    let path := word.splitOn '.'
    if path.all isIdentifier then some (.name (path.map String.ofList)) else none

/-- The piece that a character between words is, nothing for a blank. -/
def separator? : Char → Option (List Piece)
  | ' ' => some []
  | '\t' => some []
  | '|' => some [.bar]
  | ',' => some [.comma]
  | '[' => some [.opening]
  | ']' => some [.closing]
  | _ => none

/-- The word that has been read, if there is one. -/
def wordPieces? (word : List Char) : Option (List Piece) :=
  if word.isEmpty then some [] else (ofWord? word.reverse).map ([.term ·])

/-- Split a text into pieces; `word` is the word read so far, the last character first. -/
def pieces? (word : List Char) : List Char → Option (List Piece)
  | [] => wordPieces? word
  | c :: rest =>
    if isWordChar c then pieces? (c :: word) rest
    else
      match wordPieces? word, separator? c, pieces? [] rest with
      | some before, some here, some after => some (before ++ here ++ after)
      | _, _, _ => none

/-- What has been read at one depth of brackets. -/
structure Level where
  /-- What stands in front of the last bar. -/
  left : Option TypeExpr := none
  /-- What stands behind it. -/
  term : Option TypeExpr := none
  /-- What stands in front of the last comma. -/
  arguments : List TypeExpr := []

namespace Level

/-- The expression behind the last comma. -/
def joined? (l : Level) : Option TypeExpr :=
  match l.left, l.term with
  | none, term => term
  | some a, some b => some (.either a b)
  | some _, none => none

/-- The expressions between two brackets; there is at least one, perhaps with a comma behind. -/
def closed? (l : Level) : Option (List TypeExpr) :=
  if l.left.isNone && l.term.isNone then
    if l.arguments.isEmpty then none else some l.arguments
  else l.joined?.map fun last => l.arguments ++ [last]

end Level

/-- Read pieces into an expression; `outer` holds the levels around the innermost one. -/
def ofPieces? (outer : List Level) (level : Level) : List Piece → Option TypeExpr
  | [] => if outer.isEmpty then level.joined? else none
  | .term e :: rest =>
    if level.term.isNone then ofPieces? outer { level with term := some e } rest else none
  | .bar :: rest =>
    match level.joined? with
    | some e => ofPieces? outer { level with left := some e, term := none } rest
    | none => none
  | .comma :: rest =>
    match outer, level.joined? with
    | _ :: _, some e => ofPieces? outer { arguments := level.arguments ++ [e] } rest
    | _, _ => none
  | .opening :: rest => if level.term.isSome then ofPieces? (level :: outer) {} rest else none
  | .closing :: rest =>
    match outer, level.closed? with
    | o :: outer, some arguments =>
      ofPieces? outer { o with term := o.term.map (.index · arguments) } rest
    | _, _ => none

/-- The expression that a text is, if it is one; it does not begin with a blank. -/
def ofText? (text : String) : Option TypeExpr :=
  match text.toList with
  | ' ' :: _ => none
  | '\t' :: _ => none
  | cs => (pieces? [] cs).bind (ofPieces? [] {})

end TypeExpr

/-! ## What expressions stand for -/

namespace Meaning

/-- The type that is meant; the long spellings of unions are none without their brackets. -/
def type? : Meaning → Except TypeFault FieldType
  | .type t => .ok t
  | _ => .error .misused

/-- What is meant with types in brackets behind it. -/
def index : Meaning → List FieldType → Except TypeFault FieldType
  | .type (.builtin .list), arguments => .ok (.container .list arguments)
  | .type (.builtin .dict), arguments => .ok (.container .dict arguments)
  | .type (.builtin .tuple), arguments => .ok (.container .tuple arguments)
  | .type (.builtin .set), arguments => .ok (.container .set arguments)
  | .type .openList, [element] => .ok (FieldType.longList element)
  | .optional, [t] => .ok (FieldType.unionOf .long [t, .nothing])
  | .union, t :: rest => .ok (FieldType.unionOf .long (t :: rest))
  | _, _ => .error .misused

/-- What two types with a bar between them stand for. -/
def either (a b : Meaning) : Except TypeFault FieldType :=
  match a.type?, b.type? with
  | .ok s, .ok t =>
    match FieldType.either? s t with
    | some t => .ok t
    | none => .error .misused
  | _, _ => .error .misused

end Meaning

namespace Scope

variable (scope : Scope)

mutual

/-- What an expression stands for. -/
def meaning : TypeExpr → Except TypeFault Meaning
  | .nothing => .ok (.type .nothing)
  | .name path => scope.lookup path
  | .either a b =>
    match meaning a with
    | .error fault => .error fault
    | .ok left =>
      match meaning b with
      | .error fault => .error fault
      | .ok right => (left.either right).map .type
  | .index head arguments =>
    match meaning head with
    | .error fault => .error fault
    | .ok m =>
      match types arguments with
      | .error fault => .error fault
      | .ok ts => (m.index ts).map .type

/-- The types that expressions stand for, looked up from the left. -/
def types : List TypeExpr → Except TypeFault (List FieldType)
  | [] => .ok []
  | e :: rest =>
    match meaning e with
    | .error fault => .error fault
    | .ok m =>
      match m.type? with
      | .error fault => .error fault
      | .ok t => (types rest).map (t :: ·)

end

/-- The type that a text stands for; the null object stands for its class. -/
def read (text : String) : Except TypeFault FieldType :=
  match TypeExpr.ofText? text with
  | none => scope.other text
  | some e =>
    match scope.meaning e with
    | .error fault => .error fault
    | .ok m => m.type?.map FieldType.asHeld

/-- The builtin class that has a name. -/
def builtin? : String → Option Builtin
  | "str" => some .text
  | "int" => some .integer
  | "float" => some .real
  | "bool" => some .flag
  | "dict" => some .dict
  | "set" => some .set
  | "bytes" => some .bytes
  | "object" => some .object
  | "complex" => some .complex
  | "tuple" => some .tuple
  | "list" => some .list
  | _ => none

/-- What a name stands for where only builtin classes are known; they have no further names. -/
def lookupBuiltin : List String → Except TypeFault Meaning
  | [] => .error .malformed
  | name :: rest =>
    match builtin? name with
    | none => .error (.undefined name)
    | some b =>
      if rest.isEmpty then .ok (.type (.builtin b)) else .error (.escaped "AttributeError")

/-- A scope in which only builtin classes are known. -/
def builtins : Scope where
  lookup := lookupBuiltin
  isFlat_lookup := by
    intro path m h
    unfold lookupBuiltin at h
    split at h
    · cases h
    · split at h
      · cases h
      · split at h
        · cases h
          exact FieldType.isFlat_of_ne_union nofun
        · cases h
  isFlat_other := isFlat_of_malformed

end Scope

namespace FieldType

variable (scope : Scope)

mutual

/-- A type with every text in it replaced by the type that it stands for. -/
def resolveInside : FieldType → Except TypeFault FieldType
  | .container c arguments => (resolveAll arguments).map (.container c)
  | .union style ms => (resolveAll ms).map (unionOf style)
  | .forward _ text => scope.read text
  | t => .ok t

/-- Resolve the types of a list from the left. -/
def resolveAll : List FieldType → Except TypeFault (List FieldType)
  | [] => .ok []
  | t :: rest =>
    match resolveInside t with
    | .error fault => .error fault
    | .ok t' => (resolveAll rest).map (t' :: ·)

end

/-- The type of a field from its declaration, in which the null object stands for its class. -/
def resolve (declared : FieldType) : Except TypeFault FieldType :=
  (declared.resolveInside scope).map fun t =>
    match t with
    | .nothing => .builtin .none
    | t => t

example : (FieldType.forward false "list[int | None]").resolve .builtins =
    .ok (.container .list [.union .short [.builtin .integer, .builtin .none]]) := by rfl

example : (FieldType.forward false "int |").resolve .builtins = .error .malformed := by rfl

end FieldType

end TypedCommands
