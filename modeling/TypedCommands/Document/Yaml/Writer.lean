import TypedCommands.Argument
import TypedCommands.Document.Yaml.PlainScalar
import TypedCommands.Text.Hex

/-!
# Writing YAML texts

Lists of arguments are written as block mappings with the keys in alphabetical order.
A text is written without quotes where that reads back as the same text, in single
quotes where it holds nothing that needs an escape, and in double quotes otherwise.
Long texts are folded at blanks behind the eightieth column; lines that go on are
moved in by four blanks.

Main results:

- Theorem `value_of_styleOf_eq_plain`: a text that is written without quotes stands for
  itself.
-/

namespace TypedCommands.Yaml

open TypedCommands.Text

/-- How a text is written. -/
inductive Style where
  | plain
  | single
  | double
  deriving DecidableEq, Repr

/-! ## The choice of a style -/

/-- Whether a character is written only with an escape. -/
def needsEscape (c : Char) : Bool :=
  !isAllowed c || c == '\t' || c == '\r' || c == '\ufeff' || c.toNat == 0x10FFFF

/-- Whether a plain text may not begin with a character and what follows it. -/
def isLeadingMark (c : Char) (rest : List Char) : Bool :=
  "#,[]\x7b\x7d&*!|>'\"%@\x60".contains c ||
    (startsWithGap rest && (c == '?' || c == ':' || c == '-'))

/--
Whether a mark stands behind the first character: a colon before a gap, or a number sign
behind one.
-/
def hasInnerMark (afterGap : Bool) : List Char → Bool
  | [] => false
  | c :: rest =>
    (c == ':' && startsWithGap rest) || (c == '#' && afterGap) || hasInnerMark (isGap c) rest

/-- Whether a text holds a mark that keeps it from being written without quotes. -/
def hasMark (cs : List Char) : Bool :=
  match cs with
  | [] => false
  | c :: rest =>
    ['-', '-', '-'].isPrefixOf cs || ['.', '.', '.'].isPrefixOf cs || isLeadingMark c rest ||
      hasInnerMark (isGap c) rest

/-- Whether a blank stands directly in front of a line end or directly behind one. -/
def hasBlankAtLineEnd : List Char → Bool
  | [] => false
  | [_] => false
  | c :: d :: rest =>
    (c == ' ' && isLineEnd d) || (isLineEnd c && d == ' ') || hasBlankAtLineEnd (d :: rest)

/-- Whether a text begins or ends with a blank. -/
def hasOuterBlank (cs : List Char) : Bool := cs.head? == some ' ' || cs.getLast? == some ' '

/-- The style that a text is written in. -/
def styleOf (cs : List Char) : Style :=
  if cs.any needsEscape || hasBlankAtLineEnd cs then .double
  else if (Plain.value? cs).isSome || cs.any isLineEnd || hasOuterBlank cs || hasMark cs then
    .single
  else .plain

/-- A text that is written without quotes is read as itself. -/
theorem value_of_styleOf_eq_plain {text : String} (h : styleOf text.toList = .plain) :
    Plain.value text = .ok (.text text) := by
  unfold styleOf at h
  split at h
  · cases h
  · split at h
    · cases h
    · next hp =>
      simp only [Bool.or_eq_true, not_or, Bool.not_eq_true, Option.isSome_eq_false_iff,
        Option.isNone_iff_eq_none] at hp
      simp [Plain.value, hp.1.1.1]

/-! ## Writing in each style -/

/-- The greatest column of a line that is not folded at the next blank. -/
def foldColumn : Nat := 80

/-- The blanks in front of a line that goes on. -/
def margin : Nat := 4

/-- The beginning of a line that goes on. -/
def nextLine : List Char := '\n' :: List.replicate margin ' '

/-- Whether a text goes on with a single blank and then something else. -/
def singleBlank (rest : List Char) : Bool := rest.head?.any (· != ' ')

/--
The rest of a plain text; `column` counts what stands in front of it on its line and
`inRun` tells whether the character in front is a blank.
-/
def plainRest (column : Nat) (inRun : Bool) : List Char → List Char
  | [] => []
  | c :: rest =>
    if c = ' ' ∧ inRun = false ∧ singleBlank rest ∧ foldColumn < column then
      nextLine ++ plainRest margin true rest
    else c :: plainRest (column + 1) (c == ' ') rest

/-- A text without quotes; `column` counts what stands in front of it. -/
def writePlain (column : Nat) (cs : List Char) : List Char := plainRest column false cs

/-- What stands in front of a character inside single quotes. -/
inductive Before where
  /-- The opening quote. -/
  | start
  /-- A blank. -/
  | blank
  /-- A line end. -/
  | lineEnd
  /-- Anything else. -/
  | other
  deriving DecidableEq, Repr

/-- The rest of a text between single quotes. -/
def singleRest (column : Nat) (before : Before) : List Char → List Char
  | [] => (if before = .lineEnd then List.replicate margin ' ' else []) ++ ['\'']
  | c :: rest =>
    if isLineEnd c then
      (if before ≠ .lineEnd ∧ c = '\n' then ['\n'] else []) ++ c :: singleRest 0 .lineEnd rest
    else
      let moved := if before = .lineEnd then List.replicate margin ' ' else []
      let here := column + moved.length
      if c = '\'' then moved ++ '\'' :: '\'' :: singleRest (here + 2) .other rest
      else if c = ' ' then
        if before = .other ∧ singleBlank rest ∧ foldColumn < here then
          nextLine ++ singleRest margin .blank rest
        else moved ++ c :: singleRest (here + 1) .blank rest
      else moved ++ c :: singleRest (here + 1) .other rest

/-- A text between single quotes; `column` counts what stands in front of it. -/
def writeSingle (column : Nat) (cs : List Char) : List Char :=
  '\'' :: singleRest (column + 1) .start cs

/-- The letters and signs behind a backslash. -/
def shortEscapes : List (Char × Char) := [
  ('\x00', '0'), ('\x07', 'a'), ('\x08', 'b'), ('\t', 't'), ('\n', 'n'), ('\x0b', 'v'),
  ('\x0c', 'f'), ('\r', 'r'), ('\x1b', 'e'), ('"', '"'), ('\\', '\\'), ('\x85', 'N'),
  ('\u2028', 'L'), ('\u2029', 'P')]

/-- Whether a character is written as it is between double quotes. -/
def isLiteral (c : Char) : Bool :=
  let n := c.toNat
  c != '"' && c != '\\' && n != 0x2028 && n != 0x2029 && n != 0xFEFF &&
    ((0x20 ≤ n && n ≤ 0x7E) || (0xA0 ≤ n && n ≤ 0xFFFD))

/-- A character as an escape. -/
def escapeOf (c : Char) : List Char :=
  match shortEscapes.lookup c with
  | some d => ['\\', d]
  | none =>
    let n := c.toNat
    if n ≤ 0xFF then '\\' :: 'x' :: hexDigits capitalHexDigit 2 n
    else if n ≤ 0xFFFF then '\\' :: 'u' :: hexDigits capitalHexDigit 4 n
    else '\\' :: 'U' :: hexDigits capitalHexDigit 8 n

/-- The place where a text between double quotes is folded; a blank behind it is escaped. -/
def foldedAt (next : Option Char) : List Char :=
  '\\' :: nextLine ++ (if next = some ' ' then ['\\'] else [])

/-- The column behind such a place. -/
def foldedColumn (next : Option Char) : Nat := if next = some ' ' then margin + 1 else margin

/--
The rest of a text between double quotes.  `first` tells whether the opening quote
stands in front, and `fresh` whether that or an escape does.  A text is folded in front
of a blank, and in front of or behind a character that follows an escape or is one, but
neither at its first character nor at its last.
-/
def doubleRest (column : Nat) (first fresh : Bool) : List Char → List Char
  | [] => ['"']
  | c :: rest =>
    let inner := !first && !rest.isEmpty
    if isLiteral c then
      if inner ∧ (c = ' ' ∨ fresh) ∧ foldColumn < column then
        foldedAt (some c) ++ c :: doubleRest (foldedColumn (some c) + 1) false false rest
      else c :: doubleRest (column + 1) false false rest
    else
      let written := escapeOf c
      let after := column + written.length
      if inner ∧ foldColumn + 1 < after then
        written ++ foldedAt rest.head? ++ doubleRest (foldedColumn rest.head?) false true rest
      else written ++ doubleRest after false true rest

/-- A text between double quotes; `column` counts what stands in front of it. -/
def writeDouble (column : Nat) (cs : List Char) : List Char :=
  '"' :: doubleRest (column + 1) true true cs

/-- A text in its style. -/
def writeText (column : Nat) (cs : List Char) : List Char :=
  match styleOf cs with
  | .plain => writePlain column cs
  | .single => writeSingle column cs
  | .double => writeDouble column cs

/-! ## Arguments -/

/-- A line of a mapping: what stands in front of the key, the key and the written value. -/
def writeEntry (front key : List Char) (value : Nat → List Char) : List Char :=
  let before := front ++ key ++ [':', ' ']
  before ++ value before.length ++ ['\n']

/-- An argument as an item of a sequence. -/
def writeArgument (a : Argument) : List Char :=
  writeEntry ['-', ' '] "name".toList (writeText · a.name.toList) ++
  writeEntry [' ', ' '] "raw".toList (writeText · a.raw.toList) ++
  writeEntry [' ', ' '] "start".toList (fun _ => (toString a.start).toList) ++
  writeEntry [' ', ' '] "value".toList (writeText · a.value.toList)

/-- A list of arguments as a document. -/
def writeArguments (arguments : List Argument) : List Char :=
  if arguments.isEmpty then "arguments: []\n".toList
  else "arguments:\n".toList ++ arguments.flatMap writeArgument

end TypedCommands.Yaml
