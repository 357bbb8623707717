/-!
# Characters of YAML texts

Which characters end lines, separate tokens or may stand in a YAML text at all.

Main results:

- Theorem `isGap_of_isBreak`: whatever ends a line also separates tokens.
-/

namespace TypedCommands.Yaml

/-- Why a text is no YAML document that can be read. -/
inductive Fault where
  /-- A character may not stand in a document. -/
  | character
  /-- The text cannot be split into tokens. -/
  | token
  /-- The tokens do not make up a document. -/
  | arrangement
  /-- There is a second document. -/
  | documents
  /-- A node stands for no value. -/
  | construction
  /-- A number, a date or a code is out of its range; given is the wording. -/
  | range (message : String)
  /-- A number or a code is larger than any that could be judged. -/
  | tooLarge
  deriving DecidableEq, Repr

/-- The characters that end a line, without the carriage return. -/
def isLineEnd (c : Char) : Bool :=
  c == '\n' || c == '\x85' || c == '\u2028' || c == '\u2029'

/-- The characters that end a line. -/
def isBreak (c : Char) : Bool := c == '\r' || isLineEnd c

/-- The characters that separate tokens. -/
def isGap (c : Char) : Bool := c == ' ' || c == '\t' || isBreak c

theorem isGap_of_isBreak {c : Char} (h : isBreak c = true) : isGap c = true := by
  simp [isGap, h]

/-- Whether a text is empty or begins with a character that separates tokens. -/
def startsWithGap : List Char → Bool
  | [] => true
  | c :: _ => isGap c

/-- The blank and the tab. -/
def isInline (c : Char) : Bool := c == ' ' || c == '\t'

/-- Whether a character may stand in a YAML text. -/
def isAllowed (c : Char) : Bool :=
  let n := c.toNat
  n == 0x09 || n == 0x0A || n == 0x0D || (0x20 ≤ n && n ≤ 0x7E) || n == 0x85 ||
    (0xA0 ≤ n && n ≤ 0xD7FF) || (0xE000 ≤ n && n ≤ 0xFFFD) || 0x10000 ≤ n

/-- Whether a text begins with three hyphens or three points that stand alone. -/
def startsWithMark (cs : List Char) : Bool :=
  match cs with
  | a :: b :: c :: rest =>
    a == b && b == c && (a == '-' || a == '.') && startsWithGap rest
  | _ => false

/-- The line end at the front of a text, as it counts inside a scalar, and what follows it. -/
def readBreak? : List Char → Option (Char × List Char)
  | '\r' :: '\n' :: rest => some ('\n', rest)
  | c :: rest =>
    if c = '\r' ∨ c = '\n' ∨ c = '\x85' then some ('\n', rest)
    else if c = '\u2028' ∨ c = '\u2029' then some (c, rest)
    else none
  | [] => none

/-- What the line ends between two parts of a scalar stand for. -/
def joinBreaks (first : Char) (more : List Char) : List Char :=
  if first ≠ '\n' then first :: more
  else if more.isEmpty then [' ']
  else more

end TypedCommands.Yaml
