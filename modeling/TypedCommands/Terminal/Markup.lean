import TypedCommands.Console
import TypedCommands.Terminal.Literal
import TypedCommands.Terminal.Picture
import TypedCommands.Terminal.Style
import TypedCommands.Terminal.StyledText
import TypedCommands.Text.Word

/-!
# Style marks in texts

Texts for a terminal may hold style marks: groups in square brackets that begin with a
small letter, a number sign, a slash or an at sign.  A mark that begins with a slash
closes the last open one of its style, or the last one of any style; one that is never
closed holds to the end.  A mark with an at sign calls something by name, perhaps with
literals.  Marks leave no trace in the plain text, in which pictures stand in the place of
their names.  A backslash in front of a bracket makes it an ordinary one.

Main definitions:

- Definition `Markup.read`: the text with styles that a text with marks stands for, or the
  mark that makes no sense.
-/

namespace TypedCommands.Terminal.Markup

open TypedCommands.Text
open Console (startsMark)

/-- A part of a text with marks. -/
inductive Part where
  /-- Ordinary text. -/
  | text (cs : List Char)
  /-- A mark, without its brackets. -/
  | mark (body : List Char)
  deriving DecidableEq, Repr

/-- The body of a mark behind its opening bracket, and what follows its closing one. -/
def mark? (cs : List Char) : Option (List Char × List Char) :=
  match cs with
  | [] => none
  | c :: rest =>
    if startsMark c then
      let body := rest.takeWhile fun d => d != '[' && d != ']'
      match rest.drop body.length with
      | ']' :: after => some (c :: body, after)
      | _ => none
    else none

/-- Ordinary text that was read so far, the last character first, as a part. -/
def textPart (before : List Char) : List Part :=
  if before.isEmpty then [] else [.text before.reverse]

/--
The parts of a text; `before` is the ordinary text since the last mark, the last
character first.
-/
def parts : Nat → List Char → List Char → List Part
  | 0, before, _ => textPart before
  | _ + 1, before, [] => textPart before
  | fuel + 1, before, c :: rest =>
    let slashes := (c :: rest).takeWhile (· == '\\')
    match (c :: rest).drop slashes.length with
    | '[' :: inside =>
      match mark? inside with
      | some (body, after) =>
        let kept := textPart (List.replicate (slashes.length / 2) '\\')
        let here := if slashes.length % 2 = 0 then Part.mark body else .text ('[' :: body ++ [']'])
        textPart before ++ kept ++ here :: parts fuel [] after
      | none => parts fuel ('[' :: slashes ++ before) inside
    | after =>
      if slashes.isEmpty then parts fuel (c :: before) rest
      else parts fuel (slashes ++ before) after

/-- Why the marks of a text make no sense. -/
inductive Fault where
  /-- A closing mark has a style that no open one has. -/
  | unmatched
  /-- A closing mark has nothing to close. -/
  | nothingOpen
  /-- A call holds something that is no literal. -/
  | noLiteral
  /-- A part of a colour is no number. -/
  | noNumber
  deriving DecidableEq, Repr

/-- A mark that is open. -/
structure OpenMark where
  /-- The place in the plain text at which it stands. -/
  start : Nat
  /-- The normal form of its style. -/
  style : String
  /-- What follows the equals sign behind the style. -/
  parameters : List Char := []

/-- The last opened mark of a style and the others; the last opened one comes first. -/
def close? (style : String) : List OpenMark → Option (OpenMark × List OpenMark)
  | [] => none
  | m :: rest =>
    if m.style = style then some (m, rest)
    else (close? style rest).map fun r => (r.1, m :: r.2)

/-- The literals of a call, for parameters that are a name and perhaps round brackets. -/
def callLiterals? (parameters : List Char) : Option (List Char) :=
  match parameters.dropWhile fun c => isWordChar c || c == '.' with
  | [] => some "()".toList
  | '(' :: rest =>
    if rest.getLast? == some ')' && !rest.contains '\n' then some ('(' :: rest) else none
  | _ => none

/-- Whether a mark calls something. -/
def OpenMark.isCall (m : OpenMark) : Bool := m.style.toList.head? == some '@'

/-- Whether a mark can be closed: a call may hold literals only. -/
def OpenMark.canClose (m : OpenMark) : Bool :=
  !m.isCall || m.parameters.isEmpty ||
    let parameters := trimBlanks m.parameters
    Literal.isLiteral ((callLiterals? parameters).getD parameters)

/--
Whether the whole style of a mark, with what follows its equals sign, can be made out: no
part of a colour is something else than a number.
-/
def OpenMark.isSound (m : OpenMark) : Bool :=
  m.isCall ||
    match readStyle (m.style.toList ++ ' ' :: m.parameters) with
    | .error .noNumber => false
    | _ => true

/-- The stretch from a mark to the place where it is closed. -/
def OpenMark.span (stop : Nat) (m : OpenMark) : Span := ⟨m.start, stop, m.isSound⟩

/-- The normal form of the style of a mark. -/
def styleOf (cs : List Char) : Except Fault String :=
  match normalForm cs with
  | .ok style => .ok style
  | .error _ => .error .noNumber

/-- A text that is being read. -/
structure Reading where
  /-- What was read so far, with the styles that were closed. -/
  text : StyledText := ⟨[], []⟩
  /-- The marks that are open, the last opened one first. -/
  marks : List OpenMark := []

namespace Reading

/-- Add ordinary text. -/
def add (cs : List Char) (r : Reading) : Reading :=
  { r with text := r.text.append (.ofChars cs) }

/-- Close one of the open marks, so that the others stay open. -/
def close (m : OpenMark) (others : List OpenMark) (r : Reading) : Except Fault Reading :=
  if m.canClose then
    .ok ⟨⟨r.text.chars, r.text.spans ++ [m.span r.text.chars.length]⟩, others⟩
  else .error .noLiteral

/-- Go on with a mark. -/
def follow (body : List Char) (r : Reading) : Except Fault Reading :=
  let name := body.takeWhile (· != '=')
  match name with
  | '/' :: closing =>
    if (trimBlanks closing).isEmpty then
      match r.marks with
      | [] => .error .nothingOpen
      | m :: rest => r.close m rest
    else
      match styleOf (trimBlanks closing) with
      | .error fault => .error fault
      | .ok style =>
        match close? style r.marks with
        | none => .error .unmatched
        | some (m, others) => r.close m others
  | _ =>
    (styleOf name).map fun style =>
      let opened : OpenMark := ⟨r.text.chars.length, style, body.drop (name.length + 1)⟩
      { r with marks := opened :: r.marks }

/-- The text that was read; the marks that are still open hold to its end. -/
def finish (r : Reading) : StyledText :=
  ⟨r.text.chars, r.text.spans ++ r.marks.map (·.span r.text.chars.length)⟩

end Reading

/-- Ordinary text without the backslashes in front of brackets. -/
def bareBrackets : List Char → List Char
  | '\\' :: '[' :: rest => '[' :: bareBrackets rest
  | c :: rest => c :: bareBrackets rest
  | [] => []

/-- Go on with parts of a text. -/
def readParts : Reading → List Part → Except Fault Reading
  | r, [] => .ok r
  | r, .text cs :: rest => readParts (r.add (replacePictures (bareBrackets cs))) rest
  | r, .mark body :: rest =>
    match r.follow body with
    | .error fault => .error fault
    | .ok r => readParts r rest

/-- The text that a text with marks stands for, with its styles. -/
def read (cs : List Char) : Except Fault StyledText :=
  (readParts {} (parts cs.length [] cs)).map (·.finish)

end TypedCommands.Terminal.Markup
