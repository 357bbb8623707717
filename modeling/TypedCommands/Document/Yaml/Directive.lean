import TypedCommands.Document.Yaml.Character
import TypedCommands.Number.Whole
import TypedCommands.Text.Hex

/-!
# Directives

Lines in front of a document that begin with a percent sign.  They name the version of
the format or a short form of tags; all others are ignored.

Main definitions:

- Definition `readDirective`: what a line behind a percent sign says, and what follows it.
-/

namespace TypedCommands.Yaml

open TypedCommands.Text

/-- What a directive says. -/
inductive Directive where
  /-- The version of the format; given is its first number. -/
  | version (major : Nat)
  /-- A short form of tags. -/
  | handle (name : List Char)
  /-- Something that is ignored. -/
  | reserved
  deriving DecidableEq, Repr

/-- Whether a character may stand in the name of a directive. -/
def isDirectiveName (c : Char) : Bool := c.isAlphanum || c == '-' || c == '_'

/-- Whether a text is empty or begins with a blank or a line end. -/
def endsWord : List Char → Bool
  | [] => true
  | c :: _ => c == ' ' || isBreak c

/-- The text behind its blanks. -/
def skipBlanks (cs : List Char) : List Char := cs.dropWhile (· == ' ')

/-- What was read and what follows it. -/
abbrev ReadPart (α : Type) := Except Fault (α × List Char)

/-- Read a number in base ten. -/
def readDirectiveNumber (cs : List Char) : ReadPart Nat :=
  let digits := cs.takeWhile Char.isDigit
  if digits.isEmpty then .error .token
  else if Whole.digitLimit < digits.length then .error (.range (Whole.tooLong digits.length))
  else .ok (ofDigits (digits.filterMap asciiDigit?), cs.drop digits.length)

/-- Read a version: two numbers with a point between them. -/
def readVersion (cs : List Char) : Except Fault (Directive × List Char) := do
  let (major, rest) ← readDirectiveNumber (skipBlanks cs)
  match rest with
  | '.' :: rest =>
    let (_, rest) ← readDirectiveNumber rest
    if endsWord rest then .ok (.version major, rest) else .error .token
  | _ => .error .token

/-- Read a short form of tags: an exclamation mark, or a name between two of them. -/
def readHandle (cs : List Char) : ReadPart (List Char) :=
  match cs with
  | '!' :: ' ' :: rest => .ok (['!'], ' ' :: rest)
  | '!' :: rest =>
    let name := rest.takeWhile isDirectiveName
    match rest.drop name.length with
    | '!' :: ' ' :: rest => .ok ('!' :: name ++ ['!'], ' ' :: rest)
    | _ => .error .token
  | _ => .error .token

/-- Whether a character may stand for itself in the beginning of tags. -/
def isTagChar (c : Char) : Bool := c.isAlphanum || "-;/?:@&=+$,_.!~*'()[]".contains c

/-- The bytes that percent signs and two digits each write, and what follows them. -/
def readBytes : List Char → ReadPart (List UInt8)
  | '%' :: a :: b :: rest =>
    match hexNumber? [a, b] with
    | none => .error .token
    | some n => (readBytes rest).map fun r => (n.toUInt8 :: r.1, r.2)
  | '%' :: _ => .error .token
  | rest => .ok ([], rest)

/-- Whether bytes are the encoding of a text. -/
def isEncoding (bytes : List UInt8) : Bool := (String.fromUTF8? bytes.toByteArray).isSome

/-- Skip the beginning of tags; `started` tells whether a part of it came before. -/
def skipTagStart : Nat → Bool → List Char → Except Fault (List Char)
  | 0, _, _ => .error .token
  | fuel + 1, started, cs =>
    match cs with
    | [] => if started then .ok [] else .error .token
    | c :: rest =>
      if c = '%' then
        match readBytes (c :: rest) with
        | .error fault => .error fault
        | .ok (bytes, rest) =>
          if isEncoding bytes then skipTagStart fuel true rest else .error .token
      else if isTagChar c then skipTagStart fuel true rest
      else if started then .ok (c :: rest)
      else .error .token

/-- Read a short form of tags and the beginning that it stands for. -/
def readTagForm (cs : List Char) : Except Fault (Directive × List Char) := do
  let (handle, rest) ← readHandle (skipBlanks cs)
  let rest := skipBlanks rest
  let rest ← skipTagStart (rest.length + 1) false rest
  if endsWord rest then .ok (.handle handle, rest) else .error .token

/-- Skip the rest of a line, which may hold a comment only, and its end. -/
def skipComment (cs : List Char) : Except Fault (List Char) :=
  let after := skipBlanks cs
  let rest := if after.head? = some '#' then after.dropWhile fun c => !isBreak c else after
  match rest with
  | [] => .ok []
  | c :: more =>
    match readBreak? (c :: more) with
    | some (_, rest) => .ok rest
    | none => .error .token

/-- Read a directive behind its percent sign, with the end of its line. -/
def readDirective (cs : List Char) : Except Fault (Directive × List Char) := do
  let name := cs.takeWhile isDirectiveName
  let rest := cs.drop name.length
  if name.isEmpty || !endsWord rest then .error .token
  else
    let (directive, rest) ←
      if name = "YAML".toList then readVersion rest
      else if name = "TAG".toList then readTagForm rest
      else .ok (.reserved, rest.dropWhile fun c => !isBreak c)
    let rest ← skipComment rest
    .ok (directive, rest)

end TypedCommands.Yaml
