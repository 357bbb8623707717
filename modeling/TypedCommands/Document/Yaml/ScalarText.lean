import TypedCommands.Document.Yaml.Character
import TypedCommands.Text.Hex

/-!
# Texts of scalars

How the texts of scalars are read: between single quotes, between double quotes and
without quotes.  A scalar may run over several lines; one line end between two parts
counts as a blank, and of several the first is dropped.

Main results:

- Theorem `putBefore_putBefore`: what is put in front of a text that was read is collected.
-/

namespace TypedCommands.Yaml

open TypedCommands.Text

/-- The text of a scalar and what follows it. -/
abbrev ReadText := Except Fault (List Char × List Char)

/-- Put characters in front of the text of a scalar. -/
def putBefore (front : List Char) (r : ReadText) : ReadText := r.map fun t => (front ++ t.1, t.2)

/-! ## Line ends between quotes -/

/-- Skip blanks and line ends inside quotes; the answer is the line ends and what follows. -/
def readBreaks : Nat → List Char → ReadText
  | 0, cs => .ok ([], cs)
  | fuel + 1, cs =>
    if startsWithMark cs then .error .token
    else
      match readBreak? (cs.dropWhile isInline) with
      | none => .ok ([], cs.dropWhile isInline)
      | some (b, rest) => putBefore [b] (readBreaks fuel rest)

/-- Read blanks inside quotes: either a line ends behind them, or they are part of the text. -/
def readBlanks (cs : List Char) : ReadText :=
  let after := cs.dropWhile isInline
  match readBreak? after with
  | some (first, rest) =>
    (readBreaks rest.length rest).map fun more => (joinBreaks first more.1, more.2)
  | none => if after.isEmpty then .error .token else .ok (cs.takeWhile isInline, after)

/-! ## Single quotes -/

/-- Read a scalar behind its opening single quote. -/
def readSingle : Nat → List Char → ReadText
  | 0, _ => .error .token
  | _ + 1, [] => .error .token
  | fuel + 1, c :: rest =>
    if c = '\'' then
      match rest with
      | '\'' :: more => putBefore ['\''] (readSingle fuel more)
      | _ => .ok ([], rest)
    else if isGap c then
      match readBlanks (c :: rest) with
      | .error fault => .error fault
      | .ok (text, more) => putBefore text (readSingle fuel more)
    else putBefore [c] (readSingle fuel rest)

theorem putBefore_putBefore (front behind : List Char) (r : ReadText) :
    putBefore front (putBefore behind r) = putBefore (front ++ behind) r := by
  cases r <;> simp [putBefore, Except.map]

/-! ## Double quotes -/

/-- The characters that a backslash and a letter or sign stand for. -/
def escapes : List (Char × Char) := [
  ('0', '\x00'), ('a', '\x07'), ('b', '\x08'), ('t', '\t'), ('\t', '\t'), ('n', '\n'),
  ('v', '\x0b'), ('f', '\x0c'), ('r', '\r'), ('e', '\x1b'), (' ', ' '), ('"', '"'),
  ('\\', '\\'), ('/', '/'), ('N', '\x85'), ('_', '\xa0'), ('L', '\u2028'), ('P', '\u2029')]

/-- The number of hexadecimal digits behind a backslash and a letter. -/
def codeLength? : Char → Option Nat
  | 'x' => some 2
  | 'u' => some 4
  | 'U' => some 8
  | _ => none

/-- The character with a given number of hexadecimal digits for its code, and what follows. -/
def readCode (length : Nat) (cs : List Char) : Except Fault (Char × List Char) :=
  let digits := cs.take length
  match hexNumber? digits with
  | none => .error .token
  | some n =>
    if digits.length < length then .error .token
    else if 0x7FFFFFFF < n then .error .tooLarge
    else if 0x10FFFF < n then .error (.range "chr() arg not in range(0x110000)")
    else .ok (Char.ofNat n, cs.drop length)

/-- Read what follows a backslash. -/
def readEscape (cs : List Char) : ReadText :=
  match cs with
  | [] => .error .token
  | c :: rest =>
    match escapes.lookup c with
    | some d => .ok ([d], rest)
    | none =>
      match codeLength? c with
      | some length => (readCode length rest).map fun r => ([r.1], r.2)
      | none =>
        match readBreak? (c :: rest) with
        | some (_, rest) => readBreaks rest.length rest
        | none => .error .token

/-- Read a scalar behind its opening double quote. -/
def readDouble : Nat → List Char → ReadText
  | 0, _ => .error .token
  | _ + 1, [] => .error .token
  | fuel + 1, c :: rest =>
    if c = '"' then .ok ([], rest)
    else if c = '\\' then
      match readEscape rest with
      | .error fault => .error fault
      | .ok (text, more) => putBefore text (readDouble fuel more)
    else if isGap c then
      match readBlanks (c :: rest) with
      | .error fault => .error fault
      | .ok (text, more) => putBefore text (readDouble fuel more)
    else putBefore [c] (readDouble fuel rest)

/-! ## No quotes -/

/-- The text of a plain scalar, what follows it, and whether a line ended behind it. -/
structure PlainText where
  /-- The text. -/
  text : List Char
  /-- What follows, blanks and line ends behind the text left out. -/
  rest : List Char
  /-- Whether there was a line end among those. -/
  lineEnded : Bool

/-- Whether a plain scalar ends in front of a character and what follows it. -/
def endsPlain (flow : Bool) (c : Char) (rest : List Char) : Bool :=
  let startsWithBracket := rest.head?.any fun d => ",[]\x7b\x7d".contains d
  isGap c || (c == ':' && (startsWithGap rest || (flow && startsWithBracket))) ||
    (flow && ",?[]\x7b\x7d".contains c)

/-- The part of a plain scalar up to the next gap, and what follows it. -/
def spanPlain (flow : Bool) : List Char → List Char × List Char
  | [] => ([], [])
  | c :: rest =>
    if endsPlain flow c rest then ([], c :: rest)
    else let more := spanPlain flow rest; (c :: more.1, more.2)

/-- What stands between two parts of a plain scalar. -/
structure PlainGap where
  /-- The text it stands for; there is none if the scalar has to end here. -/
  text : List Char
  /-- What follows. -/
  rest : List Char
  /-- Whether there was a line end. -/
  lineEnded : Bool
  /-- The number of blanks behind the last line end. -/
  column : Nat

/-- Skip blanks and line ends; the answer holds the line ends in order, unless a mark stops it. -/
def skipLines : Nat → Nat → List Char → Option (List Char) × List Char × Nat
  | 0, column, cs => (some [], cs, column)
  | fuel + 1, column, cs =>
    match cs with
    | ' ' :: rest => skipLines fuel (column + 1) rest
    | _ =>
      match readBreak? cs with
      | none => (some [], cs, column)
      | some (b, rest) =>
        if startsWithMark rest then (none, rest, 0)
        else
          let more := skipLines fuel 0 rest
          (more.1.map (b :: ·), more.2)

/-- Read what stands between two parts of a plain scalar. -/
def readPlainGap (cs : List Char) : PlainGap :=
  let after := cs.dropWhile (· == ' ')
  match readBreak? after with
  | none => ⟨cs.takeWhile (· == ' '), after, false, 0⟩
  | some (first, rest) =>
    if startsWithMark rest then ⟨[], rest, true, 0⟩
    else
      match skipLines rest.length 0 rest with
      | (none, rest, column) => ⟨[], rest, true, column⟩
      | (some more, rest, column) => ⟨joinBreaks first more, rest, true, column⟩

/--
Read a plain scalar.  `before` is what stands between the last part and this one and
`ended` tells whether a line ended there; `margin` is the least column of its lines.
-/
def readPlain (flow : Bool) (margin : Int) : Nat → List Char → Bool → List Char → PlainText
  | 0, _, ended, cs => ⟨[], cs, ended⟩
  | fuel + 1, before, ended, cs =>
    let part := spanPlain flow cs
    if cs.head? = some '#' ∨ part.1.isEmpty then ⟨[], cs, ended⟩
    else
      let gap := readPlainGap part.2
      if gap.text.isEmpty ∨ gap.rest.head? = some '#' ∨
          (flow = false ∧ gap.lineEnded ∧ (gap.column : Int) < margin) then
        ⟨before ++ part.1, gap.rest, gap.lineEnded⟩
      else
        let more := readPlain flow margin fuel gap.text gap.lineEnded gap.rest
        ⟨before ++ part.1 ++ more.text, more.rest, more.lineEnded⟩

end TypedCommands.Yaml
