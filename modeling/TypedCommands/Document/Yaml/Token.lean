import TypedCommands.Document.Yaml.Directive
import TypedCommands.Document.Yaml.ScalarText

/-!
# Tokens of YAML texts

A YAML text as a list of tokens: marks, scalars, and the beginnings and ends of
blocks that its indentation shows.  A scalar or a bracket turns out to be a key only
when a colon follows it on the same line, so that a mark for the key is put in front
of it afterwards.  Where a text cannot be split any further, the tokens before that
place count as long as none of them waits for a colon.

Main results:

- Theorem `Place.rest_skip`: skipping characters leaves the rest of the text behind them.
-/

namespace TypedCommands.Yaml

/-- A token. -/
inductive Token where
  | streamEnd
  /-- A directive. -/
  | directive (d : Directive)
  | documentStart
  | documentEnd
  | blockSequence
  | blockMapping
  | blockEnd
  | openBracket
  | closeBracket
  | openBrace
  | closeBrace
  | item
  | comma
  | key
  | value
  /-- A scalar: whether it is plain, and its text. -/
  | scalar (plain : Bool) (text : String)
  deriving DecidableEq, Repr

/-! ## Places -/

/-- A place in a text. -/
structure Place where
  /-- What follows. -/
  rest : List Char
  /-- The number of characters in front. -/
  index : Nat := 0
  /-- The number of lines in front. -/
  line : Nat := 0
  /-- The number of characters in front on the same line. -/
  column : Nat := 0

namespace Place

/-- The place behind a number of characters. -/
def skip : Nat → Place → Place
  | 0, p => p
  | n + 1, p =>
    match p.rest with
    | [] => p
    | c :: rest =>
      if isLineEnd c || (c == '\r' && rest.head? != some '\n') then
        skip n ⟨rest, p.index + 1, p.line + 1, 0⟩
      else skip n ⟨rest, p.index + 1, p.line, if c = '\ufeff' then p.column else p.column + 1⟩

/-- Behind skipped characters lies what is left of the text. -/
theorem rest_skip (n : Nat) (p : Place) : (p.skip n).rest = p.rest.drop n := by
  induction n generalizing p with
  | zero => rfl
  | succ n ih =>
    rw [skip]
    split
    · next h => simp [h]
    · next c rest h => split <;> simp [h, ih]

/-- The place at which a given text follows. -/
def moveTo (p : Place) (rest : List Char) : Place := p.skip (p.rest.length - rest.length)

end Place

/-! ## The state of reading -/

/-- A token that is a key if a colon follows it. -/
structure KeyMark where
  /-- The number of brackets that were open. -/
  depth : Nat
  /-- The number of tokens in front of it. -/
  number : Nat
  /-- Whether a colon has to follow. -/
  required : Bool
  /-- The place it begins at. -/
  place : Place

/-- A text that is being split into tokens. -/
structure Reading where
  /-- Where the next token is looked for. -/
  place : Place
  /-- The tokens so far, the last one first. -/
  tokens : List Token := []
  /-- The column of the innermost block, -1 outside of any. -/
  indent : Int := -1
  /-- The columns of the blocks around it. -/
  outer : List Int := []
  /-- The number of open brackets. -/
  depth : Nat := 0
  /-- Whether a key may begin here. -/
  keyAllowed : Bool := true
  /-- The tokens that wait for a colon. -/
  waiting : List KeyMark := []
  /-- Whether the end was reached. -/
  finished : Bool := false

namespace Reading

/-- Add a token. -/
def push (t : Token) (r : Reading) : Reading := { r with tokens := t :: r.tokens }

/-- Put a token in front of the one with a number. -/
def insertAt (number : Nat) (t : Token) (r : Reading) : Reading :=
  let later := r.tokens.length - number
  { r with tokens := r.tokens.take later ++ t :: r.tokens.drop later }

/-- Whether a token can no longer become a key: its line has ended, or it is too long ago. -/
def isStale (p : Place) (k : KeyMark) : Bool :=
  k.place.line != p.line || k.place.index + 1024 < p.index

/-- Let go of the tokens that can no longer become keys; none of them may have to be one. -/
def dropStale (r : Reading) : Except Fault Reading :=
  if r.waiting.any fun k => isStale r.place k && k.required then .error .token
  else .ok { r with waiting := r.waiting.filter fun k => !isStale r.place k }

/-- Let go of the token that waits at the current depth; it must not have to be a key. -/
def dropHere (r : Reading) : Except Fault Reading :=
  if r.waiting.any fun k => k.depth == r.depth && k.required then .error .token
  else .ok { r with waiting := r.waiting.filter fun k => k.depth != r.depth }

/-- Note that the next token may be a key. -/
def noteKey (r : Reading) : Except Fault Reading :=
  if r.keyAllowed then
    r.dropHere.map fun r =>
      let required := r.depth == 0 && r.indent == (r.place.column : Int)
      { r with waiting := ⟨r.depth, r.tokens.length, required, r.place⟩ :: r.waiting }
  else .ok r

/-- End the blocks that begin right of a column; `fuel` bounds their number. -/
def unwindTo (column : Int) : Nat → Reading → Reading
  | 0, r => r
  | fuel + 1, r =>
    if column < r.indent then
      unwindTo column fuel
        { r with
          indent := r.outer.headD (-1), outer := r.outer.drop 1, tokens := .blockEnd :: r.tokens }
    else r

/-- End the blocks that begin right of a column; between brackets columns do not count. -/
def unwind (column : Int) (r : Reading) : Reading :=
  if r.depth = 0 then r.unwindTo column (r.outer.length + 1) else r

/-- Whether a block at a column is inside the innermost one. -/
def isDeeper (column : Nat) (r : Reading) : Bool := r.indent < (column : Int)

/-- Begin a block at a column. -/
def indentTo (column : Nat) (r : Reading) : Reading :=
  { r with indent := column, outer := r.indent :: r.outer }

/-- Begin a block at the current column with a token, if it is inside the innermost one. -/
def openBlock (t : Token) (r : Reading) : Reading :=
  if r.isDeeper r.place.column then (r.indentTo r.place.column).push t else r

/-- Move past a number of characters. -/
def skip (n : Nat) (r : Reading) : Reading := { r with place := r.place.skip n }

/-- Allow or forbid a key at the next token. -/
def allowKey (b : Bool) (r : Reading) : Reading := { r with keyAllowed := b }

/-- Skip blanks, comments and line ends in front of the next token. -/
def skipGaps : Nat → Reading → Reading
  | 0, r => r
  | fuel + 1, r =>
    let afterBlanks := r.place.rest.dropWhile (· == ' ')
    let after :=
      if afterBlanks.head? = some '#' then afterBlanks.dropWhile fun c => !isBreak c
      else afterBlanks
    let here := r.place.moveTo after
    match readBreak? after with
    | none => { r with place := here }
    | some (_, rest) =>
      skipGaps fuel { r with
        place := here.moveTo rest
        keyAllowed := r.keyAllowed || r.depth == 0 }

/-! ## One token -/

/-- The end of the text. -/
def takeEnd (r : Reading) : Except Fault Reading :=
  (r.unwind (-1)).dropHere.map fun r =>
    { r with
      tokens := .streamEnd :: r.tokens, keyAllowed := false, waiting := [], finished := true }

/-- A mark of three characters between documents. -/
def takeDocumentMark (t : Token) (r : Reading) : Except Fault Reading :=
  (r.unwind (-1)).dropHere.map fun r => ((r.allowKey false).skip 3).push t

/-- A directive: a line that begins with a percent sign. -/
def takeDirective (r : Reading) : Except Fault Reading :=
  match (r.unwind (-1)).dropHere with
  | .error fault => .error fault
  | .ok r =>
    (readDirective (r.place.rest.drop 1)).map fun d =>
      { (r.allowKey false).push (.directive d.1) with place := r.place.moveTo d.2 }

/-- An opening bracket or brace. -/
def takeOpening (t : Token) (r : Reading) : Except Fault Reading :=
  r.noteKey.map fun r => ({ r with depth := r.depth + 1, keyAllowed := true }.skip 1).push t

/-- A closing bracket or brace. -/
def takeClosing (t : Token) (r : Reading) : Except Fault Reading :=
  r.dropHere.map fun r => ({ r with depth := r.depth - 1, keyAllowed := false }.skip 1).push t

/-- A comma between brackets. -/
def takeComma (r : Reading) : Except Fault Reading :=
  (r.allowKey true).dropHere.map fun r => (r.skip 1).push .comma

/-- A hyphen in front of an item. -/
def takeItem (r : Reading) : Except Fault Reading :=
  if r.depth = 0 && !r.keyAllowed then .error .token
  else
    let opened := if r.depth = 0 then r.openBlock .blockSequence else r
    (opened.allowKey true).dropHere.map fun r => (r.skip 1).push .item

/-- A question mark in front of a key. -/
def takeKey (r : Reading) : Except Fault Reading :=
  if r.depth = 0 && !r.keyAllowed then .error .token
  else
    let opened := if r.depth = 0 then r.openBlock .blockMapping else r
    (opened.allowKey (r.depth == 0)).dropHere.map fun r => (r.skip 1).push .key

/-- A colon behind a token that waits for it. -/
def takeWaitedColon (k : KeyMark) (r : Reading) : Reading :=
  let others := r.waiting.filter fun k => k.depth != r.depth
  let known := { r with waiting := others }.insertAt k.number .key
  let opened :=
    if r.depth = 0 && known.isDeeper k.place.column then
      (known.indentTo k.place.column).insertAt k.number .blockMapping
    else known
  ((opened.allowKey false).skip 1).push .value

/-- A colon behind something longer, or behind nothing. -/
def takeBareColon (r : Reading) : Except Fault Reading :=
  if r.depth = 0 && !r.keyAllowed then .error .token
  else
    let opened := if r.depth = 0 then r.openBlock .blockMapping else r
    (opened.allowKey (r.depth == 0)).dropHere.map fun r => (r.skip 1).push .value

/-- A colon in front of a value. -/
def takeColon (r : Reading) : Except Fault Reading :=
  match r.waiting.find? fun k => k.depth == r.depth with
  | some k => .ok (r.takeWaitedColon k)
  | none => r.takeBareColon

/-- A scalar in quotes. -/
def takeQuoted (read : Nat → List Char → ReadText) (r : Reading) : Except Fault Reading :=
  match r.noteKey with
  | .error fault => .error fault
  | .ok r =>
    match read r.place.rest.length (r.place.rest.drop 1) with
    | .error fault => .error fault
    | .ok (text, rest) =>
      .ok { (r.allowKey false).push (.scalar false (String.ofList text)) with
        place := r.place.moveTo rest }

/-- A scalar without quotes. -/
def takePlain (r : Reading) : Except Fault Reading :=
  r.noteKey.map fun r =>
    let t := readPlain (r.depth != 0) (r.indent + 1) r.place.rest.length [] false r.place.rest
    { (r.allowKey t.lineEnded).push (.scalar true (String.ofList t.text)) with
      place := r.place.moveTo t.rest }

/-- Whether a plain scalar may begin with a character and what follows it. -/
def startsPlain (flow : Bool) (c : Char) (rest : List Char) : Bool :=
  !(isGap c || "-?:,[]\x7b\x7d#&*!|>'\"%@\x60".contains c) ||
    (!startsWithGap rest && (c == '-' || (!flow && (c == '?' || c == ':'))))

/-- Take the token at the front of a text that is not empty. -/
def takeToken (c : Char) (rest : List Char) (r : Reading) : Except Fault Reading :=
  let flow := r.depth != 0
  let alone := startsWithGap rest
  let marked := r.place.column == 0 && startsWithMark (c :: rest)
  if c = '%' && r.place.column == 0 then r.takeDirective
  else if c = '-' && marked then r.takeDocumentMark .documentStart
  else if c = '.' && marked then r.takeDocumentMark .documentEnd
  else if c = '[' then r.takeOpening .openBracket
  else if c = '\x7b' then r.takeOpening .openBrace
  else if c = ']' then r.takeClosing .closeBracket
  else if c = '\x7d' then r.takeClosing .closeBrace
  else if c = ',' then r.takeComma
  else if c = '-' && alone then r.takeItem
  else if c = '?' && (flow || alone) then r.takeKey
  else if c = ':' && (flow || alone) then r.takeColon
  else if c = '\'' then r.takeQuoted readSingle
  else if c = '"' then r.takeQuoted readDouble
  else if startsPlain flow c rest then r.takePlain
  else .error .token

/-- Skip what stands in front of the next token and take it. -/
def step (r : Reading) : Except Fault Reading :=
  match (r.skipGaps (r.place.rest.length + 1)).dropStale with
  | .error fault => .error fault
  | .ok r =>
    let r := r.unwind r.place.column
    match r.place.rest with
    | [] => r.takeEnd
    | c :: rest => r.takeToken c rest

/-- The number of tokens that wait for no colon, neither themselves nor behind one that does. -/
def settled (r : Reading) : Nat :=
  r.waiting.foldl (fun n k => min n k.number) r.tokens.length

/-- What counts when a text cannot be split any further: the settled tokens. -/
def endWith (fault : Fault) (r : Reading) : List Token × Option Fault :=
  (r.tokens.reverse.take r.settled, some fault)

/-- The tokens of a text, in order, and the fault that ended them, if one did. -/
def run : Nat → Reading → List Token × Option Fault
  | 0, r => (r.tokens.reverse, some .token)
  | fuel + 1, r =>
    match r.step with
    | .error fault => r.endWith fault
    | .ok next =>
      if next.finished then (next.tokens.reverse, none)
      else
        match next.dropStale with
        | .error fault => r.endWith fault
        | .ok next => run fuel next

/-- A text that nothing was read of; a byte order mark at its front is left out. -/
def ofText (cs : List Char) : Reading :=
  let place : Place := { rest := cs }
  match cs with
  | '\ufeff' :: _ => { place := place.skip 1 }
  | _ => { place }

end Reading

/-- The tokens of a text, in order, and the fault that ended them, if one did. -/
def tokens (cs : List Char) : List Token × Option Fault :=
  (Reading.ofText cs).run (cs.length + 2)

end TypedCommands.Yaml
