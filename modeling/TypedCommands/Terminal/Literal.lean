import TypedCommands.Number.Whole
import TypedCommands.Text.Hex

/-!
# Literals

Texts that write a value and compute nothing: numerals, texts and bytes in quotes, the
words for truth values and nothing, three points, and tuples, sets and dictionaries of
literals.  A numeral may have a sign, and a real one may be followed by an imaginary one.

Main definitions:

- Definition `isLiteral`: a text is a literal.
-/

namespace TypedCommands.Terminal.Literal

open TypedCommands.Text

/-- What matters of a literal for those around it. -/
inductive Kind where
  /-- A numeral: whether it is imaginary, and whether it has a sign. -/
  | number (imaginary signed : Bool)
  /-- Another value that can be a key. -/
  | fixed
  /-- A value that can be no key. -/
  | changing
  deriving DecidableEq, Repr

/-- Whether a value can be a key. -/
def Kind.canBeKey (k : Kind) : Bool := k != .changing

/-- What was read, and what follows it. -/
abbrev Read (α : Type) := Option (α × List Char)

/-! ## Gaps -/

/-- Skip blanks between the parts of a literal; inside brackets also line ends and comments. -/
def skipGap (inside : Bool) : Nat → List Char → List Char
  | 0, cs => cs
  | fuel + 1, cs =>
    match cs with
    | '\\' :: '\n' :: rest => skipGap inside fuel rest
    | c :: rest =>
      if c == ' ' || c == '\t' || c == '\x0c' then skipGap inside fuel rest
      else if inside && (c == '\n' || c == '\r') then skipGap inside fuel rest
      else if inside && c == '#' then skipGap inside fuel (rest.dropWhile (· != '\n'))
      else cs
    | [] => []

/-- Skip a gap. -/
def gap (inside : Bool) (cs : List Char) : List Char := skipGap inside (cs.length + 1) cs

/-! ## Numerals -/

/-- The digits behind the first one, where an underscore may stand in front of each. -/
def skipDigits (isDigit : Char → Bool) : List Char → List Char
  | '_' :: c :: rest => if isDigit c then skipDigits isDigit rest else '_' :: c :: rest
  | c :: rest => if isDigit c then skipDigits isDigit rest else c :: rest
  | [] => []

/-- What follows one digit or more, where an underscore may stand between two of them. -/
def digits? (isDigit : Char → Bool) : List Char → Option (List Char)
  | c :: rest => if isDigit c then some (skipDigits isDigit rest) else none
  | [] => none

/-- The digits of a base behind the letter that stands for it. -/
def baseDigit? (letter : Char) : Option (Char → Bool) :=
  if letter == 'x' || letter == 'X' then some fun c => (hexValue? c).isSome
  else if letter == 'o' || letter == 'O' then some fun c => '0' ≤ c && c ≤ '7'
  else if letter == 'b' || letter == 'B' then some fun c => c == '0' || c == '1'
  else none

/-- What follows an exponent, if there is one. -/
def skipExponent (cs : List Char) : List Char :=
  match cs with
  | e :: rest =>
    if e == 'e' || e == 'E' then
      let unsigned :=
        match rest with
        | '+' :: more => more
        | '-' :: more => more
        | more => more
      (digits? Char.isDigit unsigned).getD cs
    else cs
  | [] => []

/-- What follows a point and the digits behind it, if there is one. -/
def skipFraction (cs : List Char) : List Char :=
  match cs with
  | '.' :: rest => (digits? Char.isDigit rest).getD rest
  | _ => cs

/-- Read a numeral in base ten; whole numbers but zero begin with no zero. -/
def readDecimal (cs : List Char) : Read Kind :=
  let whole := (digits? Char.isDigit cs).getD cs
  let rest := skipExponent (skipFraction whole)
  let written := cs.take (cs.length - whole.length) |>.filter Char.isDigit
  match rest with
  | c :: more =>
    if c == 'j' || c == 'J' then some (.number true false, more)
    else judge written whole rest
  | [] => judge written whole rest
where
  /-- Judge the digits in front of the point. -/
  judge (written whole rest : List Char) : Read Kind :=
    if rest.length < whole.length then some (.number false false, rest)
    else if written.head? == some '0' && written.any (· != '0') then none
    else if Whole.digitLimit < written.length then none
    else some (.number false false, rest)

/-- Read a numeral. -/
def readNumber (cs : List Char) : Read Kind :=
  match cs with
  | '0' :: letter :: rest =>
    match baseDigit? letter with
    | none => readDecimal cs
    | some isDigit =>
      let digits :=
        match rest with
        | '_' :: more => more
        | more => more
      (digits? isDigit digits).map fun after => (.number false false, after)
  | cs => readDecimal cs

/-! ## Texts and bytes -/

/-- The number of digits that follow a letter behind a backslash. -/
def escapeLength? (bytes : Bool) (c : Char) : Option Nat :=
  if c == 'x' then some 2
  else if bytes then none
  else if c == 'u' then some 4
  else if c == 'U' then some 8
  else none

/-- Whether what follows a backslash makes sense. -/
def isEscape (bytes : Bool) (cs : List Char) : Bool :=
  match cs with
  | [] => false
  | c :: rest =>
    match escapeLength? bytes c with
    | none => bytes || c != 'N'
    | some length =>
      match hexNumber? (rest.take length) with
      | none => false
      | some n => rest.length ≥ length && n ≤ 0x10FFFF

/-- What follows the closing quotes of a text; `quotes` is them. -/
def skipQuoted (raw bytes : Bool) (quotes : List Char) : Nat → List Char → Option (List Char)
  | 0, _ => none
  | fuel + 1, cs =>
    if quotes.isPrefixOf cs then some (cs.drop quotes.length)
    else
      match cs with
      | [] => none
      | '\\' :: c :: rest =>
        if (raw || isEscape bytes (c :: rest)) && !(bytes && 0x80 ≤ c.toNat) then
          skipQuoted raw bytes quotes fuel rest
        else none
      | c :: rest =>
        if (c == '\n' && quotes.length == 1) || (bytes && 0x80 ≤ c.toNat) then none
        else skipQuoted raw bytes quotes fuel rest

/-- Whether a text begins with a quote. -/
def startsQuoted (cs : List Char) : Bool := cs.head? == some '"' || cs.head? == some '\''

/-- The letters in front of a quote: whether the text is raw, and whether it is bytes. -/
def quoteFlags? (letters : List Char) : Option (Bool × Bool) :=
  let small := letters.map Char.toLower
  if small.isEmpty || small == ['u'] then some (false, false)
  else if small == ['r'] then some (true, false)
  else if small == ['b'] then some (false, true)
  else if small == ['b', 'r'] || small == ['r', 'b'] then some (true, true)
  else none

/-- Read one text or bytes in quotes; the answer tells whether it is bytes. -/
def readQuoted (cs : List Char) : Read Bool :=
  let letters := cs.takeWhile Char.isAlpha
  let rest := cs.drop letters.length
  match quoteFlags? letters, rest with
  | some (raw, bytes), q :: more =>
    if startsQuoted rest then
      let quotes := if [q, q].isPrefixOf more then [q, q, q] else [q]
      (skipQuoted raw bytes quotes (rest.length + 1) (rest.drop quotes.length)).map (bytes, ·)
    else none
  | _, _ => none

/-- Whether a text begins with letters and a quote. -/
def startsText (cs : List Char) : Bool := startsQuoted (cs.dropWhile Char.isAlpha)

/-- Read texts that follow each other; all of them are bytes, or none is. -/
def readTexts (inside : Bool) : Nat → List Char → Read Kind
  | 0, _ => none
  | fuel + 1, cs =>
    match readQuoted cs with
    | none => none
    | some (bytes, rest) =>
      let next := gap inside rest
      if startsText next then
        match readQuoted next with
        | none => none
        | some (more, _) => if more == bytes then readTexts inside fuel next else none
      else some (.fixed, rest)

/-! ## Words -/

/-- Whether a character may stand in a word. -/
def isWordLetter (c : Char) : Bool := c.isAlphanum || c == '_' || 0x80 ≤ c.toNat

/-- Read a word: a truth value, nothing, or the empty set. -/
def readWord (inside : Bool) (cs : List Char) : Read Kind :=
  let word := String.ofList (cs.takeWhile isWordLetter)
  let rest := cs.dropWhile isWordLetter
  if word = "True" || word = "False" || word = "None" then some (.fixed, rest)
  else if word = "set" then
    match gap inside rest with
    | '(' :: more =>
      match gap true more with
      | ')' :: rest => some (.changing, rest)
      | _ => none
    | _ => none
  else none

/-! ## Compound literals -/

/-- What items in brackets were, and what follows the closing bracket. -/
structure Items where
  /-- The kinds of the items. -/
  kinds : List Kind
  /-- Whether there was a comma. -/
  separated : Bool
  /-- What follows. -/
  rest : List Char

/-- The kind of items between round brackets. -/
def Items.kind (i : Items) : Kind :=
  match i.kinds, i.separated with
  | [k], false => k
  | ks, _ => if ks.all Kind.canBeKey then .fixed else .changing

mutual

/-- Read a literal without a sign. -/
def readAtom (inside : Bool) : Nat → List Char → Read Kind
  | 0, _ => none
  | fuel + 1, cs =>
    match cs with
    | [] => none
    | '.' :: '.' :: '.' :: rest => some (.fixed, rest)
    | '(' :: rest => (readItems ')' fuel rest).map fun i => (i.kind, i.rest)
    | '\x7b' :: rest => readBraces fuel rest
    | c :: rest =>
      if c.isDigit || (c == '.' && (rest.head?.map Char.isDigit).getD false) then
        readNumber (c :: rest)
      else if startsText (c :: rest) then readTexts inside (rest.length + 2) (c :: rest)
      else readWord inside (c :: rest)

/-- Read a literal with a sign in front of it, if it has one. -/
def readSigned (inside : Bool) : Nat → List Char → Read Kind
  | 0, _ => none
  | fuel + 1, cs =>
    match cs with
    | c :: rest =>
      if c == '+' || c == '-' then
        match readAtom inside fuel (gap inside rest) with
        | some (.number imaginary false, rest) => some (.number imaginary true, rest)
        | _ => none
      else readAtom inside fuel cs
    | [] => none

/-- Read a literal. -/
def readOne (inside : Bool) : Nat → List Char → Read Kind
  | 0, _ => none
  | fuel + 1, cs =>
    match readSigned inside fuel (gap inside cs) with
    | none => none
    | some (kind, rest) =>
      match gap inside rest with
      | c :: more =>
        if c == '+' || c == '-' then
          match kind, readAtom inside fuel (gap inside more) with
          | .number false _, some (.number true false, rest) => some (.fixed, rest)
          | _, _ => none
        else some (kind, rest)
      | [] => some (kind, rest)

/-- Read items with commas between them and the closing bracket. -/
def readItems (closing : Char) : Nat → List Char → Option Items
  | 0, _ => none
  | fuel + 1, cs =>
    match gap true cs with
    | [] => none
    | c :: rest =>
      if c == closing then some ⟨[], false, rest⟩
      else
        match readOne true fuel (c :: rest) with
        | none => none
        | some (kind, rest) =>
          match gap true rest with
          | [] => none
          | d :: rest =>
            if d == closing then some ⟨[kind], false, rest⟩
            else if d == ',' then
              (readItems closing fuel rest).map fun i => ⟨kind :: i.kinds, true, i.rest⟩
            else none

/-- Read a set or a dictionary behind its opening brace. -/
def readBraces : Nat → List Char → Read Kind
  | 0, _ => none
  | fuel + 1, cs =>
    match gap true cs with
    | [] => none
    | '\x7d' :: rest => some (.changing, rest)
    | cs =>
      match readOne true fuel cs with
      | none => none
      | some (first, rest) =>
        if first.canBeKey then
          match gap true rest with
          | ':' :: rest => readEntry fuel rest
          | '\x7d' :: rest => some (.changing, rest)
          | ',' :: rest =>
            match readItems '\x7d' fuel rest with
            | none => none
            | some i => if i.kinds.all Kind.canBeKey then some (.changing, i.rest) else none
          | _ => none
        else none

/-- Read the rest of a dictionary from the value of an entry. -/
def readEntry : Nat → List Char → Read Kind
  | 0, _ => none
  | fuel + 1, cs =>
    match readOne true fuel cs with
    | none => none
    | some (_, rest) =>
      match gap true rest with
      | '\x7d' :: rest => some (.changing, rest)
      | ',' :: rest => readEntries fuel rest
      | _ => none

/-- Read the rest of a dictionary from the key of an entry. -/
def readEntries : Nat → List Char → Read Kind
  | 0, _ => none
  | fuel + 1, cs =>
    match gap true cs with
    | [] => none
    | '\x7d' :: rest => some (.changing, rest)
    | cs =>
      match readOne true fuel cs with
      | none => none
      | some (key, rest) =>
        match gap true rest with
        | ':' :: rest => if key.canBeKey then readEntry fuel rest else none
        | _ => none

end

/-- Whether literals with commas between them and nothing else follow. -/
def areLiterals : Nat → List Char → Bool
  | 0, _ => false
  | fuel + 1, cs =>
    match readOne false (4 * cs.length + 4) cs with
    | none => false
    | some (_, rest) =>
      match gap false rest with
      | ',' :: more => (gap true more).isEmpty || areLiterals fuel more
      | rest => (gap true rest).isEmpty

/-- Whether a text is a literal, or several with commas between them. -/
def isLiteral (cs : List Char) : Bool := areLiterals (cs.length + 1) cs

end TypedCommands.Terminal.Literal
