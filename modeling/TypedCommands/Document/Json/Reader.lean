import TypedCommands.Number.Whole
import TypedCommands.Value

/-!
# Reading JSON texts

A strict reader of JSON texts that also takes the three words for infinities and for
no number.  Numbers with a fraction or an exponent are floating-point numbers, all
others whole numbers of any size up to the digit limit.  Of a key given twice the
last value counts, at the place of the first.  A fault names the place it was met at.

Main definitions:

- Definition `Json.read`: the value that a text writes, or what is wrong with the text.
-/

namespace TypedCommands.Json

open TypedCommands.Text

/-- What is wrong at a place of a JSON text. -/
inductive Complaint where
  | expectingValue
  | expectingName
  | expectingColon
  | expectingComma
  | extraData
  | unterminatedText
  | controlCharacter
  | escape
  | hexEscape
  | byteOrderMark
  deriving DecidableEq, Repr

/-- The wording of a complaint. -/
def Complaint.message : Complaint → String
  | .expectingValue => "Expecting value"
  | .expectingName => "Expecting property name enclosed in double quotes"
  | .expectingColon => "Expecting ':' delimiter"
  | .expectingComma => "Expecting ',' delimiter"
  | .extraData => "Extra data"
  | .unterminatedText => "Unterminated string starting at"
  | .controlCharacter => "Invalid control character at"
  | .escape => "Invalid \\escape"
  | .hexEscape => "Invalid \\uXXXX escape"
  | .byteOrderMark => "Unexpected UTF-8 BOM (decode using utf-8-sig)"

/-- Why reading stopped. -/
inductive Stop where
  /-- A complaint about the place where the rest begins. -/
  | complaint (c : Complaint) (rest : List Char)
  /-- A whole number of too many digits. -/
  | tooLong (digits : Nat)

/-- The blanks that may stand between the parts of a JSON text. -/
def isJsonBlank (c : Char) : Bool := c == ' ' || c == '\t' || c == '\n' || c == '\r'

/-- A text without the blanks at its front. -/
def skipBlanks (cs : List Char) : List Char := cs.dropWhile isJsonBlank

/-! ## Texts -/

/-- The character that a letter behind a backslash stands for. -/
def escapedChar? : Char → Option Char
  | '"' => some '"'
  | '\\' => some '\\'
  | '/' => some '/'
  | 'b' => some '\x08'
  | 'f' => some '\x0c'
  | 'n' => some '\n'
  | 'r' => some '\r'
  | 't' => some '\t'
  | _ => none

/-- The code of a character written with two surrogate codes. -/
def joinSurrogates (high low : Nat) : Nat := 0x10000 + (high - 0xD800) * 0x400 + (low - 0xDC00)

/-- The character with a code; a code that no character has becomes the replacement character. -/
def charOfCode (n : Nat) : Char := if n.isValidChar then Char.ofNat n else Char.ofNat 0xFFFD

/--
The four hexadecimal digits at the front of a text that goes on behind them, and what
follows; `here` is the text from the letter u on.
-/
def hexEscape (here : List Char) : List Char → Except Stop (Nat × List Char)
  | a :: b :: c :: d :: e :: rest =>
    match hexNumber? [a, b, c, d] with
    | some n => .ok (n, e :: rest)
    | none => .error (.complaint .hexEscape here)
  | _ => .error (.complaint .hexEscape here)

/-- The second half of a pair of surrogates at the front of a text, if there is one. -/
def lowSurrogate (rest : List Char) : Except Stop (Option (Nat × List Char)) :=
  match rest with
  | '\\' :: 'u' :: more =>
    if more.length < 5 then .ok none
    else
      match hexEscape ('u' :: more) more with
      | .error stop => .error stop
      | .ok (n, after) => .ok (if 0xDC00 ≤ n ∧ n ≤ 0xDFFF then some (n, after) else none)
  | _ => .ok none

/-- The character of an escape whose hexadecimal digits follow, and what follows it. -/
def unicodeEscape (more : List Char) : Except Stop (Char × List Char) :=
  match hexEscape ('u' :: more) more with
  | .error stop => .error stop
  | .ok (n, after) =>
    if 0xD800 ≤ n ∧ n ≤ 0xDBFF then
      match lowSurrogate after with
      | .error stop => .error stop
      | .ok (some (low, after)) => .ok (charOfCode (joinSurrogates n low), after)
      | .ok none => .ok (charOfCode n, after)
    else .ok (charOfCode n, after)

/-- Read a text behind its opening quote; `start` is the text from that quote on. -/
def readText (start : List Char) (fuel : Nat) (cs : List Char) :
    Except Stop (List Char × List Char) :=
  match fuel, cs with
  | 0, _ => .error (.complaint .unterminatedText start)
  | _, [] => .error (.complaint .unterminatedText start)
  | fuel + 1, c :: rest =>
    if c = '"' then .ok ([], rest)
    else if c = '\\' then
      match rest with
      | [] => .error (.complaint .unterminatedText start)
      | 'u' :: more =>
        match unicodeEscape more with
        | .error stop => .error stop
        | .ok (d, after) => (readText start fuel after).map fun r => (d :: r.1, r.2)
      | e :: more =>
        match escapedChar? e with
        | none => .error (.complaint .escape (c :: rest))
        | some d => (readText start fuel more).map fun r => (d :: r.1, r.2)
    else if c.toNat ≤ 0x1F then .error (.complaint .controlCharacter (c :: rest))
    else (readText start fuel rest).map fun r => (c :: r.1, r.2)

/-! ## Numbers -/

/-- The digits of the whole part of a number, and what follows; a leading zero stands alone. -/
def wholePart? (cs : List Char) : Option (List Nat × List Char) :=
  match cs with
  | '0' :: rest => some ([0], rest)
  | _ =>
    match Numeral.spanDigits asciiDigit? cs with
    | ([], _) => none
    | found => some found

/-- The fraction at the front of a text: a point and at least one digit. -/
def fraction? (cs : List Char) : Option (List Nat × List Char) :=
  match cs with
  | '.' :: rest =>
    match Numeral.spanDigits asciiDigit? rest with
    | ([], _) => none
    | found => some found
  | _ => none

/-- The exponent at the front of a text: a letter e, a sign and at least one digit. -/
def exponent? (cs : List Char) : Option (Int × List Char) :=
  match cs with
  | c :: rest =>
    if c = 'e' ∨ c = 'E' then
      let sign := Numeral.spanSign rest
      match Numeral.spanDigits asciiDigit? sign.2 with
      | ([], _) => none
      | (ds, after) => some (Whole.signed sign.1 ds, after)
    else none
  | [] => none

/-- Read a number; `here` is the text from its sign on. -/
def readNumber (here : List Char) : Except Stop (Value × List Char) :=
  let negative := here.head? == some '-'
  match wholePart? (if negative then here.drop 1 else here) with
  | none => .error (.complaint .expectingValue here)
  | some (whole, rest) =>
    let f := fraction? rest
    let afterFraction := (f.map (·.2)).getD rest
    let e := exponent? afterFraction
    let after := (e.map (·.2)).getD afterFraction
    if f.isSome || e.isSome then
      let fractionDigits := (f.map (·.1)).getD []
      let numeral : Numeral :=
        ⟨negative, whole ++ fractionDigits, (e.map (·.1)).getD 0 - fractionDigits.length⟩
      .ok (.float numeral.toDouble, after)
    else if Whole.digitLimit < whole.length then .error (.tooLong whole.length)
    else .ok (.int (Whole.signed negative whole), after)

/-! ## Values -/

/-- The words that stand for values. -/
def words : List (String × Value) :=
  [("null", .null), ("true", .bool true), ("false", .bool false), ("NaN", .float .notANumber),
    ("Infinity", .float (.infinity false)), ("-Infinity", .float (.infinity true))]

/-- The value of the word at the front of a text, and what follows it. -/
def readWord? (cs : List Char) : Option (Value × List Char) :=
  (words.find? fun w => w.1.toList.isPrefixOf cs).map fun w => (w.2, cs.drop w.1.length)

mutual

/-- Read a value. -/
def readValue : Nat → List Char → Except Stop (Value × List Char)
  | 0, cs => .error (.complaint .expectingValue cs)
  | _ + 1, [] => .error (.complaint .expectingValue [])
  | fuel + 1, c :: rest =>
    if c = '"' then
      (readText (c :: rest) (rest.length + 1) rest).map fun r =>
        (.text (String.ofList r.1), r.2)
    else if c = '[' then
      match skipBlanks rest with
      | ']' :: after => .ok (.list [], after)
      | items => (readItems fuel items).map fun r => (.list r.1, r.2)
    else if c = '\x7b' then
      match skipBlanks rest with
      | '\x7d' :: after => .ok (.dict [], after)
      | members =>
        (readMembers fuel members).map fun r => (.dict (assocOfPairs sameText r.1), r.2)
    else
      match readWord? (c :: rest) with
      | some found => .ok found
      | none => readNumber (c :: rest)

/-- Read the items of a list, the first of them at the front, and the closing bracket. -/
def readItems : Nat → List Char → Except Stop (List Value × List Char)
  | 0, cs => .error (.complaint .expectingValue cs)
  | fuel + 1, cs =>
    match readValue fuel cs with
    | .error stop => .error stop
    | .ok (v, after) =>
      match skipBlanks after with
      | ']' :: rest => .ok ([v], rest)
      | ',' :: rest => (readItems fuel (skipBlanks rest)).map fun r => (v :: r.1, r.2)
      | other => .error (.complaint .expectingComma other)

/-- Read the members of an object, the first of them at the front, and the closing brace. -/
def readMembers : Nat → List Char → Except Stop (List (Value × Value) × List Char)
  | 0, cs => .error (.complaint .expectingName cs)
  | fuel + 1, cs =>
    match cs with
    | '"' :: name =>
      match readText cs (name.length + 1) name with
      | .error stop => .error stop
      | .ok (key, afterKey) =>
        match skipBlanks afterKey with
        | ':' :: value =>
          match readValue fuel (skipBlanks value) with
          | .error stop => .error stop
          | .ok (v, after) =>
            let entry := (Value.text (String.ofList key), v)
            match skipBlanks after with
            | '\x7d' :: rest => .ok ([entry], rest)
            | ',' :: rest => (readMembers fuel (skipBlanks rest)).map fun r => (entry :: r.1, r.2)
            | other => .error (.complaint .expectingComma other)
        | other => .error (.complaint .expectingColon other)
    | other => .error (.complaint .expectingName other)

end

/-- Read a whole text. -/
def readAll (cs : List Char) : Except Stop Value :=
  match cs with
  | '\ufeff' :: _ => .error (.complaint .byteOrderMark cs)
  | _ =>
    match readValue (2 * cs.length + 2) (skipBlanks cs) with
    | .error stop => .error stop
    | .ok (v, after) =>
      match skipBlanks after with
      | [] => .ok v
      | other => .error (.complaint .extraData other)

/-- Why a text is no JSON text. -/
inductive Fault where
  /-- A complaint with the line, the column and the index of its place. -/
  | complaint (c : Complaint) (line column index : Nat)
  /-- A whole number of too many digits. -/
  | tooLong (digits : Nat)
  deriving DecidableEq, Repr

/-- The wording of a fault. -/
def Fault.message : Fault → String
  | .complaint c line column index =>
    c.message ++ ": line " ++ toString line ++ " column " ++ toString column ++ " (char " ++
      toString index ++ ")"
  | .tooLong digits => Whole.tooLong digits

/-- The fault of reading that stopped, with places counted in the whole text. -/
def Stop.fault (whole : List Char) : Stop → Fault
  | .tooLong digits => .tooLong digits
  | .complaint c rest =>
    let before := whole.take (whole.length - rest.length)
    .complaint c (before.count '\n' + 1)
      ((before.reverse.takeWhile (· != '\n')).length + 1) before.length

/-- The value that a JSON text writes. -/
def read (text : String) : Except Fault Value :=
  match readAll text.toList with
  | .ok v => .ok v
  | .error stop => .error (stop.fault text.toList)

end TypedCommands.Json
