/-!
# Blank and control characters

The two character classes that the line scanner tells apart.  Blanks separate
arguments: the Unicode white space together with the four information
separators.  Control characters are the category `Cc`; five of them are blanks
as well, and there the blank reading wins.

Main results:

- Theorem `isWord_iff`: a word character is neither blank, nor a control
  character, nor the name separator.
-/

namespace TypedCommands.Text

/-- A blank separates arguments: Unicode white space and U+001C to U+001F. -/
def isBlank (c : Char) : Bool :=
  let n := c.toNat
  (0x09 ≤ n && n ≤ 0x0D) || (0x1C ≤ n && n ≤ 0x20) || n == 0x85 || n == 0xA0 ||
    n == 0x1680 || (0x2000 ≤ n && n ≤ 0x200A) || n == 0x2028 || n == 0x2029 ||
    n == 0x202F || n == 0x205F || n == 0x3000

/-- A control character is one of U+0000 to U+001F or U+007F to U+009F. -/
def isControl (c : Char) : Bool :=
  let n := c.toNat
  n ≤ 0x1F || (0x7F ≤ n && n ≤ 0x9F)

/-- The character between an argument's name and its value. -/
def nameSeparator : Char := '='

/-- The character that makes a quote character after it literal. -/
def escapeChar : Char := '\\'

/-- The two characters that may open and close a quoted value. -/
def quoteChars : List Char := ['"', '\'']

/-- Whether a character opens a quoted value. -/
def isQuote (c : Char) : Bool := c == '"' || c == '\''

/-- A word character may stand in a bare word at any place but, for quotes, the first. -/
def isWord (c : Char) : Bool := !isBlank c && c != nameSeparator && !isControl c

theorem isWord_iff (c : Char) :
    isWord c = true ↔ isBlank c = false ∧ c ≠ nameSeparator ∧ isControl c = false := by
  simp [isWord, and_assoc]

theorem mem_quoteChars_iff (c : Char) : c ∈ quoteChars ↔ isQuote c = true := by
  simp [quoteChars, isQuote]

/-- The first character that is left when a class is dropped is not of the class. -/
theorem not_of_dropWhile_eq_cons {p : Char → Bool} {cs rest : List Char} {c : Char}
    (h : cs.dropWhile p = c :: rest) : p c = false := by
  have hhead := List.head?_dropWhile_not p cs
  rw [h] at hhead
  simpa using hhead

/-- The text without the characters of a class at both ends. -/
def trimWhere (p : Char → Bool) (cs : List Char) : List Char :=
  ((cs.dropWhile p).reverse.dropWhile p).reverse

/-- The text without the blanks at both ends. -/
def trimBlanks (cs : List Char) : List Char := trimWhere isBlank cs

/-- The number of bytes a text takes in UTF-8. -/
def utf8Length : List Char → Nat
  | [] => 0
  | c :: rest => c.utf8Size + utf8Length rest

end TypedCommands.Text
