import TypedCommands.Terminal.Columns

/-!
# Texts with styles

A text for a terminal may have styles, each for a stretch of it.  A style leaves no trace
in the plain text, but a text is sent to the terminal in pieces, each with the same styles
throughout.  Joiners and picture marks do not reach over the end of a piece, so that the
pieces of a line may have more or fewer columns than the line as a whole.

Main results:

- Theorem `StyledText.flatten_pieces`: the pieces of a text make up the text.
- Theorem `StyledText.cropped_of_le`: a line that fits is shown in full.
-/

namespace TypedCommands.Terminal

/-- Whether a character is a control character that texts for a terminal leave out. -/
def isDropped (c : Char) : Bool :=
  c == '\x07' || c == '\x08' || c == '\x0b' || c == '\x0c' || c == '\r'

/-- A text without the control characters that are left out. -/
def visible (cs : List Char) : List Char := cs.filter fun c => !isDropped c

/-- A stretch of a text that has a style. -/
structure Span where
  /-- The place of its first character. -/
  start : Nat
  /-- The place behind its last character. -/
  stop : Nat
  /-- Whether its style can be made out. -/
  sound : Bool := true
  deriving DecidableEq, Repr

namespace Span

/-- What is left of a span when its text ends at a place. -/
def clip (stop : Nat) (s : Span) : Span := { s with stop := min s.stop stop }

/-- A span of a text that gets further characters in front. -/
def move (n : Nat) (s : Span) : Span := { s with start := s.start + n, stop := s.stop + n }

/-- What a span covers of the characters from a place on, if anything. -/
def within? (start length : Nat) (s : Span) : Option Span :=
  let front := s.start - start
  let back := min (s.stop - start) length
  if front < back then some { s with start := front, stop := back } else none

end Span

/-- A text with styles. -/
structure StyledText where
  /-- The characters. -/
  chars : List Char
  /-- The stretches that have styles; they may be empty. -/
  spans : List Span := []
  deriving DecidableEq, Repr

namespace StyledText

/-- A text without styles. -/
def ofChars (cs : List Char) : StyledText := ⟨visible cs, []⟩

/-- Whether all styles of a text can be made out. -/
def isSound (t : StyledText) : Bool := t.spans.all (·.sound)

/-! ## Parts of texts -/

/-- Spans of a text that is cut at a place. -/
def clipSpans (stop : Nat) (spans : List Span) : List Span :=
  (spans.filter (·.start < stop)).map (·.clip stop)

/-- The first characters of a text. -/
def take (n : Nat) (t : StyledText) : StyledText :=
  if t.chars.length ≤ n then t else ⟨t.chars.take n, clipSpans n t.spans⟩

/-- Other characters in the place of those of a text; styles stay where they are. -/
def replace (cs : List Char) (t : StyledText) : StyledText :=
  if cs.length < t.chars.length then ⟨cs, clipSpans cs.length t.spans⟩ else ⟨cs, t.spans⟩

/--
Slices of given lengths of the characters from a place on; `gap` characters between them
are left out.  Empty spans get lost.
-/
def slicesFrom (spans : List Span) (gap start : Nat) (cs : List Char) :
    List Nat → List StyledText
  | [] => []
  | n :: rest =>
    ⟨cs.take n, spans.filterMap (·.within? start n)⟩ ::
      slicesFrom spans gap (start + n + gap) (cs.drop (n + gap)) rest

/-- A text in slices of given lengths; one that stays whole keeps its empty spans. -/
def divide (gap : Nat) (lengths : List Nat) (t : StyledText) : List StyledText :=
  if lengths.length ≤ 1 then [t] else slicesFrom t.spans gap 0 t.chars lengths

/-- A text with another one behind it. -/
def append (t u : StyledText) : StyledText :=
  ⟨t.chars ++ u.chars, t.spans ++ u.spans.map (·.move t.chars.length)⟩

/-- A text with blanks behind it that have no style. -/
def fill (n : Nat) (t : StyledText) : StyledText := { t with chars := t.chars ++ blanks n }

/-- A text with blanks behind it that have the styles of its end. -/
def extend (n : Nat) (t : StyledText) : StyledText :=
  ⟨t.chars ++ blanks n,
    t.spans.map fun s => if t.chars.length ≤ s.stop then { s with stop := s.stop + n } else s⟩

/-- A text with blanks in front. -/
def indent (n : Nat) (t : StyledText) : StyledText :=
  ⟨blanks n ++ t.chars, t.spans.map (·.move n)⟩

/-! ## Pieces -/

/-- Whether a style begins or ends at a place. -/
def isCut (t : StyledText) (place : Nat) : Bool :=
  t.spans.any fun s => s.start == place || s.stop == place

/-- Characters from a place on in pieces that end in front of the next cut. -/
def piecesFrom (t : StyledText) (place : Nat) : List Char → List (List Char)
  | [] => []
  | c :: rest =>
    match piecesFrom t (place + 1) rest with
    | [] => [[c]]
    | p :: ps => if t.isCut (place + 1) then [c] :: p :: ps else (c :: p) :: ps

/-- The pieces in which a text is sent to the terminal. -/
def pieces (t : StyledText) : List (List Char) := t.piecesFrom 0 t.chars

/-- The pieces from a place on make up the text. -/
theorem flatten_piecesFrom (t : StyledText) (place : Nat) (cs : List Char) :
    (t.piecesFrom place cs).flatten = cs := by
  induction cs generalizing place with
  | nil => rfl
  | cons c rest ih =>
    have hr := ih (place + 1)
    simp only [piecesFrom]
    split
    · simp_all
    · split <;> simp_all

theorem flatten_pieces (t : StyledText) : t.pieces.flatten = t.chars :=
  t.flatten_piecesFrom 0 t.chars

/-- The number of columns of pieces, each by itself. -/
def totalColumns (ps : List (List Char)) : Nat :=
  (ps.map Terminal.columns).foldl (· + ·) 0

/-- The pieces that fit into a number of columns; the last one is cut or filled up. -/
def fittingPieces (width : Nat) : List (List Char) → List (List Char)
  | [] => []
  | p :: rest =>
    let used := Terminal.columns p
    if used < width then p :: fittingPieces (width - used) rest else [resize width p]

/-- The pieces of a line that has a number of columns at most. -/
def croppedPieces (width : Nat) (t : StyledText) : List (List Char) :=
  if totalColumns t.pieces ≤ width then t.pieces else fittingPieces width t.pieces

/-- The characters of a line that has a number of columns at most. -/
def cropped (width : Nat) (t : StyledText) : List Char := (t.croppedPieces width).flatten

/-- The characters of a line that has a number of columns, with blanks that are missing. -/
def settled (width : Nat) (t : StyledText) : List Char :=
  t.cropped width ++ blanks (width - totalColumns (t.croppedPieces width))

theorem cropped_of_le {width : Nat} {t : StyledText} (h : totalColumns t.pieces ≤ width) :
    t.cropped width = t.chars := by
  simp [cropped, croppedPieces, h, flatten_pieces]

end StyledText

end TypedCommands.Terminal
