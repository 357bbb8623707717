import TypedCommands.Text.Blank

/-!
# Quoted bodies

A quoted value runs from its opening quote to the next quote character of the
same kind that does not follow a backslash.  Inside it a backslash directly in
front of that quote character stands for the quote; every other character,
backslashes included, is taken as written.

The scanner looks one character back and the reader one character ahead.  The
reader goes through the text with its quotes in rounds; each round reads one
character and takes one or two.

Main results:

- Theorem `scanBody_append`: a scanned body, the closing quote and the rest make
  up the scanned text.
- Theorem `length_scanQuoted_lt`: the rest is shorter than the scanned text.
- Theorem `unquote_quoted`: a text between quotes is read like its body, as long as
  no backslash stands in front of the closing quote.
- Theorem `unescape_escape`: reading what `escape` writes gives the text back.
- Theorem `length_escape`: escaping adds one character for each quote character.
-/

namespace TypedCommands.Line

open TypedCommands.Text

/--
The body up to the closing quote `q` and the text after that quote; `previous` is
the character in front of the text.  There is no result when nothing closes it.
-/
def scanBody (q previous : Char) : List Char → Option (List Char × List Char)
  | [] => none
  | c :: rest =>
    if c = q ∧ previous ≠ escapeChar then some ([], rest)
    else (scanBody q c rest).map fun found => (c :: found.1, found.2)

/--
The quoted text that an opening quote `q` begins, with both quotes, and what follows
it; `cs` is the text behind the opening quote.
-/
def scanQuoted (q : Char) (cs : List Char) : Option (List Char × List Char) :=
  (scanBody q q cs).map fun found => (q :: (found.1 ++ [q]), found.2)

/-- One round of reading a quoted text. -/
structure Round where
  /-- The place in the text where it begins. -/
  place : Nat
  /-- Whether it takes a backslash and the quote behind it, and not one character only. -/
  isPair : Bool
  /-- The character that it reads. -/
  char : Char
  deriving DecidableEq, Repr

/--
The rounds that read the rest of a text, which begins at a place, but for its last
character: there is a round as long as a character follows the one at the place.
-/
def roundsFrom (q : Char) (place : Nat) : List Char → List Round
  | c :: d :: rest =>
    if c = escapeChar ∧ d = q then ⟨place, true, q⟩ :: roundsFrom q (place + 2) rest
    else ⟨place, false, c⟩ :: roundsFrom q (place + 1) (d :: rest)
  | _ => []

/-- The rounds that read a quoted text, which begins with its quote. -/
def rounds : List Char → List Round
  | [] => []
  | q :: rest => roundsFrom q 1 rest

/-- What a quoted text stands for: the characters that its rounds read. -/
def unquote (text : List Char) : List Char := (rounds text).map (·.char)

/-- The body with each backslash and quote character `q` read as that quote character. -/
def unescape (q : Char) : List Char → List Char
  | [] => []
  | [c] => [c]
  | c :: d :: rest =>
    if c = escapeChar ∧ d = q then q :: unescape q rest else c :: unescape q (d :: rest)

/-- The text with a backslash in front of each quote character `q`. -/
def escape (q : Char) : List Char → List Char
  | [] => []
  | c :: rest => if c = q then escapeChar :: q :: escape q rest else c :: escape q rest

/-- A body and its closing quote are what was scanned of a text. -/
theorem scanBody_append {q p : Char} {cs body rest : List Char}
    (h : scanBody q p cs = some (body, rest)) : cs = body ++ q :: rest := by
  induction cs generalizing p body with
  | nil => simp [scanBody] at h
  | cons c cs ih =>
    rw [scanBody] at h
    split at h
    · next hc => simp_all
    · obtain ⟨found, hf, he⟩ := Option.map_eq_some_iff.1 h
      simp only [Prod.mk.injEq] at he
      obtain ⟨rfl, rfl⟩ := he
      simp [ih hf]

/-- Scanning a body leaves less of the text. -/
theorem length_scanBody_lt {q p : Char} {cs body rest : List Char}
    (h : scanBody q p cs = some (body, rest)) : rest.length < cs.length := by
  rw [scanBody_append h]
  simp
  omega

/-- A quoted text is a body between two quotes. -/
theorem scanQuoted_eq_some_iff {q : Char} {cs text rest : List Char} :
    scanQuoted q cs = some (text, rest) ↔
      ∃ body, scanBody q q cs = some (body, rest) ∧ text = q :: (body ++ [q]) := by
  constructor
  · intro h
    obtain ⟨⟨body, after⟩, hbody, he⟩ := Option.map_eq_some_iff.1 h
    simp only [Prod.mk.injEq] at he
    obtain ⟨rfl, rfl⟩ := he
    exact ⟨body, hbody, rfl⟩
  · rintro ⟨body, hbody, rfl⟩
    simp [scanQuoted, hbody]

theorem scanQuoted_eq_none_iff {q : Char} {cs : List Char} :
    scanQuoted q cs = none ↔ scanBody q q cs = none := by
  simp [scanQuoted]

theorem length_scanQuoted_lt {q : Char} {cs text rest : List Char}
    (h : scanQuoted q cs = some (text, rest)) : rest.length < cs.length := by
  obtain ⟨body, hbody, -⟩ := scanQuoted_eq_some_iff.1 h
  exact length_scanBody_lt hbody

/-- The rounds of the reader give the characters of the body without its escapes. -/
private theorem map_char_roundsFrom {q : Char} (place : Nat) {body : List Char}
    (h : body.getLast? ≠ some escapeChar) :
    (roundsFrom q place (body ++ [q])).map (·.char) = unescape q body := by
  fun_induction unescape q body generalizing place with
  | case1 => rfl
  | case2 c =>
    -- Only here the character ahead is the closing quote.
    have hc : c ≠ escapeChar := by simpa using h
    simp [roundsFrom, hc]
  | case3 c d rest hpair ih =>
    have hrest : rest.getLast? ≠ some escapeChar := by
      cases rest with
      | nil => simp
      | cons e rest => simpa [List.getLast?_cons_cons] using h
    simp [roundsFrom, hpair, ih _ hrest]
  | case4 c d rest hpair ih =>
    have hrest : (d :: rest).getLast? ≠ some escapeChar := by
      simpa [List.getLast?_cons_cons] using h
    have hnext := ih (place + 1) hrest
    simp only [List.cons_append] at hnext ⊢
    simp [roundsFrom, hpair, hnext]

/-- The two readings agree where the closing quote stands behind no backslash. -/
theorem unquote_quoted (q : Char) {body : List Char} (h : body.getLast? ≠ some escapeChar) :
    unquote (q :: (body ++ [q])) = unescape q body :=
  map_char_roundsFrom 1 h

/-- Escaping the quotes of a text is undone by taking the escapes away. -/
theorem unescape_escape (q : Char) (hq : q ≠ escapeChar) (s : List Char) :
    unescape q (escape q s) = s := by
  induction s with
  | nil => rfl
  | cons c s ih =>
    by_cases hc : c = q
    · subst hc
      simp [escape, unescape, ih]
    · rw [escape, if_neg hc]
      match s with
      | [] => simp [escape, unescape]
      | d :: s =>
        by_cases hd : d = q
        · subst hd
          simp only [escape, if_true] at ih ⊢
          rw [unescape, if_neg (by simp [Ne.symm hq]), ih]
        · simp only [escape, if_neg hd] at ih ⊢
          rw [unescape, if_neg (by simp [hd]), ih]

/-- Escaping adds one character for every quote. -/
theorem length_escape (q : Char) (s : List Char) :
    (escape q s).length = s.length + s.count q := by
  induction s with
  | nil => rfl
  | cons c s ih =>
    by_cases hc : c = q
    · simp [escape, hc, ih]; omega
    · simp [escape, hc, ih]; omega

end TypedCommands.Line
