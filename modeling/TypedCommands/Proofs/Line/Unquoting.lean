import TypedCommands.Proofs.Line.Spelling

/-!
# Reading quoted texts

The scanner of quoted texts looks one character back and their reader one character
ahead, and both see the same pairs.  What the scanner finds is a value with a backslash
in front of each quote, between two quotes; the reader goes through it with one round
for each character of the value.

Main results:

- Theorem `exists_escape_of_scanQuoted`: a scanned text is a value, escaped, between quotes.
- Theorem `mem_rounds_iff`: the rounds are the characters of the value, each at the place
  where it is written.
- Theorem `readsBody_of_scanQuoted`: no round leaves the text or takes the closing quote,
  each quote inside is taken with its backslash, and the value is the body with each such
  pair replaced by the quote.
-/

namespace TypedCommands.Line

open TypedCommands.Text

variable {q : Char}

/-- The characters of the text that a round takes. -/
def Round.taken (r : Round) : List Char := if r.isPair then [escapeChar, r.char] else [r.char]

/-- What the rounds of reading `text` do, if it is `body` between two quotes `q`. -/
structure ReadsBody (q : Char) (body text : List Char) : Prop where
  /-- The characters at the place of a round and behind it are there. -/
  within : ∀ r ∈ rounds text, r.place + 1 < text.length
  /-- A round takes what stands at its place. -/
  takes : ∀ r ∈ rounds text, r.taken <+: text.drop r.place
  /-- The closing quote is not part of what a round takes. -/
  leaves_closing : ∀ r ∈ rounds text, r.place + r.taken.length < text.length
  /-- What the rounds take is the body from its first to its last character. -/
  takes_body : (rounds text).flatMap Round.taken = body
  /-- A quote inside is taken together with the backslash in front of it. -/
  takes_pair : ∀ i, i + 2 < text.length → text[i + 1]? = some q → ⟨i, true, q⟩ ∈ rounds text
  /-- The body is cut at all pairs of a backslash and the quote, and joined with the quote. -/
  replaces : ∃ pieces, body = [escapeChar, q].intercalate pieces ∧
    unquote text = [q].intercalate pieces ∧ ∀ piece ∈ pieces, q ∉ piece
  /-- For each quote inside, the value is one character shorter than the body. -/
  length_add_count : (unquote text).length + body.count q = body.length

/-! ## Escaped texts -/

/-- A text in two parts is escaped part by part. -/
theorem escape_append (q : Char) (s t : List Char) :
    escape q (s ++ t) = escape q s ++ escape q t := by
  induction s with
  | nil => rfl
  | cons c s ih =>
    by_cases hc : c = q
    · simp [escape, hc, ih]
    · simp [escape, hc, ih]

/-- Escaping adds no quotes. -/
theorem count_escape (hq : q ≠ escapeChar) (s : List Char) :
    (escape q s).count q = s.count q := by
  induction s with
  | nil => rfl
  | cons c s ih =>
    by_cases hc : c = q
    · simp [escape, hc, ih, Ne.symm hq]
    · simp [escape, hc, ih]

/-- A quote in an escaped text is the second character of an escaped quote. -/
theorem exists_append_of_getElem?_escape (hq : q ≠ escapeChar) {s : List Char} {i : Nat}
    (h : (escape q s)[i]? = some q) :
    ∃ before after, s = before ++ q :: after ∧ i = (escape q before).length + 1 := by
  induction s generalizing i with
  | nil => simp [escape] at h
  | cons c s ih =>
    by_cases hc : c = q
    · subst hc
      rw [escape, if_pos rfl] at h
      cases i with
      | zero => simp [Ne.symm hq] at h
      | succ i =>
        cases i with
        | zero => exact ⟨[], s, rfl, rfl⟩
        | succ i =>
          obtain ⟨before, after, rfl, rfl⟩ := ih (by simpa using h)
          exact ⟨c :: before, after, rfl, by simp [escape]⟩
    · rw [escape, if_neg hc] at h
      cases i with
      | zero => simp [hc] at h
      | succ i =>
        obtain ⟨before, after, rfl, rfl⟩ := ih (by simpa using h)
        exact ⟨c :: before, after, rfl, by simp [escape, hc]⟩

/-- A character in front of the first piece is in front of all. -/
private theorem cons_intercalate (separator : List Char) (c : Char) (piece : List Char)
    (pieces : List (List Char)) :
    separator.intercalate ((c :: piece) :: pieces) =
      c :: separator.intercalate (piece :: pieces) := by
  cases pieces with
  | nil => simp
  | cons next pieces => simp [List.intercalate_cons_of_ne_nil]

/-- A text and its escaped form are the same pieces, joined with the quote and with the pair. -/
theorem exists_pieces (q : Char) (s : List Char) :
    ∃ piece pieces, s = [q].intercalate (piece :: pieces) ∧
      escape q s = [escapeChar, q].intercalate (piece :: pieces) ∧
      ∀ p ∈ piece :: pieces, q ∉ p := by
  induction s with
  | nil => exact ⟨[], [], by simp, by simp [escape], by simp⟩
  | cons c s ih =>
    obtain ⟨piece, pieces, hs, hescape, hfree⟩ := ih
    by_cases hc : c = q
    · subst hc
      refine ⟨[], piece :: pieces, ?_, ?_, ?_⟩
      · rw [List.intercalate_cons_of_ne_nil (by simp), ← hs]
        rfl
      · rw [escape, if_pos rfl, List.intercalate_cons_of_ne_nil (by simp), ← hescape]
        rfl
      · intro p hp
        rcases List.mem_cons.1 hp with rfl | hp
        · simp
        · exact hfree p hp
    · refine ⟨c :: piece, pieces, ?_, ?_, ?_⟩
      · rw [cons_intercalate, ← hs]
      · rw [escape, if_neg hc, cons_intercalate, ← hescape]
      · intro p hp
        rcases List.mem_cons.1 hp with rfl | hp
        · simpa [Ne.symm hc] using hfree piece (by simp)
        · exact hfree p (by simp [hp])

/-! ## Rounds -/

theorem CanQuote.of_cons {c : Char} {s : List Char} (h : CanQuote (c :: s)) : CanQuote s := by
  cases s with
  | nil => simp [CanQuote]
  | cons d s => simpa [CanQuote, List.getLast?_cons_cons] using h

/-- A round takes its character as it is written between quotes. -/
theorem taken_eq_escape (q : Char) (place : Nat) (c : Char) :
    Round.taken ⟨place, c == q, c⟩ = escape q [c] := by
  by_cases hc : c = q
  · simp [Round.taken, escape, hc]
  · simp [Round.taken, escape, hc]

/-- The first round reads the first character; if that is a quote, the round takes a pair. -/
theorem roundsFrom_escape_cons (hq : q ≠ escapeChar) (place : Nat) {c : Char} {s : List Char}
    (hs : CanQuote (c :: s)) :
    roundsFrom q place (escape q (c :: s) ++ [q]) =
      ⟨place, c == q, c⟩ ::
        roundsFrom q (place + (escape q [c]).length) (escape q s ++ [q]) := by
  by_cases hc : c = q
  · simp [escape, roundsFrom, hc]
  · cases s with
    | nil =>
      have hlast : c ≠ escapeChar := by simpa [CanQuote] using hs
      simp [escape, roundsFrom, hc, hlast]
    | cons d s =>
      -- No quote follows the character: in front of each one there is a backslash.
      by_cases hd : d = q
      · simp [escape, roundsFrom, hc, hd, Ne.symm hq]
      · simp [escape, roundsFrom, hc, hd]

/-- The rounds over an escaped text are those of its characters. -/
theorem mem_roundsFrom_iff (hq : q ≠ escapeChar) (place : Nat) {s : List Char}
    (hs : CanQuote s) (r : Round) :
    r ∈ roundsFrom q place (escape q s ++ [q]) ↔
      ∃ before c after, s = before ++ c :: after ∧
        r = ⟨place + (escape q before).length, c == q, c⟩ := by
  induction s generalizing place with
  | nil => simp [escape, roundsFrom]
  | cons c s ih =>
    rw [roundsFrom_escape_cons hq place hs, List.mem_cons, ih _ hs.of_cons]
    have hplace (before : List Char) : place + (escape q (c :: before)).length =
        place + (escape q [c]).length + (escape q before).length := by
      rw [← List.singleton_append, escape_append, List.length_append, Nat.add_assoc]
    constructor
    · rintro (rfl | ⟨before, d, after, rfl, rfl⟩)
      · exact ⟨[], c, s, rfl, rfl⟩
      · exact ⟨c :: before, d, after, rfl, by rw [hplace before]⟩
    · rintro ⟨before, d, after, hsplit, rfl⟩
      cases before with
      | nil =>
        obtain ⟨rfl, rfl⟩ := List.cons.inj hsplit
        exact .inl rfl
      | cons e before =>
        obtain ⟨rfl, rfl⟩ := List.cons.inj hsplit
        exact .inr ⟨before, d, after, rfl, by rw [hplace before]⟩

/-- The rounds are the characters of the value, each at the place where it is written. -/
theorem mem_rounds_iff (hq : q ≠ escapeChar) {s : List Char} (hs : CanQuote s) (r : Round) :
    r ∈ rounds (q :: (escape q s ++ [q])) ↔
      ∃ before c after, s = before ++ c :: after ∧
        r = ⟨(escape q before).length + 1, c == q, c⟩ := by
  rw [rounds, mem_roundsFrom_iff hq 1 hs]
  simp only [Nat.add_comm]

/-- The rounds take the whole escaped text. -/
theorem flatMap_taken_roundsFrom (hq : q ≠ escapeChar) (place : Nat) {s : List Char}
    (hs : CanQuote s) :
    (roundsFrom q place (escape q s ++ [q])).flatMap Round.taken = escape q s := by
  induction s generalizing place with
  | nil => simp [escape, roundsFrom]
  | cons c s ih =>
    rw [roundsFrom_escape_cons hq place hs, List.flatMap_cons, taken_eq_escape,
      ih _ hs.of_cons]
    exact (escape_append q [c] s).symm

theorem unquote_escape (hq : q ≠ escapeChar) {s : List Char} (hs : CanQuote s) :
    unquote (q :: (escape q s ++ [q])) = s := by
  rw [unquote_quoted q (by rwa [getLast?_escape]), unescape_escape q hq]

theorem taken_ne_nil (r : Round) : r.taken ≠ [] := by
  rw [Round.taken]
  split <;> simp

/-- A round takes what stands at its place, and that ends in front of the closing quote. -/
theorem takes_of_mem_rounds (hq : q ≠ escapeChar) {s : List Char} (hs : CanQuote s) {r : Round}
    (hr : r ∈ rounds (q :: (escape q s ++ [q]))) :
    r.taken <+: (q :: (escape q s ++ [q])).drop r.place ∧
      r.place + r.taken.length < (q :: (escape q s ++ [q])).length := by
  obtain ⟨before, c, after, rfl, rfl⟩ := (mem_rounds_iff hq hs r).1 hr
  have htext : escape q (before ++ c :: after) =
      escape q before ++ (escape q [c] ++ escape q after) := by
    rw [escape_append, ← escape_append q [c] after, List.singleton_append]
  rw [taken_eq_escape, htext]
  constructor
  · simp
  · simp only [List.length_cons, List.length_append, List.length_nil]
    omega

/-- A quote inside an escaped text is the second character of what some round takes. -/
theorem pair_mem_rounds (hq : q ≠ escapeChar) {s : List Char} (hs : CanQuote s) {i : Nat}
    (hi : i < (escape q s).length) (hquote : (escape q s ++ [q])[i]? = some q) :
    ⟨i, true, q⟩ ∈ rounds (q :: (escape q s ++ [q])) := by
  rw [List.getElem?_append_left hi] at hquote
  obtain ⟨before, after, hsplit, rfl⟩ := exists_append_of_getElem?_escape hq hquote
  exact (mem_rounds_iff hq hs _).2 ⟨before, q, after, hsplit, by simp⟩

/-- An escaped text between quotes is read as it should be. -/
theorem readsBody_escape (hq : q ≠ escapeChar) {s : List Char} (hs : CanQuote s) :
    ReadsBody q (escape q s) (q :: (escape q s ++ [q])) where
  within r hr := by
    have htaken := List.length_pos_iff.2 (taken_ne_nil r)
    have hend := (takes_of_mem_rounds hq hs hr).2
    omega
  takes r hr := (takes_of_mem_rounds hq hs hr).1
  leaves_closing r hr := (takes_of_mem_rounds hq hs hr).2
  takes_body := flatMap_taken_roundsFrom hq 1 hs
  takes_pair i hi hquote := pair_mem_rounds hq hs (by simpa using hi) (by simpa using hquote)
  replaces := by
    obtain ⟨piece, pieces, hjoin, hescape, hfree⟩ := exists_pieces q s
    exact ⟨piece :: pieces, hescape, by rw [unquote_escape hq hs, ← hjoin], hfree⟩
  length_add_count := by rw [unquote_escape hq hs, count_escape hq, length_escape]

/-! ## Scanned texts -/

/-- No escape ends a guarded body. -/
theorem Guarded.getLast?_ne {previous : Char} {body : List Char} (h : Guarded q previous body) :
    (previous :: body).getLast? ≠ some escapeChar := by
  induction body generalizing previous with
  | nil => simpa [Guarded] using h
  | cons c body ih =>
    rw [List.getLast?_cons_cons]
    exact ih h.2

/-- What is scanned as a quoted text is a value between quotes, escaped. -/
theorem exists_escape_of_scanQuoted (hq : q ≠ escapeChar) {cs text rest : List Char}
    (h : scanQuoted q cs = some (text, rest)) :
    ∃ s, CanQuote s ∧ text = q :: (escape q s ++ [q]) ∧ q :: cs = text ++ rest := by
  obtain ⟨body, hbody, rfl⟩ := scanQuoted_eq_some_iff.1 h
  obtain ⟨rfl, hguard⟩ := (scanBody_eq_some_iff q q cs body rest).1 hbody
  have hescape : body = escape q (unescape q body) :=
    ((unescaped_iff q body _).2 rfl).eq_escape_of_guarded hq hguard fun hback => absurd hback hq
  refine ⟨unescape q body, ?_, by rw [← hescape], by simp⟩
  rw [CanQuote, ← getLast?_escape q, ← hescape]
  intro hlast
  exact hguard.getLast?_ne (by simp [List.getLast?_cons, hlast])

/--
The reader of quoted texts agrees with their scanner.  Whatever is scanned behind an opening
quote, wherever in a line, is a body between two quotes, and the reader goes through it as
`ReadsBody` says.  Of the opening quote only this matters, that it is no backslash.
-/
theorem readsBody_of_scanQuoted (hq : q ≠ escapeChar) {cs text rest : List Char}
    (h : scanQuoted q cs = some (text, rest)) :
    ∃ body, text = q :: (body ++ [q]) ∧ q :: cs = text ++ rest ∧ ReadsBody q body text := by
  obtain ⟨s, hs, rfl, htext⟩ := exists_escape_of_scanQuoted hq h
  exact ⟨escape q s, rfl, htext, readsBody_escape hq hs⟩

theorem readsBody_of_scanQuoted_path :
    scanQuoted '"' "a\\\"b\\c\" d".toList = some ("\"a\\\"b\\c\"".toList, " d".toList) ∧
      ∃ body, "\"a\\\"b\\c\"".toList = '"' :: (body ++ ['"']) ∧
        "\"a\\\"b\\c\" d".toList = "\"a\\\"b\\c\"".toList ++ " d".toList ∧
        ReadsBody '"' body "\"a\\\"b\\c\"".toList :=
  ⟨by decide, readsBody_of_scanQuoted (by decide) (by decide)⟩

end TypedCommands.Line
