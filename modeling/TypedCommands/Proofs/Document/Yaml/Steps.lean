import TypedCommands.Document.Yaml.Token
import TypedCommands.Proofs.Document.Yaml.PlainText

/-!
# Steps of splitting a text into tokens

What one step does outside of brackets, where no token waits for a colon: an item, a key
with its colon, a value, and the end.  Each is told by where it leads to, so that the steps
of a whole text can be put one behind the other; blocks end in front of the token that is
not inside them any more.

Main results:

- Theorem `Comes.item`, `Comes.key`, `Comes.value`: what is read of an item's hyphen, of a key
  and its colon, and of a value.
- Theorem `Comes.end_yields`: what is read at the end.
-/

namespace TypedCommands.Yaml

/-! ## Places -/

namespace Place

/-- Skipping is done in one go or in two. -/
theorem skip_add (m n : Nat) (p : Place) : p.skip (m + n) = (p.skip m).skip n := by
  induction m generalizing p with
  | zero => rw [Nat.zero_add]; rfl
  | succ m ih =>
    rw [Nat.succ_add, skip, skip]
    split
    · next hp =>
      cases n with
      | zero => rfl
      | succ n => rw [skip, hp]
    · split <;> exact ih _

/-- Characters of one line are skipped by their number. -/
theorem skip_inline {p : Place} (front : List Char) {rest : List Char} (h : p.rest = front ++ rest)
    (hfront : ∀ c ∈ front, isBreak c = false ∧ c ≠ '\ufeff') :
    p.skip front.length =
      ⟨rest, p.index + front.length, p.line, p.column + front.length⟩ := by
  induction front generalizing p with
  | nil =>
    obtain ⟨rest', index, line, column⟩ := p
    rw [show rest' = rest from h]
    rfl
  | cons c front ih =>
    obtain ⟨hc, hmark⟩ := hfront c List.mem_cons_self
    simp only [isBreak, Bool.or_eq_false_iff, beq_eq_false_iff_ne] at hc
    rw [List.length_cons, skip, h, List.cons_append]
    simp only [hc.2, hmark, if_false, beq_eq_false_iff_ne.mpr hc.1, Bool.false_and,
      Bool.or_false, Bool.false_eq_true]
    rw [ih rfl fun d hd => hfront d (List.mem_cons_of_mem _ hd)]
    simp only [mk.injEq, true_and]
    omega

theorem skip_char {p : Place} {c : Char} {rest : List Char} (h : p.rest = c :: rest)
    (hc : isBreak c = false) (hmark : c ≠ '\ufeff') :
    p.skip 1 = ⟨rest, p.index + 1, p.line, p.column + 1⟩ :=
  skip_inline [c] h (by simp [hc, hmark])

theorem skip_line {p : Place} {rest : List Char} (h : p.rest = '\n' :: rest) :
    p.skip 1 = ⟨rest, p.index + 1, p.line + 1, 0⟩ := by
  rw [skip, h]
  rfl

theorem rest_moveTo {p : Place} (front : List Char) {rest : List Char}
    (h : p.rest = front ++ rest) :
    (p.moveTo rest).rest = rest := by
  simp [moveTo, rest_skip, h]

theorem moveTo_eq_skip {p : Place} (front : List Char) {rest : List Char}
    (h : p.rest = front ++ rest) :
    p.moveTo rest = p.skip front.length := by
  simp [moveTo, h]

theorem moveTo_self (p : Place) : p.moveTo p.rest = p := by
  simp [moveTo, skip]

/-- Two moves are one. -/
theorem moveTo_moveTo {p : Place} {front middle rest : List Char}
    (h : p.rest = front ++ (middle ++ rest)) :
    (p.moveTo (middle ++ rest)).moveTo rest = p.moveTo rest := by
  have hmiddle : (p.skip front.length).rest = middle ++ rest := by simp [rest_skip, h]
  have hwhole : p.rest = front ++ middle ++ rest := by rw [h, List.append_assoc]
  rw [moveTo_eq_skip _ h, moveTo_eq_skip _ hmiddle, moveTo_eq_skip _ hwhole, List.length_append,
    skip_add]

theorem isBreak_of_mem_replicate {n : Nat} {c : Char} (h : c ∈ List.replicate n ' ') :
    isBreak c = false ∧ c ≠ '\ufeff' := by
  rw [List.eq_of_mem_replicate h]
  exact ⟨rfl, by decide⟩

/-- Skipped blanks count as columns. -/
theorem column_skip_blanks {p : Place} {n : Nat} {rest : List Char}
    (h : p.rest = List.replicate n ' ' ++ rest) : (p.skip n).column = p.column + n := by
  have hskip := skip_inline _ h fun _ => isBreak_of_mem_replicate
  rw [List.length_replicate] at hskip
  rw [hskip]

/-- Behind a line end the columns are counted anew. -/
theorem column_moveTo_line {p : Place} (front : List Char) {rest : List Char} {n : Nat}
    (h : p.rest = front ++ '\n' :: (List.replicate n ' ' ++ rest)) :
    (p.moveTo rest).column = n := by
  have hfront : (p.skip front.length).rest = '\n' :: (List.replicate n ' ' ++ rest) := by
    simp [rest_skip, h]
  have hmove : p.moveTo rest = ((p.skip front.length).skip 1).skip n := by
    rw [← skip_add, ← skip_add, moveTo_eq_skip (front ++ '\n' :: List.replicate n ' ')
      (by simp [h])]
    congr 1
    simp
    omega
  rw [hmove, column_skip_blanks (by rw [skip_line hfront]), skip_line hfront]
  simp

end Place

/-! ## Letters -/

theorem isGap_of_isLower {c : Char} (hc : c.isLower = true) : isGap c = false :=
  isGap_eq_false_of (by decide) hc

/-- A letter ends no line and is counted. -/
theorem inline_of_isLower {c : Char} (hc : c.isLower = true) :
    isBreak c = false ∧ c ≠ '\ufeff' := by
  refine ⟨?_, by rintro rfl; cases hc⟩
  by_contra hbreak
  have hgap := isGap_of_isLower hc
  rw [isGap_of_isBreak (by simpa using hbreak)] at hgap
  cases hgap

/-! ## Runs -/

namespace Reading

/-- From here on a text is split into tokens, with all fuel that is long enough. -/
def Yields (r : Reading) (ts : List Token) : Prop :=
  ∀ fuel, r.place.rest.length + 2 ≤ fuel → r.run fuel = (ts, none)

/-- Whatever is read from a later point on is read from here on. -/
def LeadsTo (r next : Reading) : Prop := ∀ ts, next.Yields ts → r.Yields ts

theorem LeadsTo.trans {r s t : Reading} (hrs : r.LeadsTo s) (hst : s.LeadsTo t) : r.LeadsTo t :=
  fun ts h => hrs ts (hst ts h)

/-- One step leads on if it leaves less of the text. -/
theorem LeadsTo.of_step {r next : Reading} (hstep : r.step = .ok next)
    (hfinished : next.finished = false) (hstale : next.dropStale = .ok next)
    (hlength : next.place.rest.length < r.place.rest.length) : r.LeadsTo next := by
  intro ts h fuel hfuel
  obtain ⟨fuel, rfl⟩ : ∃ n, fuel = n + 1 := ⟨fuel - 1, by omega⟩
  simp [run, hstep, hfinished, hstale, h fuel (by omega)]

/-- A text whose end is read next. -/
theorem Yields.of_finished {r next : Reading} (hstep : r.step = .ok next)
    (hfinished : next.finished = true) : r.Yields next.tokens.reverse := by
  intro fuel hfuel
  obtain ⟨fuel, rfl⟩ : ∃ n, fuel = n + 1 := ⟨fuel - 1, by omega⟩
  simp [run, hstep, hfinished]

theorem dropStale_of_waiting {r : Reading} (h : r.waiting = []) : r.dropStale = .ok r := by
  obtain ⟨_, _, _, _, _, _, waiting, _⟩ := r
  subst h
  rfl

/-! ## Between tokens -/

/-- A reading outside of brackets in which no token waits for a colon. -/
abbrev idle (place : Place) (tokens : List Token) (indent : Int) (outer : List Int)
    (keyAllowed : Bool) : Reading :=
  { place, tokens, indent, outer, keyAllowed }

/-- A text that begins with a token, or an empty one. -/
def StartsToken (cs : List Char) : Prop := ∀ c ∈ cs.head?, isGap c = false ∧ c ≠ '#'

/-- A token starts with no line end. -/
theorem readBreak?_of_startsToken {cs : List Char} (h : StartsToken cs) :
    readBreak? cs = none := by
  cases cs with
  | nil => rfl
  | cons c cs => exact readBreak?_of_isGap_eq_false (h c rfl).1 cs

/-- Blanks in front of a token are skipped up to it. -/
theorem dropWhile_of_startsToken {cs : List Char} (h : StartsToken cs) (n : Nat) :
    (List.replicate n ' ' ++ cs).dropWhile (· == ' ') = cs := by
  rw [List.dropWhile_append_of_pos fun b hb => by rw [List.eq_of_mem_replicate hb]; rfl]
  cases cs with
  | nil => rfl
  | cons c cs =>
    have hblank : c ≠ ' ' := by
      rintro rfl
      cases (h ' ' rfl).1
    rw [List.dropWhile_cons_of_neg (by simpa using hblank)]

theorem head?_of_startsToken {cs : List Char} (h : StartsToken cs) : cs.head? ≠ some '#' :=
  fun hc => (h '#' hc).2 rfl

/-- Blanks in front of a token are skipped. -/
theorem skipGaps_blanks {r : Reading} {n : Nat} {rest : List Char}
    (h : r.place.rest = List.replicate n ' ' ++ rest) (hrest : StartsToken rest) (fuel : Nat) :
    r.skipGaps (fuel + 1) = { r with place := r.place.moveTo rest } := by
  have hdrop := dropWhile_of_startsToken hrest n
  rw [← h] at hdrop
  rw [skipGaps]
  simp only [hdrop, head?_of_startsToken hrest, if_false, readBreak?_of_startsToken hrest]

/-- A line end in front of a token is skipped, and the blanks behind it. -/
theorem skipGaps_line {r : Reading} (hdepth : r.depth = 0) {n : Nat} {rest : List Char}
    (h : r.place.rest = '\n' :: (List.replicate n ' ' ++ rest)) (hrest : StartsToken rest)
    (fuel : Nat) :
    r.skipGaps (fuel + 2) = { r with place := r.place.moveTo rest, keyAllowed := true } := by
  have hbreak : readBreak? r.place.rest = some ('\n', List.replicate n ' ' ++ rest) := by
    rw [h]
    rfl
  have hdrop : r.place.rest.dropWhile (· == ' ') = r.place.rest := by
    rw [h, List.dropWhile_cons_of_neg (by decide)]
  have hhead : r.place.rest.head? ≠ some '#' := by simp [h]
  rw [skipGaps]
  simp only [hdrop, hhead, if_false, hbreak, hdepth, Place.moveTo_self]
  have hline : r.place.rest = ['\n'] ++ (List.replicate n ' ' ++ rest) := h
  rw [skipGaps_blanks (Place.rest_moveTo _ hline) hrest]
  simp [Place.moveTo_moveTo hline]

/-! ## What comes next -/

/--
The next token is looked for at a text and a column, with the blocks ended that the column is
not inside of.
-/
def Comes (r : Reading) (tokens : List Token) (indent : Int) (outer : List Int)
    (rest : List Char) (column : Nat) : Prop :=
  rest.length ≤ r.place.rest.length ∧ ∃ (before : Reading) (place : Place),
    r.skipGaps (r.place.rest.length + 1) = before ∧ before.waiting = [] ∧
      before.unwind before.place.column = idle place tokens indent outer true ∧
      place.rest = rest ∧ place.column = column

variable {r : Reading} {tokens : List Token} {indent : Int} {outer : List Int}
  {rest : List Char} {column : Nat}

/-- In front of a character the next step takes a token. -/
theorem Comes.step_cons {c : Char} (h : r.Comes tokens indent outer (c :: rest) column) :
    ∃ place : Place, place.rest = c :: rest ∧ place.column = column ∧
      r.step = (idle place tokens indent outer true).takeToken c rest := by
  obtain ⟨-, before, place, hskip, hwaiting, hunwind, hrest, hcolumn⟩ := h
  refine ⟨place, hrest, hcolumn, ?_⟩
  rw [step, hskip, dropStale_of_waiting hwaiting]
  simp only [hunwind, hrest]

/-- At the end of the text the next step takes the end. -/
theorem Comes.step_nil (h : r.Comes tokens indent outer [] column) :
    ∃ place : Place, r.step = (idle place tokens indent outer true).takeEnd := by
  obtain ⟨-, before, place, hskip, hwaiting, hunwind, hrest, -⟩ := h
  refine ⟨place, ?_⟩
  rw [step, hskip, dropStale_of_waiting hwaiting]
  simp only [hunwind, hrest]

/-- Ending the blocks that a column is not inside of. -/
def Unwinds (column : Nat) (tokens : List Token) (indent : Int) (outer : List Int)
    (tokens' : List Token) (indent' : Int) (outer' : List Int) : Prop :=
  ∀ place : Place, (idle place tokens indent outer true).unwind column =
    idle place tokens' indent' outer' true

theorem Unwinds.of_le (h : indent ≤ (column : Int)) :
    Unwinds column tokens indent outer tokens indent outer := by
  intro place
  simp [unwind, unwindTo, Int.not_lt.mpr h]

/-- The innermost of two blocks ends. -/
theorem Unwinds.blockEnd {inner : Int} (hinner : (column : Int) < inner)
    (h : indent ≤ (column : Int)) :
    Unwinds column tokens inner (indent :: outer) (.blockEnd :: tokens) indent outer := by
  intro place
  simp [unwind, unwindTo, hinner, Int.not_lt.mpr h]

section

variable {place : Place} {tokens' : List Token} {indent' : Int} {outer' : List Int}

/-- A reading comes to what lies behind the gaps. -/
theorem comes_of_skipGaps {allowed : Bool} (hrest : place.rest = rest)
    (hcolumn : place.column = column) {start : Place} (hlength : rest.length ≤ start.rest.length)
    (hskip : (idle start tokens indent outer allowed).skipGaps (start.rest.length + 1) =
      idle place tokens indent outer true)
    (hunwinds : Unwinds column tokens indent outer tokens' indent' outer') :
    (idle start tokens indent outer allowed).Comes tokens' indent' outer' rest column :=
  ⟨hlength, _, place, hskip, rfl, hcolumn ▸ hunwinds place, hrest, hcolumn⟩

/-- A token on the same line, with blanks in front of it. -/
theorem comes_blanks {n : Nat} (h : place.rest = List.replicate n ' ' ++ rest)
    (hrest : StartsToken rest)
    (hunwinds : Unwinds (place.column + n) tokens indent outer tokens' indent' outer') :
    (idle place tokens indent outer true).Comes tokens' indent' outer' rest (place.column + n) := by
  have hmove : place.moveTo rest = place.skip n := by
    simpa using Place.moveTo_eq_skip _ h
  refine comes_of_skipGaps (Place.rest_moveTo _ h) ?_ (by simp [h]) (skipGaps_blanks h hrest _)
    hunwinds
  rw [hmove, Place.column_skip_blanks h]

/-- A token on the next line. -/
theorem comes_line {n : Nat} {allowed : Bool}
    (h : place.rest = '\n' :: (List.replicate n ' ' ++ rest)) (hrest : StartsToken rest)
    (hunwinds : Unwinds n tokens indent outer tokens' indent' outer') :
    (idle place tokens indent outer allowed).Comes tokens' indent' outer' rest n := by
  refine comes_of_skipGaps
    (Place.rest_moveTo ('\n' :: List.replicate n ' ') (by simp [h]))
    (Place.column_moveTo_line [] h) (by simp [h]; omega) ?_ hunwinds
  have hlength : place.rest.length + 1 = place.rest.length - 1 + 2 := by simp [h]
  rw [hlength]
  exact skipGaps_line rfl h hrest _

end

/-- A reading starts at the first line without any block. -/
theorem ofText_eq (hmark : rest.head? ≠ some '\ufeff') :
    ofText rest = idle { rest := rest } [] (-1) [] true := by
  unfold ofText
  split
  · exact absurd rfl hmark
  · rfl

/-- The start of a text. -/
theorem comes_start (hrest : StartsToken rest) (hmark : rest.head? ≠ some '\ufeff') :
    (ofText rest).Comes [] (-1) [] rest 0 := by
  rw [ofText_eq hmark]
  exact comes_blanks (n := 0) rfl hrest (.of_le (by simp))

/-! ## Items -/

/-- An item of a sequence that is not moved in, with something else behind its hyphen. -/
theorem Comes.item (h : r.Comes tokens 0 outer ('-' :: ' ' :: rest) 0) (hrest : StartsToken rest) :
    ∃ next : Reading, r.LeadsTo next ∧ next.Comes (.item :: tokens) 0 outer rest 2 := by
  obtain ⟨place, hplace, hcolumn, hstep⟩ := h.step_cons
  have hskip : place.skip 1 = ⟨' ' :: rest, place.index + 1, place.line, 1⟩ := by
    rw [Place.skip_char hplace rfl (by decide), hcolumn]
  have htake : (idle place tokens 0 outer true).takeToken '-' (' ' :: rest) =
      .ok (idle (place.skip 1) (.item :: tokens) 0 outer true) := by
    have hmark : startsWithMark ('-' :: ' ' :: rest) = false := by
      cases rest <;> rfl
    simp [takeToken, hmark, startsWithGap, isGap, takeItem, openBlock, isDeeper, hcolumn, allowKey,
      dropHere, Except.map, skip, push]
  refine ⟨idle (place.skip 1) (.item :: tokens) 0 outer true,
    .of_step (hstep.trans htake) rfl (dropStale_of_waiting rfl) ?_, ?_⟩
  · have hlength := h.1
    simp only [List.length_cons, hskip] at hlength ⊢
    omega
  · rw [hskip]
    exact comes_blanks (n := 1) rfl hrest (.of_le (by simp))

/-! ## Plain scalars -/

/-- A character that starts plain text is taken as plain text. -/
theorem takeToken_of_startsPlain {c : Char} (hdepth : r.depth = 0)
    (hstarts : startsPlain false c rest = true)
    (hmark : r.place.column = 0 → startsWithMark (c :: rest) = false) :
    r.takeToken c rest = r.takePlain := by
  have hmarked : (r.place.column == 0 && startsWithMark (c :: rest)) = false := by
    by_cases hcolumn : r.place.column = 0 <;> simp [hcolumn, hmark]
  have hcases := hstarts
  rw [startsPlain, Bool.or_eq_true] at hcases
  rcases hcases with hplain | hindicator
  · have hne (d : Char) (hd : "-?:,[]\x7b\x7d#&*!|>'\"%@\x60".contains d = true) : c ≠ d := by
      rintro rfl
      simp [hd] at hplain
    simp [takeToken, hmarked, hdepth, hstarts, hne '%' (by simp), hne '-' (by simp),
      hne '[' (by simp), hne ']' (by simp), hne '\x7b' (by simp), hne '\x7d' (by simp),
      hne ',' (by simp), hne '?' (by simp), hne ':' (by simp), hne '\'' (by simp),
      hne '"' (by simp)]
  · simp only [Bool.and_eq_true, Bool.not_eq_true', Bool.or_eq_true, beq_iff_eq, Bool.not_false,
      true_and] at hindicator
    obtain ⟨halone, rfl | rfl | rfl⟩ := hindicator <;>
      simp [takeToken, hmarked, halone, hdepth, hstarts]

/-! ## Keys -/

/-- A key of a mapping that stands for itself wherever it is. -/
structure IsKey (key : List Char) : Prop where
  /-- It is not empty. -/
  nonempty : key ≠ []
  /-- It is of small letters. -/
  letters : ∀ c ∈ key, c.isLower = true
  /-- It is short enough to be a key. -/
  short : key.length ≤ 1024

/-- A class of characters that a text without quotes may begin with. -/
theorem startsPlain_of {p : Char → Bool}
    (hgaps : [' ', '\t', '\r', '\n', '\x85', '\u2028', '\u2029'].any p = false)
    (hindicators : "-?:,[]\x7b\x7d#&*!|>'\"%@\x60".toList.any p = false) {c : Char}
    (hc : p c = true) (rest : List Char) : startsPlain false c rest = true := by
  have hindicator : "-?:,[]\x7b\x7d#&*!|>'\"%@\x60".contains c = false := by
    rw [String.contains_char_eq, decide_eq_false_iff_not]
    exact fun hmem => absurd hc (List.any_eq_false.mp hindicators c hmem)
  simp [startsPlain, hindicator, isGap_eq_false_of hgaps hc]

theorem startsPlain_of_isLower {c : Char} (hc : c.isLower = true) (rest : List Char) :
    startsPlain false c rest = true :=
  startsPlain_of (by decide) (by decide) hc rest

/-- What a reading does with plain text. -/
theorem takePlain_idle (place : Place) (tokens : List Token) (indent : Int) (outer : List Int) :
    (idle place tokens indent outer true).takePlain =
      let t := readPlain false (indent + 1) place.rest.length [] false place.rest
      .ok { place := place.moveTo t.rest, tokens := .scalar true (String.ofList t.text) :: tokens,
            indent, outer, keyAllowed := t.lineEnded,
            waiting := [⟨0, tokens.length, indent == (place.column : Int), place⟩] } := by
  simp [takePlain, noteKey, dropHere, Except.map, allowKey, push]

theorem readPlainGap_colon (rest : List Char) :
    readPlainGap (':' :: rest) = ⟨[], ':' :: rest, false, 0⟩ := by
  simp [readPlainGap, readBreak?]

/-- A key is read up to its colon. -/
theorem readPlain_key {key : List Char} (hkey : IsKey key) (hrest : startsWithGap rest = true)
    (least : Int) :
    readPlain false least (key ++ ':' :: rest).length [] false (key ++ ':' :: rest) =
      ⟨key, ':' :: rest, false⟩ := by
  have hword : ∀ c ∈ key, isGap c = false ∧ c ≠ ':' := by
    intro c hc
    refine ⟨isGap_of_isLower (hkey.letters c hc), ?_⟩
    rintro rfl
    cases hkey.letters ':' hc
  have hhead : key.head? ≠ some '#' := by
    intro hc
    cases hkey.letters '#' (List.mem_of_mem_head? hc)
  have hends : EndsPlain (':' :: rest) := by
    intro c hc
    obtain rfl : ':' = c := by simpa using hc
    simp [endsPlain, hrest]
  have hfuel : 0 < (key ++ ':' :: rest).length := by
    simp only [List.length_append, List.length_cons]
    omega
  rw [readPlain_word hkey.nonempty hhead hword hends (.inl (by rw [readPlainGap_colon])) hfuel,
    readPlainGap_colon]
  rfl

/-- A reading behind a scalar that waits for its colon. -/
abbrev waitingForColon (place : Place) (tokens : List Token) (word : Token) (indent : Int)
    (outer : List Int) (mark : KeyMark) : Reading :=
  { place, tokens := word :: tokens, indent, outer, keyAllowed := false, waiting := [mark] }

/-- The reading behind the colon of a key. -/
def afterKey (place : Place) (tokens : List Token) (word : Token) (indent : Int)
    (outer : List Int) (column : Nat) : Reading :=
  if indent < (column : Int) then
    idle place (.value :: word :: .key :: .blockMapping :: tokens) column (indent :: outer) false
  else idle place (.value :: word :: .key :: tokens) indent outer false

section

variable {place : Place} {word : Token} {mark : KeyMark}

theorem dropStale_waitingForColon (h : isStale place mark = false) :
    (waitingForColon place tokens word indent outer mark).dropStale =
      .ok (waitingForColon place tokens word indent outer mark) := by
  simp [dropStale, h]

/-- The colon behind a key makes it a key. -/
theorem takeWaitedColon_eq (hdepth : mark.depth = 0) (hnumber : mark.number = tokens.length) :
    (waitingForColon place tokens word indent outer mark).takeWaitedColon mark =
      afterKey (place.skip 1) tokens word indent outer mark.place.column := by
  -- the key and the block are put in front of the scalar, which is the last token so far
  have hbehind : tokens.length + 1 + 1 - tokens.length = 2 := by omega
  by_cases hdeeper : indent < (mark.place.column : Int) <;>
    simp [takeWaitedColon, afterKey, hdepth, hnumber, hdeeper, insertAt, isDeeper, indentTo,
      allowKey, skip, push, hbehind]

/-- A colon behind a token that waits for it on the same line. -/
theorem leadsTo_afterKey (hplace : place.rest = ':' :: rest) (hrest : startsWithGap rest = true)
    (hdepth : mark.depth = 0) (hnumber : mark.number = tokens.length)
    (hfresh : isStale place mark = false) (hindent : indent ≤ (place.column : Int)) :
    LeadsTo (waitingForColon place tokens word indent outer mark)
      (afterKey (place.skip 1) tokens word indent outer mark.place.column) := by
  have hcolon : StartsToken (':' :: rest) := by
    intro c hc
    obtain rfl : ':' = c := by simpa using hc
    exact ⟨rfl, by decide⟩
  have hskip := skipGaps_blanks (r := waitingForColon place tokens word indent outer mark) (n := 0)
    hplace hcolon place.rest.length
  have hmove : place.moveTo (':' :: rest) = place := hplace ▸ Place.moveTo_self place
  have hunwind : (waitingForColon place tokens word indent outer mark).unwind place.column =
      waitingForColon place tokens word indent outer mark := by
    simp [unwind, unwindTo, Int.not_lt.mpr hindent]
  have hstep : (waitingForColon place tokens word indent outer mark).step =
      .ok (afterKey (place.skip 1) tokens word indent outer mark.place.column) := by
    rw [step, hskip]
    simp only [hmove, dropStale_waitingForColon hfresh, hunwind, hplace]
    simp [takeToken, hrest, takeColon, hdepth, ← takeWaitedColon_eq hdepth hnumber,
      startsWithMark_eq_false (show ':' ≠ '-' by decide) (show ':' ≠ '.' by decide)]
  have hskip1 : (place.skip 1).rest = rest := by simp [Place.rest_skip, hplace]
  refine .of_step hstep ?_ ?_ ?_
  · unfold afterKey; split <;> rfl
  · unfold afterKey; split <;> exact dropStale_of_waiting rfl
  · unfold afterKey; split <;> simp [hplace, hskip1]

end

/-- A key that its colon follows. -/
theorem Comes.key {key : List Char} (hkey : IsKey key)
    (h : r.Comes tokens indent outer (key ++ ':' :: rest) column)
    (hrest : startsWithGap rest = true) (hindent : indent ≤ (column : Int)) :
    ∃ place : Place,
      r.LeadsTo (afterKey place tokens (.scalar true (String.ofList key)) indent outer column) ∧
        place.rest = rest ∧ place.column = column + key.length + 1 := by
  obtain ⟨c, letters, rfl⟩ := List.exists_cons_of_ne_nil hkey.nonempty
  rw [List.cons_append] at h
  obtain ⟨place, hplace, rfl, hstep⟩ := h.step_cons
  have hc : c.isLower = true := hkey.letters c List.mem_cons_self
  have hinline : ∀ d ∈ c :: letters, isBreak d = false ∧ d ≠ '\ufeff' :=
    fun d hd => inline_of_isLower (hkey.letters d hd)
  have hmark : startsWithMark (c :: (letters ++ ':' :: rest)) = false := by
    refine startsWithMark_eq_false ?_ ?_ _ <;> rintro rfl <;> cases hc
  rw [← List.cons_append] at hplace
  have hmove : place.moveTo (':' :: rest) = ⟨':' :: rest, place.index + (c :: letters).length,
      place.line, place.column + (c :: letters).length⟩ := by
    rw [Place.moveTo_eq_skip _ hplace, Place.skip_inline _ hplace hinline]
  rw [takeToken_of_startsPlain rfl (startsPlain_of_isLower hc _) fun _ => hmark, takePlain_idle,
    hplace, readPlain_key hkey hrest] at hstep
  simp only [hmove] at hstep
  have hfresh : isStale (place.moveTo (':' :: rest))
      ⟨0, tokens.length, indent == (place.column : Int), place⟩ = false := by
    have hshort := hkey.short
    simp only [hmove, isStale, bne_self_eq_false, Bool.false_or, decide_eq_false_iff_not]
    omega
  rw [hmove] at hfresh
  have hindent' : indent ≤ ((place.column + (c :: letters).length : Nat) : Int) := by omega
  refine ⟨_, .trans (.of_step hstep rfl (dropStale_waitingForColon hfresh) ?_)
    (leadsTo_afterKey rfl hrest rfl rfl hfresh hindent'), ?_, ?_⟩
  · have hlength := h.1
    simp only [List.length_cons, List.length_append] at hlength ⊢
    omega
  · simp [Place.rest_skip]
  · rw [Place.skip_char rfl rfl (by decide)]

/-! ## Values -/

section

variable {place : Place} {tokens' : List Token} {indent' : Int} {outer' : List Int}

/-- A value is looked for behind the blank that follows its colon. -/
theorem step_value {c : Char} (h : place.rest = ' ' :: c :: rest)
    (hc : isGap c = false ∧ c ≠ '#') (hindent : indent ≤ (place.column : Int)) :
    (idle place tokens indent outer false).step =
      (idle (place.skip 1) tokens indent outer false).takeToken c rest := by
  have hrest : StartsToken (c :: rest) := by
    intro d hd
    obtain rfl : c = d := by simpa using hd
    exact hc
  have hmove : place.moveTo (c :: rest) = place.skip 1 :=
    Place.moveTo_eq_skip [' '] h
  have hskip : place.skip 1 = ⟨c :: rest, place.index + 1, place.line, place.column + 1⟩ :=
    Place.skip_char h rfl (by decide)
  have hunwind : (idle (place.skip 1) tokens indent outer false).unwind (place.skip 1).column =
      idle (place.skip 1) tokens indent outer false := by
    have hinside : ¬(place.column + 1 : Int) < indent := by omega
    simp [hskip, unwind, unwindTo, hinside]
  rw [step, skipGaps_blanks (n := 1) h hrest]
  simp only [hmove, dropStale_of_waiting, hunwind]
  simp [hskip]

theorem takeToken_single (r : Reading) (rest : List Char) :
    r.takeToken '\'' rest = r.takeQuoted readSingle := by
  simp [takeToken]

theorem takeToken_double (r : Reading) (rest : List Char) :
    r.takeToken '"' rest = r.takeQuoted readDouble := by
  simp [takeToken]

/-- A value in quotes that the next line follows. -/
theorem comes_of_quoted {quote : Char} {read : Nat → List Char → ReadText}
    (htake : ∀ (r : Reading) (rest : List Char), r.takeToken quote rest = r.takeQuoted read)
    (hquote : isGap quote = false ∧ quote ≠ '#') {written text : List Char} {n : Nat}
    (h : place.rest = ' ' :: quote :: (written ++ '\n' :: (List.replicate n ' ' ++ rest)))
    (hread : Reads read (written ++ '\n' :: (List.replicate n ' ' ++ rest)) text
      ('\n' :: (List.replicate n ' ' ++ rest)))
    (hrest : StartsToken rest) (hindent : indent ≤ (place.column : Int))
    (hunwinds : Unwinds n (.scalar false (String.ofList text) :: tokens) indent outer
      tokens' indent' outer') :
    ∃ next : Reading, (idle place tokens indent outer false).LeadsTo next ∧
      next.Comes tokens' indent' outer' rest n := by
  have hskip := Place.skip_char h rfl (by decide)
  have hmove : ((place.skip 1).moveTo ('\n' :: (List.replicate n ' ' ++ rest))).rest =
      '\n' :: (List.replicate n ' ' ++ rest) :=
    Place.rest_moveTo (quote :: written) (by simp [hskip])
  have hstep : (idle place tokens indent outer false).step =
      .ok (idle ((place.skip 1).moveTo ('\n' :: (List.replicate n ' ' ++ rest)))
        (.scalar false (String.ofList text) :: tokens) indent outer false) := by
    rw [step_value h hquote hindent, htake, takeQuoted]
    have hfull := hread (place.skip 1).rest.length (by simp [hskip])
    simp only [noteKey, Bool.false_eq_true, if_false]
    simp only [hskip, List.drop_one, List.tail_cons] at hfull ⊢
    simp only [hfull]
    rfl
  refine ⟨_, .of_step hstep rfl (dropStale_of_waiting rfl) ?_, comes_line hmove hrest hunwinds⟩
  simp [hmove, h]
  omega

/-- A value without quotes that the next line follows. -/
theorem comes_of_plain {c : Char} {written text : List Char} {n : Nat}
    (h : place.rest = ' ' :: c :: (written ++ '\n' :: (List.replicate n ' ' ++ rest)))
    (hstarts : startsPlain false c (written ++ '\n' :: (List.replicate n ' ' ++ rest)) = true)
    (hc : isGap c = false ∧ c ≠ '#')
    (hread : ∀ fuel, (c :: written).length ≤ fuel →
      readPlain false (indent + 1) fuel [] false
        (c :: (written ++ '\n' :: (List.replicate n ' ' ++ rest))) = ⟨text, rest, true⟩)
    (hrest : StartsToken rest) (hindent : indent ≤ (place.column : Int))
    (hunwinds : Unwinds n (.scalar true (String.ofList text) :: tokens) indent outer
      tokens' indent' outer') :
    ∃ next : Reading, (idle place tokens indent outer false).LeadsTo next ∧
      next.Comes tokens' indent' outer' rest n := by
  have hskip := Place.skip_char h rfl (by decide)
  have hsplit : (place.skip 1).rest =
      (c :: written) ++ '\n' :: (List.replicate n ' ' ++ rest) := by simp [hskip]
  have hstep : (idle place tokens indent outer false).step =
      .ok (idle ((place.skip 1).moveTo rest) (.scalar true (String.ofList text) :: tokens) indent
        outer true) := by
    rw [step_value h hc hindent, takeToken_of_startsPlain rfl hstarts (by simp [hskip]), takePlain]
    have hfull := hread (place.skip 1).rest.length (by simp [hskip])
    simp only [noteKey, Bool.false_eq_true, if_false, Except.map]
    simp only [hskip] at hfull ⊢
    simp only [bne_self_eq_false, hfull]
    rfl
  have hmove : ((place.skip 1).moveTo rest).rest = rest :=
    Place.rest_moveTo (c :: written ++ '\n' :: List.replicate n ' ') (by simp [hskip])
  have hcolumn := Place.column_moveTo_line _ hsplit
  refine ⟨_, .of_step hstep rfl (dropStale_of_waiting rfl) ?_, ?_⟩
  · simp [hmove, h]
    omega
  · rw [← hcolumn] at hunwinds ⊢
    exact comes_blanks (n := 0) hmove hrest hunwinds

end

/-! ## The end -/

/-- At the end the last block ends. -/
theorem Comes.end_yields (h : r.Comes tokens 0 [-1] [] 0) :
    r.Yields (.streamEnd :: .blockEnd :: tokens).reverse := by
  obtain ⟨place, hstep⟩ := h.step_nil
  have hend : (idle place tokens 0 [-1] true).takeEnd =
      .ok { idle place (.streamEnd :: .blockEnd :: tokens) (-1) [] false with
        finished := true } := by
    simp [takeEnd, unwind, unwindTo, dropHere, Except.map]
  exact .of_finished (hstep.trans hend) rfl

end Reading

end TypedCommands.Yaml
