import TypedCommands.Argument
import TypedCommands.Line.Quote

/-!
# The line scanner

A scanner stands at a place in a line and reads one argument at a time.
Arguments are bare words or quoted strings, either of them with a name and the
name separator in front.  A scanner that has met a fault is spent: it reports the
same fault for ever.

Main results:

- Theorem `length_scanUnit_lt`: a unit of a text that is not empty takes at least
  one character.
- Theorem `length_scanArgument_lt`: so does an argument, which is why a line has
  finitely many.
-/

namespace TypedCommands.Line

open TypedCommands.Text

/-- Why a line cannot be scanned. -/
inductive Complaint where
  /-- An argument or a value begins with the name separator. -/
  | leadingSeparator
  /-- An argument holds a second name separator. -/
  | repeatedSeparator
  /-- A bare word holds a control character. -/
  | unexpected (c : Char)
  /-- The line ends inside a quoted value. -/
  | unterminatedQuote
  deriving DecidableEq, Repr

/-- A complaint and the text from the place on where scanning stopped. -/
structure Stop where
  /-- Why scanning stopped. -/
  complaint : Complaint
  /-- What had not been scanned. -/
  rest : List Char

/-- One value unit: its text and whether a name separator ended it. -/
structure Scanned where
  /-- The value with quotes and escapes resolved. -/
  value : List Char
  /-- Whether the name separator follows; it is no longer part of the rest. -/
  named : Bool
  /-- What follows. -/
  rest : List Char

/-- Scan a unit that does not start with a quote: the longest run of word characters. -/
def scanWord (cs : List Char) : Except Stop Scanned :=
  let word := cs.takeWhile isWord
  match cs.dropWhile isWord with
  | [] => .ok ⟨word, false, []⟩
  | d :: rest =>
    if isBlank d then .ok ⟨word, false, d :: rest⟩
    else if d = nameSeparator then .ok ⟨word, true, rest⟩
    else .error ⟨.unexpected d, d :: rest⟩

/-- Scan one value unit; at the end of the line it is empty. -/
def scanUnit : List Char → Except Stop Scanned
  | [] => .ok ⟨[], false, []⟩
  | c :: rest =>
    if isQuote c then
      match scanQuoted c rest with
      | none => .error ⟨.unterminatedQuote, []⟩
      | some (text, after) => .ok ⟨unquote text, false, after⟩
    else if c = nameSeparator then .error ⟨.leadingSeparator, c :: rest⟩
    else scanWord (c :: rest)

/-- The name and the value of one argument, and what follows it. -/
structure ScannedArgument where
  /-- The name, empty if there is none. -/
  name : List Char
  /-- The value. -/
  value : List Char
  /-- What follows. -/
  rest : List Char

/-- Scan one argument at a place that is neither a blank nor the end of the line. -/
def scanArgument (cs : List Char) : Except Stop ScannedArgument :=
  match scanUnit cs with
  | .error stop => .error stop
  | .ok first =>
    if first.named then
      match scanUnit first.rest with
      | .error stop => .error stop
      | .ok second =>
        if second.named then .error ⟨.repeatedSeparator, second.rest⟩
        else .ok ⟨first.value, second.value, second.rest⟩
    else .ok ⟨[], first.value, first.rest⟩

/-- Scanning a word leaves no more than what follows its characters. -/
theorem length_scanWord_le {cs : List Char} {u : Scanned} (h : scanWord cs = .ok u) :
    u.rest.length ≤ (cs.dropWhile isWord).length := by
  simp only [scanWord] at h
  split at h
  · next hd => cases h; simp [hd]
  · next d rest hd =>
    rw [hd]
    split at h
    · cases h; simp
    · split at h
      · cases h; simp
      · cases h

/-- Scanning a unit never adds to the text. -/
theorem length_scanUnit_le {cs : List Char} {u : Scanned} (h : scanUnit cs = .ok u) :
    u.rest.length ≤ cs.length := by
  unfold scanUnit at h
  split at h
  · cases h; simp
  · next c rest =>
    split at h
    · split at h
      · cases h
      · next text after ht =>
        cases h
        have := length_scanQuoted_lt ht
        simp; omega
    · split at h
      · cases h
      · exact Nat.le_trans (length_scanWord_le h) (List.dropWhile_suffix _).length_le

/-- Scanning a unit takes at least one character. -/
theorem length_scanUnit_lt {c : Char} {cs : List Char} {u : Scanned}
    (hc : isBlank c = false) (h : scanUnit (c :: cs) = .ok u) :
    u.rest.length < (c :: cs).length := by
  simp only [scanUnit] at h
  split at h
  · split at h
    · cases h
    · next text after ht =>
      cases h
      have := length_scanQuoted_lt ht
      simp; omega
  · split at h
    · cases h
    · next hs =>
      by_cases hw : isWord c = true
      · have h1 := length_scanWord_le h
        have h2 := (List.dropWhile_suffix isWord (l := cs)).length_le
        rw [List.dropWhile_cons, if_pos hw] at h1
        simp; omega
      · simp [scanWord, hw, hc, hs] at h

/-- Scanning an argument takes at least one character. -/
theorem length_scanArgument_lt {c : Char} {cs : List Char} {a : ScannedArgument}
    (hc : isBlank c = false) (h : scanArgument (c :: cs) = .ok a) :
    a.rest.length < (c :: cs).length := by
  unfold scanArgument at h
  split at h
  · cases h
  · next first hf =>
    have h1 := length_scanUnit_lt hc hf
    split at h
    · split at h
      · cases h
      · next second hs =>
        have h2 := length_scanUnit_le hs
        split at h
        · cases h
        · cases h
          simp only at *
          omega
    · cases h
      exact h1

/-- A complaint with the place in the line it is about, in characters and in bytes. -/
structure Fault where
  /-- Why the line cannot be scanned. -/
  complaint : Complaint
  /-- The number of characters in front of the place. -/
  index : Nat
  /-- The number of UTF-8 bytes in front of the place. -/
  offset : Nat
  deriving DecidableEq, Repr

/-- A place in a line, or the fault that ended scanning. -/
structure Scanner where
  /-- The whole line. -/
  line : List Char
  /-- What has not been scanned yet. -/
  rest : List Char
  /-- The fault that was met. -/
  fault : Option Fault := none

namespace Scanner

/-- A scanner at the start of a line. -/
def ofLine (line : String) : Scanner := ⟨line.toList, line.toList, none⟩

/-- What goes through the arguments of a scanner: the scanner itself. -/
def iterator (s : Scanner) : Scanner := s

/-- The index of the next character to be scanned. -/
def position (s : Scanner) : Nat := s.line.length - s.rest.length

/-- The fault for scanning that stopped at `stop`. -/
def faultAt (s : Scanner) (stop : Stop) : Fault :=
  let index := s.line.length - stop.rest.length
  ⟨stop.complaint, index, utf8Length (s.line.take index)⟩

/-- What a call for the next argument answers. -/
inductive Answer where
  /-- The next argument. -/
  | argument (a : Argument)
  /-- No arguments remain. -/
  | finished
  /-- The line cannot be scanned any further. -/
  | failed (f : Fault)

/-- Skip blanks, then read one argument. -/
def next (s : Scanner) : Answer × Scanner :=
  match s.fault with
  | some f => (.failed f, s)
  | none =>
    match s.rest.dropWhile isBlank with
    | [] => (.finished, { s with rest := [] })
    | c :: cs =>
      match scanArgument (c :: cs) with
      | .error stop =>
        let f := s.faultAt stop
        (.failed f, { s with rest := stop.rest, fault := some f })
      | .ok a =>
        let argument : Argument :=
          { raw := String.ofList ((c :: cs).take ((c :: cs).length - a.rest.length))
            name := String.ofList a.name
            value := String.ofList a.value
            start := (s.line.length - (c :: cs).length : Nat) }
        (.argument argument, { s with rest := a.rest })

/-- A call that answers with an argument leaves less of the line. -/
theorem length_next_lt {s t : Scanner} {a : Argument} (h : s.next = (.argument a, t)) :
    t.rest.length < s.rest.length := by
  unfold next at h
  split at h
  · simp at h
  · split at h
    · simp at h
    · next c cs hd =>
      split at h
      · simp at h
      · next b hb =>
        simp only [Prod.mk.injEq] at h
        rw [← h.2]
        have hc : isBlank c = false := not_of_dropWhile_eq_cons hd
        have h1 := length_scanArgument_lt hc hb
        have h2 := (List.dropWhile_suffix isBlank (l := s.rest)).length_le
        rw [hd] at h2
        simp only
        omega

/-- The arguments that remain and the scanner after them; it has a fault if one ended them. -/
def remaining (s : Scanner) : List Argument × Scanner :=
  match h : s.next with
  | (.argument a, t) =>
    have := length_next_lt h
    let more := remaining t
    (a :: more.1, more.2)
  | (.finished, t) => ([], t)
  | (.failed _, t) => ([], t)
termination_by s.rest.length

theorem remaining_of_argument {s t : Scanner} {a : Argument} (h : s.next = (.argument a, t)) :
    s.remaining = (a :: t.remaining.1, t.remaining.2) := by
  rw [remaining]
  split <;> simp_all

theorem remaining_of_finished {s t : Scanner} (h : s.next = (.finished, t)) :
    s.remaining = ([], t) := by
  rw [remaining]
  split <;> simp_all

theorem remaining_of_failed {s t : Scanner} {f : Fault} (h : s.next = (.failed f, t)) :
    s.remaining = ([], t) := by
  rw [remaining]
  split <;> simp_all

end Scanner

end TypedCommands.Line
