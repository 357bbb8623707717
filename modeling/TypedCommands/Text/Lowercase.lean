import TypedCommands.Text.CaseTable
import TypedCommands.Text.Ranges

/-!
# Lower-casing

Full Unicode lower-casing without a locale.  Two characters need more than a
look-up: a dotted capital I becomes an i and a combining dot, and a capital sigma
becomes a final sigma at the end of a word.

Main results:

- Theorem `lowercase_ne_nil`: a text that is not empty is not empty in lower case.
-/

namespace TypedCommands.Text

/-- Whether a character is cased and counts for case rules. -/
def isCased (c : Char) : Bool := inRanges casedRanges c.toNat

/-- Whether case rules skip a character. -/
def isCaseIgnorable (c : Char) : Bool := inRanges caseIgnorableRanges c.toNat

/-- Whether the first character that counts for case rules is a cased one. -/
def meetsCased (cs : List Char) : Bool :=
  match cs.dropWhile isCaseIgnorable with
  | [] => false
  | c :: _ => isCased c

/-- The lower-case form of a character that needs no context. -/
def lowercaseChar (c : Char) : List Char :=
  if c.toNat < 0x80 then [c.toLower]
  else if c.toNat = 0x130 then ['i', Char.ofNat 0x307]
  else
    match lowercaseRuns.find? (fun r => r.first ≤ c.toNat && c.toNat ≤ r.last &&
        (c.toNat - r.first) % r.stride == 0) with
    | some r => [Char.ofNat (c.toNat + r.distance).toNat]
    | none => [c]

/-- Lower-case a text; `before` is what stands in front of it, the nearest character first. -/
def lowercaseFrom (before : List Char) : List Char → List Char
  | [] => []
  | c :: rest =>
    let here :=
      if c.toNat = 0x3A3 then
        [if meetsCased before && !meetsCased rest then Char.ofNat 0x3C2 else Char.ofNat 0x3C3]
      else lowercaseChar c
    here ++ lowercaseFrom (c :: before) rest

/-- The lower-case form of a text. -/
def lowercase (s : String) : String := String.ofList (lowercaseFrom [] s.toList)

/-- Every character has a small form. -/
theorem lowercaseChar_ne_nil (c : Char) : lowercaseChar c ≠ [] := by
  unfold lowercaseChar
  split
  · simp
  · split
    · simp
    · split <;> simp

/-- A text in small letters is empty only if the text is. -/
theorem lowercase_ne_nil {s : String} (h : s ≠ "") : (lowercase s).toList ≠ [] := by
  rw [lowercase, String.toList_ofList]
  cases hs : s.toList with
  | nil => exact absurd (String.toList_eq_nil_iff.1 hs) h
  | cons c rest =>
    rw [lowercaseFrom]
    split <;> simp [lowercaseChar_ne_nil]

end TypedCommands.Text
