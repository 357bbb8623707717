import TypedCommands.Proofs.Document.Yaml.Values

/-!
# Characters of written texts

Whatever a text holds, only characters that may stand in a document are written for it:
the others are escaped.

Main results:

- Theorem `allAllowed_writeText`: a written text holds only characters that are allowed.
- Theorem `allAllowed_writeArguments`: so does the text of a list of arguments.
-/

namespace TypedCommands.Yaml

open TypedCommands.Text

/-- Every character is allowed. -/
def AllAllowed (cs : List Char) : Prop := cs.all isAllowed = true

@[simp] theorem allAllowed_nil : AllAllowed [] := rfl

@[simp] theorem allAllowed_cons {c : Char} {cs : List Char} :
    AllAllowed (c :: cs) ↔ isAllowed c = true ∧ AllAllowed cs := by
  simp [AllAllowed]

@[simp] theorem allAllowed_append {cs ds : List Char} :
    AllAllowed (cs ++ ds) ↔ AllAllowed cs ∧ AllAllowed ds := by
  simp only [AllAllowed, List.all_append, Bool.and_eq_true]

theorem allAllowed_nextLine : AllAllowed nextLine := by
  unfold AllAllowed
  decide

/-- Plain writing adds only allowed characters. -/
theorem allAllowed_plainRest {cs : List Char} (h : AllAllowed cs) (column : Nat) (inRun : Bool) :
    AllAllowed (plainRest column inRun cs) := by
  induction cs generalizing column inRun with
  | nil => exact h
  | cons c cs ih =>
    rw [allAllowed_cons] at h
    rw [plainRest]
    split_ifs
    · exact allAllowed_append.mpr ⟨allAllowed_nextLine, ih h.2 _ _⟩
    · exact allAllowed_cons.mpr ⟨h.1, ih h.2 _ _⟩

theorem allAllowed_margin : AllAllowed (List.replicate margin ' ') := by
  unfold AllAllowed
  decide

/-- Writing between single quotes adds only allowed characters. -/
theorem allAllowed_singleRest {cs : List Char} (h : AllAllowed cs) (column : Nat)
    (before : Before) : AllAllowed (singleRest column before cs) := by
  have hmarks : isAllowed '\'' = true ∧ isAllowed '\n' = true := by decide
  induction cs generalizing column before with
  | nil =>
    rw [singleRest]
    split_ifs <;> simp only [allAllowed_append, allAllowed_cons, allAllowed_nil,
      allAllowed_margin, hmarks, and_self]
  | cons c cs ih =>
    rw [allAllowed_cons] at h
    rw [singleRest]
    dsimp only
    split_ifs <;> simp only [allAllowed_append, allAllowed_cons, allAllowed_nil, allAllowed_margin,
      allAllowed_nextLine, hmarks, h.1, ih h.2, and_self]

/-- Characters that are written as they are between double quotes are allowed. -/
theorem isAllowed_of_isLiteral {c : Char} (h : isLiteral c = true) : isAllowed c = true := by
  have hvalid := c.valid
  simp only [UInt32.isValidChar, Nat.isValidChar] at hvalid
  simp only [isLiteral, isAllowed, Char.toNat, Bool.and_eq_true, Bool.or_eq_true, bne_iff_ne,
    beq_iff_eq, decide_eq_true_eq] at h ⊢
  omega

theorem isAllowed_capitalHexDigit {n : Nat} (h : n < 16) :
    isAllowed (capitalHexDigit n) = true := by
  have hall : ∀ m < 16, isAllowed (capitalHexDigit m) = true := by decide
  exact hall n h

/-- Codes in hexadecimal digits are allowed. -/
theorem allAllowed_hexDigits (width n : Nat) :
    AllAllowed (hexDigits capitalHexDigit width n) := by
  induction width generalizing n with
  | zero => exact allAllowed_nil
  | succ width ih =>
    exact allAllowed_append.mpr ⟨ih _, by
      simp [isAllowed_capitalHexDigit (Nat.mod_lt n (by decide))]⟩

/-- Escapes are allowed, whatever character they stand for. -/
theorem allAllowed_escapeOf (c : Char) : AllAllowed (escapeOf c) := by
  have hall : ∀ e ∈ shortEscapes, isAllowed e.2 = true := by decide
  have hmark : isAllowed '\\' = true := rfl
  unfold escapeOf
  split
  · next d hd =>
    obtain ⟨before, after, hsplit, -⟩ := List.lookup_eq_some_iff.mp hd
    have hmem : (c, d) ∈ shortEscapes := by simp [hsplit]
    simp [hmark, hall _ hmem]
  · dsimp only
    split_ifs <;> simp only [allAllowed_cons, allAllowed_hexDigits, hmark, and_true] <;> decide

/-- What is written where a line is folded is allowed. -/
theorem allAllowed_foldedAt (next : Option Char) : AllAllowed (foldedAt next) := by
  unfold foldedAt
  split_ifs
  · unfold AllAllowed
    decide
  · unfold AllAllowed
    decide

/-- Writing between double quotes gives only allowed characters, for every text. -/
theorem allAllowed_doubleRest (cs : List Char) (column : Nat) (first fresh : Bool) :
    AllAllowed (doubleRest column first fresh cs) := by
  induction cs generalizing column first fresh with
  | nil => exact allAllowed_cons.mpr ⟨rfl, allAllowed_nil⟩
  | cons c cs ih =>
    rw [doubleRest]
    dsimp only
    split_ifs with hliteral
    · simp [allAllowed_foldedAt, isAllowed_of_isLiteral hliteral, ih]
    · simp [isAllowed_of_isLiteral hliteral, ih]
    · simp [allAllowed_foldedAt, allAllowed_escapeOf, ih]
    · simp [allAllowed_escapeOf, ih]

/-! ## Written values -/

/-- Whatever a text is, what is written for it is allowed. -/
theorem allAllowed_writeText (column : Nat) (cs : List Char) :
    AllAllowed (writeText column cs) := by
  unfold writeText
  by_cases hstyle : styleOf cs = .double
  · simp only [hstyle]
    exact allAllowed_cons.mpr ⟨rfl, allAllowed_doubleRest _ _ _ _⟩
  · have hcs : AllAllowed cs := by
      refine List.all_eq_true.mpr fun c hc => ?_
      have hescape := (styleOf_ne_double hstyle).1 c hc
      simp only [needsEscape, Bool.or_eq_false_iff, Bool.not_eq_false_eq_eq_true] at hescape
      simpa using hescape.1.1.1.1
    split
    · exact allAllowed_plainRest hcs _ _
    · exact allAllowed_cons.mpr ⟨rfl, allAllowed_singleRest hcs _ _⟩
    · contradiction

/-- Numerals are allowed. -/
theorem allAllowed_toString (n : Int) : AllAllowed (toString n).toList := by
  refine List.all_eq_true.mpr fun c hc => ?_
  rcases Plain.mem_toList_toString hc with rfl | hdigit
  · rfl
  · have hcode : 0x30 ≤ c.toNat ∧ c.toNat ≤ 0x39 := by
      by_contra hcode
      simp [Plain.isDigit, asciiDigit?, hcode] at hdigit
    simp only [isAllowed, Bool.or_eq_true, Bool.and_eq_true, decide_eq_true_eq, beq_iff_eq]
    omega

/-- An entry is allowed if its parts are. -/
theorem allAllowed_writeEntry {front key : List Char} {value : Nat → List Char}
    (hfront : AllAllowed front) (hkey : AllAllowed key)
    (hvalue : ∀ column, AllAllowed (value column)) : AllAllowed (writeEntry front key value) := by
  have hmarks : isAllowed ':' = true ∧ isAllowed ' ' = true ∧ isAllowed '\n' = true := by decide
  simp [writeEntry, hfront, hkey, hvalue, hmarks]

/-- Every argument is written in allowed characters. -/
theorem allAllowed_writeArgument (a : Argument) : AllAllowed (writeArgument a) := by
  have hfronts : AllAllowed ['-', ' '] ∧ AllAllowed [' ', ' '] := by
    unfold AllAllowed
    decide
  have hkeys : ∀ key ∈ ["name", "raw", "start", "value"], AllAllowed key.toList := by
    unfold AllAllowed
    decide
  simp only [writeArgument, allAllowed_append]
  refine ⟨⟨⟨?_, ?_⟩, ?_⟩, ?_⟩
  · exact allAllowed_writeEntry hfronts.1 (hkeys _ (by simp)) fun _ => allAllowed_writeText _ _
  · exact allAllowed_writeEntry hfronts.2 (hkeys _ (by simp)) fun _ => allAllowed_writeText _ _
  · exact allAllowed_writeEntry hfronts.2 (hkeys _ (by simp)) fun _ => allAllowed_toString _
  · exact allAllowed_writeEntry hfronts.2 (hkeys _ (by simp)) fun _ => allAllowed_writeText _ _

/-- Whatever arguments hold, only characters that may stand in a document are written. -/
theorem allAllowed_writeArguments (arguments : List Argument) :
    AllAllowed (writeArguments arguments) := by
  unfold writeArguments
  split_ifs
  · unfold AllAllowed
    decide
  · refine allAllowed_append.mpr ⟨by unfold AllAllowed; decide, ?_⟩
    refine List.all_eq_true.mpr fun c hc => ?_
    obtain ⟨a, -, hc⟩ := List.mem_flatMap.mp hc
    exact List.all_eq_true.mp (allAllowed_writeArgument a) c hc

end TypedCommands.Yaml
