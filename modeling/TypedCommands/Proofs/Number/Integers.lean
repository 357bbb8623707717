import TypedCommands.Coercion
import TypedCommands.Proofs.Number.Positional

/-!
# Which texts are whole numbers

A text is read as a whole number exactly if it is a sign, which may be left out, and at least
one ASCII digit, and there are not too many digits; zeros in front count as digits.  The number
is then the one that the digits stand for, with the sign.  So the numeral of a number is read
as that number again, and texts of the same number differ only in zeros in front, in a plus
sign, and in the sign of zero.

Main results:

- Theorem `Whole.read_eq_ok_iff`: the texts that are read, and the numbers they are read as.
- Theorem `Whole.signedValue_eq_iff`: when two texts write the same number.
- Theorem `Whole.coerce_integer_exact`: coercion to whole numbers.
-/

namespace TypedCommands.Whole

open TypedCommands.Text

/-! ## Signs and digits -/

/-- A text is a sign, which may be left out, and what follows it; the flag tells a minus. -/
inductive Signs : List Char → Bool → List Char → Prop
  | none {digits : List Char} : Signs digits false digits
  | plus {digits : List Char} : Signs ('+' :: digits) false digits
  | minus {digits : List Char} : Signs ('-' :: digits) true digits

/-- A text writes a whole number: a sign and digits that are not too many. -/
structure Writes (text : String) (negative : Bool) (digits : List Char) : Prop where
  /-- The digits stand behind the sign. -/
  signs : Signs text.toList negative digits
  /-- They are ASCII digits. -/
  isDecimal : IsDecimal digits
  /-- There is one at least. -/
  ne_nil : digits ≠ []
  /-- There are not too many, zeros in front included. -/
  length_le : digits.length ≤ 4300

/-- The number that digits with a sign stand for. -/
def signedValue (negative : Bool) (digits : List Char) : Int :=
  if negative then -(positional digits : Int) else positional digits

/-- Splitting off the sign gives a sign and the rest. -/
theorem signs_spanSign (cs : List Char) :
    Signs cs (Numeral.spanSign cs).1 (Numeral.spanSign cs).2 := by
  unfold Numeral.spanSign
  split
  · exact .minus
  · exact .plus
  · exact .none

/-- No digit is taken for a sign. -/
theorem spanSign_of_isDecimal {digits : List Char} (h : IsDecimal digits) :
    Numeral.spanSign digits = (false, digits) := by
  unfold Numeral.spanSign
  split
  · exact absurd (h '-' List.mem_cons_self) (by decide)
  · exact absurd (h '+' List.mem_cons_self) (by decide)
  · rfl

/-- A sign in front of digits is split off. -/
theorem spanSign_of_signs {cs digits : List Char} {negative : Bool}
    (h : Signs cs negative digits) (hdigits : IsDecimal digits) :
    Numeral.spanSign cs = (negative, digits) := by
  cases h with
  | none => exact spanSign_of_isDecimal hdigits
  | plus => rfl
  | minus => rfl

/-! ## Reading -/

theorem signed_map_digitOf (negative : Bool) (digits : List Char) :
    signed negative (digits.map digitOf) = signedValue negative digits := by
  rw [signed, ofDigits_map_digitOf, signedValue]

/-- Digits behind a sign are read unless there are too many of them. -/
theorem read_of_signs {text : String} {negative : Bool} {digits : List Char}
    (h : Signs text.toList negative digits) (hdigits : IsDecimal digits) (hne : digits ≠ []) :
    read text =
      if digitLimit < digits.length then .error (tooLong digits.length)
      else .ok (signedValue negative digits) := by
  have hread : digits.mapM asciiDigit? = some (digits.map digitOf) :=
    mapM_asciiDigit?_eq_some_iff.2 ⟨hdigits, rfl⟩
  rw [read, spanSign_of_signs h hdigits]
  obtain ⟨c, rest, rfl⟩ := List.exists_cons_of_ne_nil hne
  simp only [hread, List.map_cons, ofSigned, ← signed_map_digitOf, List.length_cons,
    List.length_map]

/-- What is read has digits behind its sign. -/
theorem exists_signs_of_read {text : String} {n : Int} (h : read text = .ok n) :
    ∃ negative digits, Signs text.toList negative digits ∧ IsDecimal digits ∧ digits ≠ [] := by
  refine ⟨_, _, signs_spanSign text.toList, ?_⟩
  rw [read] at h
  cases hdigits : (Numeral.spanSign text.toList).2.mapM asciiDigit? with
  | none => simp [hdigits] at h
  | some values =>
    obtain ⟨hdecimal, rfl⟩ := mapM_asciiDigit?_eq_some_iff.1 hdigits
    refine ⟨hdecimal, fun hnil => ?_⟩
    simp [hnil] at h

/-- A text is read as a number exactly if it writes that number. -/
theorem read_eq_ok_iff {text : String} {n : Int} :
    read text = .ok n ↔
      ∃ negative digits, Writes text negative digits ∧ n = signedValue negative digits := by
  constructor
  · intro h
    obtain ⟨negative, digits, hsigns, hdecimal, hne⟩ := exists_signs_of_read h
    rw [read_of_signs hsigns hdecimal hne] at h
    split at h
    · cases h
    · next hlong =>
      exact ⟨negative, digits, ⟨hsigns, hdecimal, hne, Nat.le_of_not_lt hlong⟩,
        (Except.ok.inj h).symm⟩
  · rintro ⟨negative, digits, hwrites, rfl⟩
    have hlimit : ¬ digitLimit < digits.length := Nat.not_lt.2 hwrites.length_le
    rw [read_of_signs hwrites.signs hwrites.isDecimal hwrites.ne_nil, if_neg hlimit]

/-- The numeral of a number writes the number, unless it has too many digits. -/
theorem writes_toString {n : Int} (h : (Nat.toDigits 10 n.natAbs).length ≤ 4300) :
    Writes (toString n) (decide (n < 0)) (Nat.toDigits 10 n.natAbs) where
  signs := by
    rw [toList_toString]
    by_cases hneg : n < 0
    · simp only [hneg, if_true, decide_true]
      exact .minus
    · simp only [hneg, if_false, decide_false]
      exact .none
  isDecimal := isDecimal_toDigits n.natAbs
  ne_nil := List.ne_nil_of_length_pos Nat.length_toDigits_pos
  length_le := h

/-- A number is read back from its sign and digits. -/
theorem signedValue_toDigits (n : Int) :
    signedValue (decide (n < 0)) (Nat.toDigits 10 n.natAbs) = n := by
  rw [signedValue, positional_toDigits]
  by_cases hneg : n < 0
  · rw [if_pos (by simpa using hneg)]
    omega
  · rw [if_neg (by simpa using hneg)]
    omega

/-! ## Texts of the same number -/

/-- Digits stand for zero if all of them are zeros. -/
theorem positional_eq_zero_iff {digits : List Char} (h : IsDecimal digits) :
    positional digits = 0 ↔ withoutZeros digits = [] := positional_eq_iff h isDecimal_nil

/-- Two numbers are the same if their digits and their signs are, the sign of zero aside. -/
theorem signedValue_eq_iff {negative negative' : Bool} {digits digits' : List Char}
    (h : IsDecimal digits) (h' : IsDecimal digits') :
    signedValue negative digits = signedValue negative' digits' ↔
      withoutZeros digits = withoutZeros digits' ∧
        (negative = negative' ∨ withoutZeros digits = []) := by
  rw [← positional_eq_iff h h', ← positional_eq_zero_iff h]
  cases negative <;> cases negative' <;> simp [signedValue] <;> omega

/-! ## Coercion -/

/-- Coercion answers with the number that is read and calls anything else an invalid value. -/
theorem coerce_integer_eq (text : String) :
    coerce (.builtin .integer) text =
      match read text with
      | .ok n => .ok (.int n)
      | .error cause => .error (.ofProblem (.invalidValue text "integer" cause)) := by
  simp only [coerce, FieldType.converter?, convertInteger]
  cases read text <;> rfl

/-- The texts that are whole numbers, with their values. -/
theorem coerce_integer_eq_ok_iff {text : String} {v : Value} :
    coerce (.builtin .integer) text = .ok v ↔
      ∃ negative digits, Writes text negative digits ∧ v = .int (signedValue negative digits) := by
  rw [coerce_integer_eq]
  cases hread : read text with
  | ok n =>
    obtain ⟨negative, digits, hwrites, rfl⟩ := read_eq_ok_iff.1 hread
    constructor
    · intro h
      exact ⟨negative, digits, hwrites, (Except.ok.inj h).symm⟩
    · rintro ⟨negative', digits', hwrites', rfl⟩
      have hagain := read_eq_ok_iff.2 ⟨negative', digits', hwrites', rfl⟩
      rw [Except.ok.inj (hread.symm.trans hagain)]
  | error cause =>
    refine iff_of_false (by simp) ?_
    rintro ⟨negative, digits, hwrites, -⟩
    rw [read_eq_ok_iff.2 ⟨negative, digits, hwrites, rfl⟩] at hread
    cases hread

/--
Whole numbers are read exactly.  A text is taken if it is one sign at most and then between one
and 4300 ASCII digits, and its value is the number that the digits stand for with the sign.
Every other text is an invalid value.  The numeral of a number of at most 4300 digits is taken
as that number, and two texts that are taken have the same value if they have the same digits
without zeros in front and, unless that leaves no digit, the same sign.
-/
theorem coerce_integer_exact :
    (∀ text v, coerce (.builtin .integer) text = .ok v ↔
      ∃ negative digits, Writes text negative digits ∧ v = .int (signedValue negative digits)) ∧
    (∀ text, (∀ negative digits, ¬ Writes text negative digits) ↔
      ∃ cause, coerce (.builtin .integer) text =
        .error (.ofProblem (.invalidValue text "integer" cause))) ∧
    (∀ n : Int, (Nat.toDigits 10 n.natAbs).length ≤ 4300 →
      coerce (.builtin .integer) (toString n) = .ok (.int n)) ∧
    ∀ text text' negative negative' digits digits',
      Writes text negative digits → Writes text' negative' digits' →
      (coerce (.builtin .integer) text = coerce (.builtin .integer) text' ↔
        withoutZeros digits = withoutZeros digits' ∧
          (negative = negative' ∨ withoutZeros digits = [])) := by
  refine ⟨fun text v => coerce_integer_eq_ok_iff, fun text => ⟨fun hnone => ?_, ?_⟩, ?_, ?_⟩
  · rw [coerce_integer_eq]
    cases hread : read text with
    | ok n =>
      obtain ⟨negative, digits, hwrites, -⟩ := read_eq_ok_iff.1 hread
      exact absurd hwrites (hnone negative digits)
    | error cause => exact ⟨cause, rfl⟩
  · rintro ⟨cause, herror⟩ negative digits hwrites
    rw [coerce_integer_eq_ok_iff.2 ⟨negative, digits, hwrites, rfl⟩] at herror
    cases herror
  · intro n hn
    exact coerce_integer_eq_ok_iff.2
      ⟨_, _, writes_toString hn, by rw [signedValue_toDigits]⟩
  · intro text text' negative negative' digits digits' hwrites hwrites'
    rw [coerce_integer_eq_ok_iff.2 ⟨negative, digits, hwrites, rfl⟩,
      coerce_integer_eq_ok_iff.2 ⟨negative', digits', hwrites', rfl⟩, Except.ok.injEq,
      Value.int.injEq]
    exact signedValue_eq_iff hwrites.isDecimal hwrites'.isDecimal

/-- Minus seven is taken with zeros in front and without them. -/
theorem coerce_integer_exact_seven :
    coerce (.builtin .integer) "-007" = .ok (.int (-7)) ∧
      coerce (.builtin .integer) "-007" = coerce (.builtin .integer) "-7" := by
  obtain ⟨htaken, -, -, hsame⟩ := coerce_integer_exact
  have hpadded : Writes "-007" true ['0', '0', '7'] :=
    ⟨by simpa using Signs.minus, by decide, by decide, by decide⟩
  have hplain : Writes "-7" true ['7'] :=
    ⟨by simpa using Signs.minus, by decide, by decide, by decide⟩
  exact ⟨(htaken "-007" _).2 ⟨_, _, hpadded, rfl⟩,
    (hsame _ _ _ _ _ _ hpadded hplain).2 ⟨rfl, .inl rfl⟩⟩

end TypedCommands.Whole
