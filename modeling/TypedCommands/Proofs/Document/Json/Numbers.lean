import TypedCommands.Document.Json.Reader
import TypedCommands.Proofs.Number.Digits

/-!
# Written whole numbers read back

The numeral of a whole number is read up to its last digit if what follows could not go on
with the number.  It is no word and has neither fraction nor exponent, so it is read as the
whole number again, unless it has more digits than a numeral may have.

Main results:

- Theorem `readWord?_toString`: the numeral of a whole number begins with no word.
- Theorem `readNumber_toString`: it is read as the number.
-/

namespace TypedCommands.Json

open TypedCommands.Text

/-- What follows a number and could not go on with it. -/
def EndsNumber (rest : List Char) : Prop :=
  ∀ c, rest.head? = some c → asciiDigit? c = none ∧ c ≠ '.' ∧ c ≠ 'e' ∧ c ≠ 'E'

theorem endsNumber_nil : EndsNumber [] := nofun

/-- Blanks, commas and closing brackets end a number. -/
theorem EndsNumber.of_mem {c : Char} (h : c ∈ [',', ']', '\x7d', ' ', '\t', '\n', '\r'])
    (rest : List Char) : EndsNumber (c :: rest) := by
  have hall : ∀ c ∈ [',', ']', '\x7d', ' ', '\t', '\n', '\r'],
      asciiDigit? c = none ∧ c ≠ '.' ∧ c ≠ 'e' ∧ c ≠ 'E' := by simp [asciiDigit?]
  rintro d hd
  cases hd
  exact hall c h

variable {rest : List Char}

/-! ## The parts of a number -/

/-- The whole part is all digits of the numeral, the first a zero only if it is alone. -/
theorem wholePart?_toDigits (m : Nat) (h : EndsNumber rest) :
    wholePart? (Nat.toDigits 10 m ++ rest) = some (Whole.digits m, rest) := by
  have hspan : Numeral.spanDigits asciiDigit? (Nat.toDigits 10 m ++ rest) =
      (Whole.digits m, rest) :=
    Numeral.spanDigits_append (fun c hc => Whole.asciiDigit?_of_mem_toDigits hc)
      fun c hc => (h c hc).1
  rcases Nat.eq_zero_or_pos m with rfl | hpos
  · rfl
  · obtain ⟨c, digits, hcons, -⟩ := Whole.exists_cons_toDigits m
    have hhead := Whole.head?_toDigits hpos
    have hvalues : Whole.digits m = (c.toNat - 0x30) :: digits.map fun c => c.toNat - 0x30 := by
      rw [Whole.digits, hcons, List.map_cons]
    unfold wholePart?
    split
    · next hzero =>
      rw [hcons] at hhead hzero
      simp only [List.cons_append, List.cons.injEq] at hzero
      exact absurd (by rw [hzero.1]; rfl) hhead
    · rw [hspan, hvalues]

/-- A number that ends has no fraction. -/
theorem fraction?_of_endsNumber (h : EndsNumber rest) : fraction? rest = none := by
  unfold fraction?
  split
  · exact absurd rfl (h '.' rfl).2.1
  · rfl

/-- A number that ends has no exponent. -/
theorem exponent?_of_endsNumber (h : EndsNumber rest) : exponent? rest = none := by
  unfold exponent?
  split
  · next c rest =>
    obtain ⟨-, -, hsmall, hcapital⟩ := h c rfl
    rw [if_neg (not_or.mpr ⟨hsmall, hcapital⟩)]
  · rfl

/-! ## Numerals -/

/-- A numeral begins with a minus sign or a digit; behind a minus sign there is a digit. -/
theorem toString_cases (n : Int) :
    ∃ c digits, asciiDigit? c = some (c.toNat - 0x30) ∧ Nat.toDigits 10 n.natAbs = c :: digits ∧
      ((n < 0 ∧ (toString n).toList = '-' :: c :: digits) ∨
        (0 ≤ n ∧ (toString n).toList = c :: digits)) := by
  obtain ⟨c, digits, hcons, hdigit⟩ := Whole.exists_cons_toDigits n.natAbs
  refine ⟨c, digits, hdigit, hcons, ?_⟩
  rw [Whole.toList_toString, hcons]
  by_cases hneg : n < 0
  · exact .inl ⟨hneg, by rw [if_pos hneg]; rfl⟩
  · exact .inr ⟨by omega, by rw [if_neg hneg]; rfl⟩

/-- No word begins like a numeral. -/
theorem readWord?_toString (n : Int) (rest : List Char) :
    readWord? ((toString n).toList ++ rest) = none := by
  obtain ⟨c, digits, hdigit, -, hcases⟩ := toString_cases n
  have hne : ∀ d ∈ ['n', 't', 'f', 'N', 'I', '-'], d ≠ c := by
    rintro d hd rfl
    have hnone : ∀ d ∈ ['n', 't', 'f', 'N', 'I', '-'], asciiDigit? d = none := by
      simp [asciiDigit?]
    rw [hnone d hd] at hdigit
    cases hdigit
  simp only [List.forall_mem_cons, List.not_mem_nil, false_imp_iff, implies_true, and_true] at hne
  rcases hcases with ⟨-, hchars⟩ | ⟨-, hchars⟩
  · rw [hchars]
    simp [readWord?, words, hne]
  · rw [hchars]
    simp [readWord?, words, hne]

/-- A sign and digits are read as a whole number where the number ends behind them. -/
theorem readNumber_of_wholePart? {here : List Char} {negative : Bool} {digits : List Nat}
    (hsign : (here.head? == some '-') = negative)
    (hwhole : wholePart? (if negative then here.drop 1 else here) = some (digits, rest))
    (h : EndsNumber rest) (hlimit : digits.length ≤ Whole.digitLimit) :
    readNumber here = .ok (.int (Whole.signed negative digits), rest) := by
  have hlong : ¬ Whole.digitLimit < digits.length := by omega
  simp only [readNumber, hsign, hwhole, fraction?_of_endsNumber h, exponent?_of_endsNumber h,
    Option.map_none, Option.getD_none, Option.isSome_none, Bool.or_self, Bool.false_eq_true,
    if_false, hlong]

/-- The numeral of a number that is not too long is read as the number. -/
theorem readNumber_toString {n : Int} (hn : Whole.isTooLong n = false) (h : EndsNumber rest) :
    readNumber ((toString n).toList ++ rest) = .ok (.int n, rest) := by
  have hlimit : (Whole.digits n.natAbs).length ≤ Whole.digitLimit :=
    (Whole.length_digits_le_iff n.natAbs).mpr (by simpa [Whole.isTooLong] using hn)
  have hwhole := wholePart?_toDigits n.natAbs h
  obtain ⟨c, digits, hdigit, hcons, ⟨hneg, hchars⟩ | ⟨hnonneg, hchars⟩⟩ := toString_cases n
  · have hread : readNumber ('-' :: (c :: digits ++ rest)) =
        .ok (.int (Whole.signed true (Whole.digits n.natAbs)), rest) :=
      readNumber_of_wholePart? rfl (hcons ▸ hwhole) h hlimit
    have hsigned : -(n.natAbs : Int) = n := by omega
    rw [hchars, List.cons_append, hread, Whole.signed, if_pos rfl, Whole.ofDigits_digits, hsigned]
  · have hminus : (some c == some '-') = false := by
      rw [beq_eq_false_iff_ne]
      rintro hc
      cases hc
      cases hdigit
    have hread : readNumber (c :: digits ++ rest) =
        .ok (.int (Whole.signed false (Whole.digits n.natAbs)), rest) :=
      readNumber_of_wholePart? hminus (hcons ▸ hwhole) h hlimit
    have hsigned : (n.natAbs : Int) = n := by omega
    rw [hchars, hread, Whole.signed, if_neg (by simp), Whole.ofDigits_digits, hsigned]

end TypedCommands.Json
