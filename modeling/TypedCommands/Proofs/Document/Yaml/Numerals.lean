import Mathlib.Data.List.TakeWhile
import TypedCommands.Document.Yaml.PlainScalar
import TypedCommands.Proofs.Number.Digits

/-!
# Whole numbers without quotes

The numeral of a whole number, which is written without quotes, stands for that number
again: it is no word, no floating-point number and, since its first digit is no zero, no
numeral of another base.  Only a numeral of too many digits stands for nothing.

Main results:

- Theorem `Plain.value_toString`: what the numeral of a whole number stands for.
-/

namespace TypedCommands.Yaml.Plain

open TypedCommands.Text

variable {m : Nat}

theorem isDigit_of_mem_toDigits {c : Char} (h : c ∈ Nat.toDigits 10 m) : isDigit c = true := by
  simp [isDigit, Whole.asciiDigit?_of_mem_toDigits h]

theorem digitsOf_toDigits (m : Nat) : digitsOf (Nat.toDigits 10 m) = Whole.digits m := by
  rw [digitsOf, Whole.digits, ← List.filterMap_eq_map]
  exact List.filterMap_congr fun c hc => Whole.asciiDigit?_of_mem_toDigits hc

/-- A number is read back from its digits. -/
theorem ofBase_digitsOf_toDigits (m : Nat) : ofBase 10 (digitsOf (Nat.toDigits 10 m)) = m := by
  have h := Whole.ofDigits_digits m
  rw [digitsOf_toDigits]
  simp only [ofBase, ofDigits, Nat.mul_comm _ 10] at h ⊢
  exact h

/-- The digits of a number are a numeral without marks between them. -/
theorem isGrouped_toDigits (m : Nat) : isGrouped (Nat.toDigits 10 m) = true := by
  have hall := fun c (hc : c ∈ Nat.toDigits 10 m) => isDigit_of_mem_toDigits hc
  obtain ⟨c, rest, hcons⟩ :=
    List.exists_cons_of_length_pos (Nat.length_toDigits_pos (b := 10) (n := m))
  rw [hcons] at hall ⊢
  simp only [isGrouped, Bool.and_eq_true, List.all_eq_true, Bool.or_eq_true]
  exact ⟨hall c List.mem_cons_self, fun d hd => .inl (hall d (List.mem_cons_of_mem _ hd))⟩

/-- The digits of a number give it back unless there are too many of them. -/
theorem decimalNumber_toDigits (m : Nat) :
    decimalNumber (digitsOf (Nat.toDigits 10 m)) =
      if Whole.tooLongNumber ≤ m then
        .error (.range (Whole.tooLong (Nat.toDigits 10 m).length))
      else .ok m := by
  have hlimit := Whole.length_digits_le_iff m
  rw [decimalNumber, ofBase_digitsOf_toDigits, digitsOf_toDigits, ← Whole.length_digits]
  by_cases hlong : Whole.tooLongNumber ≤ m
  · rw [if_pos (by omega), if_pos hlong]
  · rw [if_neg (by omega), if_neg hlong]

/-- The numeral of a number without a sign. -/
theorem natural?_toDigits (m : Nat) :
    natural? (Nat.toDigits 10 m) = some (decimalNumber (digitsOf (Nat.toDigits 10 m))) := by
  rcases Nat.eq_zero_or_pos m with rfl | hpos
  · rfl
  · have hhead := Whole.head?_toDigits hpos
    have hcolon : ':' ∉ Nat.toDigits 10 m := by
      intro hc
      cases isDigit_of_mem_toDigits hc
    have hgrouped := isGrouped_toDigits m
    unfold natural?
    split
    · next h => simp [h] at hhead
    · next h => simp [h] at hhead
    · next h => simp [h] at hhead
    · next h => simp [h] at hhead
    · rw [List.splitOn_eq_singleton hcolon]
      simp [hgrouped]

/-! ## What a numeral is not -/

section

variable {cs : List Char} {c : Char}

/-- No word holds a digit. -/
theorem lookup_words_of_mem (hc : c ∈ cs) (hdigit : isDigit c = true) :
    words.lookup (String.ofList cs) = none := by
  have hall : ∀ w ∈ words, w.1.toList.any isDigit = false := by
    simp only [words, List.forall_mem_cons, List.not_mem_nil, false_imp_iff, implies_true, and_true]
    decide
  rw [List.lookup_eq_none_iff]
  intro w hw
  rw [bne_iff_ne]
  intro heq
  have hmem : c ∈ w.1.toList := by
    rw [← heq, String.toList_ofList]
    exact hc
  exact absurd hdigit (List.any_eq_false.mp (hall w hw) c hmem)

/-- No mark holds a digit. -/
theorem isMark_of_mem (hc : c ∈ cs) (hdigit : isDigit c = true) : isMark cs = false := by
  have hmark : c ≠ '<' ∧ c ≠ '=' := by
    constructor <;> rintro rfl <;> cases hdigit
  simp only [isMark, Bool.or_eq_false_iff, beq_eq_false_iff_ne]
  constructor <;> rintro rfl <;> simp [hmark] at hc

/-- Every floating-point number has a point. -/
theorem real?_of_not_mem (hpoint : '.' ∉ cs) : real? cs = none := by
  have hall : ∀ w ∈ realWords, '.' ∈ w.1.toList := by
    simp [realWords]
  have hwords : realWords.lookup (String.ofList cs) = none := by
    rw [List.lookup_eq_none_iff]
    intro w hw
    rw [bne_iff_ne]
    intro heq
    exact hpoint (by simpa [← heq] using hall w hw)
  have hdrop : (Numeral.spanSign cs).2.dropWhile (· != '.') = [] := by
    rw [List.dropWhile_eq_nil_iff]
    intro d hd
    have hmem : d ∈ cs := by
      unfold Numeral.spanSign at hd
      split at hd
      · exact List.mem_cons_of_mem _ hd
      · exact List.mem_cons_of_mem _ hd
      · exact hd
    rw [bne_iff_ne]
    rintro rfl
    exact hpoint hmem
  unfold real?
  rw [hwords]
  dsimp only
  split
  · exact absurd List.mem_cons_self hpoint
  · simp [unsignedReal?, hdrop]

end

/-! ## Numerals with a sign -/

/-- Numerals are made of digits and perhaps a minus sign. -/
theorem mem_toList_toString {n : Int} {c : Char} (h : c ∈ (toString n).toList) :
    c = '-' ∨ isDigit c = true := by
  rw [Whole.toList_toString, List.mem_append] at h
  rcases h with h | h
  · split at h
    · exact .inl (List.mem_singleton.mp h)
    · cases h
  · exact .inr (isDigit_of_mem_toDigits h)

theorem exists_cons_toDigits (m : Nat) :
    ∃ c rest, Nat.toDigits 10 m = c :: rest ∧ isDigit c = true := by
  obtain ⟨c, rest, hcons, hdigit⟩ := Whole.exists_cons_toDigits m
  exact ⟨c, rest, hcons, by simp [isDigit, hdigit]⟩

/-- The sign of a numeral is split from its digits. -/
theorem spanSign_toString (n : Int) :
    Numeral.spanSign (toString n).toList = (decide (n < 0), Nat.toDigits 10 n.natAbs) := by
  rw [Whole.toList_toString]
  by_cases hneg : n < 0
  · simp [hneg, Numeral.spanSign]
  · obtain ⟨c, rest, hcons, hdigit⟩ := exists_cons_toDigits n.natAbs
    rw [hcons]
    simp only [hneg, if_false, List.nil_append, decide_false]
    unfold Numeral.spanSign
    split
    · next h => obtain ⟨rfl, -⟩ := List.cons.inj h; cases hdigit
    · next h => obtain ⟨rfl, -⟩ := List.cons.inj h; cases hdigit
    · rfl

/-- A numeral is read back as its number unless it has too many digits. -/
theorem integer?_toString (n : Int) :
    integer? (toString n).toList = some
      (if Whole.isTooLong n then
        .error (.range (Whole.tooLong (Nat.toDigits 10 n.natAbs).length))
      else .ok n) := by
  have hsigned : (if n < 0 then -(n.natAbs : Int) else (n.natAbs : Int)) = n := by
    split <;> omega
  rw [integer?, spanSign_toString]
  simp only [natural?_toDigits, decimalNumber_toDigits, Option.map_some, Whole.isTooLong,
    decide_eq_true_eq, Option.some.injEq]
  by_cases hlong : Whole.tooLongNumber ≤ n.natAbs
  · simp only [if_pos hlong]
    rfl
  · simp only [if_neg hlong]
    exact congrArg Except.ok hsigned

/-- What the numeral of a whole number stands for. -/
theorem value_toString (n : Int) :
    value (toString n) =
      if Whole.isTooLong n then
        .error (.range (Whole.tooLong (Nat.toDigits 10 n.natAbs).length))
      else .ok (.int n) := by
  obtain ⟨c, rest, hcons, hdigit⟩ := exists_cons_toDigits n.natAbs
  have hc : c ∈ (toString n).toList := by
    rw [Whole.toList_toString, hcons]
    exact List.mem_append_right _ List.mem_cons_self
  have hpoint : '.' ∉ (toString n).toList := by
    intro h
    rcases mem_toList_toString h with h | h <;> cases h
  simp only [value, value?, lookup_words_of_mem hc hdigit, isMark_of_mem hc hdigit,
    real?_of_not_mem hpoint, integer?_toString]
  by_cases hlong : Whole.isTooLong n = true <;> simp [hlong, Except.map]

end TypedCommands.Yaml.Plain
