import Mathlib.Data.List.Induction
import Mathlib.Data.Nat.Digits.Defs
import TypedCommands.Proofs.Number.Digits

/-!
# The number that digits stand for

Digits in base ten stand for a number by their places: the last one counts ones, the one in
front of it tens, and so on.  Zeros in front count nothing, and without them the digits are
determined by the number.

Main results:

- Theorem `mapM_asciiDigit?_eq_some_iff`: the texts that are read as digits.
- Theorem `ofDigits_map_digitOf`: digits are read as the number that they stand for.
- Theorem `positional_eq_iff`: when digits stand for the same number.
-/

namespace TypedCommands

open TypedCommands.Text

/-- What a digit stands for. -/
def digitOf (c : Char) : Nat := c.toNat - 0x30

/-- All characters are ASCII digits. -/
def IsDecimal (cs : List Char) : Prop := ∀ c ∈ cs, c.isDigit = true

instance (cs : List Char) : Decidable (IsDecimal cs) :=
  decidable_of_iff (cs.all Char.isDigit = true) List.all_eq_true

/-- The number that digits stand for: every digit counts ten times as much as the one behind it. -/
def positional (cs : List Char) : Nat := Nat.ofDigits 10 (cs.reverse.map digitOf)

/-! ## Digits -/

theorem isDecimal_nil : IsDecimal [] := nofun

theorem isDecimal_cons_iff {c : Char} {cs : List Char} :
    IsDecimal (c :: cs) ↔ c.isDigit = true ∧ IsDecimal cs := List.forall_mem_cons

theorem isDecimal_append_iff {cs ds : List Char} :
    IsDecimal (cs ++ ds) ↔ IsDecimal cs ∧ IsDecimal ds := List.forall_mem_append

theorem IsDecimal.of_sublist {cs ds : List Char} (h : IsDecimal ds) (hsub : cs.Sublist ds) :
    IsDecimal cs := fun c hc => h c (hsub.subset hc)

theorem isDecimal_toDigits (m : Nat) : IsDecimal (Nat.toDigits 10 m) := fun _ hc =>
  Nat.isDigit_of_mem_toDigits (by decide) (by decide) hc

theorem asciiDigit?_eq (c : Char) :
    asciiDigit? c = if c.isDigit = true then some (digitOf c) else none := by
  simp only [asciiDigit?, digitOf, Char.isDigit_iff_toNat]
  rfl

/-- A digit is less than ten. -/
theorem digitOf_lt {c : Char} (h : c.isDigit = true) : digitOf c < 10 := by
  have hcode := (Char.isDigit_iff_toNat.1 h).2
  change c.toNat ≤ 57 at hcode
  rw [digitOf]
  omega

/-- A digit is known by what it stands for. -/
theorem eq_of_digitOf_eq {c d : Char} (hc : c.isDigit = true) (hd : d.isDigit = true)
    (h : digitOf c = digitOf d) : c = d := by
  have hcode : 48 ≤ c.toNat := (Char.isDigit_iff_toNat.1 hc).1
  have hdcode : 48 ≤ d.toNat := (Char.isDigit_iff_toNat.1 hd).1
  simp only [digitOf] at h
  rw [← Char.toNat_inj]
  omega

/-- The digit values of a text exist if it is decimal. -/
theorem mapM_asciiDigit?_eq_some_iff {cs : List Char} {ds : List Nat} :
    cs.mapM asciiDigit? = some ds ↔ IsDecimal cs ∧ ds = cs.map digitOf := by
  induction cs generalizing ds with
  | nil => simp [isDecimal_nil, eq_comm]
  | cons c cs ih =>
    rw [List.mapM_cons, asciiDigit?_eq, isDecimal_cons_iff]
    by_cases hc : c.isDigit = true
    · cases hrest : cs.mapM asciiDigit? with
      | none =>
        have hnot : ¬ IsDecimal cs := fun h => by simp [ih.2 ⟨h, rfl⟩] at hrest
        simp [hnot]
      | some es =>
        obtain ⟨hcs, rfl⟩ := ih.1 hrest
        simp [hc, hcs, eq_comm]
    · simp [hc]

/-! ## Places -/

/-- Digits in front count as many places more as there are digits behind. -/
theorem positional_append (cs ds : List Char) :
    positional (cs ++ ds) = 10 ^ ds.length * positional cs + positional ds := by
  simp only [positional, List.reverse_append, List.map_append, Nat.ofDigits_append,
    List.length_map, List.length_reverse]
  omega

theorem positional_cons (c : Char) (cs : List Char) :
    positional (c :: cs) = 10 ^ cs.length * digitOf c + positional cs := by
  rw [← List.singleton_append, positional_append]
  simp [positional]

theorem positional_concat (cs : List Char) (c : Char) :
    positional (cs ++ [c]) = 10 * positional cs + digitOf c := by
  rw [positional_append]
  simp [positional]

/-- Digits are read as the number that they stand for. -/
theorem ofDigits_map_digitOf (cs : List Char) : ofDigits (cs.map digitOf) = positional cs := by
  induction cs using List.reverseRecOn with
  | nil => rfl
  | append_singleton cs c ih =>
    rw [positional_concat, ← ih]
    simp [ofDigits, List.foldl_append]

/-- The digits that a number is written with stand for it. -/
theorem positional_toDigits (m : Nat) : positional (Nat.toDigits 10 m) = m := by
  rw [← ofDigits_map_digitOf]
  exact Whole.ofDigits_digits m

/-! ## What determines digits -/

/-- The digit values of a decimal text are less than ten. -/
theorem lt_of_mem_map_digitOf {cs : List Char} (h : IsDecimal cs) :
    ∀ d ∈ cs.reverse.map digitOf, d < 10 := by
  intro d hd
  obtain ⟨c, hc, rfl⟩ := List.mem_map.1 hd
  exact digitOf_lt (h c (List.mem_reverse.1 hc))

/-- Decimal texts of the same digit values are the same. -/
theorem map_digitOf_injective {cs ds : List Char} (hcs : IsDecimal cs) (hds : IsDecimal ds)
    (h : cs.map digitOf = ds.map digitOf) : cs = ds := by
  induction cs generalizing ds with
  | nil => simpa [eq_comm] using h
  | cons c cs ih =>
    cases ds with
    | nil => cases h
    | cons d ds =>
      obtain ⟨hcd, hrest⟩ := List.cons.inj h
      obtain ⟨hc, hcs⟩ := isDecimal_cons_iff.1 hcs
      obtain ⟨hd, hds⟩ := isDecimal_cons_iff.1 hds
      rw [eq_of_digitOf_eq hc hd hcd, ih hcs hds hrest]

theorem positional_lt {cs : List Char} (h : IsDecimal cs) : positional cs < 10 ^ cs.length := by
  simpa [positional] using
    Nat.ofDigits_lt_base_pow_length (by decide) (lt_of_mem_map_digitOf h)

/-- Digits are determined by how many they are and by the number that they stand for. -/
theorem eq_of_positional_eq {cs ds : List Char} (hcs : IsDecimal cs) (hds : IsDecimal ds)
    (hlength : cs.length = ds.length) (h : positional cs = positional ds) : cs = ds := by
  have hvalues : cs.reverse.map digitOf = ds.reverse.map digitOf :=
    Nat.ofDigits_inj_of_len_eq (by decide) (by simpa using hlength)
      (lt_of_mem_map_digitOf hcs) (lt_of_mem_map_digitOf hds) h
  simp only [List.map_reverse, List.reverse_inj] at hvalues
  exact map_digitOf_injective hcs hds hvalues

/-! ## Zeros in front -/

/-- The digits without the zeros in front of them. -/
def withoutZeros (cs : List Char) : List Char := cs.dropWhile (· == '0')

theorem withoutZeros_sublist (cs : List Char) : (withoutZeros cs).Sublist cs :=
  (List.dropWhile_suffix _).sublist

/-- Zeros in front count nothing. -/
theorem positional_withoutZeros (cs : List Char) :
    positional (withoutZeros cs) = positional cs := by
  induction cs with
  | nil => rfl
  | cons c cs ih =>
    by_cases hc : c = '0'
    · rw [hc, positional_cons, show digitOf '0' = 0 from rfl, Nat.mul_zero, Nat.zero_add, ← ih]
      rfl
    · rw [withoutZeros, List.dropWhile_cons_of_neg (by simpa using hc)]

/-- The first digit that is left is no zero. -/
theorem head?_withoutZeros (cs : List Char) : (withoutZeros cs).head? ≠ some '0' := by
  intro h
  have hnot := List.head?_dropWhile_not (· == '0') cs
  simp only [withoutZeros] at h
  simp [h] at hnot

/-- Digits without zeros in front are determined by the number that they stand for. -/
theorem digits_positional {cs : List Char} (h : IsDecimal cs) (hhead : cs.head? ≠ some '0') :
    Nat.digits 10 (positional cs) = cs.reverse.map digitOf := by
  refine Nat.digits_ofDigits 10 (by decide) _ (lt_of_mem_map_digitOf h) ?_
  intro hne hzero
  cases cs with
  | nil => exact hne rfl
  | cons c cs =>
    have hc : c.isDigit = true := h c List.mem_cons_self
    have hdigit : digitOf c = digitOf '0' := by
      change digitOf c = 0
      simpa using hzero
    rw [eq_of_digitOf_eq hc rfl hdigit] at hhead
    exact hhead rfl

/-- Digits stand for the same number if they are the same but for zeros in front. -/
theorem positional_eq_iff {cs ds : List Char} (hcs : IsDecimal cs) (hds : IsDecimal ds) :
    positional cs = positional ds ↔ withoutZeros cs = withoutZeros ds := by
  have hcs' := hcs.of_sublist (withoutZeros_sublist cs)
  have hds' := hds.of_sublist (withoutZeros_sublist ds)
  rw [← positional_withoutZeros cs, ← positional_withoutZeros ds]
  constructor
  · intro h
    have hdigits := digits_positional hcs' (head?_withoutZeros cs)
    rw [h, digits_positional hds' (head?_withoutZeros ds)] at hdigits
    simp only [List.map_reverse, List.reverse_inj] at hdigits
    exact (map_digitOf_injective hds' hcs' hdigits).symm
  · rintro h
    rw [h]

end TypedCommands
