import TypedCommands.Coercion
import TypedCommands.Proofs.Number.Positional

/-!
# Which texts are dates

A text is read as a date exactly if it is four digits for the year, two for the month and two
for the day, with hyphens between them, and these are a day of the proleptic Gregorian
calendar.  Such a text is what the date is rendered as, so reading and rendering are inverse.

Main results:

- Theorem `isDay_iff`: the days of the proleptic Gregorian calendar.
- Theorem `Date.read_eq_ok_iff`: the texts that are read, and the dates they are read as.
- Theorem `Date.isoForm_iff`: the form of a date is what it is rendered as.
- Theorem `coerce_date_exact`: coercion to dates and to moments.
-/

namespace TypedCommands

open TypedCommands.Text

/-! ## The calendar -/

/--
A month of a year has a day.  Every fourth year has a leap day, but of the years that end a
century only every fourth one has.
-/
inductive IsGregorian (year : Nat) : Nat → Nat → Prop
  | long {month day : Nat} : month ∈ [1, 3, 5, 7, 8, 10, 12] → 1 ≤ day → day ≤ 31 →
      IsGregorian year month day
  | short {month day : Nat} : month ∈ [4, 6, 9, 11] → 1 ≤ day → day ≤ 30 →
      IsGregorian year month day
  | february {day : Nat} : 1 ≤ day → day ≤ 28 → IsGregorian year 2 day
  | leap : 4 ∣ year → (100 ∣ year → 400 ∣ year) → IsGregorian year 2 29

variable {year month day : Nat}

/-- The leap years by divisibility. -/
theorem isLeapYear_iff (year : Nat) :
    isLeapYear year = true ↔ 4 ∣ year ∧ (100 ∣ year → 400 ∣ year) := by
  simp only [isLeapYear, Bool.and_eq_true, Bool.or_eq_true, beq_iff_eq, bne_iff_ne,
    Nat.dvd_iff_mod_eq_zero]
  omega

/-- No month has more than 31 days. -/
theorem daysInMonth_le (year month : Nat) : daysInMonth year month ≤ 31 := by
  unfold daysInMonth
  split
  · split <;> decide
  · split <;> decide

/-- The days of the calendar are those within the months. -/
theorem isGregorian_iff :
    IsGregorian year month day ↔
      (1 ≤ month ∧ month ≤ 12) ∧ 1 ≤ day ∧ day ≤ daysInMonth year month := by
  constructor
  · intro h
    cases h with
    | long hmonth _ _ =>
      simp only [List.mem_cons, List.not_mem_nil, or_false] at hmonth
      have hdays : daysInMonth year month = 31 := by
        rw [daysInMonth, if_neg (by omega), if_neg (by omega)]
      omega
    | short hmonth _ _ =>
      simp only [List.mem_cons, List.not_mem_nil, or_false] at hmonth
      have hdays : daysInMonth year month = 30 := by
        rw [daysInMonth, if_neg (by omega), if_pos (by omega)]
      omega
    | february _ _ =>
      have hdays : 28 ≤ daysInMonth year 2 := by
        rw [daysInMonth, if_pos rfl]
        split <;> decide
      omega
    | leap hfour hcentury =>
      have hdays : daysInMonth year 2 = 29 := by
        rw [daysInMonth, if_pos rfl, if_pos ((isLeapYear_iff year).2 ⟨hfour, hcentury⟩)]
      omega
  · rintro ⟨hmonth, hfirst, hlast⟩
    rw [daysInMonth] at hlast
    split at hlast
    · next hfebruary =>
      subst hfebruary
      by_cases hday : day ≤ 28
      · exact .february hfirst hday
      · split at hlast
        · next hleap =>
          obtain ⟨hfour, hcentury⟩ := (isLeapYear_iff year).1 hleap
          obtain rfl : day = 29 := by omega
          exact .leap hfour hcentury
        · omega
    · next hother =>
      split at hlast
      · next hshort =>
        exact .short (by simpa using hshort) hfirst hlast
      · next hlong =>
        refine .long ?_ hfirst hlast
        simp only [List.mem_cons, List.not_mem_nil, or_false]
        omega

/-- The days of the years 1 to 9999. -/
theorem isDay_iff :
    IsDay year month day ↔ (1 ≤ year ∧ year ≤ 9999) ∧ IsGregorian year month day := by
  rw [isGregorian_iff]

/-! ## Padded digits -/

/-- Padded digits are decimal digits. -/
theorem isDecimal_paddedDigits (width n : Nat) : IsDecimal (paddedDigits width n) := by
  rw [paddedDigits, isDecimal_append_iff]
  refine ⟨fun c hc => ?_, isDecimal_toDigits n⟩
  rw [List.eq_of_mem_replicate hc]
  rfl

/-- Zeros have the value zero. -/
theorem positional_replicate_zero (n : Nat) : positional (List.replicate n '0') = 0 := by
  induction n with
  | zero => rfl
  | succ n ih =>
    rw [List.replicate_succ, positional_cons, ih]
    rfl

/-- Zeros in front change nothing. -/
theorem positional_paddedDigits (width n : Nat) : positional (paddedDigits width n) = n := by
  rw [paddedDigits, positional_append, positional_replicate_zero, positional_toDigits]
  omega

/-- A number that is small enough is padded to exactly as many digits as are asked for. -/
theorem length_paddedDigits_of_lt {width n : Nat} (hwidth : 0 < width) (h : n < 10 ^ width) :
    (paddedDigits width n).length = width := by
  have hlength := (Nat.length_toDigits_le_iff (b := 10) (by decide) hwidth).2 h
  rw [paddedDigits, List.length_append, List.length_replicate]
  omega

/-- Digits are the padded digits of the number that they stand for. -/
theorem paddedDigits_positional {cs : List Char} {width : Nat} (h : IsDecimal cs)
    (hwidth : 0 < width) (hlength : cs.length = width) :
    paddedDigits width (positional cs) = cs := by
  have hlt := positional_lt h
  rw [hlength] at hlt
  apply eq_of_positional_eq (isDecimal_paddedDigits width _) h
  · rw [hlength, length_paddedDigits_of_lt hwidth hlt]
  · rw [positional_paddedDigits]

/-! ## The form of dates -/

/-- Four digits for the year, two for the month and two for the day, with hyphens between them. -/
inductive IsoForm : List Char → Nat → Nat → Nat → Prop
  | mk {y m d : List Char} : IsDecimal y → y.length = 4 → IsDecimal m → m.length = 2 →
      IsDecimal d → d.length = 2 →
      IsoForm (y ++ '-' :: (m ++ '-' :: d)) (positional y) (positional m) (positional d)

/-- Three numbers have one form at most. -/
theorem IsoForm.eq_paddedDigits {cs : List Char} (h : IsoForm cs year month day) :
    cs = paddedDigits 4 year ++ '-' :: (paddedDigits 2 month ++ '-' :: paddedDigits 2 day) := by
  cases h with
  | mk hy hylength hm hmlength hd hdlength =>
    rw [paddedDigits_positional hy (by decide) hylength,
      paddedDigits_positional hm (by decide) hmlength,
      paddedDigits_positional hd (by decide) hdlength]

namespace Date

/-- The parts of a text are those of its form. -/
theorem isoForm_of_parts? {cs : List Char} {last : Char}
    (h : parts? cs = some (year, month, day, last)) : IsoForm cs year month day := by
  unfold parts? at h
  split at h
  · next a b c d e f g i =>
    split at h
    · next ys ms ds hy hm hd =>
      simp only [Option.some.injEq, Prod.mk.injEq] at h
      obtain ⟨rfl, rfl, rfl, -⟩ := h
      obtain ⟨hyear, rfl⟩ := mapM_asciiDigit?_eq_some_iff.1 hy
      obtain ⟨hmonth, rfl⟩ := mapM_asciiDigit?_eq_some_iff.1 hm
      obtain ⟨hday, rfl⟩ := mapM_asciiDigit?_eq_some_iff.1 hd
      simp only [ofDigits_map_digitOf]
      exact .mk hyear rfl hmonth rfl hday rfl
    · cases h
  · cases h

/-- A text of the form has its parts. -/
theorem exists_parts?_of_isoForm {cs : List Char} (h : IsoForm cs year month day) :
    ∃ last, parts? cs = some (year, month, day, last) := by
  cases h with
  | @mk y m d hy hylength hm hmlength hd hdlength =>
    obtain ⟨y₁, y₂, y₃, y₄, rfl⟩ := List.length_eq_four.1 hylength
    obtain ⟨m₁, m₂, rfl⟩ := List.length_eq_two.1 hmlength
    obtain ⟨d₁, d₂, rfl⟩ := List.length_eq_two.1 hdlength
    refine ⟨d₂, ?_⟩
    simp only [List.cons_append, List.nil_append, parts?,
      mapM_asciiDigit?_eq_some_iff.2 ⟨hy, rfl⟩, mapM_asciiDigit?_eq_some_iff.2 ⟨hm, rfl⟩,
      mapM_asciiDigit?_eq_some_iff.2 ⟨hd, rfl⟩, ofDigits_map_digitOf]

/-- A date is made of exactly its own year, month and day. -/
theorem ofParts?_eq_some_iff {d : Date} :
    ofParts? year month day = some d ↔ d.year = year ∧ d.month = month ∧ d.day = day := by
  obtain ⟨y, m, n, hday⟩ := d
  constructor
  · intro h
    rw [ofParts?] at h
    split at h
    · cases h
      exact ⟨rfl, rfl, rfl⟩
    · cases h
  · rintro ⟨rfl, rfl, rfl⟩
    exact dif_pos hday

/-- A text is read as a date exactly if it has the form of that date. -/
theorem read_eq_ok_iff {text : String} {d : Date} :
    read text = .ok d ↔ IsoForm text.toList d.year d.month d.day := by
  rw [read]
  constructor
  · intro h
    split at h
    · cases h
    · next year month day last hparts =>
      split at h
      · cases h
      split at h
      · cases h
      split at h
      · cases h
      split at h
      · next d' hd' =>
        obtain rfl := Except.ok.inj h
        obtain ⟨rfl, rfl, rfl⟩ := ofParts?_eq_some_iff.1 hd'
        exact isoForm_of_parts? hparts
      · cases h
  · intro h
    obtain ⟨last, hparts⟩ := exists_parts?_of_isoForm h
    obtain ⟨hyear, hmonth, hday⟩ := d.isDay
    have hdays := daysInMonth_le d.year d.month
    simp only [hparts, ofParts?_eq_some_iff.2 ⟨rfl, rfl, rfl⟩]
    rw [if_neg (by omega), if_neg (by omega), if_neg (by omega)]

theorem digits_eq (d : Date) :
    d.digits =
      paddedDigits 4 d.year ++ '-' :: (paddedDigits 2 d.month ++ '-' :: paddedDigits 2 d.day) := by
  simp [digits]

/-- The digits of a date have its form. -/
theorem isoForm_digits (d : Date) : IsoForm d.digits d.year d.month d.day := by
  obtain ⟨hyear, hmonth, hday⟩ := d.isDay
  have hdays := daysInMonth_le d.year d.month
  have h := IsoForm.mk
    (isDecimal_paddedDigits 4 d.year) (length_paddedDigits_of_lt (by decide) (by omega))
    (isDecimal_paddedDigits 2 d.month) (length_paddedDigits_of_lt (by decide) (by omega))
    (isDecimal_paddedDigits 2 d.day) (length_paddedDigits_of_lt (by decide) (by omega))
  rw [digits_eq]
  simpa only [positional_paddedDigits] using h

/-- A text has the form of a date exactly if it is what the date is rendered as. -/
theorem isoForm_iff {text : String} {d : Date} :
    IsoForm text.toList d.year d.month d.day ↔ d.render = text := by
  constructor
  · intro h
    rw [render, digits_eq, ← h.eq_paddedDigits, String.ofList_toList]
  · rintro rfl
    rw [render, String.toList_ofList]
    exact d.isoForm_digits

/-- The texts that are read are the forms of the days of the years 1 to 9999. -/
theorem exists_read_iff {text : String} :
    (∃ d, read text = .ok d) ↔
      ∃ year month day, IsoForm text.toList year month day ∧
        (1 ≤ year ∧ year ≤ 9999) ∧ IsGregorian year month day := by
  constructor
  · rintro ⟨d, hd⟩
    exact ⟨d.year, d.month, d.day, read_eq_ok_iff.1 hd, isDay_iff.1 d.isDay⟩
  · rintro ⟨year, month, day, hform, hday⟩
    exact ⟨⟨year, month, day, isDay_iff.2 hday⟩, read_eq_ok_iff.2 hform⟩

end Date

/-! ## Coercion -/

/-- Coercion answers with the date that is read and calls anything else an invalid value. -/
theorem coerce_date_eq (text : String) :
    coerce (.builtin .date) text =
      match Date.read text with
      | .ok d => .ok (.date d)
      | .error fault => .error (.ofProblem (.invalidValue text "date" fault.message)) := by
  simp only [coerce, FieldType.converter?, convertDate]
  cases Date.read text <;> rfl

/-- Coercion to moments reads dates in the same way. -/
theorem coerce_moment_eq (text : String) :
    coerce (.builtin .moment) text =
      match Date.read text with
      | .ok d => .ok (.moment (Moment.midnight d))
      | .error fault => .error (.ofProblem (.invalidValue text "date" fault.message)) := by
  simp only [coerce, FieldType.converter?, convertMoment]
  cases Date.read text <;> rfl

/-- A text is taken as a date exactly if the date is rendered as the text. -/
theorem coerce_date_eq_ok_iff {text : String} {v : Value} :
    coerce (.builtin .date) text = .ok v ↔ ∃ d : Date, v = .date d ∧ d.render = text := by
  rw [coerce_date_eq]
  constructor
  · intro h
    split at h
    · next d hread =>
      exact ⟨d, (Except.ok.inj h).symm, Date.isoForm_iff.1 (Date.read_eq_ok_iff.1 hread)⟩
    · cases h
  · rintro ⟨d, rfl, hrender⟩
    rw [Date.read_eq_ok_iff.2 (Date.isoForm_iff.2 hrender)]

/--
Dates are read exactly.  A text is taken if it is the form of a day of the proleptic Gregorian
calendar in the years 1 to 9999.  The date then has the three parts of that form and is
rendered as the text again, and every date that is rendered as the text is the one that is
read.  A moment is taken from the same texts and is the midnight of that day in universal time.
Every other text is an invalid value in the place of a date, in both cases.
-/
theorem coerce_date_exact :
    (∀ text, (∃ v, coerce (.builtin .date) text = .ok v) ↔
      ∃ year month day, IsoForm text.toList year month day ∧
        (1 ≤ year ∧ year ≤ 9999) ∧ IsGregorian year month day) ∧
    (∀ text v, coerce (.builtin .date) text = .ok v ↔
      ∃ d : Date, v = .date d ∧ d.render = text) ∧
    (∀ d : Date, IsoForm d.render.toList d.year d.month d.day) ∧
    (∀ text v, coerce (.builtin .moment) text = .ok v ↔
      ∃ d : Date, v = .moment ⟨d, 0, 0, 0, 0, some 0⟩ ∧
        coerce (.builtin .date) text = .ok (.date d)) ∧
    ∀ text, (∀ v, coerce (.builtin .date) text ≠ .ok v) →
      ∃ cause, coerce (.builtin .date) text =
          .error (.ofProblem (.invalidValue text "date" cause)) ∧
        coerce (.builtin .moment) text =
          .error (.ofProblem (.invalidValue text "date" cause)) := by
  refine ⟨fun text => ?_, fun text v => coerce_date_eq_ok_iff, fun d => ?_, fun text v => ?_,
    fun text hnone => ?_⟩
  · rw [← Date.exists_read_iff, coerce_date_eq]
    cases Date.read text <;> simp
  · exact Date.isoForm_iff.2 rfl
  · rw [coerce_date_eq, coerce_moment_eq]
    cases hread : Date.read text with
    | ok d => simp [Moment.midnight, eq_comm]
    | error fault => simp
  · rw [coerce_date_eq] at hnone ⊢
    rw [coerce_moment_eq]
    cases hread : Date.read text with
    | ok d => simp [hread] at hnone
    | error fault => exact ⟨fault.message, rfl, rfl⟩

/-- A leap day is taken in a leap year and refused in the year before. -/
theorem coerce_date_exact_leapDay :
    (∃ v, coerce (.builtin .date) "2024-02-29" = .ok v) ∧
      ∃ cause, coerce (.builtin .date) "2023-02-29" =
          .error (.ofProblem (.invalidValue "2023-02-29" "date" cause)) ∧
        coerce (.builtin .moment) "2023-02-29" =
          .error (.ofProblem (.invalidValue "2023-02-29" "date" cause)) := by
  obtain ⟨htaken, -, -, -, hrefused⟩ := coerce_date_exact
  have hform : IsoForm ['2', '0', '2', '4', '-', '0', '2', '-', '2', '9'] 2024 2 29 :=
    .mk (y := ['2', '0', '2', '4']) (m := ['0', '2']) (d := ['2', '9'])
      (by decide) rfl (by decide) rfl (by decide) rfl
  refine ⟨(htaken _).2 ⟨2024, 2, 29, by simpa using hform, by decide,
    .leap (by decide) (by decide)⟩, hrefused _ fun v hv => ?_⟩
  rw [coerce_date_eq, show Date.read "2023-02-29" = .error .noSuchDay from rfl] at hv
  cases hv

end TypedCommands
