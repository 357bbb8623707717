import TypedCommands.Coercion

/-!
# How coercion fails

A converter is asked for a value of a text and may do anything with it.  A polite one
answers, refuses the text, or fails with a command error; the builtin converters only
answer and refuse.  Coercion turns a refusal into a problem with the value, so that with
polite converters it never fails in any way but with a command error.

Main results:

- Theorem `onlyRefuses_builtin`: the builtin converters answer or refuse.
- Theorem `FieldType.polite_of_defined`: only the converters of defined classes can be
  impolite.
- Theorem `coerce_eq_error`: the three ways in which coercion with a polite converter fails.
-/

namespace TypedCommands

/-! ## Converters -/

/-- A converter that answers with a value, refuses the text, or fails with a command error. -/
def Converter.Polite (convert : Converter) : Prop :=
  ∀ text failure, convert text = .error failure →
    (∃ message, failure = .defect (.refused message)) ∨ ∃ e, failure = .command e

/-- A converter that answers with a value or refuses the text. -/
def Converter.OnlyRefuses (convert : Converter) : Prop :=
  ∀ text failure, convert text = .error failure → ∃ message, failure = .defect (.refused message)

theorem Converter.OnlyRefuses.polite {convert : Converter} (h : Converter.OnlyRefuses convert) :
    Converter.Polite convert := fun text failure hfail => .inl (h text failure hfail)

theorem exists_of_refuse {message : String} {failure : Failure}
    (h : refuse message = .error failure) : ∃ m, failure = .defect (.refused m) := by
  cases h
  exact ⟨_, rfl⟩

/-- A builtin converter never fails but by refusing the text. -/
theorem onlyRefuses_builtin {b : Builtin} {kind : String} {convert : Converter}
    (h : (FieldType.builtin b).converter? = some (kind, convert)) :
    Converter.OnlyRefuses convert := by
  intro text failure hfail
  cases b <;> cases h
  case text => cases hfail
  case real =>
    simp only [convertReal] at hfail
    split at hfail
    · exact exists_of_refuse hfail
    · split at hfail
      · cases hfail
      · exact exists_of_refuse hfail
  -- The others read the text in one step and refuse it when that fails.
  all_goals
    simp only [convertInteger, convertFlag, convertDate, convertMoment] at hfail
    split at hfail
    · cases hfail
    · exact exists_of_refuse hfail

namespace FieldType

/-- The converter of a type, if it has one, is polite. -/
def Polite (type : FieldType) : Prop :=
  ∀ kind convert, type.converter? = some (kind, convert) → Converter.Polite convert

/-- The converter of a type fails with a command error of its own. -/
def Raises (type : FieldType) (e : CommandError) : Prop :=
  ∃ kind convert text, type.converter? = some (kind, convert) ∧
    convert text = .error (.command e)

/-- A type is polite unless it is a class with a converter that is not. -/
theorem polite_of_defined {type : FieldType} (h : ∀ c, type = .defined c → type.Polite) :
    type.Polite := by
  cases type with
  | builtin b =>
    intro kind convert hconverter
    exact (onlyRefuses_builtin hconverter).polite
  | defined c => exact h c rfl
  | _ =>
    intro kind convert hconverter
    cases hconverter

end FieldType

/-! ## Coercion -/

/--
With a polite converter coercion fails because there is no converter, because the text is
no value, or because the converter fails with a command error of its own.
-/
theorem coerce_eq_error {type : FieldType} (hp : type.Polite) {text : String}
    {failure : Failure} (h : coerce type text = .error failure) :
    failure = .ofProblem (.unsupported type.label) ∨
      (∃ kind cause, failure = .ofProblem (.invalidValue text kind cause)) ∨
      ∃ e, type.Raises e ∧ failure = .command e := by
  rw [coerce] at h
  split at h
  · cases h
    exact .inl rfl
  · next kind convert hconverter =>
    split at h
    · cases h
    · next answer hanswer =>
      split at h
      · cases h
        exact .inr (.inl ⟨_, _, rfl⟩)
      · next hrefusal =>
        cases h
        rcases hp kind convert hconverter text failure hanswer with ⟨message, rfl⟩ | ⟨e, rfl⟩
        · cases hrefusal
        · exact .inr (.inr ⟨e, ⟨kind, convert, text, hconverter, hanswer⟩, rfl⟩)

end TypedCommands
