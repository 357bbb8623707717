import TypedCommands.Proofs.Plan
import TypedCommands.Record.Binding

/-!
# Where arguments go

The routes of arguments, said for each argument by itself: a flag goes to the field it
names, a named argument to the field of that name, and the `j`-th positional argument
to positional field number `j`, or to the first positional field that collects values
if that comes earlier.  The number of a positional argument counts positional arguments
only; binding instead keeps the number of the next positional field.

Main results:

- Theorems `Plan.route?_of_routes` and `Plan.routes_of_route?`: binding sends every
  argument along its route and keeps the number that the arguments so far ask for.
- Theorem `Plan.exists_deliveries_or_refuses`: either every argument is delivered, or a
  first one is refused.
- Theorem `Plan.exists_deliveries_iff`: everything is delivered if each argument by itself
  has a route and a value for its field.
-/

namespace TypedCommands

namespace Plan

/-- An unnamed argument is positional unless its value is the binding name of a flag. -/
def isPositional (p : Plan) (a : Argument) : Bool :=
  a.name == "" && !p.bindings.any fun b => b.name == a.value && b.isFlag

/--
The number of the positional field that the `j`-th positional argument goes to: the
first positional field that collects values takes all arguments from there on.
-/
def fieldNumber (p : Plan) (j : Nat) : Nat :=
  match p.positional.findIdx? (·.isSequence) with
  | none => j
  | some sink => min j sink

/--
The routes of an argument with the arguments `before` in front of it: the binding of
the field it goes to, and the text that it gives to the field.
-/
inductive Routes (p : Plan) (before : List Argument) (a : Argument) :
    FieldBinding → String → Prop
  | flag {b : FieldBinding} :
      a.name = "" → b ∈ p.bindings → b.name = a.value → b.isFlag = true →
      Routes p before a b "true"
  | positional {b : FieldBinding} :
      p.isPositional a = true →
      p.positional[p.fieldNumber (before.countP p.isPositional)]? = some b →
      Routes p before a b a.value
  | named {b : FieldBinding} :
      a.name ≠ "" → b ∈ p.bindings → b.name = a.name → Routes p before a b a.value

/-- The values that arguments deliver, each with the binding of its field. -/
inductive Deliveries (p : Plan) :
    List Argument → List Argument → List (FieldBinding × Value) → Prop
  | nil {before : List Argument} : Deliveries p before [] []
  | cons {before rest : List Argument} {a : Argument} {b : FieldBinding} {text : String}
      {v : Value} {delivered : List (FieldBinding × Value)} :
      p.Routes before a b text → coerce b.valueType text = .ok v →
      Deliveries p (before ++ [a]) rest delivered →
      Deliveries p before (a :: rest) ((b, v) :: delivered)

/-- Why an argument is refused: it has no route, or its text is no value of the field. -/
inductive Refuses (p : Plan) (before : List Argument) (a : Argument) : Failure → Prop
  | unrecognised :
      (∀ b text, ¬ p.Routes before a b text) →
      Refuses p before a (.ofProblem (.unrecognised a))
  | uncoerced {b : FieldBinding} {text : String} {failure : Failure} :
      p.Routes before a b text → coerce b.valueType text = .error failure →
      Refuses p before a failure

/-! ## The number of the next positional field -/

theorem fieldNumber_zero (p : Plan) : p.fieldNumber 0 = 0 := by
  unfold fieldNumber
  split <;> simp

/-- The next field is the same one if it collects values, and the one behind it otherwise. -/
theorem fieldNumber_succ {p : Plan} {j : Nat} {b : FieldBinding}
    (h : p.positional[p.fieldNumber j]? = some b) :
    p.fieldNumber (j + 1) = if b.isSequence then p.fieldNumber j else p.fieldNumber j + 1 := by
  unfold fieldNumber at h ⊢
  cases hsink : p.positional.findIdx? (·.isSequence) with
  | none =>
    simp only [hsink] at h ⊢
    have hb : b.isSequence = false := by
      have := List.findIdx?_eq_none_iff.1 hsink b (List.mem_of_getElem? h)
      simpa using this
    simp [hb]
  | some sink =>
    simp only [hsink] at h ⊢
    obtain ⟨hlt, hseq, hbefore⟩ := List.findIdx?_eq_some_iff_getElem.1 hsink
    by_cases hj : j < sink
    · -- In front of the sink no field collects values.
      have hmin : min j sink = j := by omega
      rw [hmin] at h ⊢
      have hb : b.isSequence = false := by
        have := hbefore j hj
        obtain ⟨_, rfl⟩ := List.getElem?_eq_some_iff.1 h
        simpa using this
      simp only [hb, Bool.false_eq_true, if_false]
      omega
    · have hmin : min j sink = sink := by omega
      rw [hmin] at h ⊢
      have hb : b.isSequence = true := by
        obtain ⟨_, rfl⟩ := List.getElem?_eq_some_iff.1 h
        exact hseq
      simp only [hb, if_true]
      omega

/-! ## Routes are what binding computes -/

theorem flag?_eq_some_iff {p : Plan} (hp : (p.bindings.map (·.name)).Nodup) {a : Argument}
    {b : FieldBinding} :
    p.flag? a = some b ↔ b ∈ p.bindings ∧ b.name = a.value ∧ b.isFlag = true := by
  rw [flag?, Option.filter_eq_some_iff, find?_eq_some_iff hp, and_assoc]

/-- An argument is for a positional field if it has no name and is no flag. -/
theorem isPositional_eq {p : Plan} (hp : (p.bindings.map (·.name)).Nodup) (a : Argument) :
    p.isPositional a = (a.name == "" && (p.flag? a).isNone) := by
  have hany : (p.bindings.any fun b => b.name == a.value && b.isFlag) = (p.flag? a).isSome := by
    rw [Bool.eq_iff_iff, List.any_eq_true, Option.isSome_iff_exists]
    constructor
    · rintro ⟨b, hb, hflag⟩
      rw [Bool.and_eq_true, beq_iff_eq] at hflag
      exact ⟨b, (flag?_eq_some_iff hp).2 ⟨hb, hflag⟩⟩
    · rintro ⟨b, hb⟩
      obtain ⟨hmem, hname, hflag⟩ := (flag?_eq_some_iff hp).1 hb
      exact ⟨b, hmem, by simp [hname, hflag]⟩
  rw [isPositional, hany, Option.not_isSome]

theorem countP_isPositional_append (p : Plan) (before : List Argument) (a : Argument) :
    (before ++ [a]).countP p.isPositional =
      before.countP p.isPositional + if p.isPositional a then 1 else 0 := by
  rw [List.countP_append, List.countP_singleton]

/--
At the number of the next positional field, binding sends an argument along its route,
and the number it keeps is the one that the arguments so far ask for.
-/
theorem route?_of_routes {p : Plan} (hp : (p.bindings.map (·.name)).Nodup)
    {before : List Argument} {a : Argument} {b : FieldBinding} {text : String}
    (h : p.Routes before a b text) :
    p.route? (p.fieldNumber (before.countP p.isPositional)) a =
      some ⟨b, text, p.fieldNumber ((before ++ [a]).countP p.isPositional)⟩ := by
  rw [countP_isPositional_append]
  have hpos := isPositional_eq hp a
  cases h with
  | flag hname hmem hvalue hb =>
    have hflag := (flag?_eq_some_iff hp).2 ⟨hmem, hvalue, hb⟩
    simp [route?, hname, hflag, hpos]
  | positional hyes hb =>
    obtain ⟨hname, hflag⟩ : a.name = "" ∧ p.flag? a = none := by simpa [hpos] using hyes
    simp [route?, hname, hflag, hb, hyes, fieldNumber_succ hb]
  | named hname hmem hb =>
    have hfound := (find?_eq_some_iff hp).2 ⟨hmem, hb⟩
    simp [route?, hname, hfound, hpos]

/-- Whatever binding sends somewhere has a route there. -/
theorem routes_of_route? {p : Plan} (hp : (p.bindings.map (·.name)).Nodup)
    {before : List Argument} {a : Argument} {route : Route}
    (h : p.route? (p.fieldNumber (before.countP p.isPositional)) a = some route) :
    p.Routes before a route.binding route.text := by
  rw [route?] at h
  split at h
  · next hname =>
    split at h
    · next b hflag =>
      cases h
      obtain ⟨hmem, hvalue, hb⟩ := (flag?_eq_some_iff hp).1 hflag
      exact .flag hname hmem hvalue hb
    · next hflag =>
      obtain ⟨b, hb, rfl⟩ := Option.map_eq_some_iff.1 h
      exact .positional (by simp [isPositional_eq hp, hname, hflag]) hb
  · next hname =>
    obtain ⟨b, hb, rfl⟩ := Option.map_eq_some_iff.1 h
    obtain ⟨hmem, hb⟩ := (find?_eq_some_iff hp).1 hb
    exact .named hname hmem hb

/-- An argument has at most one route. -/
theorem Routes.unique {p : Plan} (hp : (p.bindings.map (·.name)).Nodup)
    {before : List Argument} {a : Argument} {b c : FieldBinding} {s t : String}
    (hb : p.Routes before a b s) (hc : p.Routes before a c t) : b = c ∧ s = t := by
  have h := route?_of_routes hp hb
  rw [route?_of_routes hp hc] at h
  simp only [Option.some.injEq, Route.mk.injEq, and_true] at h
  exact ⟨h.1.symm, h.2.symm⟩

/-- A route ends at a field of the plan. -/
theorem Routes.mem {p : Plan} {before : List Argument} {a : Argument} {b : FieldBinding}
    {text : String} (h : p.Routes before a b text) : b ∈ p.bindings := by
  cases h with
  | flag _ hmem _ _ => exact hmem
  | positional _ hb => exact List.mem_of_mem_filter (List.mem_of_getElem? hb)
  | named _ hmem _ => exact hmem

/-! ## Everything is delivered, or something is refused first -/

/-- What is delivered is for fields of the plan. -/
theorem Deliveries.mem {p : Plan} {before arguments : List Argument}
    {delivered : List (FieldBinding × Value)} (h : p.Deliveries before arguments delivered) :
    ∀ d ∈ delivered, d.1 ∈ p.bindings := by
  induction h with
  | nil => simp
  | cons hroute _ _ ih =>
    intro d hd
    rcases List.mem_cons.1 hd with rfl | hd
    · exact hroute.mem
    · exact ih d hd

/-- Each of the arguments that are delivered has a route and a value for its field. -/
theorem Deliveries.delivers {p : Plan} {before arguments : List Argument}
    {delivered : List (FieldBinding × Value)} (h : p.Deliveries before arguments delivered)
    {done rest : List Argument} {a : Argument} (hsplit : arguments = done ++ a :: rest) :
    ∃ b text v, p.Routes (before ++ done) a b text ∧ coerce b.valueType text = .ok v := by
  induction h generalizing done with
  | nil => simp at hsplit
  | @cons before _ c b text v _ hroute hv _ ih =>
    cases done with
    | nil =>
      obtain ⟨rfl, -⟩ := List.cons.inj hsplit
      exact ⟨b, text, v, by simpa using hroute, hv⟩
    | cons d done =>
      obtain ⟨rfl, hrest⟩ := List.cons.inj hsplit
      simpa using ih hrest

/-- An argument that is refused delivers nothing. -/
theorem Refuses.not_delivers {p : Plan} (hp : (p.bindings.map (·.name)).Nodup)
    {before : List Argument} {a : Argument} {failure : Failure}
    (h : p.Refuses before a failure) :
    ¬ ∃ b text v, p.Routes before a b text ∧ coerce b.valueType text = .ok v := by
  rintro ⟨b, text, v, hroute, hv⟩
  cases h with
  | unrecognised hno => exact hno b text hroute
  | uncoerced hother herror =>
    obtain ⟨rfl, rfl⟩ := hroute.unique hp hother
    rw [hv] at herror
    cases herror

/-- An argument either delivers a value or is refused. -/
theorem delivers_or_refuses (p : Plan) (before : List Argument) (a : Argument) :
    (∃ b text v, p.Routes before a b text ∧ coerce b.valueType text = .ok v) ∨
      ∃ failure, p.Refuses before a failure := by
  by_cases hroute : ∃ b text, p.Routes before a b text
  · obtain ⟨b, text, hroute⟩ := hroute
    cases hv : coerce b.valueType text with
    | ok v => exact .inl ⟨b, text, v, hroute, hv⟩
    | error failure => exact .inr ⟨failure, .uncoerced hroute hv⟩
  · refine .inr ⟨_, .unrecognised fun b text h => hroute ⟨b, text, h⟩⟩

/-- Either all arguments are delivered, or there is a first one that is refused. -/
theorem exists_deliveries_or_refuses (p : Plan) (before arguments : List Argument) :
    (∃ delivered, p.Deliveries before arguments delivered) ∨
      ∃ done a rest delivered failure, arguments = done ++ a :: rest ∧
        p.Deliveries before done delivered ∧ p.Refuses (before ++ done) a failure := by
  induction arguments generalizing before with
  | nil => exact .inl ⟨[], .nil⟩
  | cons a arguments ih =>
    rcases p.delivers_or_refuses before a with ⟨b, text, v, hroute, hv⟩ | ⟨failure, hrefuse⟩
    · rcases ih (before ++ [a]) with ⟨delivered, hrest⟩ |
        ⟨done, c, rest, delivered, failure, rfl, hdone, hrefuse⟩
      · exact .inl ⟨_, .cons hroute hv hrest⟩
      · refine .inr ⟨a :: done, c, rest, _, failure, rfl, .cons hroute hv hdone, ?_⟩
        simpa using hrefuse
    · exact .inr ⟨[], a, arguments, [], failure, rfl, .nil, by simpa using hrefuse⟩

/-- Everything is delivered if each argument has a route and a value for its field. -/
theorem exists_deliveries_iff {p : Plan} (hp : (p.bindings.map (·.name)).Nodup)
    {arguments : List Argument} :
    (∃ delivered, p.Deliveries [] arguments delivered) ↔
      ∀ before a rest, arguments = before ++ a :: rest →
        ∃ b text v, p.Routes before a b text ∧ coerce b.valueType text = .ok v := by
  constructor
  · rintro ⟨delivered, h⟩ before a rest hsplit
    simpa using h.delivers hsplit
  · intro h
    rcases p.exists_deliveries_or_refuses [] arguments with hall |
      ⟨done, a, rest, delivered, failure, hsplit, -, hrefuse⟩
    · exact hall
    · rw [List.nil_append] at hrefuse
      exact absurd (h done a rest hsplit) (hrefuse.not_delivers hp)

end Plan

end TypedCommands
