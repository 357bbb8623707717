import TypedCommands.Proofs.Command.Containment
import TypedCommands.Proofs.Command.Outcomes

/-!
# Where failures come from

A failure is raised in one place and passes through others until a caller sees it: coercion
sees what converters raise, binding what coercion, the plan and the line raise, and resolution
what handlers do.  Each of them lets a failure pass as it is, but for one thing.  A converter
that refuses a text has its refusal turned into a problem with the value, and trouble with a
tag that a converter raises is taken for a refusal as well.  That trouble is the one problem
of a schema that may reach a caller as a problem of the input.

Main results:

- Theorems `coerce_eq_error_iff`, `Record.bind_eq_some_iff_failsBy`,
  `Candidate.bindNew_eq_error_iff_failsBy` and `CommandTable.resolve_eq_error_iff`: what
  reaches a caller, told by where it was raised.
- Theorem `Origin.Hands.cause_eq_iff`: what stays the same on the way.
- Theorem `failures_traced`: all layers together.
-/

namespace TypedCommands

/-! ## On the way to a caller -/

/-- Who raises a failure. -/
inductive Origin where
  /-- A converter that was asked for a value of a text; messages call the value a `kind`. -/
  | converter (kind text : String)
  /-- Anything else: the line, the plan, the choice of a converter, or the record. -/
  | library

/-- What a failure is by the time it leaves coercion. -/
inductive Origin.Hands : Origin → Failure → Failure → Prop
  /-- A refusal is a problem with the value. -/
  | refused {kind text message : String} :
      Hands (.converter kind text) (.defect (.refused message))
        (.ofProblem (.invalidValue text kind message))
  /-- So is trouble with a tag. -/
  | tag {kind text : String} {trouble : TagTrouble} {path : Option String} :
      Hands (.converter kind text) (.command ⟨.tag trouble, path⟩)
        (.ofProblem (.invalidValue text kind (CommandError.message ⟨.tag trouble, path⟩)))
  /-- Any other command error of a converter passes. -/
  | command {kind text : String} {e : CommandError} :
      (∀ trouble, e.problem ≠ .tag trouble) → Hands (.converter kind text) (.command e) (.command e)
  /-- A converter that breaks down is not covered up. -/
  | broken {kind text : String} {d : Defect} :
      (∀ message, d ≠ .refused message) → Hands (.converter kind text) (.defect d) (.defect d)
  /-- What the library itself raises passes. -/
  | library {failure : Failure} : Hands .library failure failure

/-- What is wrong, whatever the command it arose under. -/
def Failure.cause : Failure → Problem ⊕ Defect
  | .command e => .inl e.problem
  | .defect d => .inr d

/-- A failure that leaves a command is about the same thing. -/
theorem Failure.cause_under (path : String) (failure : Failure) :
    (failure.under path).cause = failure.cause := by
  cases failure with
  | command e => exact congrArg Sum.inl (e.under_problem path)
  | defect d => rfl

/-- Of all failures only refusals and trouble with tags count as a reason to refuse a text. -/
theorem Failure.refusal?_eq_some_iff {failure : Failure} {cause : String} :
    failure.refusal? = some cause ↔
      failure = .defect (.refused cause) ∨
        ∃ trouble path, failure = .command ⟨.tag trouble, path⟩ ∧
          CommandError.message ⟨.tag trouble, path⟩ = cause := by
  cases failure with
  | command e =>
    obtain ⟨problem, path⟩ := e
    cases problem <;> simp [refusal?]
  | defect d => cases d <;> simp [refusal?]

/-- The failures that are no refusals. -/
theorem Failure.refusal?_eq_none_iff {failure : Failure} :
    failure.refusal? = none ↔
      (∃ d, failure = .defect d ∧ ∀ message, d ≠ .refused message) ∨
        ∃ e, failure = .command e ∧ ∀ trouble, e.problem ≠ .tag trouble := by
  cases failure with
  | command e =>
    obtain ⟨problem, path⟩ := e
    cases problem <;> simp [refusal?]
  | defect d => cases d <;> simp [refusal?]

namespace Origin

/-- A failure that counts as a refusal leaves coercion as a problem with the value. -/
theorem hands_of_refusal? {kind text cause : String} {raised : Failure}
    (h : raised.refusal? = some cause) {reached : Failure} :
    (converter kind text).Hands raised reached ↔
      reached = .ofProblem (.invalidValue text kind cause) := by
  rcases Failure.refusal?_eq_some_iff.1 h with rfl | ⟨trouble, path, rfl, rfl⟩
  · constructor
    · intro hhands
      cases hhands with
      | refused => rfl
      | broken hno => exact absurd rfl (hno cause)
    · rintro rfl
      exact .refused
  · constructor
    · intro hhands
      cases hhands with
      | tag => rfl
      | command hno => exact absurd rfl (hno trouble)
    · rintro rfl
      exact .tag

/-- Any other failure of a converter leaves coercion as it is. -/
theorem hands_of_refusal?_eq_none {kind text : String} {raised : Failure}
    (h : raised.refusal? = none) {reached : Failure} :
    (converter kind text).Hands raised reached ↔ reached = raised := by
  rcases Failure.refusal?_eq_none_iff.1 h with ⟨d, rfl, hno⟩ | ⟨e, rfl, hno⟩
  · constructor
    · intro hhands
      cases hhands with
      | refused => cases h
      | broken _ => rfl
    · rintro rfl
      exact .broken hno
  · constructor
    · intro hhands
      cases hhands with
      | tag => cases h
      | command _ => rfl
    · rintro rfl
      exact .command hno

variable {origin : Origin} {raised reached : Failure}

/--
What is wrong stays the same, unless a converter refuses a text or raises trouble with a tag.
-/
theorem Hands.cause_eq_iff (h : origin.Hands raised reached) :
    reached.cause = raised.cause ↔
      ∀ kind text, origin = .converter kind text →
        (∀ message, raised ≠ .defect (.refused message)) ∧
          ∀ e trouble, raised = .command e → e.problem ≠ .tag trouble := by
  cases h with
  | @refused kind text message =>
    refine iff_of_false (fun hsame => ?_) fun hno => ?_
    · cases hsame
    · exact (hno kind text rfl).1 message rfl
  | @tag kind text trouble path =>
    refine iff_of_false (fun hsame => ?_) fun hno => ?_
    · cases Sum.inl.inj hsame
    · exact (hno kind text rfl).2 _ trouble rfl rfl
  | command hno =>
    refine iff_of_true rfl fun _ _ _ => ⟨fun message hrefused => ?_, fun e trouble he => ?_⟩
    · cases hrefused
    · cases he
      exact hno trouble
  | broken hno =>
    refine iff_of_true rfl fun _ _ _ => ⟨fun message hrefused => ?_, fun e trouble he => ?_⟩
    · exact hno message (Failure.defect.inj hrefused)
    · cases he
  | library =>
    refine iff_of_true rfl fun kind text hconverter => ?_
    cases hconverter

/--
A problem of a schema or a table is one for its caller as well, unless it is trouble with a
tag that a converter raises; then it is a problem of the input.
-/
theorem Hands.category_eq {e : CommandError} (h : origin.Hands (.command e) reached)
    (he : e.problem.category = .configuration) :
    ∃ e', reached = .command e' ∧
      (e'.problem.category = .configuration ∨ e'.problem.category = .input) ∧
      (e'.problem.category = .input ↔
        ∃ kind text trouble, origin = .converter kind text ∧ e.problem = .tag trouble) := by
  cases h with
  | @tag kind text trouble path =>
    exact ⟨_, rfl, .inr rfl, iff_of_true rfl ⟨kind, text, trouble, rfl, rfl⟩⟩
  | command hno =>
    refine ⟨e, rfl, .inl he, iff_of_false (by simp [he]) ?_⟩
    rintro ⟨-, -, trouble, -, htag⟩
    exact hno trouble htag
  | library =>
    refine ⟨e, rfl, .inl he, iff_of_false (by simp [he]) ?_⟩
    rintro ⟨kind, text, trouble, hlibrary, -⟩
    cases hlibrary

end Origin

/-! ## Coercion -/

/-- Where a text fails to become a value of a type. -/
inductive FieldType.FailsBy (type : FieldType) (text : String) : Origin → Failure → Prop
  /-- The type has no converter. -/
  | dispatch :
      type.converter? = none → FailsBy type text .library (.ofProblem (.unsupported type.label))
  /-- Its converter fails. -/
  | converter {kind : String} {convert : Converter} {raised : Failure} :
      type.converter? = some (kind, convert) → convert text = .error raised →
      FailsBy type text (.converter kind text) raised

/-- The failures of a type are those that its origins hand on. -/
theorem coerce_eq_error_iff {type : FieldType} {text : String} {reached : Failure} :
    coerce type text = .error reached ↔
      ∃ origin raised, type.FailsBy text origin raised ∧ origin.Hands raised reached := by
  constructor
  · intro h
    rw [coerce] at h
    split at h
    · next hnone =>
      cases h
      exact ⟨.library, _, .dispatch hnone, .library⟩
    · next kind convert hconverter =>
      split at h
      · cases h
      · next raised hraised =>
        refine ⟨.converter kind text, raised, .converter hconverter hraised, ?_⟩
        split at h
        · next cause hcause =>
          exact (Origin.hands_of_refusal? hcause).2 (Except.error.inj h).symm
        · next hnone =>
          exact (Origin.hands_of_refusal?_eq_none hnone).2 (Except.error.inj h).symm
  · rintro ⟨origin, raised, hfails, hhands⟩
    cases hfails with
    | dispatch hnone =>
      cases hhands
      exact coerce_of_converter?_eq_none hnone text
    | converter hconverter hraised =>
      simp only [coerce, hconverter, hraised]
      cases hrefusal : raised.refusal? with
      | some cause => rw [(Origin.hands_of_refusal? hrefusal).1 hhands]
      | none => rw [(Origin.hands_of_refusal?_eq_none hrefusal).1 hhands]

/-! ## Records -/

namespace Record

/-- Where giving a text to a field fails. -/
inductive AssignFailsBy (r : Record) (b : FieldBinding) (text : String) : Origin → Failure → Prop
  /-- The field is to collect values and was never assigned. -/
  | unassigned : r.Lacks b → AssignFailsBy r b text .library (.defect (.unassigned b.field))
  /-- It is to collect values and holds something else than a list. -/
  | notAList {held : Value} :
      b.isSequence = true → r.get? b.field = some held → held ≠ .null →
      (∀ items, held ≠ .list items) →
      AssignFailsBy r b text .library (.defect (.notAList b.field))
  /-- The text is no value of the field. -/
  | coercion {origin : Origin} {raised : Failure} :
      (b.isSequence = true →
        r.get? b.field = some .null ∨ ∃ items, r.get? b.field = some (.list items)) →
      b.valueType.FailsBy text origin raised → AssignFailsBy r b text origin raised

/-- Where binding a source fails. -/
inductive FailsBy (r : Record) (s : Source) : Origin → Failure → Prop
  /-- The record cannot be changed, or its schema has no plan. -/
  | plan {failure : Failure} : r.bindingPlan = .error failure → FailsBy r s .library failure
  /-- Behind arguments that are bound, the next one has no route. -/
  | unrecognised {p : Plan} {before rest : List Argument} {a : Argument} :
      r.bindingPlan = .ok p → s.arguments = before ++ a :: rest →
      (r.bind ⟨before, none⟩).2 = none → (∀ b text, ¬ p.Routes before a b text) →
      FailsBy r s .library (.ofProblem (.unrecognised a))
  /-- Behind arguments that are bound, the field on the route of the next one fails. -/
  | field {p : Plan} {before rest : List Argument} {a : Argument} {b : FieldBinding}
      {text : String} {origin : Origin} {raised : Failure} :
      r.bindingPlan = .ok p → s.arguments = before ++ a :: rest →
      (r.bind ⟨before, none⟩).2 = none → p.Routes before a b text →
      (r.bind ⟨before, none⟩).1.AssignFailsBy b text origin raised → FailsBy r s origin raised
  /-- All arguments are bound, and the line is malformed behind them. -/
  | line {p : Plan} {f : LineFault} :
      r.bindingPlan = .ok p → (r.bind ⟨s.arguments, none⟩).2 = none → s.fault = some f →
      FailsBy r s .library (.ofProblem (.malformed f))

/-- Once a field can take a value, giving it a text fails as coercion does. -/
theorem snd_assign_of_collects {r : Record} {b : FieldBinding} {text : String}
    (h : b.isSequence = true →
      r.get? b.field = some .null ∨ ∃ items, r.get? b.field = some (.list items))
    {failure : Failure} :
    (r.assign b text).2 = some failure ↔ coerce b.valueType text = .error failure := by
  by_cases hseq : b.isSequence = true
  · rcases h hseq with hheld | ⟨items, hheld⟩ <;>
      cases hv : coerce b.valueType text <;> simp [assign, hseq, hheld, hv]
  · cases hv : coerce b.valueType text <;> simp [assign, hseq, hv]

/-- The failures of an assignment are those that its origins hand on. -/
theorem assign_eq_some_iff {r : Record} {b : FieldBinding} {text : String} {reached : Failure} :
    (r.assign b text).2 = some reached ↔
      ∃ origin raised, r.AssignFailsBy b text origin raised ∧ origin.Hands raised reached := by
  constructor
  · intro h
    by_cases hlacks : r.Lacks b
    · rw [assign_of_lacks hlacks, Option.some.injEq] at h
      subst h
      exact ⟨.library, _, .unassigned hlacks, .library⟩
    · by_cases hcollects : b.isSequence = true →
          r.get? b.field = some .null ∨ ∃ items, r.get? b.field = some (.list items)
      · obtain ⟨origin, raised, hfails, hhands⟩ :=
          coerce_eq_error_iff.1 ((snd_assign_of_collects hcollects).1 h)
        exact ⟨origin, raised, .coercion hcollects hfails, hhands⟩
      · -- Something is held, and it is neither nothing nor a list.
        obtain ⟨hseq, hno⟩ := Classical.not_imp.1 hcollects
        obtain ⟨hnull, hlist⟩ := not_or.1 hno
        cases hheld : r.get? b.field with
        | none => exact absurd ⟨hseq, hheld⟩ hlacks
        | some held =>
          have hne : held ≠ .null := by
            rintro rfl
            exact hnull hheld
          have hnot : ∀ items, held ≠ .list items := by
            rintro items rfl
            exact hlist ⟨items, hheld⟩
          refine ⟨.library, _, .notAList hseq hheld hne hnot, ?_⟩
          cases held <;> simp_all [assign] <;> exact h ▸ .library
  · rintro ⟨origin, raised, hfails, hhands⟩
    cases hfails with
    | unassigned hlacks =>
      cases hhands
      rw [assign_of_lacks hlacks]
    | notAList hseq hheld hne hnot =>
      cases hhands
      rw [assign, if_pos hseq, hheld]
      split <;> simp_all
    | coercion hcollects hfails =>
      exact (snd_assign_of_collects hcollects).2 (coerce_eq_error_iff.2 ⟨_, _, hfails, hhands⟩)

variable {r : Record} {p : Plan}

/-- The next argument behind arguments that are bound fails if it has no route. -/
theorem bindOne_of_not_routes (hp : r.bindingPlan = .ok p) {before : List Argument}
    (hbefore : (r.bind ⟨before, none⟩).2 = none) {a : Argument}
    (hno : ∀ b text, ¬ p.Routes before a b text) :
    (bindOne p (bindAll p { record := r } before) a).failure =
      some (.ofProblem (.unrecognised a)) := by
  have hnames := (Schema.plan_eq_ok (plan_eq_of_bindingPlan hp)).1
  rw [bindAll_of_bind hp hbefore, bindOne]
  cases hroute : p.route? (p.fieldNumber (before.countP p.isPositional)) a with
  | none => rfl
  | some route => exact absurd (Plan.routes_of_route? hnames hroute) (hno _ _)

/-- The next argument behind arguments that are bound fails as the field on its route does. -/
theorem failure_bindOne_of_routes (hp : r.bindingPlan = .ok p) {before : List Argument}
    (hbefore : (r.bind ⟨before, none⟩).2 = none) {a : Argument} {b : FieldBinding}
    {text : String} (hroutes : p.Routes before a b text) :
    (bindOne p (bindAll p { record := r } before) a).failure =
      ((r.bind ⟨before, none⟩).1.assign b text).2 := by
  have hnames := (Schema.plan_eq_ok (plan_eq_of_bindingPlan hp)).1
  have hrecord : (r.bind ⟨before, none⟩).1 = (bindAll p { record := r } before).record := by
    rw [bind_of_plan hp]
  rw [bindAll_of_bind hp hbefore, bindOne, hrecord]
  simp only [Plan.route?_of_routes hnames hroutes]
  split <;> simp_all

/-- The failures of binding are those that its origins hand on. -/
theorem bind_eq_some_iff_failsBy {s : Source} {reached : Failure} :
    (r.bind s).2 = some reached ↔
      ∃ origin raised, r.FailsBy s origin raised ∧ origin.Hands raised reached := by
  cases hplan : r.bindingPlan with
  | error failure =>
    simp only [bind, hplan, Option.some.injEq]
    constructor
    · rintro rfl
      exact ⟨.library, _, .plan hplan, .library⟩
    · rintro ⟨origin, raised, hfails, hhands⟩
      cases hfails with
      | plan herror =>
        cases hhands
        exact Except.error.inj (hplan.symm.trans herror)
      | unrecognised hp => simp [hplan] at hp
      | field hp => simp [hplan] at hp
      | line hp => simp [hplan] at hp
  | ok p =>
    constructor
    · intro h
      rw [bind_of_plan hplan] at h
      cases hall : (bindAll p { record := r } s.arguments).failure with
      | none =>
        simp only [hall, Option.none_or, Option.map_eq_some_iff] at h
        obtain ⟨f, hfault, rfl⟩ := h
        exact ⟨.library, _, .line hplan ((bind_eq_none_iff_bindAll hplan _).2 hall) hfault,
          .library⟩
      | some failure =>
        simp only [hall, Option.some_or, Option.some.injEq] at h
        subst h
        obtain ⟨before, a, rest, hsplit, hgood, hone⟩ := exists_of_failure_bindAll rfl hall
        have hbefore := (bind_eq_none_iff_bindAll hplan before).2 hgood
        by_cases hroute : ∃ b text, p.Routes before a b text
        · obtain ⟨b, text, hroutes⟩ := hroute
          rw [failure_bindOne_of_routes hplan hbefore hroutes] at hone
          obtain ⟨origin, raised, hfails, hhands⟩ := assign_eq_some_iff.1 hone
          exact ⟨origin, raised, .field hplan hsplit hbefore hroutes hfails, hhands⟩
        · have hno : ∀ b text, ¬ p.Routes before a b text := fun b text h => hroute ⟨b, text, h⟩
          rw [bindOne_of_not_routes hplan hbefore hno, Option.some.injEq] at hone
          subst hone
          exact ⟨.library, _, .unrecognised hplan hsplit hbefore hno, .library⟩
    · rintro ⟨origin, raised, hfails, hhands⟩
      rw [bind_of_plan hplan]
      cases hfails with
      | plan herror => simp [hplan] at herror
      | unrecognised hp hsplit hbefore hno =>
        cases hhands
        obtain rfl : p = _ := Except.ok.inj (hplan.symm.trans hp)
        have hone := bindOne_of_not_routes hplan hbefore hno
        rw [bind_eq_none_iff_bindAll hplan] at hbefore
        simp only [hsplit, failure_bindAll_of_bindOne hbefore hone, Option.some_or]
      | field hp hsplit hbefore hroutes hassign =>
        obtain rfl : p = _ := Except.ok.inj (hplan.symm.trans hp)
        have hone := failure_bindOne_of_routes hplan hbefore hroutes
        rw [assign_eq_some_iff.2 ⟨origin, raised, hassign, hhands⟩] at hone
        rw [bind_eq_none_iff_bindAll hplan] at hbefore
        simp only [hsplit, failure_bindAll_of_bindOne hbefore hone, Option.some_or]
      | line hp hall hfault =>
        cases hhands
        rw [bind_eq_none_iff_bindAll hplan] at hall
        simp only [hall, hfault, Option.none_or, Option.map_some]

end Record

/-! ## New records -/

/-- Where binding a source to a new record fails. -/
inductive Candidate.FailsBy (c : Candidate) (s : Source) : Origin → Failure → Prop
  /-- No record can be built. -/
  | destination {problem : Problem} :
      c.buildable = .error problem → FailsBy c s .library (.ofProblem problem)
  /-- The new record cannot be bound. -/
  | record {made : Schema} {origin : Origin} {raised : Failure} :
      c.buildable = .ok made → made.blank.FailsBy s origin raised → FailsBy c s origin raised

/-- The failures of binding a new record are those that its origins hand on. -/
theorem Candidate.bindNew_eq_error_iff_failsBy {c : Candidate} {s : Source} {reached : Failure} :
    c.bindNew s = .error reached ↔
      ∃ origin raised, c.FailsBy s origin raised ∧ origin.Hands raised reached := by
  constructor
  · intro h
    cases hmade : c.buildable with
    | error problem =>
      rw [bindNew, hmade, Except.error.injEq] at h
      subst h
      exact ⟨.library, _, .destination hmade, .library⟩
    | ok made =>
      rw [bindNew_eq_error_iff hmade, Record.bind_eq_some_iff_failsBy] at h
      obtain ⟨origin, raised, hfails, hhands⟩ := h
      exact ⟨origin, raised, .record hmade hfails, hhands⟩
  · rintro ⟨origin, raised, hfails, hhands⟩
    cases hfails with
    | destination hproblem =>
      cases hhands
      rw [bindNew, hproblem]
    | record hmade hfails =>
      rw [bindNew_eq_error_iff hmade, Record.bind_eq_some_iff_failsBy]
      exact ⟨origin, raised, hfails, hhands⟩

/-! ## Commands -/

/-- The path that the first arguments of a source spell, as it stands in front of messages. -/
def Source.pathText (s : Source) (k : Nat) : String :=
  TypedCommands.pathText ((s.arguments.take k).map (·.raw))

/-- Nothing that is left of a source is lost on the way to a handler. -/
theorem Command.remaining_handed (c : Command) (s : Source) (taken : Nat) :
    (c.handed s taken).remaining = s := by
  unfold handed
  split
  · rfl
  · rw [Cursor.remaining_peek]
    rfl

namespace CommandTable

variable {t : CommandTable} {s : Source} {reached : Failure}

/-- The failure of a handler reaches the caller as it leaves the command. -/
theorem EndsAt.resolve_eq_error_iff {k : Nat} {c : Command} {handler : Handler}
    (h : t.EndsAt s k c) (hh : c.handler = some handler) :
    t.resolve s = .error reached ↔
      ∃ raised, handler (c.handed ⟨s.arguments.drop k, s.fault⟩ k) = .error raised ∧
        reached = raised.under (s.pathText k) := by
  have hruns : t.RunsOnly s handler _ _ := h.runsOnly hh
  rw [hruns.resolve_eq]
  cases handler (c.handed ⟨s.arguments.drop k, s.fault⟩ k) with
  | ok outcome => exact iff_of_false nofun (by simp)
  | error raised =>
    constructor
    · intro hreached
      exact ⟨raised, rfl, (Except.error.inj hreached).symm⟩
    · rintro ⟨raised', hsame, rfl⟩
      rw [← Except.error.inj hsame]
      rfl

/-- Resolving fails where a line goes astray or with the failure of the handler. -/
theorem resolve_eq_error_iff :
    t.resolve s = .error reached ↔
      (∃ problem, t.Astray s problem ∧ reached = .ofProblem problem) ∨
        ∃ k c handler raised, t.EndsAt s k c ∧ c.handler = some handler ∧
          handler (c.handed ⟨s.arguments.drop k, s.fault⟩ k) = .error raised ∧
          reached = raised.under (s.pathText k) := by
  constructor
  · intro h
    rcases t.astray_or_endsAt s with ⟨problem, hastray⟩ | ⟨k, c, handler, hends, hh⟩
    · rw [hastray.resolve_eq] at h
      exact .inl ⟨problem, hastray, (Except.error.inj h).symm⟩
    · obtain ⟨raised, hraised, hreached⟩ := (hends.resolve_eq_error_iff hh).1 h
      exact .inr ⟨k, c, handler, raised, hends, hh, hraised, hreached⟩
  · rintro (⟨problem, hastray, rfl⟩ | ⟨k, c, handler, raised, hends, hh, hraised, hreached⟩)
    · exact hastray.resolve_eq
    · exact (hends.resolve_eq_error_iff hh).2 ⟨raised, hraised, hreached⟩

/-- A command that binds fails as binding what is left of the source does. -/
theorem EndsAt.resolve_eq_error_iff_failsBy {k : Nat} {c : Command} {candidate : Candidate}
    (h : t.EndsAt s k c) (hh : c.handler = some (Command.bindHandler candidate)) :
    t.resolve s = .error reached ↔
      ∃ origin raised handed,
        candidate.FailsBy ⟨s.arguments.drop k, s.fault⟩ origin raised ∧
          origin.Hands raised handed ∧ reached = handed.under (s.pathText k) := by
  have hhandler : ∀ handed,
      Command.bindHandler candidate (c.handed ⟨s.arguments.drop k, s.fault⟩ k) = .error handed ↔
        candidate.bindNew ⟨s.arguments.drop k, s.fault⟩ = .error handed := by
    intro handed
    rw [Command.bindHandler, c.remaining_handed]
    cases candidate.bindNew ⟨s.arguments.drop k, s.fault⟩ <;> simp [Except.map]
  simp only [h.resolve_eq_error_iff hh, hhandler, Candidate.bindNew_eq_error_iff_failsBy]
  constructor
  · rintro ⟨handed, ⟨origin, raised, hfails, hhands⟩, hreached⟩
    exact ⟨origin, raised, handed, hfails, hhands, hreached⟩
  · rintro ⟨origin, raised, handed, hfails, hhands, hreached⟩
    exact ⟨handed, ⟨origin, raised, hfails, hhands⟩, hreached⟩

end CommandTable

/-! ## All layers -/

/--
Failures on their way.  What reaches the caller of coercion, of binding and of resolution is
exactly what was raised further down, by the line, by the plan, by the choice of a converter
or by a converter, each said with the place where it was raised.  A failure that leaves a
command is about the same thing as before.  A failure that leaves coercion is so unless a
converter refused the text or raised trouble with a tag; and a problem of a schema or table
is still one for the caller, but for that trouble, which becomes a problem of the input.
-/
theorem failures_traced (type : FieldType) (text : String) (r : Record) (candidate : Candidate)
    (t : CommandTable) (s : Source) (reached : Failure) :
    (coerce type text = .error reached ↔
      ∃ origin raised, type.FailsBy text origin raised ∧ origin.Hands raised reached) ∧
    ((r.bind s).2 = some reached ↔
      ∃ origin raised, r.FailsBy s origin raised ∧ origin.Hands raised reached) ∧
    (candidate.bindNew s = .error reached ↔
      ∃ origin raised, candidate.FailsBy s origin raised ∧ origin.Hands raised reached) ∧
    (t.resolve s = .error reached ↔
      (∃ problem, t.Astray s problem ∧ reached = .ofProblem problem) ∨
        ∃ k c handler raised, t.EndsAt s k c ∧ c.handler = some handler ∧
          handler (c.handed ⟨s.arguments.drop k, s.fault⟩ k) = .error raised ∧
          reached = raised.under (s.pathText k)) ∧
    (∀ k c, t.EndsAt s k c → c.handler = some (Command.bindHandler candidate) →
      (t.resolve s = .error reached ↔
        ∃ origin raised handed,
          candidate.FailsBy ⟨s.arguments.drop k, s.fault⟩ origin raised ∧
            origin.Hands raised handed ∧ reached = handed.under (s.pathText k))) ∧
    (∀ path (raised : Failure), (raised.under path).cause = raised.cause) ∧
    (∀ (origin : Origin) raised, origin.Hands raised reached →
      (reached.cause = raised.cause ↔ ∀ kind text, origin = .converter kind text →
        (∀ message, raised ≠ .defect (.refused message)) ∧
          ∀ e trouble, raised = .command e → e.problem ≠ .tag trouble)) ∧
    ∀ (origin : Origin) (e : CommandError),
      origin.Hands (.command e) reached → e.problem.category = .configuration →
        ∃ e', reached = .command e' ∧
          (e'.problem.category = .configuration ∨ e'.problem.category = .input) ∧
          (e'.problem.category = .input ↔
            ∃ kind text trouble, origin = .converter kind text ∧ e.problem = .tag trouble) :=
  ⟨coerce_eq_error_iff, Record.bind_eq_some_iff_failsBy, Candidate.bindNew_eq_error_iff_failsBy,
    CommandTable.resolve_eq_error_iff,
    fun _ _ hends hh => hends.resolve_eq_error_iff_failsBy hh,
    Failure.cause_under, fun _ _ h => h.cause_eq_iff, fun _ _ h he => h.category_eq he⟩

/-- A class whose converter raises trouble with a tag. -/
def tagged : ValueClass where
  name := "Tagged"
  qualifiedName := "Tagged"
  home := "shop"
  parse := some fun s => .error (.ofProblem (.tag (.worded ("tagged " ++ s))))

/-- A mistake in the schema that a converter finds is reported to the author of the input. -/
theorem coerce_tagged :
    (FieldType.defined tagged).FailsBy "x" (.converter "Tagged" "x")
        (.ofProblem (.tag (.worded "tagged x"))) ∧
      (Problem.tag (.worded "tagged x")).category = .configuration ∧
      coerce (.defined tagged) "x" =
        .error (.ofProblem (.invalidValue "x" "Tagged" "tagged x")) ∧
      (Problem.invalidValue "x" "Tagged" "tagged x").category = .input :=
  ⟨.converter rfl rfl, rfl, rfl, rfl⟩

end TypedCommands
