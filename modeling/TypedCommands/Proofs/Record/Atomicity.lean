import TypedCommands.Proofs.Record.Delivery

/-!
# What a failing argument changes

Binding is best effort: an argument that fails leaves the fields as the arguments in
front of it made them.  One thing is not undone.  A field that collects values and holds
nothing is given an empty list before the text is converted, and keeps it when the text
turns out to be no value.

Main results:

- Theorem `Record.assign_of_failure`: what giving a text to a field leaves behind when it
  fails, whatever the reason.
- Theorem `Record.bind_failure_record`: the record after binding has failed is the record
  before the failing argument, apart from the empty list in place of nothing.
-/

namespace TypedCommands

namespace Record

/-! ## One failing argument -/

/-- The field collects values and holds nothing, so the next text for it starts a list. -/
def Unstarted (r : Record) (b : FieldBinding) : Prop :=
  b.isSequence = true ∧ r.get? b.field = some .null

/-- A text that a field does not take changes nothing but a list that is not started. -/
theorem assign_of_failure {r : Record} {b : FieldBinding} {text : String} {failure : Failure}
    (h : (r.assign b text).2 = some failure) :
    (r.Unstarted b → (r.assign b text).1 = r.set b.field (.list [])) ∧
      (¬ r.Unstarted b → (r.assign b text).1 = r) := by
  by_cases hseq : b.isSequence = true
  · cases hvalue : r.get? b.field with
    | none => simp [assign, Unstarted, hseq, hvalue]
    | some held =>
      cases held with
      | null =>
        cases hv : coerce b.valueType text with
        | ok v => simp [assign, hseq, hvalue, hv] at h
        | error _ => simp [assign, Unstarted, hseq, hvalue, hv]
      | list items =>
        cases hv : coerce b.valueType text with
        | ok v => simp [assign, hseq, hvalue, hv] at h
        | error _ => simp [assign, Unstarted, hseq, hvalue, hv]
      | _ => simp [assign, Unstarted, hseq, hvalue]
  · cases hv : coerce b.valueType text with
    | ok v => simp [assign, hseq, hv] at h
    | error _ => simp [assign, Unstarted, hseq, hv]

/-- Starting a list is a change. -/
theorem set_ne_self {r : Record} {b : FieldBinding} (h : r.Unstarted b) :
    r.set b.field (.list []) ≠ r := by
  intro hsame
  obtain ⟨c, hc, -⟩ := Option.map_eq_some_iff.1 h.2
  have hget := r.get?_set b.field b.field (.list [])
  rw [hsame, h.2, if_pos ⟨rfl, mem_names_of_content? hc⟩] at hget
  cases hget

/-! ## Failing after other arguments -/

/-- Without a failure, the next positional field is the one the arguments so far ask for. -/
theorem place_bindOne {p : Plan} (hp : (p.bindings.map (·.name)).Nodup) {r : Record}
    {before : List Argument} {a : Argument}
    (h : (bindOne p ⟨r, p.fieldNumber (before.countP p.isPositional), none⟩ a).failure = none) :
    (bindOne p ⟨r, p.fieldNumber (before.countP p.isPositional), none⟩ a).place =
      p.fieldNumber ((before ++ [a]).countP p.isPositional) := by
  cases hroute : p.route? (p.fieldNumber (before.countP p.isPositional)) a with
  | none => simp [bindOne, hroute] at h
  | some route =>
    have hplace := Plan.route?_of_routes hp (Plan.routes_of_route? hp hroute)
    rw [hroute, Option.some.injEq] at hplace
    cases hassign : r.assign route.binding route.text with
    | mk after failure =>
      cases failure with
      | some failure => simp [bindOne, hroute, hassign] at h
      | none =>
        simp only [bindOne, hroute, hassign]
        rw [hplace]

/-- Behind a line that was bound comes the place of the next unnamed argument. -/
theorem place_bindAll {p : Plan} (hp : (p.bindings.map (·.name)).Nodup)
    {before arguments : List Argument} {r : Record}
    (h : (bindAll p ⟨r, p.fieldNumber (before.countP p.isPositional), none⟩
      arguments).failure = none) :
    (bindAll p ⟨r, p.fieldNumber (before.countP p.isPositional), none⟩ arguments).place =
      p.fieldNumber ((before ++ arguments).countP p.isPositional) := by
  induction arguments generalizing before r with
  | nil => simp [bindAll]
  | cons a arguments ih =>
    simp only [bindAll] at h ⊢
    cases hone : (bindOne p ⟨r, p.fieldNumber (before.countP p.isPositional), none⟩ a).failure with
    | some failure => simp [hone] at h
    | none =>
      simp only [hone] at h ⊢
      have hplace := place_bindOne hp hone
      generalize bindOne p ⟨r, p.fieldNumber (before.countP p.isPositional), none⟩ a = after
        at h hone hplace ⊢
      obtain ⟨record, place, failure⟩ := after
      subst hone hplace
      rw [ih h, List.append_assoc, List.singleton_append]

/-- What a failing argument leaves behind when the arguments in front of it were bound. -/
theorem bindOne_of_failure {p : Plan} (hp : (p.bindings.map (·.name)).Nodup) {r : Record}
    {before : List Argument} {a : Argument} {failure : Failure}
    (h : (bindOne p ⟨r, p.fieldNumber (before.countP p.isPositional), none⟩ a).failure =
      some failure) :
    (∀ b text, p.Routes before a b text → r.Unstarted b →
      (bindOne p ⟨r, p.fieldNumber (before.countP p.isPositional), none⟩ a).record =
        r.set b.field (.list [])) ∧
    ((∀ b text, p.Routes before a b text → ¬ r.Unstarted b) →
      (bindOne p ⟨r, p.fieldNumber (before.countP p.isPositional), none⟩ a).record = r) := by
  cases hroute : p.route? (p.fieldNumber (before.countP p.isPositional)) a with
  | none =>
    refine ⟨?_, fun _ => by simp [bindOne, hroute]⟩
    intro b text hroutes
    rw [Plan.route?_of_routes hp hroutes] at hroute
    cases hroute
  | some route =>
    have hroutes := Plan.routes_of_route? hp hroute
    cases hassign : r.assign route.binding route.text with
    | mk after reason =>
      cases reason with
      | none => simp [bindOne, hroute, hassign] at h
      | some reason =>
        have hone : (bindOne p ⟨r, p.fieldNumber (before.countP p.isPositional), none⟩ a).record
            = (r.assign route.binding route.text).1 := by
          simp [bindOne, hroute, hassign]
        have hreason : (r.assign route.binding route.text).2 = some reason := by rw [hassign]
        obtain ⟨hstarts, hkeeps⟩ := assign_of_failure hreason
        rw [hone]
        constructor
        · intro b text hother
          obtain ⟨rfl, -⟩ := hother.unique hp hroutes
          exact hstarts
        · intro hno
          exact hkeeps (hno _ _ hroutes)

/--
The record after a failing argument.  Nothing behind the argument is looked at, and the
record is the one before the argument exactly if the argument does not go to a field that
collects values and holds nothing; such a field holds an empty list afterwards.
-/
theorem bind_failure_record {r : Record} {p : Plan} (hp : r.bindingPlan = .ok p)
    {before : List Argument} {a : Argument} {failure : Failure}
    (hbefore : (r.bind ⟨before, none⟩).2 = none)
    (hfail : (r.bind ⟨before ++ [a], none⟩).2 = some failure)
    (rest : List Argument) (fault : Option LineFault) :
    (r.bind ⟨before ++ a :: rest, fault⟩).2 = some failure ∧
    ((r.bind ⟨before ++ a :: rest, fault⟩).1 = (r.bind ⟨before, none⟩).1 ↔
      ∀ b text, p.Routes before a b text → ¬ (r.bind ⟨before, none⟩).1.Unstarted b) ∧
    (∀ b text, p.Routes before a b text → (r.bind ⟨before, none⟩).1.Unstarted b →
      (r.bind ⟨before ++ a :: rest, fault⟩).1 =
        (r.bind ⟨before, none⟩).1.set b.field (.list [])) := by
  have hnames := (Schema.plan_eq_ok (plan_eq_of_bindingPlan hp)).1
  simp only [bind_of_plan hp, Option.map_none, Option.or_none] at hbefore hfail ⊢
  -- The state that the failing argument meets.
  have hplace : (bindAll p { record := r } before).place =
      p.fieldNumber (before.countP p.isPositional) := by
    have := @place_bindAll p hnames [] before r
    rw [List.countP_nil, p.fieldNumber_zero] at this
    exact this hbefore
  have hone : bindAll p { record := r } (before ++ [a]) =
      bindOne p (bindAll p { record := r } before) a := by
    rw [bindAll_append hbefore, bindAll]
    cases hstep : (bindOne p (bindAll p { record := r } before) a).failure <;> rfl
  have hrest : bindAll p { record := r } (before ++ a :: rest) =
      bindOne p (bindAll p { record := r } before) a := by
    have := bindAll_append_of_failure hfail rfl rest
    rw [List.append_assoc, List.singleton_append] at this
    rw [this, hone]
  rw [hone] at hfail
  rw [hrest]
  generalize bindAll p { record := r } before = now at hbefore hplace hfail ⊢
  obtain ⟨m, place, reason⟩ := now
  subst hbefore hplace
  obtain ⟨hstarts, hkeeps⟩ := bindOne_of_failure hnames hfail
  refine ⟨by rw [hfail]; rfl, ⟨?_, hkeeps⟩, hstarts⟩
  intro hsame b text hroutes hunstarted
  exact set_ne_self hunstarted ((hstarts b text hroutes hunstarted).symm.trans hsame)

/-- A word that an errand takes as an amount. -/
def goodAmount : Argument := ⟨"amounts=3", "amounts", "3", 0⟩

/-- A word that an errand refuses as an amount. -/
def badAmount : Argument := ⟨"amounts=x", "amounts", "x", 10⟩

/-- Amounts that have been started are kept as they are when a refused one follows. -/
theorem bind_failure_record_errand :
    (errand.blank.bind ⟨[goodAmount, badAmount], none⟩).1.get? "amounts" =
        some (.list [.int 3]) ∧
      (errand.blank.bind ⟨[goodAmount, badAmount], none⟩).1 =
        (errand.blank.bind ⟨[goodAmount], none⟩).1 := by
  refine ⟨by rfl, ?_⟩
  have hp : errand.blank.bindingPlan = .ok errandPlan := by rfl
  have hbefore : (errand.blank.bind ⟨[goodAmount], none⟩).2 = none := by rfl
  have hfail : (errand.blank.bind ⟨[goodAmount] ++ [badAmount], none⟩).2 =
      some (.ofProblem (.invalidValue "x" "integer" "invalid syntax")) := by rfl
  refine (bind_failure_record hp hbefore hfail [] none).2.1.2 ?_
  rintro b text hroutes ⟨hseq, hnull⟩
  have hb : b ∈ errandPlan.bindings := hroutes.mem
  simp only [errandPlan, List.mem_cons, List.not_mem_nil, or_false] at hb
  rcases hb with rfl | rfl | rfl
  · cases hseq
  · cases hseq
  · have hlist : (errand.blank.bind ⟨[goodAmount], none⟩).1.get? "amounts" =
        some (.list [.int 3]) := by rfl
    rw [hlist] at hnull
    cases hnull

/-- Amounts that are nothing become an empty list when a refused one comes first. -/
theorem bind_failure_starts_list :
    (errand.blank.bind ⟨[], none⟩).1.get? "amounts" = some .null ∧
      (errand.blank.bind ⟨[badAmount], none⟩).2 =
        some (.ofProblem (.invalidValue "x" "integer" "invalid syntax")) ∧
      (errand.blank.bind ⟨[badAmount], none⟩).1.get? "amounts" = some (.list []) :=
  ⟨by rfl, by rfl, by rfl⟩

end Record

end TypedCommands
