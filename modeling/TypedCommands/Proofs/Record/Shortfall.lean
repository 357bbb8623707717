import TypedCommands.Proofs.Record.Atomicity

/-!
# Binding into records with unassigned fields

A record may begin with fields that no one has assigned.  A field that holds a single value
is assigned by the first text for it, but a field that collects values has nothing to add
the text to, and binding fails with a defect.  What a record lacks in this way is settled
when binding begins: no argument that is bound changes it.

Main results:

- Theorem `Record.bindOne_cases`: one argument is delivered, meets a field that the record
  lacks, or is refused.
- Theorem `Record.lacks_bindAll_iff`: arguments that are bound leave what a record lacks.
- Theorem `Record.bind_failure_cases`: the ways in which binding a source fails.
-/

namespace TypedCommands

namespace Record

/-- A field is to collect values and was never assigned. -/
def Lacks (r : Record) (b : FieldBinding) : Prop :=
  b.isSequence = true ∧ r.get? b.field = none

/-- Every field that is to collect values holds a list or nothing once it is assigned. -/
def CollectsAssigned (r : Record) (p : Plan) : Prop :=
  ∀ b ∈ p.bindings, b.isSequence = true → ¬ r.Lacks b →
    r.get? b.field = some .null ∨ ∃ items, r.get? b.field = some (.list items)

/-! ## One argument -/

/-- A field that the record lacks takes no text. -/
theorem assign_of_lacks {r : Record} {b : FieldBinding} (h : r.Lacks b) (text : String) :
    r.assign b text = (r, some (.defect (.unassigned b.field))) := by
  simp [assign, h.1, h.2]

/-- A field that the record does not lack takes a text as it should. -/
theorem CollectsAssigned.takesList {r : Record} {p : Plan} (hc : r.CollectsAssigned p)
    {b : FieldBinding} (hb : b ∈ p.bindings) (hno : ¬ r.Lacks b) : r.TakesList b :=
  fun hseq => hc b hb hseq hno

/-- A field that collects values holds a list after a delivery. -/
theorem exists_list_of_deliver {r : Record} {b : FieldBinding} (h : r.TakesList b)
    (hseq : b.isSequence = true) (v : Value) :
    ∃ items, (r.deliver b v).get? b.field = some (.list items) := by
  rw [deliver, if_pos hseq]
  exact ⟨_, get?_append_self (get?_begun hseq h) v⟩

/-- A delivery leaves what the record lacks. -/
theorem lacks_deliver_iff {r : Record} {p : Plan} (hc : r.CollectsAssigned p) (hs : r.Separate p)
    (hfields : (p.bindings.map (·.field)).Nodup) {b c : FieldBinding} (hb : b ∈ p.bindings)
    (hno : ¬ r.Lacks b) (hmem : c ∈ p.bindings) (v : Value) :
    (r.deliver b v).Lacks c ↔ r.Lacks c := by
  by_cases hfield : b.field = c.field
  · obtain rfl : b = c := List.inj_on_of_nodup_map hfields hb hmem hfield
    refine iff_of_false ?_ hno
    rintro ⟨hseq, hnone⟩
    obtain ⟨items, hlist⟩ := exists_list_of_deliver (hc.takesList hb hno) hseq v
    rw [hlist] at hnone
    cases hnone
  · simp only [Lacks, get?_deliver_of_ne hs hb hfield]

/-- Fields that collect values hold lists or nothing after a delivery as well. -/
theorem CollectsAssigned.deliver {r : Record} {p : Plan} (hc : r.CollectsAssigned p)
    (hs : r.Separate p) (hfields : (p.bindings.map (·.field)).Nodup) {b : FieldBinding}
    (hb : b ∈ p.bindings) (hno : ¬ r.Lacks b) (v : Value) :
    (r.deliver b v).CollectsAssigned p := by
  intro c hmem hseq hlacks
  rw [lacks_deliver_iff hc hs hfields hb hno hmem] at hlacks
  by_cases hfield : b.field = c.field
  · obtain rfl : b = c := List.inj_on_of_nodup_map hfields hb hmem hfield
    exact .inr (exists_list_of_deliver (hc.takesList hb hno) hseq v)
  · rw [get?_deliver_of_ne hs hb hfield]
    exact hc c hmem hseq hlacks

/--
One argument is delivered to a field that the record does not lack, meets a field that the
record lacks, or is refused.
-/
theorem bindOne_cases {p : Plan} (hnames : (p.bindings.map (·.name)).Nodup) {r : Record}
    (hc : r.CollectsAssigned p) (before : List Argument) (a : Argument) :
    (∃ b text v, p.Routes before a b text ∧ ¬ r.Lacks b ∧
      bindOne p ⟨r, p.fieldNumber (before.countP p.isPositional), none⟩ a =
        ⟨r.deliver b v, p.fieldNumber ((before ++ [a]).countP p.isPositional), none⟩) ∨
    (∃ b text, p.Routes before a b text ∧ r.Lacks b ∧
      (bindOne p ⟨r, p.fieldNumber (before.countP p.isPositional), none⟩ a).failure =
        some (.defect (.unassigned b.field))) ∨
    ∃ failure, p.Refuses before a failure ∧
      (bindOne p ⟨r, p.fieldNumber (before.countP p.isPositional), none⟩ a).failure =
        some failure := by
  cases hroute : p.route? (p.fieldNumber (before.countP p.isPositional)) a with
  | none =>
    refine .inr (.inr ⟨_, .unrecognised fun b text hroutes => ?_, by simp only [bindOne, hroute]⟩)
    rw [Plan.route?_of_routes hnames hroutes] at hroute
    cases hroute
  | some route =>
    have hroutes := Plan.routes_of_route? hnames hroute
    have hplace := Plan.route?_of_routes hnames hroutes
    obtain ⟨b, text, place⟩ := route
    by_cases hlacks : r.Lacks b
    · refine .inr (.inl ⟨b, text, hroutes, hlacks, ?_⟩)
      simp only [bindOne, hroute, assign_of_lacks hlacks]
    · -- The record does not lack this field, so the text is delivered or refused.
      have htakes := hc.takesList hroutes.mem hlacks
      cases hv : coerce b.valueType text with
      | ok v =>
        refine .inl ⟨b, text, v, hroutes, hlacks, ?_⟩
        simp only [bindOne, hplace, assign_of_ok htakes hv]
      | error failure =>
        refine .inr (.inr ⟨failure, .uncoerced hroutes hv, ?_⟩)
        have hfail := assign_of_error htakes hv
        simp only [bindOne, hroute]
        split
        · next hassign => simp [hassign] at hfail
        · next hassign => simpa [hassign] using hfail

/-! ## Many arguments -/

/-- Arguments that are bound change nothing about what the record lacks; lists stay lists. -/
theorem lacks_bindAll_iff {p : Plan} (hnames : (p.bindings.map (·.name)).Nodup)
    (hfields : (p.bindings.map (·.field)).Nodup) {before arguments : List Argument}
    {r : Record} (hc : r.CollectsAssigned p) (hs : r.Separate p)
    (h : (bindAll p ⟨r, p.fieldNumber (before.countP p.isPositional), none⟩
      arguments).failure = none) :
    (bindAll p ⟨r, p.fieldNumber (before.countP p.isPositional), none⟩
      arguments).record.CollectsAssigned p ∧
    ∀ c ∈ p.bindings, (bindAll p ⟨r, p.fieldNumber (before.countP p.isPositional), none⟩
      arguments).record.Lacks c ↔ r.Lacks c := by
  -- Only deliveries let the run go on, and each keeps both facts.
  induction arguments generalizing before r with
  | nil => exact ⟨hc, fun c _ => Iff.rfl⟩
  | cons a arguments ih =>
    simp only [bindAll] at h ⊢
    rcases bindOne_cases hnames hc before a with
      ⟨b, text, v, hroutes, hno, hone⟩ | ⟨b, text, -, -, hone⟩ | ⟨failure, -, hone⟩
    · simp only [hone] at h ⊢
      obtain ⟨hcollects, hlacks⟩ := ih (hc.deliver hs hfields hroutes.mem hno v)
        (hs.deliver b v) h
      refine ⟨hcollects, fun c hmem => ?_⟩
      rw [hlacks c hmem, lacks_deliver_iff hc hs hfields hroutes.mem hno hmem]
    · simp [hone] at h
    · simp [hone] at h

/-- A run that fails goes well up to an argument and fails there. -/
theorem exists_of_failure_bindAll {p : Plan} {now : Progress} {arguments : List Argument}
    {failure : Failure} (hstart : now.failure = none)
    (h : (bindAll p now arguments).failure = some failure) :
    ∃ before a rest, arguments = before ++ a :: rest ∧ (bindAll p now before).failure = none ∧
      (bindOne p (bindAll p now before) a).failure = some failure := by
  induction arguments generalizing now with
  | nil =>
    rw [bindAll, hstart] at h
    cases h
  | cons a arguments ih =>
    simp only [bindAll] at h
    cases hone : (bindOne p now a).failure with
    | none =>
      simp only [hone] at h
      obtain ⟨before, c, rest, rfl, hbefore, hfail⟩ := ih hone h
      refine ⟨a :: before, c, rest, rfl, ?_, ?_⟩
      · simpa only [bindAll, hone] using hbefore
      · simpa only [bindAll, hone] using hfail
    | some other =>
      simp only [hone] at h
      exact ⟨[], a, arguments, rfl, hstart, hone.trans h⟩

/-- An argument that fails behind arguments that are bound makes the run fail. -/
theorem failure_bindAll_of_bindOne {p : Plan} {now : Progress} {before rest : List Argument}
    {a : Argument} {failure : Failure} (hbefore : (bindAll p now before).failure = none)
    (hone : (bindOne p (bindAll p now before) a).failure = some failure) :
    (bindAll p now (before ++ a :: rest)).failure = some failure := by
  rw [bindAll_append hbefore, bindAll]
  simp only [hone]

/-! ## Sources -/

variable {r : Record} {p : Plan}

/-- Arguments without a fault are bound exactly if the run of binding goes well. -/
theorem bind_eq_none_iff_bindAll (hp : r.bindingPlan = .ok p) (arguments : List Argument) :
    (r.bind ⟨arguments, none⟩).2 = none ↔
      (bindAll p { record := r } arguments).failure = none := by
  simp [bind_of_plan hp]

/-- The state of binding behind arguments that are bound. -/
theorem bindAll_of_bind (hp : r.bindingPlan = .ok p) {before : List Argument}
    (hbefore : (r.bind ⟨before, none⟩).2 = none) :
    bindAll p { record := r } before =
      ⟨(bindAll p { record := r } before).record,
        p.fieldNumber (before.countP p.isPositional), none⟩ := by
  have hnames := (Schema.plan_eq_ok (plan_eq_of_bindingPlan hp)).1
  rw [bind_eq_none_iff_bindAll hp] at hbefore
  have hplace : (bindAll p { record := r } before).place =
      p.fieldNumber (before.countP p.isPositional) := by
    have := @place_bindAll p hnames [] before r
    rw [List.countP_nil, p.fieldNumber_zero] at this
    exact this hbefore
  generalize bindAll p { record := r } before = now at hbefore hplace ⊢
  obtain ⟨m, place, failure⟩ := now
  subst hbefore hplace
  rfl

/-- Behind arguments that are bound, the record lacks what it lacked in front of them. -/
theorem lacks_of_bind (hr : r.WellFormed) (hp : r.bindingPlan = .ok p)
    (hc : r.CollectsAssigned p) (hs : r.Separate p) {before : List Argument}
    (hbefore : (r.bind ⟨before, none⟩).2 = none) :
    (bindAll p { record := r } before).record.CollectsAssigned p ∧
      ∀ c ∈ p.bindings, (bindAll p { record := r } before).record.Lacks c ↔ r.Lacks c := by
  have hnames := (Schema.plan_eq_ok (plan_eq_of_bindingPlan hp)).1
  rw [bind_eq_none_iff_bindAll hp] at hbefore
  have := @lacks_bindAll_iff p hnames (hr.fields hp).1 [] before r hc hs
  rw [List.countP_nil, p.fieldNumber_zero] at this
  exact this hbefore

/--
The ways in which binding fails.  Behind arguments that are bound, the next one meets a
field that the record lacks or is refused; or all are bound and the source has a fault.
-/
theorem bind_failure_cases (hr : r.WellFormed) (hp : r.bindingPlan = .ok p)
    (hc : r.CollectsAssigned p) (hs : r.Separate p) {s : Source} {failure : Failure}
    (h : (r.bind s).2 = some failure) :
    (∃ before a rest, s.arguments = before ++ a :: rest ∧ (r.bind ⟨before, none⟩).2 = none ∧
      ((∃ b text, p.Routes before a b text ∧ r.Lacks b ∧
          failure = .defect (.unassigned b.field)) ∨
        p.Refuses before a failure)) ∨
    ∃ fault, s.fault = some fault ∧ failure = .ofProblem (.malformed fault) := by
  have hnames := (Schema.plan_eq_ok (plan_eq_of_bindingPlan hp)).1
  simp only [bind_of_plan hp] at h
  cases hall : (bindAll p { record := r } s.arguments).failure with
  | none =>
    rw [hall, Option.none_or, Option.map_eq_some_iff] at h
    obtain ⟨fault, hfault, rfl⟩ := h
    exact .inr ⟨fault, hfault, rfl⟩
  | some other =>
    rw [hall, Option.some_or, Option.some.injEq] at h
    subst h
    obtain ⟨before, a, rest, hsplit, hbefore, hone⟩ := exists_of_failure_bindAll rfl hall
    rw [← bind_eq_none_iff_bindAll hp] at hbefore
    refine .inl ⟨before, a, rest, hsplit, hbefore, ?_⟩
    obtain ⟨hcollects, hlacks⟩ := lacks_of_bind hr hp hc hs hbefore
    rw [bindAll_of_bind hp hbefore] at hone
    rcases bindOne_cases hnames hcollects before a with
      ⟨b, text, v, -, -, hcase⟩ | ⟨b, text, hroutes, hb, hcase⟩ | ⟨failure, hrefuses, hcase⟩
    · rw [hcase] at hone
      cases hone
    · rw [hcase, Option.some.injEq] at hone
      exact .inl ⟨b, text, hroutes, (hlacks b hroutes.mem).1 hb, hone.symm⟩
    · rw [hcase, Option.some.injEq] at hone
      exact .inr (hone ▸ hrefuses)

/-- Binding fails with a defect at an argument for a field that the record lacks. -/
theorem bind_failure_of_lacks (hr : r.WellFormed) (hp : r.bindingPlan = .ok p)
    (hc : r.CollectsAssigned p) (hs : r.Separate p) {before : List Argument} {a : Argument}
    {b : FieldBinding} {text : String} (hbefore : (r.bind ⟨before, none⟩).2 = none)
    (hroutes : p.Routes before a b text) (hlacks : r.Lacks b) (rest : List Argument)
    (fault : Option LineFault) :
    (r.bind ⟨before ++ a :: rest, fault⟩).2 = some (.defect (.unassigned b.field)) := by
  have hnames := (Schema.plan_eq_ok (plan_eq_of_bindingPlan hp)).1
  have hnow := ((lacks_of_bind hr hp hc hs hbefore).2 b hroutes.mem).2 hlacks
  have hone : (bindOne p (bindAll p { record := r } before) a).failure =
      some (.defect (.unassigned b.field)) := by
    rw [bindAll_of_bind hp hbefore]
    simp only [bindOne, Plan.route?_of_routes hnames hroutes, assign_of_lacks hnow]
  rw [bind_eq_none_iff_bindAll hp] at hbefore
  simp only [bind_of_plan hp, failure_bindAll_of_bindOne hbefore hone, Option.some_or]

end Record

end TypedCommands
