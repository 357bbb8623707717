import TypedCommands.Proofs.Record.Routing
import TypedCommands.Proofs.Record.Sharing

/-!
# What fields hold after binding

Binding is a loop that changes a record argument by argument.  Seen field by field its
effect is simple, as long as no list is held by two fields: a field that collects values holds
what it held and then the values delivered to it, any other bound field holds the last value
delivered to it, and a field that no binding reaches holds what it held.

Main results:

- Theorem `Record.Receives.deliverAll`: the fields after any sequence of deliveries.
- Theorem `Record.bindAll_of_deliveries`: binding arguments that are all delivered is
  delivering their values.
- Theorem `Record.bind_field_by_field`: when binding goes well, what it leaves in each
  field, and which argument it fails on otherwise.
-/

namespace TypedCommands

/-! ## Records that plans fit -/

namespace Record

/-- A record has the fields of its schema, each of them once. -/
structure WellFormed (r : Record) : Prop where
  /-- The fields are those of the schema. -/
  names_eq : r.names = r.schema.fields.map (·.name)
  /-- No field is there twice. -/
  nodup : r.names.Nodup

/-- If the field is to collect values, it holds a list or nothing. -/
def TakesList (r : Record) (b : FieldBinding) : Prop :=
  b.isSequence = true → r.get? b.field = some .null ∨ ∃ items, r.get? b.field = some (.list items)

/-- Every field that is to collect values holds a list or nothing. -/
def Collects (r : Record) (p : Plan) : Prop := ∀ b ∈ p.bindings, r.TakesList b

/-- The values that a field has collected. -/
def items (r : Record) (field : String) : List Value :=
  match r.get? field with
  | some (.list items) => items
  | _ => []

/-- A record in which a field that held nothing holds a new empty list. -/
def begun (r : Record) (field : String) : Record :=
  match r.get? field with
  | some .null => r.set field (.list [])
  | _ => r

/-- A record after a value is delivered to a field. -/
def deliver (r : Record) (b : FieldBinding) (v : Value) : Record :=
  if b.isSequence then (r.begun b.field).append b.field v else r.set b.field v

/-- A record after values are delivered one by one. -/
def deliverAll (r : Record) (delivered : List (FieldBinding × Value)) : Record :=
  delivered.foldl (fun r d => r.deliver d.1 d.2) r

/-- The values among those delivered that go to a field. -/
def valuesOf (field : String) (delivered : List (FieldBinding × Value)) : List Value :=
  (delivered.filter fun d => d.1.field == field).map (·.2)

/-- What the fields of a record hold once values are delivered to it. -/
structure Receives (p : Plan) (r : Record) (delivered : List (FieldBinding × Value))
    (after : Record) : Prop where
  /-- The fields are the same ones. -/
  names_eq : after.names = r.names
  /-- A field that collects nothing holds the last value delivered to it. -/
  last : ∀ b ∈ p.bindings, b.isSequence = false →
    after.get? b.field = (valuesOf b.field delivered).getLast?.or (r.get? b.field)
  /-- A field that collects values holds its own and then those delivered to it. -/
  collected : ∀ b ∈ p.bindings, b.isSequence = true →
    after.get? b.field =
      if valuesOf b.field delivered = [] then r.get? b.field
      else some (.list (r.items b.field ++ valuesOf b.field delivered))
  /-- A field that no binding reaches keeps its value. -/
  other : ∀ field, (∀ b ∈ p.bindings, b.field ≠ field) → after.get? field = r.get? field

/-- A schema that names its fields once starts with a record that is well formed. -/
theorem wellFormed_blank {s : Schema} (h : (s.fields.map (·.name)).Nodup) :
    s.blank.WellFormed := by
  have names_eq : s.blank.names = s.fields.map (·.name) := by
    simp only [names, Schema.blank, List.map_map]
    apply List.map_congr_left
    intro f _
    simp only [Function.comp, Schema.startSlot]
    split <;> rfl
  exact ⟨names_eq, names_eq ▸ h⟩

/-- The plan of a record is the plan of its schema. -/
theorem plan_eq_of_bindingPlan {r : Record} {p : Plan} (h : r.bindingPlan = .ok p) :
    r.schema.plan = .ok p := by
  rw [bindingPlan] at h
  split at h
  · cases h
  · exact h

/-- The plan of a well-formed record binds fields of the record, each of them once. -/
theorem WellFormed.fields {r : Record} {p : Plan} (hr : r.WellFormed)
    (hp : r.bindingPlan = .ok p) :
    (p.bindings.map (·.field)).Nodup ∧ ∀ b ∈ p.bindings, b.field ∈ r.names := by
  obtain ⟨-, hfields⟩ := Schema.plan_eq_ok (plan_eq_of_bindingPlan hp)
  rw [← hr.names_eq] at hfields
  constructor
  · rw [hfields]
    exact hr.nodup.filter _
  · intro b hb
    have hmem : b.field ∈ p.bindings.map (·.field) := List.mem_map_of_mem hb
    rw [hfields] at hmem
    exact List.mem_of_mem_filter hmem

/-! ## One delivery -/

/-- A list is begun as the empty list, and otherwise nothing is done. -/
theorem begun_eq (r : Record) (field : String) :
    r.begun field = r.set field (.list []) ∨ r.begun field = r := by
  unfold begun
  split
  · exact .inl rfl
  · exact .inr rfl

/-- Beginning a list adds no field. -/
theorem names_begun (r : Record) (field : String) : (r.begun field).names = r.names := by
  rcases r.begun_eq field with h | h <;> rw [h]
  exact r.names_set field _

/-- Once it is begun, the list of a field holds the values it has collected. -/
theorem get?_begun {r : Record} {b : FieldBinding} (hseq : b.isSequence = true)
    (h : r.TakesList b) : (r.begun b.field).get? b.field = some (.list (r.items b.field)) := by
  rcases h hseq with hnull | ⟨items, hlist⟩
  · obtain ⟨c, hc, -⟩ := Option.map_eq_some_iff.1 hnull
    simp only [begun, Record.items, hnull, get?_set, mem_names_of_content? hc, and_self, if_true]
  · simp only [begun, Record.items, hlist]

theorem get?_begun_of_ne {r : Record} {field other : String} (hne : other ≠ field) :
    (r.begun field).get? other = r.get? other := by
  rcases r.begun_eq field with h | h <;> rw [h]
  rw [get?_set, if_neg fun hboth => hne hboth.1]

/-- Delivering a value adds no field. -/
theorem names_deliver (r : Record) (b : FieldBinding) (v : Value) :
    (r.deliver b v).names = r.names := by
  unfold deliver
  split
  · rw [names_append, names_begun]
  · exact r.names_set _ _

/-- Independent fields stay independent when a value is delivered to one. -/
theorem Separate.deliver {r : Record} {p : Plan} (h : r.Separate p) (b : FieldBinding)
    (v : Value) : (r.deliver b v).Separate p := by
  unfold Record.deliver
  split
  · rcases r.begun_eq b.field with hbegun | hbegun <;> rw [hbegun]
    · exact (h.set _ _).append _ _
    · exact h.append _ _
  · exact h.set _ _

/-- Delivering a value to one field leaves the others alone if they are independent. -/
theorem get?_deliver_of_ne {r : Record} {p : Plan} (hs : r.Separate p) {b : FieldBinding}
    (hb : b ∈ p.bindings) {v : Value} {field : String} (hne : b.field ≠ field) :
    (r.deliver b v).get? field = r.get? field := by
  unfold deliver
  split
  · next hseq =>
    have hbegun : (r.begun b.field).Separate p := by
      rcases r.begun_eq b.field with h | h <;> rw [h]
      · exact hs.set _ _
      · exact hs
    rw [hbegun.get?_append_of_ne hb hseq hne.symm, get?_begun_of_ne hne.symm]
  · rw [get?_set, if_neg fun hboth => hne hboth.1.symm]

/-- A field holds what is delivered to it, lists at their end. -/
theorem get?_deliver_self {r : Record} {b : FieldBinding} {v : Value} (hmem : b.field ∈ r.names)
    (h : r.TakesList b) :
    (r.deliver b v).get? b.field =
      some (if b.isSequence then .list (r.items b.field ++ [v]) else v) := by
  unfold deliver
  split
  · next hseq => exact get?_append_self (get?_begun hseq h) v
  · rw [get?_set, if_pos ⟨rfl, hmem⟩]

/-- Fields that collect values hold lists or nothing after a delivery as well. -/
theorem Collects.deliver {r : Record} {p : Plan} (hc : r.Collects p) (hs : r.Separate p)
    (hp : (p.bindings.map (·.field)).Nodup) {b : FieldBinding} (hb : b ∈ p.bindings)
    (v : Value) : (r.deliver b v).Collects p := by
  intro c hc_mem hseq
  by_cases hfield : b.field = c.field
  · obtain rfl : b = c := List.inj_on_of_nodup_map hp hb hc_mem hfield
    unfold Record.deliver
    rw [if_pos hseq, get?_append_self (get?_begun hseq (hc b hb))]
    exact .inr ⟨_, rfl⟩
  · rw [get?_deliver_of_ne hs hb hfield]
    exact hc c hc_mem hseq

/-- A text that is a value of the field is delivered. -/
theorem assign_of_ok {r : Record} {b : FieldBinding} (h : r.TakesList b) {text : String}
    {v : Value} (hv : coerce b.valueType text = .ok v) :
    r.assign b text = (r.deliver b v, none) := by
  by_cases hseq : b.isSequence = true
  · rcases h hseq with hnull | ⟨items, hlist⟩
    · simp [assign, deliver, begun, hseq, hnull, hv]
    · simp [assign, deliver, begun, hseq, hlist, hv]
  · simp [assign, deliver, hseq, hv]

/-- A text that is no value of the field fails the way converting it does. -/
theorem assign_of_error {r : Record} {b : FieldBinding} (h : r.TakesList b) {text : String}
    {failure : Failure} (hv : coerce b.valueType text = .error failure) :
    (r.assign b text).2 = some failure := by
  by_cases hseq : b.isSequence = true
  · rcases h hseq with hnull | ⟨items, hlist⟩
    · simp [assign, hseq, hnull, hv]
    · simp [assign, hseq, hlist, hv]
  · simp [assign, hseq, hv]

/-! ## Many deliveries -/

/-- The values for a field begin with the first one that is delivered to it. -/
theorem valuesOf_cons (field : String) (b : FieldBinding) (v : Value)
    (delivered : List (FieldBinding × Value)) :
    valuesOf field ((b, v) :: delivered) =
      if b.field = field then v :: valuesOf field delivered else valuesOf field delivered := by
  by_cases h : b.field = field <;> simp [valuesOf, h]

/-- One more delivery in front is accounted for field by field. -/
theorem Receives.cons {p : Plan} {r after : Record} {b : FieldBinding} {v : Value}
    {delivered : List (FieldBinding × Value)} (hp : (p.bindings.map (·.field)).Nodup)
    (hc : r.Collects p) (hs : r.Separate p) (hb : b ∈ p.bindings) (hnames : b.field ∈ r.names)
    (h : Receives p (r.deliver b v) delivered after) :
    Receives p r ((b, v) :: delivered) after where
  names_eq := h.names_eq.trans (names_deliver r b v)
  last := by
    intro c hmem hseq
    rw [h.last c hmem hseq, valuesOf_cons]
    by_cases hfield : b.field = c.field
    · obtain rfl : b = c := List.inj_on_of_nodup_map hp hb hmem hfield
      rw [get?_deliver_self hnames (hc b hb), if_pos rfl, List.getLast?_cons, hseq]
      cases (valuesOf b.field delivered).getLast? <;> rfl
    · rw [get?_deliver_of_ne hs hb hfield, if_neg hfield]
  collected := by
    intro c hmem hseq
    rw [h.collected c hmem hseq, valuesOf_cons]
    by_cases hfield : b.field = c.field
    · obtain rfl : b = c := List.inj_on_of_nodup_map hp hb hmem hfield
      have hself := get?_deliver_self (v := v) hnames (hc b hb)
      rw [if_pos hseq] at hself
      have hitems : (r.deliver b v).items b.field = r.items b.field ++ [v] := by
        rw [items, hself]
      rw [hself, hitems, if_pos rfl, if_neg (List.cons_ne_nil _ _)]
      split
      · next hnone => rw [hnone]
      · rw [List.append_assoc, List.singleton_append]
    · have hitems : (r.deliver b v).items c.field = r.items c.field := by
        rw [items, items, get?_deliver_of_ne hs hb hfield]
      rw [get?_deliver_of_ne hs hb hfield, if_neg hfield, hitems]
  other := by
    intro field hfield
    rw [h.other field hfield, get?_deliver_of_ne hs hb (hfield b hb)]

/-- After values are delivered one by one, every field holds what it is to receive. -/
theorem Receives.deliverAll {p : Plan} (hp : (p.bindings.map (·.field)).Nodup)
    {delivered : List (FieldBinding × Value)} (hd : ∀ d ∈ delivered, d.1 ∈ p.bindings)
    {r : Record} (hc : r.Collects p) (hs : r.Separate p)
    (hnames : ∀ b ∈ p.bindings, b.field ∈ r.names) :
    Receives p r delivered (r.deliverAll delivered) := by
  induction delivered generalizing r with
  | nil =>
    refine ⟨rfl, ?_, ?_, fun _ _ => rfl⟩
    · intro b _ _
      rfl
    · intro b _ _
      rfl
  | cons d delivered ih =>
    obtain ⟨b, v⟩ := d
    have hb : b ∈ p.bindings := hd (b, v) List.mem_cons_self
    refine Receives.cons hp hc hs hb (hnames b hb) ?_
    apply ih (fun d hmem => hd d (List.mem_cons_of_mem _ hmem)) (hc.deliver hs hp hb v)
      (hs.deliver b v)
    intro c hmem
    rw [names_deliver]
    exact hnames c hmem

/-! ## Binding is delivering -/

/-- Binding goes on from where it got to with the arguments in front. -/
theorem bindAll_append {p : Plan} {now : Progress} {xs : List Argument}
    (h : (bindAll p now xs).failure = none) (ys : List Argument) :
    bindAll p now (xs ++ ys) = bindAll p (bindAll p now xs) ys := by
  induction xs generalizing now with
  | nil => rfl
  | cons a xs ih =>
    simp only [List.cons_append, bindAll] at h ⊢
    cases hone : (bindOne p now a).failure with
    | none =>
      simp only [hone] at h ⊢
      exact ih h
    | some failure => simp [hone] at h

/-- An argument whose text is a value of the field on its route is delivered there. -/
theorem bindOne_of_routes {p : Plan} (hp : (p.bindings.map (·.name)).Nodup) {r : Record}
    (hc : r.Collects p) {before : List Argument} {a : Argument} {b : FieldBinding}
    {text : String} {v : Value} (hroute : p.Routes before a b text)
    (hv : coerce b.valueType text = .ok v) :
    bindOne p ⟨r, p.fieldNumber (before.countP p.isPositional), none⟩ a =
      ⟨r.deliver b v, p.fieldNumber ((before ++ [a]).countP p.isPositional), none⟩ := by
  rw [bindOne]
  simp only [Plan.route?_of_routes hp hroute, assign_of_ok (hc _ hroute.mem) hv]

/-- An argument that is refused ends binding with the reason. -/
theorem failure_bindOne_of_refuses {p : Plan} (hp : (p.bindings.map (·.name)).Nodup)
    {r : Record} (hc : r.Collects p) {before : List Argument} {a : Argument}
    {failure : Failure} (h : p.Refuses before a failure) :
    (bindOne p ⟨r, p.fieldNumber (before.countP p.isPositional), none⟩ a).failure =
      some failure := by
  rw [bindOne]
  cases h with
  | unrecognised hno =>
    cases hroute : p.route? (p.fieldNumber (before.countP p.isPositional)) a with
    | none => rfl
    | some route => exact absurd (Plan.routes_of_route? hp hroute) (hno _ _)
  | @uncoerced b text failure hroute hv =>
    have hfail := assign_of_error (hc _ hroute.mem) hv
    simp only [Plan.route?_of_routes hp hroute]
    split
    · next hassign => simp [hassign] at hfail
    · next hassign => simpa [hassign] using hfail

/-- Binding arguments that are all delivered delivers their values one by one. -/
theorem bindAll_of_deliveries {p : Plan} (hnames : (p.bindings.map (·.name)).Nodup)
    (hfields : (p.bindings.map (·.field)).Nodup) {before arguments : List Argument}
    {delivered : List (FieldBinding × Value)} (h : p.Deliveries before arguments delivered)
    {r : Record} (hc : r.Collects p) (hs : r.Separate p) :
    bindAll p ⟨r, p.fieldNumber (before.countP p.isPositional), none⟩ arguments =
      ⟨r.deliverAll delivered, p.fieldNumber ((before ++ arguments).countP p.isPositional),
        none⟩ := by
  induction h generalizing r with
  | nil => simp [bindAll, deliverAll]
  | @cons before rest a b text v delivered hroute hv _ ih =>
    simp only [bindAll, bindOne_of_routes hnames hc hroute hv]
    rw [ih (hc.deliver hs hfields hroute.mem v) (hs.deliver b v), List.append_assoc,
      List.singleton_append]
    rfl

/-- Fields that collect values still do so after any deliveries. -/
theorem Collects.deliverAll {p : Plan} (hfields : (p.bindings.map (·.field)).Nodup)
    {delivered : List (FieldBinding × Value)} (hd : ∀ d ∈ delivered, d.1 ∈ p.bindings)
    {r : Record} (hc : r.Collects p) (hs : r.Separate p) :
    (r.deliverAll delivered).Collects p := by
  induction delivered generalizing r with
  | nil => exact hc
  | cons d delivered ih =>
    have hb : d.1 ∈ p.bindings := hd d List.mem_cons_self
    exact ih (fun c hmem => hd c (List.mem_cons_of_mem _ hmem)) (hc.deliver hs hfields hb d.2)
      (hs.deliver d.1 d.2)

/-- Binding under a plan, with the record and the failure read off its last state. -/
theorem bind_of_plan {r : Record} {p : Plan} (hp : r.bindingPlan = .ok p) (s : Source) :
    r.bind s = ((bindAll p { record := r } s.arguments).record,
      (bindAll p { record := r } s.arguments).failure.or
        (s.fault.map fun f => Failure.ofProblem (.malformed f))) := by
  simp only [bind, hp]
  cases (bindAll p { record := r } s.arguments).failure <;> rfl

variable {r : Record} {p : Plan}

/-- If every argument is delivered, binding ends well with all values delivered. -/
theorem bind_of_deliveries (hr : r.WellFormed) (hp : r.bindingPlan = .ok p)
    (hc : r.Collects p) (hs : r.Separate p) {arguments : List Argument}
    {delivered : List (FieldBinding × Value)} (h : p.Deliveries [] arguments delivered) :
    r.bind ⟨arguments, none⟩ = (r.deliverAll delivered, none) := by
  have hnames := (Schema.plan_eq_ok (plan_eq_of_bindingPlan hp)).1
  have hall := bindAll_of_deliveries hnames (hr.fields hp).1 h hc hs
  rw [List.countP_nil, p.fieldNumber_zero] at hall
  simp [bind_of_plan hp, hall]

/-- If the arguments in front are delivered and the next is refused, binding fails with it. -/
theorem failure_bind_of_refuses (hr : r.WellFormed) (hp : r.bindingPlan = .ok p)
    (hc : r.Collects p) (hs : r.Separate p) {before rest : List Argument} {a : Argument}
    {delivered : List (FieldBinding × Value)} {failure : Failure}
    (h : p.Deliveries [] before delivered) (hrefuse : p.Refuses before a failure) :
    (r.bind ⟨before ++ a :: rest, none⟩).2 = some failure := by
  have hnames := (Schema.plan_eq_ok (plan_eq_of_bindingPlan hp)).1
  have hfields := (hr.fields hp).1
  have hbefore := bindAll_of_deliveries hnames hfields h hc hs
  rw [List.countP_nil, p.fieldNumber_zero, List.nil_append] at hbefore
  have hone := failure_bindOne_of_refuses hnames (hc.deliverAll hfields h.mem hs) hrefuse
  have hall : (bindAll p { record := r } (before ++ a :: rest)).failure = some failure := by
    rw [bindAll_append (by rw [hbefore]), hbefore, bindAll]
    simp only [hone]
  simp [bind_of_plan hp, hall]

/-- Binding goes well exactly if everything is delivered. -/
theorem bind_eq_none_iff (hr : r.WellFormed) (hp : r.bindingPlan = .ok p)
    (hc : r.Collects p) (hs : r.Separate p) {arguments : List Argument} :
    (r.bind ⟨arguments, none⟩).2 = none ↔
      ∃ delivered, p.Deliveries [] arguments delivered := by
  constructor
  · intro hnone
    rcases p.exists_deliveries_or_refuses [] arguments with hall |
      ⟨done, a, rest, delivered, failure, rfl, hdone, hrefuse⟩
    · exact hall
    · rw [failure_bind_of_refuses hr hp hc hs hdone hrefuse] at hnone
      cases hnone
  · rintro ⟨delivered, h⟩
    rw [bind_of_deliveries hr hp hc hs h]

/-- Binding fails with the reason why the first argument is refused. -/
theorem bind_eq_some_iff (hr : r.WellFormed) (hp : r.bindingPlan = .ok p)
    (hc : r.Collects p) (hs : r.Separate p) {arguments : List Argument} {failure : Failure} :
    (r.bind ⟨arguments, none⟩).2 = some failure ↔
      ∃ before a rest delivered, arguments = before ++ a :: rest ∧
        p.Deliveries [] before delivered ∧ p.Refuses before a failure := by
  constructor
  · intro hfail
    rcases p.exists_deliveries_or_refuses [] arguments with ⟨delivered, hall⟩ |
      ⟨done, a, rest, delivered, other, rfl, hdone, hrefuse⟩
    · rw [bind_of_deliveries hr hp hc hs hall] at hfail
      cases hfail
    · rw [failure_bind_of_refuses hr hp hc hs hdone hrefuse, Option.some.injEq] at hfail
      subst hfail
      exact ⟨done, a, rest, delivered, rfl, hdone, hrefuse⟩
  · rintro ⟨before, a, rest, delivered, rfl, hbefore, hrefuse⟩
    exact failure_bind_of_refuses hr hp hc hs hbefore hrefuse

/--
Binding field by field.  Binding goes well exactly if every argument has a route and a
text that is a value of the field it goes to; then every field holds what the arguments
deliver to it, a last value or all values behind those it had.  Otherwise binding fails
with the reason why the first argument that cannot be delivered is refused.
-/
theorem bind_field_by_field (hr : r.WellFormed) (hp : r.bindingPlan = .ok p)
    (hc : r.Collects p) (hs : r.Separate p) (arguments : List Argument) :
    ((r.bind ⟨arguments, none⟩).2 = none ↔
      ∀ before a rest, arguments = before ++ a :: rest →
        ∃ b text v, p.Routes before a b text ∧ coerce b.valueType text = .ok v) ∧
    ((r.bind ⟨arguments, none⟩).2 = none →
      ∃ delivered, p.Deliveries [] arguments delivered ∧
        Receives p r delivered (r.bind ⟨arguments, none⟩).1) ∧
    (∀ failure, (r.bind ⟨arguments, none⟩).2 = some failure ↔
      ∃ before a rest delivered, arguments = before ++ a :: rest ∧
        p.Deliveries [] before delivered ∧ p.Refuses before a failure) := by
  have hnames := (Schema.plan_eq_ok (plan_eq_of_bindingPlan hp)).1
  obtain ⟨hfields, hmem⟩ := hr.fields hp
  refine ⟨?_, ?_, fun failure => bind_eq_some_iff hr hp hc hs⟩
  · rw [bind_eq_none_iff hr hp hc hs]
    exact Plan.exists_deliveries_iff hnames
  · intro hnone
    obtain ⟨delivered, h⟩ := (bind_eq_none_iff hr hp hc hs).1 hnone
    refine ⟨delivered, h, ?_⟩
    rw [bind_of_deliveries hr hp hc hs h]
    exact Receives.deliverAll hfields h.mem hc hs hmem

/-- A schema with a private field, a flag, a text and a list that starts as nothing. -/
def errand : Schema where
  name := "Errand"
  fields := [
    { name := "_seen", type := .builtin .integer, default := some (.int 0) },
    { name := "urgent", type := .builtin .flag, default := some (.bool false) },
    { name := "shop", type := .builtin .text, default := some (.text ""),
      tag := .text ",positional" },
    { name := "amounts", type := .union .short [.container .list [.builtin .integer], .nothing],
      default := some .null, tag := .text ",positional" }]

/-- The plan of errands. -/
def errandPlan : Plan where
  schema := "Errand"
  bindings := [
    ⟨"urgent", "urgent", false, .builtin .flag, false⟩,
    ⟨"shop", "shop", true, .builtin .text, false⟩,
    ⟨"amounts", "amounts", true, .container .list [.builtin .integer], true⟩]

/-- The words of an errand, the flag between those that go to fields by position. -/
def errandWords : List Argument :=
  [⟨"market", "", "market", 0⟩, ⟨"3", "", "3", 7⟩, ⟨"urgent", "", "urgent", 9⟩,
    ⟨"amounts=4", "amounts", "4", 16⟩, ⟨"5", "", "5", 26⟩]

/-- An errand is bound field by field. -/
theorem bind_field_by_field_errand :
    (errand.blank.bind ⟨errandWords, none⟩).1.get? "amounts" =
        some (.list [.int 3, .int 4, .int 5]) ∧
      ∃ delivered, errandPlan.Deliveries [] errandWords delivered ∧
        Receives errandPlan errand.blank delivered (errand.blank.bind ⟨errandWords, none⟩).1 := by
  have hr : errand.blank.WellFormed := wellFormed_blank (by decide)
  have hp : errand.blank.bindingPlan = .ok errandPlan := by rfl
  have hc : errand.blank.Collects errandPlan := by
    intro b hb hseq
    simp only [errandPlan, List.mem_cons, List.not_mem_nil, or_false] at hb
    rcases hb with rfl | rfl | rfl
    · cases hseq
    · cases hseq
    · exact .inl rfl
  have hs := separate_blank errand errandPlan
  exact ⟨by rfl, (bind_field_by_field hr hp hc hs errandWords).2.1 (by rfl)⟩

/-- A schema with two lists of numbers. -/
def ledger : Schema where
  name := "Ledger"
  fields := [
    { name := "credit", type := .container .list [.builtin .integer], inConstructor := false },
    { name := "debit", type := .container .list [.builtin .integer], inConstructor := false }]

/-- The plan of ledgers. -/
def ledgerPlan : Plan where
  schema := "Ledger"
  bindings := [
    ⟨"credit", "credit", false, .container .list [.builtin .integer], false⟩,
    ⟨"debit", "debit", false, .container .list [.builtin .integer], false⟩]

/-- A ledger in which both fields hold one list. -/
def sharedLedger : Record where
  schema := ledger
  slots := [⟨"credit", some (.shared 0)⟩, ⟨"debit", some (.shared 0)⟩]

theorem wellFormed_sharedLedger : sharedLedger.WellFormed := ⟨by decide, by decide⟩

theorem collects_sharedLedger : sharedLedger.Collects ledgerPlan := by
  intro b hb _
  simp only [ledgerPlan, List.mem_cons, List.not_mem_nil, or_false] at hb
  rcases hb with rfl | rfl <;> exact .inr ⟨[], rfl⟩

/-- A word that gives an amount to the second field. -/
def debitWord : Argument := ⟨"debit=2", "debit", "2", 0⟩

/--
Where two fields hold one list, a field changes that no argument goes to.  And records that
cannot be changed have a plan as well, but not even nothing can be bound to them.
-/
theorem bind_sharedLedger :
    (sharedLedger.WellFormed ∧ sharedLedger.bindingPlan = .ok ledgerPlan ∧
      sharedLedger.Collects ledgerPlan ∧ (sharedLedger.bind ⟨[debitWord], none⟩).2 = none ∧
      ∀ delivered, ledgerPlan.Deliveries [] [debitWord] delivered →
        ¬ Receives ledgerPlan sharedLedger delivered (sharedLedger.bind ⟨[debitWord], none⟩).1) ∧
    (({ errand with frozen := true } : Schema).plan = .ok errandPlan ∧
      (({ errand with frozen := true } : Schema).blank.bind ⟨[], none⟩).2 =
        some (.ofProblem (.destination (.notMutableRecord "Errand")))) := by
  refine ⟨⟨wellFormed_sharedLedger, by rfl, collects_sharedLedger, by rfl, ?_⟩, by rfl, by rfl⟩
  intro delivered h hreceives
  have hnames : (ledgerPlan.bindings.map (·.name)).Nodup := by decide
  -- The only delivery is one to the second field.
  obtain ⟨b, v, rfl, hfield⟩ : ∃ b v, delivered = [(b, v)] ∧ b.field = "debit" := by
    cases h with
    | cons hroute _ hrest =>
      cases hrest
      have hto : ledgerPlan.Routes [] debitWord
          ⟨"debit", "debit", false, .container .list [.builtin .integer], false⟩ "2" :=
        .named (by decide) (by simp [ledgerPlan]) rfl
      obtain ⟨rfl, -⟩ := hroute.unique hnames hto
      exact ⟨_, _, rfl, rfl⟩
  have hcredit := hreceives.collected
    ⟨"credit", "credit", false, .container .list [.builtin .integer], false⟩
    (by simp [ledgerPlan]) rfl
  have hnone : valuesOf "credit" [(b, v)] = [] := by simp [valuesOf, hfield]
  rw [if_pos hnone] at hcredit
  have hbefore : sharedLedger.get? "credit" = some (.list []) := by rfl
  have hafter : (sharedLedger.bind ⟨[debitWord], none⟩).1.get? "credit" =
      some (.list [.int 2]) := by rfl
  rw [hbefore, hafter] at hcredit
  cases hcredit

end Record

end TypedCommands
