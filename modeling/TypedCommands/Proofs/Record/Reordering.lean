import TypedCommands.Proofs.Record.Delivery

/-!
# Arguments in another order

Arguments change a record field by field, so most of their order does not matter.  Only
the positional arguments count each other, and only arguments that go to one field follow
each other there.  Two sequences of the same arguments in which the positional ones come in
the same order are therefore both bound or both refused; if in addition the arguments of
each field come in the same order, they leave the same record.  Where an argument starts in
its line is no part of it here.

Main results:

- Theorem `Argument.agrees_iff_unplaced`: what it means to be the same argument here.
- Theorem `Plan.Rearranges.exists_counterpart`: in a rearrangement every argument has a
  counterpart that as many positional arguments stand in front of.
- Theorem `Plan.valuesOf_eq`: the values that a field receives, read off the arguments that
  go to it.
- Theorem `Record.bind_rearranged`: binding a rearrangement.
-/

namespace TypedCommands

/-- The argument without its place in a line. -/
def Argument.unplaced (a : Argument) : Argument := { a with start := 0 }

/-- Arguments agree exactly if they are the same apart from where they start. -/
theorem Argument.agrees_iff_unplaced (a b : Argument) :
    a.agrees b = true ↔ a.unplaced = b.unplaced := by
  simp [agrees, unplaced, and_assoc]

namespace Plan

/-! ## Rearrangements -/

/-- The same arguments, the positional ones among them in the same order. -/
structure Rearranges (p : Plan) (xs ys : List Argument) : Prop where
  /-- The arguments are the same ones. -/
  perm : (xs.map (·.unplaced)).Perm (ys.map (·.unplaced))
  /-- Positional arguments keep their order. -/
  positional : (xs.filter p.isPositional).map (·.unplaced) =
    (ys.filter p.isPositional).map (·.unplaced)

theorem Rearranges.symm {p : Plan} {xs ys : List Argument} (h : p.Rearranges xs ys) :
    p.Rearranges ys xs :=
  ⟨h.perm.symm, h.positional.symm⟩

/-- A positional argument stands in a sequence behind the positional ones in front of it. -/
theorem exists_split_of_filter {p : Plan} {xs front back : List Argument} {a : Argument}
    (h : xs.filter p.isPositional = front ++ a :: back) :
    ∃ before rest, xs = before ++ a :: rest ∧
      before.countP p.isPositional = front.length := by
  obtain ⟨done, left, rfl, hdone, hleft⟩ := List.filter_eq_append_iff.1 h
  obtain ⟨between, rest, rfl, hbetween, -, -⟩ := List.filter_eq_cons_iff.1 hleft
  refine ⟨done ++ between, rest, (List.append_assoc _ _ _).symm, ?_⟩
  have hnone : between.countP p.isPositional = 0 := by
    rw [List.countP_eq_zero]
    exact hbetween
  rw [List.countP_append, hnone, List.countP_eq_length_filter, hdone, Nat.add_zero]

/-- Every argument has a counterpart behind as many positional ones, where that counts. -/
theorem Rearranges.exists_counterpart {p : Plan} {xs ys : List Argument}
    (h : p.Rearranges xs ys) {before rest : List Argument} {a : Argument}
    (hsplit : ys = before ++ a :: rest) :
    ∃ before' a' rest', xs = before' ++ a' :: rest' ∧ a'.unplaced = a.unplaced ∧
      (p.isPositional a = true →
        before'.countP p.isPositional = before.countP p.isPositional) := by
  -- The counterpart of a positional argument is the one of its number; of others, any will do.
  by_cases ha : p.isPositional a = true
  · have hpositional := h.positional
    rw [hsplit, List.filter_append, List.filter_cons_of_pos ha, List.map_append,
      List.map_cons] at hpositional
    obtain ⟨front, back, hfilter, hfront, hback⟩ := List.map_eq_append_iff.1 hpositional
    obtain ⟨a', back, rfl, hsame, -⟩ := List.map_eq_cons_iff.1 hback
    obtain ⟨before', rest', hxs, hcount⟩ := exists_split_of_filter hfilter
    refine ⟨before', a', rest', hxs, hsame, ?_⟩
    intro _
    have hlength := congrArg List.length hfront
    rw [List.length_map, List.length_map] at hlength
    rw [hcount, hlength, List.countP_eq_length_filter]
  · have hmem : a.unplaced ∈ xs.map (·.unplaced) := by
      rw [h.perm.mem_iff, hsplit]
      exact List.mem_map_of_mem (by simp)
    obtain ⟨a', ha', hsame⟩ := List.mem_map.1 hmem
    obtain ⟨before', rest', hxs⟩ := List.append_of_mem ha'
    exact ⟨before', a', rest', hxs, hsame, fun hyes => absurd hyes ha⟩

/-! ## Routes and order -/

/-- The route of an argument depends on how many positional ones stand in front, if on anything. -/
theorem Routes.of_countP_eq {p : Plan} {before before' : List Argument} {a a' : Argument}
    {b : FieldBinding} {text : String} (h : p.Routes before' a' b text)
    (hsame : a'.unplaced = a.unplaced)
    (hcount : p.isPositional a = true →
      before'.countP p.isPositional = before.countP p.isPositional) :
    p.Routes before a b text := by
  have hname : a'.name = a.name := show a'.unplaced.name = a.unplaced.name by rw [hsame]
  have hvalue : a'.value = a.value := show a'.unplaced.value = a.unplaced.value by rw [hsame]
  have hkind : p.isPositional a' = p.isPositional a := by
    rw [isPositional, isPositional, hname, hvalue]
  cases h with
  | flag hunnamed hb hflag hyes => exact .flag (hname ▸ hunnamed) hb (hvalue ▸ hflag) hyes
  | positional hyes hb =>
    rw [hkind] at hyes
    rw [hcount hyes] at hb
    rw [hvalue]
    exact .positional hyes hb
  | named hnamed hb heq =>
    rw [hvalue]
    exact .named (hname ▸ hnamed) hb (hname ▸ heq)

/-- What is delivered in one order is delivered in a rearrangement. -/
theorem Rearranges.exists_deliveries {p : Plan} (hp : (p.bindings.map (·.name)).Nodup)
    {xs ys : List Argument} (h : p.Rearranges xs ys)
    (hx : ∃ delivered, p.Deliveries [] xs delivered) :
    ∃ delivered, p.Deliveries [] ys delivered := by
  rw [exists_deliveries_iff hp] at hx ⊢
  intro before a rest hsplit
  obtain ⟨before', a', rest', hxs, hsame, hcount⟩ := h.exists_counterpart hsplit
  obtain ⟨b, text, v, hroute, hv⟩ := hx before' a' rest' hxs
  exact ⟨b, text, v, hroute.of_countP_eq hsame hcount, hv⟩

/-- A named argument or a flag changes no route, wherever it stands. -/
theorem routes_insert_iff {p : Plan} {a : Argument} (ha : p.isPositional a = false)
    (before between : List Argument) (c : Argument) (b : FieldBinding) (text : String) :
    p.Routes (before ++ a :: between) c b text ↔ p.Routes (before ++ between) c b text := by
  have hcount : (before ++ a :: between).countP p.isPositional =
      (before ++ between).countP p.isPositional := by
    simp [List.countP_append, ha]
  constructor
  · exact fun h => h.of_countP_eq rfl fun _ => hcount
  · exact fun h => h.of_countP_eq rfl fun _ => hcount.symm

/-! ## The arguments of a field -/

/-- The field that an argument goes to with the arguments `before` in front of it. -/
def destination? (p : Plan) (before : List Argument) (a : Argument) : Option String :=
  (p.route? (p.fieldNumber (before.countP p.isPositional)) a).map (·.binding.field)

/-- The arguments of a sequence that go to a field, with those `before` in front of them. -/
def argumentsFor (p : Plan) (field : String) (before : List Argument) :
    List Argument → List Argument
  | [] => []
  | a :: rest =>
    if p.destination? before a = some field then
      a :: p.argumentsFor field (before ++ [a]) rest
    else p.argumentsFor field (before ++ [a]) rest

/-- Of the arguments in front, only the number of positional ones matters. -/
theorem argumentsFor_congr {p : Plan} {field : String} {before before' : List Argument}
    (h : before.countP p.isPositional = before'.countP p.isPositional)
    (arguments : List Argument) :
    p.argumentsFor field before arguments = p.argumentsFor field before' arguments := by
  induction arguments generalizing before before' with
  | nil => rfl
  | cons a rest ih =>
    have hnext : (before ++ [a]).countP p.isPositional =
        (before' ++ [a]).countP p.isPositional := by
      rw [countP_isPositional_append, countP_isPositional_append, h]
    rw [argumentsFor, argumentsFor, destination?, destination?, h, ih hnext]

/-- The arguments for a field are those of the first part and those of the second. -/
theorem argumentsFor_append (p : Plan) (field : String) (before xs ys : List Argument) :
    p.argumentsFor field before (xs ++ ys) =
      p.argumentsFor field before xs ++ p.argumentsFor field (before ++ xs) ys := by
  induction xs generalizing before with
  | nil => rw [List.nil_append, argumentsFor, List.nil_append, List.append_nil]
  | cons a xs ih =>
    rw [List.cons_append, argumentsFor, argumentsFor, ih, List.append_cons before a xs]
    split
    · rw [List.cons_append]
    · rfl

/-- The text that an argument gives to its field. -/
def textFor (p : Plan) (a : Argument) : String :=
  if a.name == "" && !p.isPositional a then "true" else a.value

/-- The values that the arguments of a field give to it. -/
def valuesFrom (p : Plan) (b : FieldBinding) (arguments : List Argument) : List Value :=
  arguments.filterMap fun a => (coerce b.valueType (p.textFor a)).toOption

/-- Where arguments start has no part in the values that they give. -/
theorem valuesFrom_unplaced (p : Plan) (b : FieldBinding) (arguments : List Argument) :
    p.valuesFrom b (arguments.map (·.unplaced)) = p.valuesFrom b arguments := by
  rw [valuesFrom, valuesFrom, List.filterMap_map]
  rfl

/-- An argument is for the field it is routed to. -/
theorem Routes.destination?_eq {p : Plan} (hp : (p.bindings.map (·.name)).Nodup)
    {before : List Argument} {a : Argument} {b : FieldBinding} {text : String}
    (h : p.Routes before a b text) : p.destination? before a = some b.field := by
  rw [destination?, route?_of_routes hp h]
  rfl

/-- The text that is routed is the one the plan takes from the argument. -/
theorem Routes.text_eq {p : Plan} {before : List Argument} {a : Argument} {b : FieldBinding}
    {text : String} (h : p.Routes before a b text) : text = p.textFor a := by
  cases h with
  | flag hname hb hvalue hflag =>
    have hflags : (p.bindings.any fun c => c.name == a.value && c.isFlag) = true := by
      rw [List.any_eq_true]
      exact ⟨b, hb, by simp [hvalue, hflag]⟩
    simp [textFor, isPositional, hname, hflags]
  | positional hyes _ => simp [textFor, hyes]
  | named hname _ _ => simp [textFor, hname]

/-- The values that a field receives are those that the arguments going there give to it. -/
theorem valuesOf_eq {p : Plan} (hnames : (p.bindings.map (·.name)).Nodup)
    (hfields : (p.bindings.map (·.field)).Nodup) {before arguments : List Argument}
    {delivered : List (FieldBinding × Value)} (h : p.Deliveries before arguments delivered)
    {b : FieldBinding} (hb : b ∈ p.bindings) :
    Record.valuesOf b.field delivered =
      p.valuesFrom b (p.argumentsFor b.field before arguments) := by
  induction h with
  | nil => rfl
  | @cons before rest a c text v delivered hroute hv _ ih =>
    rw [Record.valuesOf_cons, argumentsFor, hroute.destination?_eq hnames, ih]
    by_cases hfield : c.field = b.field
    · obtain rfl : c = b := List.inj_on_of_nodup_map hfields hroute.mem hb hfield
      rw [hroute.text_eq] at hv
      rw [if_pos rfl, if_pos rfl, valuesFrom, valuesFrom, List.filterMap_cons, hv]
      rfl
    · have hother : ¬ some c.field = some b.field := by simpa using hfield
      rw [if_neg hfield, if_neg hother]

/-! ## Moving one argument -/

/-- A named argument or a flag goes to its field wherever it stands. -/
theorem destination?_eq_of_not_isPositional {p : Plan} (hp : (p.bindings.map (·.name)).Nodup)
    {a : Argument} (ha : p.isPositional a = false) (before before' : List Argument) :
    p.destination? before a = p.destination? before' a := by
  rw [isPositional_eq hp] at ha
  rw [destination?, destination?, route?, route?]
  split
  · next hname =>
    cases hflag : p.flag? a with
    | none => simp [hname, hflag] at ha
    | some b => rfl
  · cases p.find? a.name <;> rfl

/-- The arguments for a field begin with the first one that is for it. -/
theorem argumentsFor_cons {p : Plan} {a : Argument} (ha : p.isPositional a = false)
    (field : String) (before rest : List Argument) :
    p.argumentsFor field before (a :: rest) =
      (if p.destination? before a = some field then [a] else []) ++
        p.argumentsFor field before rest := by
  have hcount : (before ++ [a]).countP p.isPositional = before.countP p.isPositional := by
    rw [countP_isPositional_append, ha, if_neg Bool.false_ne_true, Nat.add_zero]
  rw [argumentsFor, argumentsFor_congr hcount]
  split <;> rfl

/-- The arguments of each field stay in order when one is moved past others of other fields. -/
theorem argumentsFor_move {p : Plan} (hp : (p.bindings.map (·.name)).Nodup) {a : Argument}
    (ha : p.isPositional a = false) {before between : List Argument}
    (hother : ∀ field, p.destination? before a = some field →
      p.argumentsFor field before between = []) (after : List Argument) (field : String) :
    p.argumentsFor field [] (before ++ a :: (between ++ after)) =
      p.argumentsFor field [] (before ++ (between ++ a :: after)) := by
  rw [argumentsFor_append, argumentsFor_append, List.nil_append, argumentsFor_cons ha,
    argumentsFor_append p field before between after,
    argumentsFor_append p field before between (a :: after), argumentsFor_cons ha,
    destination?_eq_of_not_isPositional hp ha (before ++ between) before]
  split
  · next hfield => rw [hother field hfield, List.nil_append, List.nil_append]
  · rfl

/-- A named argument or a flag may be moved: the result is a rearrangement. -/
theorem rearranges_move {p : Plan} {a : Argument} (ha : p.isPositional a = false)
    (before between after : List Argument) :
    p.Rearranges (before ++ a :: (between ++ after)) (before ++ (between ++ a :: after)) where
  perm := (List.Perm.append_left before List.perm_middle.symm).map _
  positional := by simp [ha]

end Plan

namespace Record

/-! ## Records that hold the same -/

/-- Records of one schema that hold the same values field by field. -/
def SameAs (r s : Record) : Prop := r.schema = s.schema ∧ r.values = s.values

/-- Among slots with distinct names, a slot is found by its name. -/
theorem find?_slots_eq {r : Record} (h : r.names.Nodup) {s : Slot} (hs : s ∈ r.slots) :
    r.slots.find? (·.name == s.name) = some s := by
  cases hfound : r.slots.find? (·.name == s.name) with
  | none => exact absurd (by simp) (List.find?_eq_none.1 hfound s hs)
  | some t =>
    have hname : t.name = s.name := by simpa using List.find?_some hfound
    rw [List.inj_on_of_nodup_map h (List.mem_of_find?_eq_some hfound) hs hname]

/-- If no field is there twice, the values of a record are those that its fields hold. -/
theorem values_eq {r : Record} (h : r.names.Nodup) :
    r.values = r.names.map fun field => (field, r.get? field) := by
  rw [values, names, List.map_map]
  apply List.map_congr_left
  intro s hs
  simp only [Function.comp, get?, content?, find?_slots_eq h hs, Option.bind_some]

/-- Records of one schema hold the same values if every field does. -/
theorem sameAs_of_get?_eq {r s : Record} (hschema : r.schema = s.schema)
    (hnames : r.names = s.names) (hnodup : r.names.Nodup)
    (h : ∀ field, r.get? field = s.get? field) : r.SameAs s := by
  refine ⟨hschema, ?_⟩
  rw [values_eq hnodup, values_eq (hnames ▸ hnodup), hnames]
  exact List.map_congr_left fun field _ => by rw [h]

/-- Values that are delivered leave the schema alone. -/
theorem schema_deliverAll (r : Record) (delivered : List (FieldBinding × Value)) :
    (r.deliverAll delivered).schema = r.schema := by
  induction delivered generalizing r with
  | nil => rfl
  | cons d delivered ih =>
    have hdeliver : (r.deliver d.1 d.2).schema = r.schema := by
      unfold deliver
      split
      · rw [schema_append]
        rcases r.begun_eq d.1.field with h | h <;> rw [h]
        rfl
      · rfl
    exact (ih (r.deliver d.1 d.2)).trans hdeliver

/-- What a field holds in the end is decided by the values it receives in their order. -/
theorem Receives.get?_eq {p : Plan} {r after after' : Record}
    {delivered delivered' : List (FieldBinding × Value)} (h : Receives p r delivered after)
    (h' : Receives p r delivered' after')
    (hvalues : ∀ b ∈ p.bindings, valuesOf b.field delivered = valuesOf b.field delivered')
    (field : String) : after.get? field = after'.get? field := by
  by_cases hbound : ∃ b ∈ p.bindings, b.field = field
  · obtain ⟨b, hb, rfl⟩ := hbound
    cases hseq : b.isSequence with
    | false => rw [h.last b hb hseq, h'.last b hb hseq, hvalues b hb]
    | true => rw [h.collected b hb hseq, h'.collected b hb hseq, hvalues b hb]
  · have hfree : ∀ b ∈ p.bindings, b.field ≠ field := by
      intro b hb hfield
      exact hbound ⟨b, hb, hfield⟩
    rw [h.other field hfree, h'.other field hfree]

variable {r : Record} {p : Plan}

/-- Deliveries that give every field the same values leave records that hold the same. -/
theorem sameAs_deliverAll (hr : r.WellFormed) (hp : r.bindingPlan = .ok p) (hc : r.Collects p)
    (hs : r.Separate p)
    {delivered delivered' : List (FieldBinding × Value)}
    (hd : ∀ d ∈ delivered, d.1 ∈ p.bindings) (hd' : ∀ d ∈ delivered', d.1 ∈ p.bindings)
    (hvalues : ∀ b ∈ p.bindings, valuesOf b.field delivered = valuesOf b.field delivered') :
    (r.deliverAll delivered).SameAs (r.deliverAll delivered') := by
  obtain ⟨hfields, hmem⟩ := hr.fields hp
  have h := Receives.deliverAll hfields hd hc hs hmem
  have h' := Receives.deliverAll hfields hd' hc hs hmem
  apply sameAs_of_get?_eq
  · rw [schema_deliverAll, schema_deliverAll]
  · rw [h.names_eq, h'.names_eq]
  · rw [h.names_eq]
    exact hr.nodup
  · exact h.get?_eq h' hvalues

/-! ## Binding a rearrangement -/

/-- A rearrangement is bound exactly if the arguments are. -/
theorem bind_eq_none_iff_of_rearranges (hr : r.WellFormed) (hp : r.bindingPlan = .ok p)
    (hc : r.Collects p) (hs : r.Separate p) {xs ys : List Argument} (h : p.Rearranges xs ys) :
    (r.bind ⟨xs, none⟩).2 = none ↔ (r.bind ⟨ys, none⟩).2 = none := by
  have hnames := (Schema.plan_eq_ok (plan_eq_of_bindingPlan hp)).1
  rw [bind_eq_none_iff hr hp hc hs, bind_eq_none_iff hr hp hc hs]
  exact ⟨h.exists_deliveries hnames, h.symm.exists_deliveries hnames⟩

/-- If the arguments of each field keep their order too, the records hold the same. -/
theorem sameAs_of_rearranges (hr : r.WellFormed) (hp : r.bindingPlan = .ok p)
    (hc : r.Collects p) (hs : r.Separate p) {xs ys : List Argument} (h : p.Rearranges xs ys)
    (hsame : ∀ b ∈ p.bindings, (p.argumentsFor b.field [] xs).map (·.unplaced) =
      (p.argumentsFor b.field [] ys).map (·.unplaced))
    (hnone : (r.bind ⟨xs, none⟩).2 = none) :
    (r.bind ⟨xs, none⟩).1.SameAs (r.bind ⟨ys, none⟩).1 := by
  have hnames := (Schema.plan_eq_ok (plan_eq_of_bindingPlan hp)).1
  have hfields := (hr.fields hp).1
  obtain ⟨delivered, hx⟩ := (bind_eq_none_iff hr hp hc hs).1 hnone
  obtain ⟨delivered', hy⟩ := h.exists_deliveries hnames ⟨delivered, hx⟩
  have hvalues : ∀ b ∈ p.bindings,
      valuesOf b.field delivered = valuesOf b.field delivered' := by
    intro b hb
    rw [Plan.valuesOf_eq hnames hfields hx hb, Plan.valuesOf_eq hnames hfields hy hb,
      ← Plan.valuesFrom_unplaced, hsame b hb, Plan.valuesFrom_unplaced]
  rw [bind_of_deliveries hr hp hc hs hx, bind_of_deliveries hr hp hc hs hy]
  exact sameAs_deliverAll hr hp hc hs hx.mem hy.mem hvalues

/--
Arguments in another order, bound to a record in which no list is held by two fields.  If two
sequences have the same arguments, with the positional ones among them in the same order,
binding goes well for one exactly if it does for the other; and if the arguments that go to one
field come in the same order too, for every field, the records hold the same.  So a named
argument or a flag may be moved past any arguments that do not go to its field, and neither of
them changes the routes of other arguments: a field that is given by name is still the next one
for a positional argument.
-/
theorem bind_rearranged (hr : r.WellFormed) (hp : r.bindingPlan = .ok p) (hc : r.Collects p)
    (hs : r.Separate p) :
    (∀ xs ys, p.Rearranges xs ys →
      ((r.bind ⟨xs, none⟩).2 = none ↔ (r.bind ⟨ys, none⟩).2 = none) ∧
      ((∀ b ∈ p.bindings, (p.argumentsFor b.field [] xs).map (·.unplaced) =
          (p.argumentsFor b.field [] ys).map (·.unplaced)) →
        (r.bind ⟨xs, none⟩).2 = none →
          (r.bind ⟨xs, none⟩).1.SameAs (r.bind ⟨ys, none⟩).1)) ∧
    (∀ a before between after, p.isPositional a = false →
      (∀ field, p.destination? before a = some field →
        p.argumentsFor field before between = []) →
      ((r.bind ⟨before ++ a :: (between ++ after), none⟩).2 = none ↔
        (r.bind ⟨before ++ (between ++ a :: after), none⟩).2 = none) ∧
      ((r.bind ⟨before ++ a :: (between ++ after), none⟩).2 = none →
        (r.bind ⟨before ++ a :: (between ++ after), none⟩).1.SameAs
          (r.bind ⟨before ++ (between ++ a :: after), none⟩).1)) ∧
    ∀ a, p.isPositional a = false → ∀ before between c b text,
      p.Routes (before ++ a :: between) c b text ↔ p.Routes (before ++ between) c b text := by
  have hnames := (Schema.plan_eq_ok (plan_eq_of_bindingPlan hp)).1
  refine ⟨?_, ?_, ?_⟩
  · intro xs ys h
    exact ⟨bind_eq_none_iff_of_rearranges hr hp hc hs h, sameAs_of_rearranges hr hp hc hs h⟩
  · intro a before between after ha hother
    have h := Plan.rearranges_move ha before between after
    refine ⟨bind_eq_none_iff_of_rearranges hr hp hc hs h, sameAs_of_rearranges hr hp hc hs h ?_⟩
    have hsame : ∀ b ∈ p.bindings,
        (p.argumentsFor b.field [] (before ++ a :: (between ++ after))).map (·.unplaced) =
          (p.argumentsFor b.field [] (before ++ (between ++ a :: after))).map (·.unplaced) := by
      intro b _
      rw [Plan.argumentsFor_move hnames ha hother]
    exact hsame
  · intro a ha before between c b text
    exact Plan.routes_insert_iff ha before between c b text

/-- The words of an errand with the flag in front and the named argument still between two. -/
def errandFlagFirst : List Argument :=
  [⟨"urgent", "", "urgent", 0⟩, ⟨"market", "", "market", 7⟩, ⟨"3", "", "3", 14⟩,
    ⟨"amounts=4", "amounts", "4", 16⟩, ⟨"5", "", "5", 26⟩]

/-- An errand is the same with its flag in front. -/
theorem bind_rearranged_errand :
    (errand.blank.bind ⟨errandWords, none⟩).1.SameAs
      (errand.blank.bind ⟨errandFlagFirst, none⟩).1 := by
  have hr : errand.blank.WellFormed := wellFormed_blank (by decide)
  have hp : errand.blank.bindingPlan = .ok errandPlan := by rfl
  have hc : errand.blank.Collects errandPlan := by
    intro b hb hseq
    simp only [errandPlan, List.mem_cons, List.not_mem_nil, or_false] at hb
    rcases hb with rfl | rfl | rfl
    · cases hseq
    · cases hseq
    · exact .inl rfl
  have hs := separate_blank errand errandPlan
  have h : errandPlan.Rearranges errandWords errandFlagFirst :=
    ⟨by decide +kernel, by decide +kernel⟩
  exact ((bind_rearranged hr hp hc hs).1 _ _ h).2 (by decide +kernel) (by rfl)

/-- A word that gives an amount to the first field of a ledger. -/
def creditWord : Argument := ⟨"credit=1", "credit", "1", 8⟩

/-- A word that gives the shop of an errand by its name. -/
def depotWord : Argument := ⟨"shop=depot", "shop", "depot", 0⟩

/-- A word that gives the shop of an errand by its position. -/
def marketWord : Argument := ⟨"market", "", "market", 11⟩

/--
Where two fields hold one list, words for different fields may not change places.  And even
where none do, a named word may not be moved past a positional one for its own field.
-/
theorem bind_swapped :
    (sharedLedger.WellFormed ∧ sharedLedger.bindingPlan = .ok ledgerPlan ∧
      sharedLedger.Collects ledgerPlan ∧
      ledgerPlan.Rearranges [debitWord, creditWord] [creditWord, debitWord] ∧
      (∀ b ∈ ledgerPlan.bindings, ledgerPlan.argumentsFor b.field [] [debitWord, creditWord] =
        ledgerPlan.argumentsFor b.field [] [creditWord, debitWord]) ∧
      (sharedLedger.bind ⟨[debitWord, creditWord], none⟩).2 = none ∧
      ¬ (sharedLedger.bind ⟨[debitWord, creditWord], none⟩).1.SameAs
        (sharedLedger.bind ⟨[creditWord, debitWord], none⟩).1) ∧
    (errandPlan.Rearranges [depotWord, marketWord] [marketWord, depotWord] ∧
      (errand.blank.bind ⟨[depotWord, marketWord], none⟩).1.get? "shop" =
        some (.text "market") ∧
      (errand.blank.bind ⟨[marketWord, depotWord], none⟩).1.get? "shop" =
        some (.text "depot")) := by
  refine ⟨⟨wellFormed_sharedLedger, by rfl, collects_sharedLedger, ?_, by decide +kernel, by rfl,
    ?_⟩, ?_, by rfl, by rfl⟩
  · exact ⟨by decide +kernel, by decide +kernel⟩
  · intro hsame
    have hcredit := congrArg (List.map (·.2)) hsame.2
    have hleft : (sharedLedger.bind ⟨[debitWord, creditWord], none⟩).1.values.map (·.2) =
        [some (.list [.int 2, .int 1]), some (.list [.int 2, .int 1])] := by rfl
    have hright : (sharedLedger.bind ⟨[creditWord, debitWord], none⟩).1.values.map (·.2) =
        [some (.list [.int 1, .int 2]), some (.list [.int 1, .int 2])] := by rfl
    rw [hleft, hright] at hcredit
    simp at hcredit
  · exact ⟨by decide +kernel, by decide +kernel⟩

end Record

end TypedCommands
