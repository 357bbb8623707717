import TypedCommands.Proofs.Record.Shortfall

/-!
# Binding in two steps

The number of the next positional field is all that binding keeps from one argument to the
next besides the record, and it begins again with every call.  A call for arguments that were
bound in part before therefore does what the rest of one call would do whenever the number
does not matter: if the first part has no positional argument, if the second one has none,
or if the first positional field takes all positional arguments.

Main results:

- Theorem `Record.bindAll_place`: without positional arguments the number of the next
  positional field changes nothing and is not changed.
- Theorem `Record.bind_append_eq_bindThen`: when binding in two steps is binding in one.
-/

namespace TypedCommands

namespace Plan

/-- The first positional field takes all positional arguments. -/
def CollectsFirst (p : Plan) : Prop :=
  ∃ b rest, p.positional = b :: rest ∧ b.isSequence = true

/-- If the first positional field takes all positional arguments, it is always the next one. -/
theorem CollectsFirst.fieldNumber_eq {p : Plan} (h : p.CollectsFirst) (j : Nat) :
    p.fieldNumber j = 0 := by
  obtain ⟨b, rest, hpositional, hseq⟩ := h
  have hsink : p.positional.findIdx? (·.isSequence) = some 0 := by
    rw [hpositional, List.findIdx?_cons, if_pos hseq]
  rw [fieldNumber, hsink]
  exact Nat.min_zero j

/-- An argument that is not positional goes the same way at every place, and leaves the place. -/
theorem route?_of_not_isPositional {p : Plan} (hp : (p.bindings.map (·.name)).Nodup)
    {a : Argument} (ha : p.isPositional a = false) (i j : Nat) :
    p.route? j a = (p.route? i a).map fun route => { route with place := j } := by
  rw [isPositional_eq hp] at ha
  by_cases hname : a.name = ""
  · obtain ⟨b, hflag⟩ : ∃ b, p.flag? a = some b := by
      simpa [hname, Option.isSome_iff_exists] using ha
    simp [route?, hname, hflag]
  · cases hfound : p.find? a.name <;> simp [route?, hname, hfound]

end Plan

namespace Record

/-- Bind arguments, and if all went well bind a source to what they left. -/
def bindThen (r : Record) (xs : List Argument) (s : Source) : Record × Option Failure :=
  match r.bind ⟨xs, none⟩ with
  | (after, none) => after.bind s
  | stopped => stopped

/-! ## The schema stays -/

/-- Assignments keep the schema of a record. -/
theorem schema_assign (r : Record) (b : FieldBinding) (text : String) :
    (r.assign b text).1.schema = r.schema := by
  rw [assign]
  split
  · split
    · rfl
    · split
      · exact schema_append _ _ _
      · rfl
    · split
      · exact schema_append _ _ _
      · rfl
    · rfl
  · split <;> rfl

/-- Binding an argument keeps the schema of a record. -/
theorem schema_bindOne (p : Plan) (now : Progress) (a : Argument) :
    (bindOne p now a).record.schema = now.record.schema := by
  rw [bindOne]
  split
  · rfl
  · next route _ =>
    have hassign := now.record.schema_assign route.binding route.text
    split <;> simp_all

/-- Binding arguments keeps the schema of a record. -/
theorem schema_bindAll (p : Plan) (now : Progress) (arguments : List Argument) :
    (bindAll p now arguments).record.schema = now.record.schema := by
  induction arguments generalizing now with
  | nil => rfl
  | cons a arguments ih =>
    simp only [bindAll]
    split
    · rw [ih, schema_bindOne]
    · exact schema_bindOne p now a

/-! ## Places that do not matter -/

/-- An argument that is not positional is bound in the same way at every place. -/
theorem bindOne_place {p : Plan} (hp : (p.bindings.map (·.name)).Nodup) (now : Progress)
    {a : Argument} (ha : p.isPositional a = false) (place : Nat) :
    bindOne p { now with place := place } a = { bindOne p now a with place := place } := by
  simp only [bindOne]
  rw [Plan.route?_of_not_isPositional hp ha now.place place]
  cases p.route? now.place a with
  | none => rfl
  | some route =>
    simp only [Option.map_some]
    split <;> simp_all

/-- Arguments without a positional one are bound in the same way at every place. -/
theorem bindAll_place {p : Plan} (hp : (p.bindings.map (·.name)).Nodup) (now : Progress)
    {arguments : List Argument} (h : ∀ a ∈ arguments, p.isPositional a = false) (place : Nat) :
    bindAll p { now with place := place } arguments =
      { bindAll p now arguments with place := place } := by
  induction arguments generalizing now with
  | nil => rfl
  | cons a arguments ih =>
    simp only [bindAll, bindOne_place hp now (h a List.mem_cons_self) place]
    generalize bindOne p now a = after
    obtain ⟨record, next, failure⟩ := after
    cases failure with
    | none => exact ih ⟨record, next, none⟩ fun c hc => h c (List.mem_cons_of_mem a hc)
    | some failure => rfl

/-- The place behind a first part makes no difference to a second part. -/
theorem bindAll_fieldNumber {p : Plan} (hp : (p.bindings.map (·.name)).Nodup)
    {xs ys : List Argument}
    (h : (∀ a ∈ xs, p.isPositional a = false) ∨ (∀ a ∈ ys, p.isPositional a = false) ∨
      p.CollectsFirst) (r : Record) :
    (bindAll p ⟨r, p.fieldNumber (xs.countP p.isPositional), none⟩ ys).record =
        (bindAll p { record := r } ys).record ∧
      (bindAll p ⟨r, p.fieldNumber (xs.countP p.isPositional), none⟩ ys).failure =
        (bindAll p { record := r } ys).failure := by
  rcases h with hxs | hys | hfirst
  · have hzero : xs.countP p.isPositional = 0 := by
      rw [List.countP_eq_zero]
      intro a ha
      simp [hxs a ha]
    rw [hzero, p.fieldNumber_zero]
    exact ⟨rfl, rfl⟩
  · have hplace := bindAll_place hp { record := r } hys (p.fieldNumber (xs.countP p.isPositional))
    rw [hplace]
    exact ⟨rfl, rfl⟩
  · rw [hfirst.fieldNumber_eq]
    exact ⟨rfl, rfl⟩

/-! ## Two steps -/

variable {r : Record} {p : Plan}

/-- A record with another one's schema is bound with the same plan. -/
theorem bindingPlan_congr {after : Record} (h : after.schema = r.schema) :
    after.bindingPlan = r.bindingPlan := by
  rw [bindingPlan, bindingPlan, h]

/-- Under a plan, a failure in the first part is the failure of all. -/
theorem bind_append_of_failure (hp : r.bindingPlan = .ok p) {xs : List Argument}
    {failure : Failure} (h : (r.bind ⟨xs, none⟩).2 = some failure) (ys : List Argument)
    (fault : Option LineFault) : r.bind ⟨xs ++ ys, fault⟩ = r.bind ⟨xs, none⟩ := by
  simp only [bind_of_plan hp, Option.map_none, Option.or_none] at h ⊢
  rw [bindAll_append_of_failure h rfl ys, h, Option.some_or]

/--
Binding in two steps.  Arguments are bound to a record and then, if all went well, a source is
bound to the same record.  The record and the outcome are those of binding the arguments and
the source in one go, if the arguments have no positional one among them, or the source has
none, or the first positional field takes all of them.
-/
theorem bind_append_eq_bindThen (hp : r.schema.plan = .ok p) {xs ys : List Argument}
    (h : (∀ a ∈ xs, p.isPositional a = false) ∨ (∀ a ∈ ys, p.isPositional a = false) ∨
      p.CollectsFirst) (fault : Option LineFault) :
    r.bind ⟨xs ++ ys, fault⟩ = r.bindThen xs ⟨ys, fault⟩ := by
  have hnames := (Schema.plan_eq_ok hp).1
  cases hplan : r.bindingPlan with
  | error failure => simp only [bindThen, bind, hplan]
  | ok plan =>
    obtain rfl : p = plan := Except.ok.inj (hp.symm.trans (plan_eq_of_bindingPlan hplan))
    cases hfirst : r.bind ⟨xs, none⟩ with
    | mk after failure =>
      cases failure with
      | some failure =>
        rw [bindThen, hfirst, bind_append_of_failure hplan (by rw [hfirst]) ys fault, hfirst]
      | none =>
        -- The second step begins with the place 0, the one go with that behind the arguments.
        have hnone : (r.bind ⟨xs, none⟩).2 = none := by rw [hfirst]
        have hstate := bindAll_of_bind hplan hnone
        have hafter : (bindAll p { record := r } xs).record = after := by
          rw [bind_of_plan hplan] at hfirst
          exact congrArg Prod.fst hfirst
        have hsame : after.bindingPlan = .ok p := by
          rw [← hplan, ← hafter]
          exact bindingPlan_congr (schema_bindAll p _ xs)
        rw [hafter] at hstate
        obtain ⟨hrecord, hfailure⟩ := bindAll_fieldNumber hnames h after
        have hgo : bindAll p { record := r } (xs ++ ys) =
            bindAll p ⟨after, p.fieldNumber (xs.countP p.isPositional), none⟩ ys := by
          rw [bindAll_append (by rw [hstate]), hstate]
        rw [bindThen, hfirst]
        simp only [bind_of_plan hplan, bind_of_plan hsame, hgo, hrecord, hfailure]

/-- Words of an errand that name their fields or are flags. -/
def errandNamed : List Argument :=
  [⟨"amounts=3", "amounts", "3", 0⟩, ⟨"urgent", "", "urgent", 10⟩]

/-- An errand is bound in two steps when only the second one gives its shop by position. -/
theorem bind_append_eq_bindThen_errand :
    (errand.blank.bindThen errandNamed ⟨errandWords, none⟩).1.get? "amounts" =
        some (.list [.int 3, .int 3, .int 4, .int 5]) ∧
      errand.blank.bind ⟨errandNamed ++ errandWords, none⟩ =
        errand.blank.bindThen errandNamed ⟨errandWords, none⟩ :=
  ⟨by rfl, bind_append_eq_bindThen (p := errandPlan) (by rfl) (.inl (by decide)) none⟩

/-- With positional arguments in both steps, the second step begins with the first field again. -/
example :
    (errand.blank.bind ⟨[⟨"market", "", "market", 0⟩] ++ [⟨"3", "", "3", 7⟩], none⟩).1.get?
        "shop" = some (.text "market") ∧
      (errand.blank.bindThen [⟨"market", "", "market", 0⟩] ⟨[⟨"3", "", "3", 7⟩], none⟩).1.get?
        "shop" = some (.text "3") :=
  ⟨by rfl, by rfl⟩

end Record

end TypedCommands
