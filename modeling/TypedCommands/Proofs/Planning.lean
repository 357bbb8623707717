import Mathlib.Data.List.Forall2
import Mathlib.Data.List.Induction
import TypedCommands.Proofs.Interleaving
import TypedCommands.Proofs.Plan

/-!
# Which schemas have a plan

Once the types of its fields are known, a schema has a plan exactly if the tag of every public
field gives a name and no two public fields are given the same one.  The plan then binds these
fields in the order they are declared.  Otherwise planning fails at the first field whose tag
is refused or whose name a field before it has, and so does binding to a record of the schema,
without looking at any argument.

Main results:

- Theorem `distinctlyNamed_or_fails`: either all fields get names of their own, or there is a
  first one that fails.
- Theorems `exists_plan` and `plan_of_fails`: a plan is made in the one case and not in the other.
- Theorem `Record.bindFrom_fst`: binding that tells what is left of a feed is binding.
- Theorem `Schema.plan_describes`: when a schema has a plan, and what follows either way.
-/

namespace TypedCommands

/-! ## Fields and their names -/

namespace Field

/-- The tag of a field gives it a binding name. -/
def HasName (f : Field) (name : String) : Prop :=
  ∃ positional, f.tag.binding f.name = .ok (name, positional)

/-- The tag of a field lets unnamed arguments reach it. -/
def isPositional (f : Field) : Bool :=
  match f.tag.binding f.name with
  | .ok (_, positional) => positional
  | .error _ => false

/-- The binding that a field makes: its tag says how it is reached, its type what it takes. -/
structure Makes (f : Field) (b : FieldBinding) : Prop where
  /-- The binding is about the field. -/
  field_eq : b.field = f.name
  /-- It is reached as the tag says. -/
  tag_eq : f.tag.binding f.name = .ok (b.name, b.positional)
  /-- It takes values of the type of the field, without one `none`. -/
  type_eq : ∃ type, f.type.resolve f.scope = .ok type ∧ (b.target, b.optional) = type.withoutNone

/-- What is wrong with a field behind others: its tag is refused, or one of them has its name. -/
inductive Fails (schema : String) (before : List Field) (f : Field) : Failure → Prop
  | refused {failure : Failure} : f.tag.binding f.name = .error failure →
      Fails schema before f failure
  | clash {earlier : Field} {name : String} : earlier ∈ before → earlier.HasName name →
      f.HasName name →
      Fails schema before f (.ofProblem (.tag (.clash earlier.name f.name schema name)))

variable {f : Field} {b : FieldBinding} {name name' : String}

/-- A field has at most one name. -/
theorem HasName.unique (h : f.HasName name) (h' : f.HasName name') : name = name' := by
  obtain ⟨positional, h⟩ := h
  obtain ⟨positional', h'⟩ := h'
  rw [h] at h'
  exact congrArg Prod.fst (Except.ok.inj h')

theorem Makes.hasName (h : f.Makes b) : f.HasName b.name := ⟨b.positional, h.tag_eq⟩

theorem Makes.isPositional_eq (h : f.Makes b) : f.isPositional = b.positional := by
  rw [isPositional, h.tag_eq]

end Field

/-- The tags of all fields give names, and no two fields have the same one. -/
structure DistinctlyNamed (fields : List Field) : Prop where
  /-- Every tag gives a name. -/
  named : ∀ f ∈ fields, ∃ name, f.HasName name
  /-- The names are distinct. -/
  distinct : fields.Pairwise fun f g => ∀ name, f.HasName name → ¬ g.HasName name

section

variable {schema : String} {before after fields : List Field} {f : Field} {failure : Failure}

/-- Among distinctly named fields none is wrong behind those in front of it. -/
theorem DistinctlyNamed.not_fails (h : DistinctlyNamed (before ++ f :: after)) :
    ¬ f.Fails schema before failure := by
  intro hfails
  cases hfails with
  | refused htag =>
    obtain ⟨name, positional, hname⟩ := h.named f (by simp)
    rw [htag] at hname
    cases hname
  | @clash earlier name hearlier hhas hname =>
    have hpair := (List.pairwise_append.1 h.distinct).2.2 earlier hearlier f List.mem_cons_self
    exact hpair name hhas hname

/-- A field behind distinctly named ones is named distinctly as well or is wrong. -/
theorem DistinctlyNamed.concat (h : DistinctlyNamed before)
    (hno : ∀ failure, ¬ f.Fails schema before failure) : DistinctlyNamed (before ++ [f]) := by
  have hnamed : ∃ name, f.HasName name := by
    cases htag : f.tag.binding f.name with
    | ok answer => exact ⟨answer.1, answer.2, htag⟩
    | error failure => exact absurd (.refused htag) (hno failure)
  constructor
  · intro g hg
    rcases List.mem_append.1 hg with hg | hg
    · exact h.named g hg
    · rwa [List.mem_singleton.1 hg]
  · rw [List.pairwise_append]
    refine ⟨h.distinct, List.pairwise_singleton _ _,
      fun earlier hearlier g hg name hhas hname => ?_⟩
    rw [List.mem_singleton.1 hg] at hname
    exact hno _ (.clash hearlier hhas hname)

theorem DistinctlyNamed.nil : DistinctlyNamed [] := ⟨nofun, .nil⟩

/-- Fields are distinctly named, or there is a first one that is wrong. -/
theorem distinctlyNamed_or_fails (schema : String) (fields : List Field) :
    DistinctlyNamed fields ∨ ∃ before f after failure, fields = before ++ f :: after ∧
      DistinctlyNamed before ∧ f.Fails schema before failure := by
  induction fields using List.reverseRecOn with
  | nil => exact .inl .nil
  | append_singleton fields f ih =>
    rcases ih with hfields | ⟨before, g, after, failure, rfl, hbefore, hfails⟩
    · by_cases hno : ∀ failure, ¬ f.Fails schema fields failure
      · exact .inl (hfields.concat hno)
      · obtain ⟨failure, hfails⟩ := not_forall_not.1 hno
        exact .inr ⟨fields, f, [], failure, rfl, hfields, hfails⟩
    · exact .inr ⟨before, g, after ++ [f], failure, by simp, hbefore, hfails⟩

end

/-! ## Making bindings -/

section

variable {schema : String} {before : List Field} {done : List FieldBinding}
  {f : Field} {type : FieldType} {rest typed : List (Field × FieldType)}

/-- Private fields make no bindings. -/
theorem bindFields_filter (schema : String) (done : List FieldBinding)
    (typed : List (Field × FieldType)) :
    bindFields schema done (typed.filter fun e => !isPrivate e.1.name) =
      bindFields schema done typed := by
  induction typed generalizing done with
  | nil => rfl
  | cons e typed ih =>
    obtain ⟨f, type⟩ := e
    by_cases hprivate : isPrivate f.name = true
    · rw [List.filter_cons_of_neg (by simp [hprivate]), ih]
      simp [bindFields, hprivate]
    · rw [List.filter_cons_of_pos (by simp [hprivate])]
      simp only [bindFields, hprivate, ih]

/-- Every field that was bound has a binding. -/
theorem exists_makes_of_mem (h : List.Forall₂ Field.Makes before done) (hf : f ∈ before) :
    ∃ b ∈ done, f.Makes b := by
  induction h with
  | nil => cases hf
  | @cons g b before done hmade _ ih =>
    rcases List.mem_cons.1 hf with rfl | hf
    · exact ⟨b, List.mem_cons_self, hmade⟩
    · obtain ⟨b', hb', hmade'⟩ := ih hf
      exact ⟨b', List.mem_cons_of_mem b hb', hmade'⟩

/-- The names of the bindings that fields make are those of the fields. -/
theorem mem_names_iff (h : List.Forall₂ Field.Makes before done) {name : String} :
    name ∈ done.map (·.name) ↔ ∃ f ∈ before, f.HasName name := by
  induction h with
  | nil => simp
  | @cons g b before done hmakes _ ih =>
    have hname : name = b.name ↔ g.HasName name :=
      ⟨fun heq => heq ▸ hmakes.hasName, fun hhas => hhas.unique hmakes.hasName⟩
    simp [ih, hname]

/-- The bindings of distinctly named fields have distinct names. -/
theorem DistinctlyNamed.nodup_names (h : DistinctlyNamed before)
    (hmakes : List.Forall₂ Field.Makes before done) : (done.map (·.name)).Nodup := by
  obtain ⟨-, hdistinct⟩ := h
  induction hmakes with
  | nil => exact .nil
  | @cons g b before done hmade hrest ih =>
    obtain ⟨hfirst, hdistinct⟩ := List.pairwise_cons.1 hdistinct
    rw [List.map_cons, List.nodup_cons]
    refine ⟨fun hmem => ?_, ih hdistinct⟩
    obtain ⟨f, hf, hname⟩ := (mem_names_iff hrest).1 hmem
    exact hfirst f hf b.name hmade.hasName hname

/-- A public field that is not wrong makes the next binding. -/
theorem bindFields_cons_of_not_fails (hpublic : isPrivate f.name = false)
    (htype : f.type.resolve f.scope = .ok type) (hmakes : List.Forall₂ Field.Makes before done)
    (hno : ∀ failure, ¬ f.Fails schema before failure) :
    ∃ b, f.Makes b ∧
      ∀ rest,
        bindFields schema done ((f, type) :: rest) = bindFields schema (done ++ [b]) rest := by
  cases htag : f.tag.binding f.name with
  | error failure => exact absurd (.refused htag) (hno failure)
  | ok answer =>
    obtain ⟨name, positional⟩ := answer
    have hfree : done.find? (·.name == name) = none := by
      rw [List.find?_eq_none]
      intro b hb hname
      have hmem : name ∈ done.map (·.name) := List.mem_map.2 ⟨b, hb, by simpa using hname⟩
      obtain ⟨earlier, hearlier, hhas⟩ := (mem_names_iff hmakes).1 hmem
      exact hno _ (.clash hearlier hhas ⟨positional, htag⟩)
    refine ⟨⟨f.name, name, positional, type.withoutNone.1, type.withoutNone.2⟩,
      ⟨rfl, htag, type, htype, rfl⟩, fun rest => ?_⟩
    simp only [bindFields, hpublic, htag, hfree]
    rfl

/-- A public field that is wrong ends planning. -/
theorem bindFields_cons_of_fails (hpublic : isPrivate f.name = false)
    (hmakes : List.Forall₂ Field.Makes before done) (hbefore : DistinctlyNamed before)
    {failure : Failure} (hfails : f.Fails schema before failure) :
    bindFields schema done ((f, type) :: rest) = .error failure := by
  cases hfails with
  | refused htag => simp [bindFields, hpublic, htag]
  | @clash earlier name hearlier hhas hname =>
    obtain ⟨positional, htag⟩ := hname
    -- The binding that is found is the one that the earlier field has made.
    obtain ⟨b, hb, hmade⟩ := exists_makes_of_mem hmakes hearlier
    have hfound : done.find? (·.name == name) = some b :=
      (find?_key_eq_some_iff (hbefore.nodup_names hmakes)).2 ⟨hb, hmade.hasName.unique hhas⟩
    simp [bindFields, hpublic, htag, hfound, hmade.field_eq]

/-- Public fields of known types make bindings for as long as none of them is wrong. -/
theorem bindFields_append (htyped : ∀ e ∈ typed, isPrivate e.1.name = false ∧
      e.1.type.resolve e.1.scope = .ok e.2) (hmakes : List.Forall₂ Field.Makes before done)
    (h : DistinctlyNamed (before ++ typed.map (·.1))) (schema : String) :
    ∃ bindings, List.Forall₂ Field.Makes (before ++ typed.map (·.1)) bindings ∧
      ∀ rest, bindFields schema done (typed ++ rest) = bindFields schema bindings rest := by
  induction typed generalizing before done with
  | nil => exact ⟨done, by simpa using hmakes, fun rest => rfl⟩
  | cons e typed ih =>
    obtain ⟨⟨hpublic, htype⟩, htyped⟩ := List.forall_mem_cons.1 htyped
    have hno : ∀ failure, ¬ e.1.Fails schema before failure := fun failure => h.not_fails
    obtain ⟨b, hmade, hstep⟩ := bindFields_cons_of_not_fails hpublic htype hmakes hno
    have hmore : List.Forall₂ Field.Makes (before ++ [e.1]) (done ++ [b]) :=
      List.rel_append hmakes (.cons hmade .nil)
    have hsplit : before ++ (e :: typed).map (·.1) = before ++ [e.1] ++ typed.map (·.1) := by simp
    rw [hsplit] at h ⊢
    obtain ⟨bindings, hbindings, hgo⟩ := ih htyped hmore h
    exact ⟨bindings, hbindings, fun rest => (hstep (typed ++ rest)).trans (hgo rest)⟩

end

/-! ## Schemas -/

namespace Schema

/-- The fields that are bound. -/
def publicFields (s : Schema) : List Field := s.fields.filter fun f => !isPrivate f.name

/-- The types of all fields are known, those of private fields too. -/
def TypesResolve (s : Schema) : Prop := ∀ f ∈ s.fields, ∃ type, f.type.resolve f.scope = .ok type

variable {s : Schema}

/-- If every type has a meaning then all of them are known. -/
theorem exists_resolveFieldTypes {schema : String} {fields : List Field}
    (h : ∀ f ∈ fields, ∃ type, f.type.resolve f.scope = .ok type) :
    ∃ typed, resolveFieldTypes schema fields = .ok typed := by
  induction fields with
  | nil => exact ⟨[], rfl⟩
  | cons f fields ih =>
    obtain ⟨⟨type, htype⟩, hrest⟩ := List.forall_mem_cons.1 h
    obtain ⟨typed, htyped⟩ := ih hrest
    exact ⟨(f, type) :: typed, by simp [resolveFieldTypes, htype, htyped, Except.map]⟩

/-- Planning makes bindings of the public fields, whose types are known. -/
theorem TypesResolve.exists_typed (h : s.TypesResolve) :
    ∃ typed : List (Field × FieldType), typed.map (·.1) = s.publicFields ∧
      (∀ e ∈ typed, isPrivate e.1.name = false ∧ e.1.type.resolve e.1.scope = .ok e.2) ∧
      s.plan = (bindFields s.name [] typed).map (Plan.mk s.name) := by
  obtain ⟨typed, htyped⟩ := exists_resolveFieldTypes h
  refine ⟨typed.filter fun e => !isPrivate e.1.name, ?_, fun e he => ?_, ?_⟩
  · rw [publicFields, ← map_fst_resolveFieldTypes htyped, List.filter_map]
    rfl
  · obtain ⟨hmem, hpublic⟩ := List.mem_filter.1 he
    exact ⟨by simpa using hpublic, (of_mem_resolveFieldTypes htyped hmem).2⟩
  · rw [bindFields_filter, plan, htyped]

/-- A schema of distinctly named public fields has a plan, which these fields make. -/
theorem exists_plan (h : s.TypesResolve) (hnamed : DistinctlyNamed s.publicFields) :
    ∃ p, s.plan = .ok p ∧ List.Forall₂ Field.Makes s.publicFields p.bindings := by
  obtain ⟨typed, hfields, htyped, hplan⟩ := h.exists_typed
  obtain ⟨bindings, hmakes, hgo⟩ :=
    bindFields_append htyped .nil (by rwa [List.nil_append, hfields]) s.name
  rw [List.nil_append, hfields] at hmakes
  refine ⟨⟨s.name, bindings⟩, ?_, hmakes⟩
  rw [hplan, ← List.append_nil typed, hgo]
  rfl

/-- Planning fails at a public field that is wrong behind distinctly named ones. -/
theorem plan_of_fails (h : s.TypesResolve) {before after : List Field} {f : Field}
    (hsplit : s.publicFields = before ++ f :: after) (hbefore : DistinctlyNamed before)
    {failure : Failure} (hfails : f.Fails s.name before failure) : s.plan = .error failure := by
  obtain ⟨typed, hfields, htyped, hplan⟩ := h.exists_typed
  rw [hsplit, List.map_eq_append_iff] at hfields
  obtain ⟨front, behind, rfl, rfl, hbehind⟩ := hfields
  obtain ⟨e, rest, rfl, rfl, -⟩ := List.map_eq_cons_iff.1 hbehind
  obtain ⟨bindings, hmakes, hgo⟩ := bindFields_append
    (fun e he => htyped e (List.mem_append_left _ he)) .nil hbefore s.name
  have hpublic := (htyped e (List.mem_append_right _ List.mem_cons_self)).1
  rw [hplan, hgo, bindFields_cons_of_fails hpublic hmakes hbefore hfails]
  rfl

/-- A schema has a plan exactly if its public fields are distinctly named. -/
theorem exists_plan_iff (h : s.TypesResolve) :
    (∃ p, s.plan = .ok p) ↔ DistinctlyNamed s.publicFields := by
  constructor
  · rintro ⟨p, hp⟩
    rcases distinctlyNamed_or_fails s.name s.publicFields with
      hnamed | ⟨before, f, after, failure, hsplit, hbefore, hfails⟩
    · exact hnamed
    · rw [plan_of_fails h hsplit hbefore hfails] at hp
      cases hp
  · intro hnamed
    obtain ⟨p, hp, -⟩ := exists_plan h hnamed
    exact ⟨p, hp⟩

/-- Planning fails exactly with what is wrong with the first public field that is wrong. -/
theorem plan_eq_error_iff (h : s.TypesResolve) {failure : Failure} :
    s.plan = .error failure ↔ ∃ before f after, s.publicFields = before ++ f :: after ∧
      DistinctlyNamed before ∧ f.Fails s.name before failure := by
  constructor
  · intro hplan
    rcases distinctlyNamed_or_fails s.name s.publicFields with
      hnamed | ⟨before, f, after, failure', hsplit, hbefore, hfails⟩
    · obtain ⟨p, hp, -⟩ := exists_plan h hnamed
      rw [hp] at hplan
      cases hplan
    · rw [plan_of_fails h hsplit hbefore hfails] at hplan
      cases hplan
      exact ⟨before, f, after, hsplit, hbefore, hfails⟩
  · rintro ⟨before, f, after, hsplit, hbefore, hfails⟩
    exact plan_of_fails h hsplit hbefore hfails

/-- The bindings of a plan are those that the public fields make. -/
theorem forall₂_makes_of_plan (h : s.TypesResolve) {p : Plan} (hp : s.plan = .ok p) :
    List.Forall₂ Field.Makes s.publicFields p.bindings := by
  obtain ⟨p', hp', hmakes⟩ := exists_plan h ((exists_plan_iff h).1 ⟨p, hp⟩)
  obtain rfl := Except.ok.inj (hp.symm.trans hp')
  exact hmakes

/-- The positional bindings are those that the positional fields make. -/
theorem forall₂_makes_positional {fields : List Field} {p : Plan}
    (h : List.Forall₂ Field.Makes fields p.bindings) :
    List.Forall₂ Field.Makes (fields.filter Field.isPositional) p.positional :=
  List.rel_filter (fun _ _ hmade => iff_of_eq (congrArg (· = true) hmade.isPositional_eq)) h

end Schema

/-! ## Binding without a plan -/

namespace Record

variable {σ : Type} [Feed σ]

/--
Bind each argument before the next one is asked for, until one fails or none is left; with
the record comes what is left of the feed.
-/
def bindAllFrom (p : Plan) (now : Progress) (s : σ) : Progress × σ :=
  match h : (Feed.pull s).1 with
  | .argument a =>
    have := Feed.size_pull_lt h
    let after := bindOne p now a
    match after.failure with
    | none => bindAllFrom p after (Feed.pull s).2
    | some _ => (after, (Feed.pull s).2)
  | .finished => (now, (Feed.pull s).2)
  | .failed f => ({ now with failure := some (.ofProblem (.malformed f)) }, (Feed.pull s).2)
termination_by Feed.size s

/-- Bind the arguments of a feed while they are pulled; with it comes what is left of the feed. -/
def bindFrom (r : Record) (s : σ) : (Record × Option Failure) × σ :=
  match r.bindingPlan with
  | .error failure => ((r, some failure), s)
  | .ok p =>
    let after := bindAllFrom p { record := r } s
    ((after.1.record, after.1.failure), after.2)

/-- What binding does with the next answer of a feed. -/
theorem bindAllLive_step (p : Plan) (now : Progress) (s : σ) :
    bindAllLive p now s =
      match (Feed.pull s).1 with
      | .argument a =>
        match (bindOne p now a).failure with
        | none => bindAllLive p (bindOne p now a) (Feed.pull s).2
        | some _ => bindOne p now a
      | .finished => now
      | .failed f => { now with failure := some (.ofProblem (.malformed f)) } := by
  conv_lhs => rw [bindAllLive]
  split
  · next a h =>
    cases hafter : (bindOne p now a).failure <;> simp only [h, hafter]
  · next h => simp only [h]
  · next f h => simp only [h]

/-- Telling what is left of a feed changes nothing about the binding. -/
theorem bindAllFrom_fst (p : Plan) (now : Progress) (s : σ) :
    (bindAllFrom p now s).1 = bindAllLive p now s := by
  fun_induction bindAllFrom p now s with
  | case1 now s a h _ after hafter ih =>
    rw [ih, bindAllLive_step p now s]
    simp only [after] at hafter ⊢
    simp only [h, hafter]
  | case2 now s a h _ after failure hafter =>
    rw [bindAllLive_step]
    simp only [after] at hafter ⊢
    simp only [h, hafter]
  | case3 now s h => simp only [bindAllLive_step, h]
  | case4 now s f h => simp only [bindAllLive_step, h]

/-- Binding that tells what is left of a feed is binding. -/
theorem bindFrom_fst (r : Record) (s : σ) : (r.bindFrom s).1 = r.bind (Feed.source s) := by
  rw [← bindLive_eq, bindFrom, bindLive]
  cases r.bindingPlan with
  | error failure => rfl
  | ok p => simp only [bindAllFrom_fst]

/-- Without a plan nothing is pulled and the record stays as it is. -/
theorem bindFrom_of_plan_eq_error {r : Record} (hfrozen : r.schema.frozen = false)
    {failure : Failure} (hplan : r.schema.plan = .error failure) (s : σ) :
    r.bindFrom s = ((r, some failure), s) := by
  simp [bindFrom, bindingPlan, hfrozen, hplan]

end Record

namespace Schema

/--
Plans of schemas whose field types are known.  There is one exactly if the tag of every public
field gives a name and no two of them have the same; otherwise planning fails with what is
wrong with the first public field whose tag is refused or whose name a field before it has.  A
plan has the bindings of the public fields in declaration order under distinct names, and its
positional bindings are those of the fields that are marked as positional.  Without a plan,
binding to a record of the schema, if it can be changed, fails in the same way whatever the
arguments, has pulled none of them, and leaves the record as it was.
-/
theorem plan_describes {s : Schema} (h : s.TypesResolve) :
    ((∃ p, s.plan = .ok p) ↔ DistinctlyNamed s.publicFields) ∧
    (∀ failure, s.plan = .error failure ↔
      ∃ before f after, s.publicFields = before ++ f :: after ∧ DistinctlyNamed before ∧
        f.Fails s.name before failure) ∧
    (∀ p, s.plan = .ok p →
      List.Forall₂ Field.Makes s.publicFields p.bindings ∧
        (p.bindings.map (·.name)).Nodup ∧
        List.Forall₂ Field.Makes (s.publicFields.filter Field.isPositional) p.positional) ∧
    ∀ failure, s.plan = .error failure → s.frozen = false → ∀ r : Record, r.schema = s →
      ∀ (σ : Type) [Feed σ] (feed : σ),
        r.bindFrom feed = ((r, some failure), feed) ∧
          r.bind (Feed.source feed) = (r, some failure) := by
  refine ⟨exists_plan_iff h, fun failure => plan_eq_error_iff h, fun p hp => ?_, ?_⟩
  · have hmakes := forall₂_makes_of_plan h hp
    exact ⟨hmakes, (plan_eq_ok hp).1, forall₂_makes_positional hmakes⟩
  · rintro failure hplan hfrozen r rfl σ _ feed
    have hfrom := Record.bindFrom_of_plan_eq_error hfrozen hplan feed
    exact ⟨hfrom, by rw [← Record.bindFrom_fst, hfrom]⟩

/-- A schema whose second field asks for the name that the first one has by itself. -/
def parcel : Schema where
  name := "Parcel"
  fields := [
    { name := "_sent", type := .builtin .flag, tag := .text "label" },
    { name := "Label", type := .builtin .text },
    { name := "title", type := .forward false "str", tag := .text "label, positional" },
    { name := "size", type := .builtin .integer, tag := .text "a,b,c" }]

/-- The second public field of a parcel is the first that is wrong. -/
theorem plan_describes_parcel :
    parcel.plan = .error (.ofProblem (.tag (.clash "Label" "title" "Parcel" "label"))) ∧
      ∀ line, parcel.blank.bindFrom (Line.Scanner.ofLine line) =
        ((parcel.blank, some (.ofProblem (.tag (.clash "Label" "title" "Parcel" "label")))),
          Line.Scanner.ofLine line) := by
  have htypes : parcel.TypesResolve := by
    intro f hf
    simp only [parcel, List.mem_cons, List.not_mem_nil, or_false] at hf
    rcases hf with rfl | rfl | rfl | rfl <;> exact ⟨_, rfl⟩
  obtain ⟨-, herror, -, hbind⟩ := plan_describes htypes
  have hlabel : Field.HasName { name := "Label", type := .builtin .text } "label" :=
    ⟨false, by rfl⟩
  have hplan : parcel.plan =
      .error (.ofProblem (.tag (.clash "Label" "title" "Parcel" "label"))) := by
    refine (herror _).2 ⟨[_], _, [_], rfl, ⟨fun f hf => ?_, List.pairwise_singleton _ _⟩,
      .clash List.mem_cons_self hlabel ⟨true, by rfl⟩⟩
    rw [List.mem_singleton.1 hf]
    exact ⟨"label", hlabel⟩
  exact ⟨hplan, fun line => (hbind _ hplan rfl parcel.blank rfl _ (Line.Scanner.ofLine line)).1⟩

end Schema

end TypedCommands
