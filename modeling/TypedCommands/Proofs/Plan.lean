import Mathlib.Data.List.Nodup
import TypedCommands.Plan

/-!
# What a valid plan holds

The plan of a schema binds exactly the public fields of the schema, in the order they
are declared, and under names that are pairwise distinct.  So a binding is found by
its name, and two bindings of one field are the same binding as soon as the schema
names each of its fields once.

Main results:

- Theorem `Schema.plan_eq_ok`: the fields a plan binds are the public fields, and their
  binding names are distinct.
- Theorem `Schema.exists_field_of_mem_plan`: a binding of a plan comes of a field of the
  schema, of its tag and of its type.
- Theorem `Schema.plan_eq_error`: a schema without a plan has a field whose type is not known
  or a tag that is refused.
- Theorem `Plan.find?_eq_some_iff`: looking a name up in a valid plan finds the one
  binding that has the name.
-/

namespace TypedCommands

/-! ## Building plans -/

/-- Resolving types changes neither the fields nor their order. -/
theorem map_fst_resolveFieldTypes {schema : String} {fields : List Field}
    {typed : List (Field × FieldType)} (h : resolveFieldTypes schema fields = .ok typed) :
    typed.map (·.1) = fields := by
  induction fields generalizing typed with
  | nil =>
    cases h
    rfl
  | cons f fields ih =>
    rw [resolveFieldTypes] at h
    split at h
    · cases h
    · next type _ =>
      cases hrest : resolveFieldTypes schema fields with
      | error e => simp [hrest, Except.map] at h
      | ok rest =>
        simp only [hrest, Except.map, Except.ok.injEq] at h
        rw [← h, List.map_cons, ih hrest]

/-- A new name behind distinct ones keeps them distinct. -/
private theorem nodup_names_append {done : List FieldBinding} {b : FieldBinding}
    (hdone : (done.map (·.name)).Nodup) (hnew : b.name ∉ done.map (·.name)) :
    ((done ++ [b]).map (·.name)).Nodup := by
  rw [List.map_append, List.nodup_append]
  refine ⟨hdone, by simp, ?_⟩
  intro name hname last hlast heq
  rw [List.map_singleton, List.mem_singleton] at hlast
  rw [heq, hlast] at hname
  exact hnew hname

/-- What adding the bindings of fields one by one has kept when it ends well. -/
theorem bindFields_eq_ok {schema : String} {done bindings : List FieldBinding}
    {typed : List (Field × FieldType)} (h : bindFields schema done typed = .ok bindings)
    (hdone : (done.map (·.name)).Nodup) :
    (bindings.map (·.name)).Nodup ∧
      bindings.map (·.field) =
        done.map (·.field) ++ (typed.map (·.1.name)).filter (fun name => !isPrivate name) := by
  induction typed generalizing done with
  | nil =>
    cases h
    exact ⟨hdone, by simp⟩
  | cons entry typed ih =>
    obtain ⟨f, type⟩ := entry
    rw [bindFields] at h
    split at h
    · next hprivate =>
      obtain ⟨hnames, hfields⟩ := ih h hdone
      exact ⟨hnames, by simpa [hprivate] using hfields⟩
    · next hpublic =>
      split at h
      · cases h
      · next name positional _ =>
        split at h
        · cases h
        · next hfree =>
          have hnew : name ∉ done.map (·.name) := by
            intro hmem
            obtain ⟨b, hb, hname⟩ := List.mem_map.1 hmem
            have := List.find?_eq_none.1 hfree b hb
            simp [hname] at this
          obtain ⟨hnames, hfields⟩ := ih h (nodup_names_append hdone hnew)
          exact ⟨hnames, by simpa [hpublic] using hfields⟩

/-- A plan is made of the resolved types of all fields, one binding after the other. -/
theorem Schema.exists_typed_of_plan {s : Schema} {p : Plan} (h : s.plan = .ok p) :
    ∃ typed, resolveFieldTypes s.name s.fields = .ok typed ∧
      bindFields s.name [] typed = .ok p.bindings := by
  rw [Schema.plan] at h
  split at h
  · cases h
  · next typed htyped =>
    cases hbind : bindFields s.name [] typed with
    | error e => simp [hbind, Except.map] at h
    | ok bindings =>
      simp only [hbind, Except.map, Except.ok.injEq] at h
      subst h
      exact ⟨typed, htyped, hbind⟩

/-- A plan binds the public fields in declaration order, under names that are distinct. -/
theorem Schema.plan_eq_ok {s : Schema} {p : Plan} (h : s.plan = .ok p) :
    (p.bindings.map (·.name)).Nodup ∧
      p.bindings.map (·.field) =
        (s.fields.map (·.name)).filter (fun name => !isPrivate name) := by
  obtain ⟨typed, htyped, hbind⟩ := Schema.exists_typed_of_plan h
  obtain ⟨hnames, hfields⟩ := bindFields_eq_ok hbind (by simp)
  refine ⟨hnames, ?_⟩
  rw [← map_fst_resolveFieldTypes htyped]
  simpa [Function.comp_def] using hfields

/-! ## Fields behind bindings -/

/-- A resolved type is the one that its field declares. -/
theorem of_mem_resolveFieldTypes {schema : String} {fields : List Field}
    {typed : List (Field × FieldType)} (h : resolveFieldTypes schema fields = .ok typed)
    {entry : Field × FieldType} (hentry : entry ∈ typed) :
    entry.1 ∈ fields ∧ entry.1.type.resolve entry.1.scope = .ok entry.2 := by
  induction fields generalizing typed with
  | nil =>
    cases h
    cases hentry
  | cons f fields ih =>
    rw [resolveFieldTypes] at h
    split at h
    · cases h
    · next type htype =>
      cases hrest : resolveFieldTypes schema fields with
      | error e => simp [hrest, Except.map] at h
      | ok rest =>
        simp only [hrest, Except.map, Except.ok.injEq] at h
        subst h
        rcases List.mem_cons.1 hentry with rfl | hentry
        · exact ⟨List.mem_cons_self, htype⟩
        · obtain ⟨hmem, hresolve⟩ := ih hrest hentry
          exact ⟨List.mem_cons_of_mem _ hmem, hresolve⟩

/-- A binding is one of those before or comes of a field, its tag and its resolved type. -/
theorem of_mem_bindFields {schema : String} {done bindings : List FieldBinding}
    {typed : List (Field × FieldType)} (h : bindFields schema done typed = .ok bindings)
    {b : FieldBinding} (hb : b ∈ bindings) :
    b ∈ done ∨ ∃ entry ∈ typed, b.field = entry.1.name ∧
      entry.1.tag.binding entry.1.name = .ok (b.name, b.positional) ∧
      (b.target, b.optional) = entry.2.withoutNone := by
  induction typed generalizing done with
  | nil =>
    cases h
    exact .inl hb
  | cons entry typed ih =>
    obtain ⟨f, type⟩ := entry
    rw [bindFields] at h
    split at h
    · rcases ih h with hdone | ⟨entry, hentry, hcomes⟩
      · exact .inl hdone
      · exact .inr ⟨entry, List.mem_cons_of_mem _ hentry, hcomes⟩
    · split at h
      · cases h
      · next name positional htag =>
        split at h
        · cases h
        · rcases ih h with hdone | ⟨entry, hentry, hcomes⟩
          · rcases List.mem_append.1 hdone with hdone | hnew
            · exact .inl hdone
            · obtain rfl := List.mem_singleton.1 hnew
              exact .inr ⟨(f, type), List.mem_cons_self, rfl, htag, rfl⟩
          · exact .inr ⟨entry, List.mem_cons_of_mem _ hentry, hcomes⟩

/--
A binding of a plan comes of a field of the schema: it has the name that the tag of the
field gives, and the type of the field without one `none`.
-/
theorem Schema.exists_field_of_mem_plan {s : Schema} {p : Plan} (h : s.plan = .ok p)
    {b : FieldBinding} (hb : b ∈ p.bindings) :
    ∃ f ∈ s.fields, b.field = f.name ∧ f.tag.binding f.name = .ok (b.name, b.positional) ∧
      ∃ type, f.type.resolve f.scope = .ok type ∧ (b.target, b.optional) = type.withoutNone := by
  obtain ⟨typed, htyped, hbind⟩ := Schema.exists_typed_of_plan h
  rcases of_mem_bindFields hbind hb with hnone | ⟨entry, hentry, hfield, htag, htarget⟩
  · cases hnone
  · obtain ⟨hmem, hresolve⟩ := of_mem_resolveFieldTypes htyped hentry
    exact ⟨entry.1, hmem, hfield, htag, entry.2, hresolve, htarget⟩

/-! ## Schemas without a plan -/

/-- A tag always gives a name if the field has one. -/
theorem BindingTag.nameOr_ne_nil {field : String} (hfield : field ≠ "") (cs : List Char) :
    nameOr field cs ≠ [] := by
  rw [nameOr]
  split
  · exact Text.lowercase_ne_nil hfield
  · next hcs => simpa using hcs

/-- A name that can be judged is refused only as one that no argument can have. -/
theorem BindingTag.checkName_eq_error {field : String} {cs : List Char} {positional : Bool}
    {failure : Failure} (hcs : cs ≠ [])
    (h : checkName field cs positional = .error failure) :
    ∃ trouble, failure = .ofProblem (.tag trouble) := by
  cases cs with
  | nil => exact absurd rfl hcs
  | cons c rest =>
    rw [checkName] at h
    split at h
    · cases h
      exact ⟨_, rfl⟩
    · cases h

/-- A field that has a name gives a binding or trouble with its tag. -/
theorem BindingTag.binding_eq_error {field : String} (hfield : field ≠ "") {tag : BindingTag}
    {failure : Failure} (h : tag.binding field = .error failure) :
    ∃ trouble, failure = .ofProblem (.tag trouble) := by
  cases tag with
  | absent => cases h
  | other type =>
    cases h
    exact ⟨_, rfl⟩
  | text s =>
    rw [binding] at h
    split at h
    · next hnone => exact absurd hnone (List.splitOn_ne_nil _ _)
    · exact checkName_eq_error (nameOr_ne_nil hfield _) h
    · split at h
      · exact checkName_eq_error (nameOr_ne_nil hfield _) h
      · cases h
        exact ⟨_, rfl⟩
    · cases h
      exact ⟨_, rfl⟩

/-- Types are not resolved for what is wrong with one of them. -/
theorem resolveFieldTypes_eq_error {schema : String} {fields : List Field} {failure : Failure}
    (h : resolveFieldTypes schema fields = .error failure) :
    ∃ f ∈ fields, ∃ fault, f.type.resolve f.scope = .error fault ∧
      failure = fault.failure schema := by
  induction fields with
  | nil => cases h
  | cons f fields ih =>
    rw [resolveFieldTypes] at h
    split at h
    · next fault hfault =>
      cases h
      exact ⟨f, List.mem_cons_self, fault, hfault, rfl⟩
    · cases hrest : resolveFieldTypes schema fields with
      | error e =>
        simp only [hrest, Except.map, Except.error.injEq] at h
        obtain ⟨g, hg, hfails⟩ := ih (h ▸ hrest)
        exact ⟨g, List.mem_cons_of_mem _ hg, hfails⟩
      | ok rest => simp [hrest, Except.map] at h

/-- Making bindings fails only because of a tag. -/
theorem bindFields_eq_error {schema : String} {done : List FieldBinding}
    {typed : List (Field × FieldType)} (hnamed : ∀ entry ∈ typed, entry.1.name ≠ "")
    {failure : Failure} (h : bindFields schema done typed = .error failure) :
    ∃ trouble, failure = .ofProblem (.tag trouble) := by
  induction typed generalizing done with
  | nil => cases h
  | cons entry typed ih =>
    obtain ⟨f, type⟩ := entry
    have hrest : ∀ entry ∈ typed, entry.1.name ≠ "" :=
      fun entry hentry => hnamed entry (List.mem_cons_of_mem _ hentry)
    rw [bindFields] at h
    split at h
    · exact ih hrest h
    · split at h
      · next tagFailure htag =>
        cases h
        exact BindingTag.binding_eq_error (hnamed (f, type) List.mem_cons_self) htag
      · split at h
        · cases h
          exact ⟨_, rfl⟩
        · exact ih hrest h

/-- A schema whose fields have names lacks a plan for the type of a field or for a tag. -/
theorem Schema.plan_eq_error {s : Schema} (hnamed : ∀ f ∈ s.fields, f.name ≠ "")
    {failure : Failure} (h : s.plan = .error failure) :
    (∃ f ∈ s.fields, ∃ fault, f.type.resolve f.scope = .error fault ∧
        failure = fault.failure s.name) ∨
      ∃ trouble, failure = .ofProblem (.tag trouble) := by
  rw [Schema.plan] at h
  split at h
  · next typeFailure htypes =>
    cases h
    exact .inl (resolveFieldTypes_eq_error htypes)
  · next typed htyped =>
    cases hbind : bindFields s.name [] typed with
    | ok bindings => simp [hbind, Except.map] at h
    | error tagFailure =>
      simp only [hbind, Except.map, Except.error.injEq] at h
      refine .inr (bindFields_eq_error (fun entry hentry => ?_) (h ▸ hbind))
      exact hnamed _ (of_mem_resolveFieldTypes htyped hentry).1

/-! ## Looking names up -/

/-- With distinct keys, looking a key up finds the one entry that has it. -/
theorem find?_key_eq_some_iff {α : Type} {key : α → String} {l : List α}
    (h : (l.map key).Nodup) {name : String} {x : α} :
    l.find? (fun y => key y == name) = some x ↔ x ∈ l ∧ key x = name := by
  constructor
  · intro hfind
    exact ⟨List.mem_of_find?_eq_some hfind, by simpa using List.find?_some hfind⟩
  · rintro ⟨hx, hname⟩
    cases hfound : l.find? (fun y => key y == name) with
    | none =>
      have := List.find?_eq_none.1 hfound x hx
      simp [hname] at this
    | some y =>
      have hy : key y = name := by simpa using List.find?_some hfound
      have hmem : y ∈ l := List.mem_of_find?_eq_some hfound
      rw [List.inj_on_of_nodup_map h hmem hx (hy.trans hname.symm)]

theorem Plan.find?_eq_some_iff {p : Plan} (hp : (p.bindings.map (·.name)).Nodup)
    {name : String} {b : FieldBinding} :
    p.find? name = some b ↔ b ∈ p.bindings ∧ b.name = name := find?_key_eq_some_iff hp

end TypedCommands
