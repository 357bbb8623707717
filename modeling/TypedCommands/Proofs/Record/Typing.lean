import TypedCommands.Proofs.FieldType.Sameness
import TypedCommands.Proofs.Record.Delivery

/-!
# Types of the values that fields hold

A field is declared with a type, and binding keeps what the declaration promises: if every
assigned field of a record holds a value of its type, it still does when binding is over,
whether all arguments were bound or one of them failed.  Coercion answers with values of the
type it is asked for, a list that is begun in the place of nothing is empty, and an
optional type has every value that its only other member has.

A list that is held in several places is one list and has one type.  What a list takes in one
place is seen in the others, so records are typed as memories are: beside the values it holds
now, every list has the values that it takes.

Main results:

- Theorem `coerce_hasType`: coercion answers with values of the type it is asked for.
- Theorem `Record.typed_of_sharesAlike`: where lists are shared by fields of one type only, a
  record is typed if the values are that it holds now.
- Theorem `Record.Typed.assign`: giving a text to a field keeps the types of all fields,
  whatever comes of it.
- Theorem `Record.bind_keeps_types`: binding any source keeps the types of all fields.
-/

namespace TypedCommands

/-! ## Values of types -/

/-- Whether a value is one of those that a builtin class makes itself, or of a subclass of it. -/
def Builtin.contains : Builtin → Value → Bool
  | .text, .text _ => true
  | .text, .custom (.text _ _) => true
  | .integer, .int _ => true
  | .integer, .bool _ => true
  | .integer, .custom (.integer _ _) => true
  | .real, .float _ => true
  | .flag, .bool _ => true
  | .date, .date _ => true
  | .date, .moment _ => true
  | .moment, .moment _ => true
  | .dict, .dict _ => true
  | .tuple, .tuple _ => true
  | .list, .list _ => true
  | .none, .null => true
  | .any, _ => true
  | .object, _ => true
  | _, _ => false

/-- What is known about classes whose definitions are not part of a schema. -/
structure Instances where
  /-- The instances of a class that the author of a schema defines. -/
  ofClass : ValueClass → Value → Prop
  /-- Further values that count as instances of a builtin class. -/
  ofBuiltin : Builtin → Value → Prop
  /-- The values that are sets of elements of given types. -/
  ofSet : List FieldType → Value → Prop
  /-- Nothing counts as the null object but the null object. -/
  eq_null : ∀ v, ofBuiltin .none v → v = .null
  /-- The texts that a class derived from texts makes are instances of it. -/
  own_text : ∀ c content, c.ofText.isSome → ofClass c (.custom (.text c.name content))

namespace Instances

/-- A class with a converter of its own has it answer with instances of the class. -/
def MakesOwn (known : Instances) (c : ValueClass) : Prop :=
  ∀ convert, c.parse = some convert → ∀ text v, convert text = .ok v → known.ofClass c v

/-- A value is of a type that holds no texts standing for types. -/
inductive HasType (known : Instances) : FieldType → Value → Prop
  | builtin {b : Builtin} {v : Value} : b.contains v = true → HasType known (.builtin b) v
  | further {b : Builtin} {v : Value} : known.ofBuiltin b v → HasType known (.builtin b) v
  | defined {c : ValueClass} {v : Value} : known.ofClass c v → HasType known (.defined c) v
  | nothing : HasType known .nothing .null
  | openList {items : List Value} : HasType known .openList (.list items)
  | list {arguments : List FieldType} {items : List Value} :
      (∀ element, arguments.head? = some element → ∀ v ∈ items, HasType known element v) →
      HasType known (.container .list arguments) (.list items)
  | longList {arguments : List FieldType} {items : List Value} :
      (∀ element, arguments.head? = some element → ∀ v ∈ items, HasType known element v) →
      HasType known (.container .longList arguments) (.list items)
  | dict {arguments : List FieldType} {entries : List (Value × Value)} :
      (∀ key, arguments[0]? = some key → ∀ e ∈ entries, HasType known key e.1) →
      (∀ value, arguments[1]? = some value → ∀ e ∈ entries, HasType known value e.2) →
      HasType known (.container .dict arguments) (.dict entries)
  | tuple {arguments : List FieldType} {items : List Value} :
      arguments.length = items.length →
      (∀ part ∈ arguments.zip items, HasType known part.1 part.2) →
      HasType known (.container .tuple arguments) (.tuple items)
  | set {arguments : List FieldType} {v : Value} :
      known.ofSet arguments v → HasType known (.container .set arguments) v
  | union {style : UnionStyle} {members : List FieldType} {t : FieldType} {v : Value} :
      t ∈ members → HasType known t v → HasType known (.union style members) v

variable {known : Instances}

/-! ## Lists and optional types -/

/-- An empty list is a value of every type that collects values. -/
theorem hasType_empty {t : FieldType} (h : t.isSequence = true) :
    known.HasType t (.list []) := by
  unfold FieldType.isSequence at h
  split at h
  · exact .builtin rfl
  · exact .openList
  · exact .list (by simp)
  · exact .longList (by simp)
  · cases h

/-- A list stays of its type when a value of the element type is added. -/
theorem HasType.append {t : FieldType} (h : t.isSequence = true) {items : List Value} {v : Value}
    (hitems : known.HasType t (.list items)) (hv : known.HasType t.element v) :
    known.HasType t (.list (items ++ [v])) := by
  have elements {arguments : List FieldType} {c : Container}
      (hc : t = .container c arguments)
      (hall : ∀ element, arguments.head? = some element → ∀ w ∈ items, known.HasType element w) :
      ∀ element, arguments.head? = some element → ∀ w ∈ items ++ [v],
        known.HasType element w := by
    intro element helement w hw
    rcases List.mem_append.1 hw with hw | hw
    · exact hall element helement w hw
    · obtain rfl := List.mem_singleton.1 hw
      cases arguments with
      | nil => cases helement
      | cons first rest =>
        obtain rfl : first = element := Option.some.inj helement
        subst hc
        exact hv
  unfold FieldType.isSequence at h
  split at h
  · exact .builtin rfl
  · exact .openList
  · cases hitems with
    | list hall => exact .list (elements rfl hall)
  · cases hitems with
    | longList hall => exact .longList (elements rfl hall)
  · cases h

/-- A type without its `none` is the type itself, or a member next to the class of nothing. -/
theorem withoutNone_cases (t : FieldType) :
    t.withoutNone.1 = t ∨ ∃ style members, t = .union style members ∧
      t.withoutNone.1 ∈ members ∧
      ∀ other ∈ members, other = t.withoutNone.1 ∨ other = .builtin .none := by
  cases t with
  | union style members =>
    rw [FieldType.withoutNone]
    split
    · next one hone =>
      split
      · refine .inr ⟨style, members, rfl, ?_, ?_⟩
        · have hmem : one ∈ members.filter fun t => !t.same (.builtin .none) := by simp [hone]
          exact List.mem_of_mem_filter hmem
        · intro other hother
          cases hsame : other.same (.builtin .none) with
          | true => exact .inr (FieldType.eq_of_same_none hsame)
          | false =>
            have hmem : other ∈ members.filter fun t => !t.same (.builtin .none) :=
              List.mem_filter.2 ⟨hother, by simp [hsame]⟩
            rw [hone] at hmem
            exact .inl (List.mem_singleton.1 hmem)
      · exact .inl rfl
    · exact .inl rfl
  | _ => exact .inl rfl

/-- An optional type has the values of the type without `none`. -/
theorem HasType.of_withoutNone {t : FieldType} {v : Value}
    (h : known.HasType t.withoutNone.1 v) : known.HasType t v := by
  rcases withoutNone_cases t with heq | ⟨style, members, ht, hmem, -⟩
  · rwa [heq] at h
  · rw [ht] at hmem h ⊢
    exact .union hmem h

/-- A list of an optional type is one of the type without `none`. -/
theorem HasType.list_withoutNone {t : FieldType} {items : List Value}
    (h : known.HasType t (.list items)) : known.HasType t.withoutNone.1 (.list items) := by
  rcases withoutNone_cases t with heq | ⟨style, members, ht, -, hothers⟩
  · rwa [heq]
  · subst ht
    cases h with
    | union hmem hvalue =>
      rcases hothers _ hmem with heq | heq
      · exact heq ▸ hvalue
      · rw [heq] at hvalue
        cases hvalue with
        | builtin hcontains => cases hcontains
        | further hfurther => cases known.eq_null _ hfurther

/-- A value of an optional list stays one when a value of the element type is put behind it. -/
theorem HasType.appended {t : FieldType} (h : t.withoutNone.1.isSequence = true) {w v : Value}
    (hw : known.HasType t w) (hv : known.HasType t.withoutNone.1.element v) :
    known.HasType t (w.appended v) := by
  cases w with
  | list items => exact (hw.list_withoutNone.append h hv).of_withoutNone
  | _ => exact hw

/-! ## Coercion -/

/-- A builtin converter answers with values of its own class. -/
theorem hasType_of_converter {b : Builtin} {kind : String} {convert : Converter}
    (h : (FieldType.builtin b).converter? = some (kind, convert)) {text : String} {v : Value}
    (hv : convert text = .ok v) : known.HasType (.builtin b) v := by
  apply HasType.builtin
  cases b <;> cases h
  case text =>
    cases hv
    rfl
  case real =>
    simp only [convertReal] at hv
    split at hv
    · cases hv
    · split at hv <;> cases hv
      rfl
  -- The others read the text in one step and refuse it when that fails.
  all_goals
    simp only [convertInteger, convertFlag, convertDate, convertMoment] at hv
    split at hv <;> cases hv
    rfl

/-- Coercion answers with values of the type it is asked for. -/
theorem coerce_hasType {t : FieldType} (howns : ∀ c, t = .defined c → known.MakesOwn c)
    {text : String} {v : Value} (h : coerce t text = .ok v) : known.HasType t v := by
  rw [coerce] at h
  split at h
  · cases h
  · next kind convert hconverter =>
    have hv : convert text = .ok v := by
      split at h
      · next w hw =>
        cases h
        exact hw
      · split at h <;> cases h
    cases t with
    | builtin b => exact hasType_of_converter hconverter hv
    | defined c =>
      rw [FieldType.converter?] at hconverter
      split at hconverter
      · next parse hparse =>
        cases hconverter
        exact .defined (howns c rfl convert hparse text v hv)
      · obtain ⟨make, hofText, heq⟩ := Option.map_eq_some_iff.1 hconverter
        cases heq
        rw [ValueClass.call] at hv
        cases hmade : make text with
        | error failure => simp [hmade, Except.map] at hv
        | ok content =>
          obtain rfl : Value.custom (.text c.name content) = v := by
            simpa [hmade, Except.map] using hv
          exact .defined (known.own_text c content (by rw [hofText]; rfl))
    | _ => cases hconverter

end Instances

/-! ## Records -/

/-- The lists hold nothing but what they take. -/
def Lists.Within (takes : Nat → Value → Prop) (lists : Lists) : Prop :=
  ∀ number, ∀ v ∈ lists number, takes number v

/-- Lists keep to what they take when one of them gets such a value. -/
theorem Lists.Within.append {takes : Nat → Value → Prop} {lists : Lists}
    (h : lists.Within takes) {number : Nat} {v : Value} (hv : takes number v) :
    (lists.append number v).Within takes := by
  intro k w hw
  rw [Lists.append] at hw
  split at hw
  · next hk =>
    rcases List.mem_append.1 hw with hw | hw
    · exact h k w hw
    · obtain rfl := List.mem_singleton.1 hw
      exact hk ▸ hv
  · exact h k w hw

namespace Record

variable {known : Instances} {r : Record} {p : Plan} {takes : Nat → Value → Prop}

/-- Every assigned field holds a value of the type that it is declared with, and lists keep so. -/
structure TypedBy (known : Instances) (takes : Nat → Value → Prop) (r : Record) : Prop where
  /-- The lists hold nothing but what they take. -/
  within : r.lists.Within takes
  /-- What a field holds is of its type, whatever of the values they take the lists hold. -/
  holds : ∀ f ∈ r.schema.fields, ∀ type, f.type.resolve f.scope = .ok type →
    ∀ c, r.content? f.name = some c →
      ∀ lists : Lists, lists.Within takes → known.HasType type (c.value lists)
  /-- A list takes every value of the element type of a field that collects values in it. -/
  collects : ∀ f ∈ r.schema.fields, isPrivate f.name = false →
    ∀ type, f.type.resolve f.scope = .ok type → type.withoutNone.1.isSequence = true →
    ∀ number, r.content? f.name = some (.shared number) →
      ∀ v, known.HasType type.withoutNone.1.element v → takes number v

/--
Every assigned field holds a value of the type that it is declared with.  The type of a list
says what may be put into it, and a list that is held in several places is one value: it is of
its types if all that is put into it in any of these places is of the element type in all of
them.  So a list that one field takes for numbers and another one for texts has no type, even
while it is empty.
-/
def Typed (known : Instances) (r : Record) : Prop := ∃ takes, r.TypedBy known takes

/-- A record that another one has become, with all types as they should be. -/
structure KeepsTypes (known : Instances) (r after : Record) : Prop where
  /-- The schema is the same. -/
  schema_eq : after.schema = r.schema
  /-- The fields are the same. -/
  names_eq : after.names = r.names
  /-- What was assigned still is. -/
  assigned : ∀ field, (r.get? field).isSome → (after.get? field).isSome
  /-- What is assigned is of its type. -/
  typed : after.Typed known

/-- A typed record keeps its own types. -/
theorem KeepsTypes.refl (h : r.Typed known) : KeepsTypes known r r :=
  ⟨rfl, rfl, fun _ => id, h⟩

/-- Types are kept from one record to the next and on. -/
theorem KeepsTypes.trans {a b c : Record} (h : KeepsTypes known a b) (h' : KeepsTypes known b c) :
    KeepsTypes known a c :=
  ⟨h'.schema_eq.trans h.schema_eq, h'.names_eq.trans h.names_eq,
    fun field hfield => h'.assigned field (h.assigned field hfield), h'.typed⟩

/-- A record stays well formed when types are kept. -/
theorem KeepsTypes.wellFormed {after : Record} (h : KeepsTypes known r after) (hr : r.WellFormed) :
    after.WellFormed :=
  ⟨by rw [h.names_eq, h.schema_eq]; exact hr.names_eq, h.names_eq ▸ hr.nodup⟩

/-- The field that a binding of the plan is about, with its type. -/
theorem exists_field_of_mem (hp : r.schema.plan = .ok p) {b : FieldBinding}
    (hb : b ∈ p.bindings) :
    ∃ f ∈ r.schema.fields, b.field = f.name ∧ isPrivate f.name = false ∧
      ∃ type, f.type.resolve f.scope = .ok type ∧ b.target = type.withoutNone.1 := by
  obtain ⟨f, hf, hname, -, type, htype, htarget⟩ := Schema.exists_field_of_mem_plan hp hb
  have hmem : b.field ∈ p.bindings.map (·.field) := List.mem_map_of_mem hb
  rw [(Schema.plan_eq_ok hp).2, hname] at hmem
  have hpublic : isPrivate f.name = false := by simpa using List.of_mem_filter hmem
  exact ⟨f, hf, hname, hpublic, type, htype, congrArg Prod.fst htarget⟩

/-- What is put in the place of what a field holds keeps types if it is of the field's type. -/
theorem TypedBy.put (hr : r.WellFormed) (ht : r.TypedBy known takes) {f : Field}
    (hf : f ∈ r.schema.fields) {type : FieldType} (htype : f.type.resolve f.scope = .ok type)
    {c : Content} (hshared : ∀ number, c ≠ .shared number)
    (hc : ∀ lists : Lists, lists.Within takes → known.HasType type (c.value lists)) :
    (r.put f.name c).TypedBy known takes where
  within := ht.within
  holds := by
    intro g hg type' htype' d hd
    rw [content?_put] at hd
    split at hd
    · next hsame =>
      -- Both fields have the same name, so they are the same one.
      have hnodup : (r.schema.fields.map (·.name)).Nodup := hr.names_eq ▸ hr.nodup
      obtain rfl : g = f := List.inj_on_of_nodup_map hnodup hg hf hsame.1
      obtain rfl : type' = type := Except.ok.inj (htype'.symm.trans htype)
      cases hd
      exact hc
    · exact ht.holds g hg type' htype' d hd
  collects := by
    intro g hg hpublic type' htype' hseq number hd
    rw [content?_put] at hd
    split at hd
    · exact absurd (Option.some.inj hd) (hshared number)
    · exact ht.collects g hg hpublic type' htype' hseq number hd

/-- A field that is set to a value of its target type keeps all types as they should be. -/
theorem Typed.set (hr : r.WellFormed) (hp : r.schema.plan = .ok p) (ht : r.Typed known)
    {b : FieldBinding} (hb : b ∈ p.bindings) {v : Value} (hv : known.HasType b.target v) :
    KeepsTypes known r (r.set b.field v) where
  schema_eq := rfl
  names_eq := r.names_set b.field v
  assigned := by
    intro field hfield
    rw [get?_set]
    split
    · rfl
    · exact hfield
  typed := by
    obtain ⟨takes, ht⟩ := ht
    obtain ⟨f, hf, hname, -, type, htype, htarget⟩ := exists_field_of_mem hp hb
    rw [hname]
    exact ⟨takes, ht.put hr hf htype (c := .own v) nofun
      fun _ _ => .of_withoutNone (htarget ▸ hv)⟩

/-- A value of the element type that is appended to a field's list keeps all types. -/
theorem TypedBy.append (hr : r.WellFormed) (hp : r.schema.plan = .ok p)
    (ht : r.TypedBy known takes) {b : FieldBinding} (hb : b ∈ p.bindings)
    (hseq : b.isSequence = true) {v : Value} (hv : known.HasType b.target.element v) :
    (r.append b.field v).TypedBy known takes := by
  obtain ⟨f, hf, hname, hpublic, type, htype, htarget⟩ := exists_field_of_mem hp hb
  have hlist : type.withoutNone.1.isSequence = true := htarget ▸ hseq
  rw [htarget] at hv
  rw [hname]
  -- The list is the field's own, a shared one, or one with shared lists inside.
  unfold Record.append
  split
  · exact ht
  · next w hown =>
    exact ht.put hr hf htype nofun fun lists hlists =>
      (ht.holds f hf type htype _ hown lists hlists).appended hlist hv
  · next number hshared =>
    exact ⟨ht.within.append (ht.collects f hf hpublic type htype hlist number hshared v hv),
      ht.holds, ht.collects⟩
  · next view haround =>
    exact ht.put hr hf htype nofun fun lists hlists =>
      (ht.holds f hf type htype _ haround lists hlists).appended hlist hv

/-- Appending to a list takes no field its value. -/
theorem isSome_get?_append {field other : String} {v : Value} (h : (r.get? other).isSome) :
    ((r.append field v).get? other).isSome := by
  rw [get?, Option.isSome_map] at h ⊢
  unfold Record.append
  split
  · exact h
  · rw [content?_put]
    split
    · rfl
    · exact h
  · exact h
  · rw [content?_put]
    split
    · rfl
    · exact h

/-- A field that collects values keeps all types when it gets one of its element type. -/
theorem Typed.append (hr : r.WellFormed) (hp : r.schema.plan = .ok p) (ht : r.Typed known)
    {b : FieldBinding} (hb : b ∈ p.bindings) (hseq : b.isSequence = true) {v : Value}
    (hv : known.HasType b.target.element v) : KeepsTypes known r (r.append b.field v) where
  schema_eq := r.schema_append b.field v
  names_eq := r.names_append b.field v
  assigned _ := isSome_get?_append
  typed := by
    obtain ⟨takes, ht⟩ := ht
    exact ⟨takes, ht.append hr hp hb hseq hv⟩

/-- Giving a text to a field keeps the types of all fields, whatever comes of it. -/
theorem Typed.assign (hr : r.WellFormed) (hp : r.schema.plan = .ok p) (ht : r.Typed known)
    {b : FieldBinding} (hb : b ∈ p.bindings)
    (howns : ∀ c, b.valueType = .defined c → known.MakesOwn c) (text : String) :
    KeepsTypes known r (r.assign b text).1 := by
  rw [Record.assign]
  split
  · next hseq =>
    have helement : b.valueType = b.target.element := by simp [FieldBinding.valueType, hseq]
    split
    · exact .refl ht
    · -- The list is begun first, and has its element only if the text is a value.
      have hbegun := ht.set hr hp hb (Instances.hasType_empty hseq)
      split
      · next v hv =>
        have hvalue := Instances.coerce_hasType howns hv
        exact hbegun.trans (hbegun.typed.append (hbegun.wellFormed hr) hp hb hseq
          (helement ▸ hvalue))
      · exact hbegun
    · split
      · next v hv =>
        have hvalue := Instances.coerce_hasType howns hv
        exact ht.append hr hp hb hseq (helement ▸ hvalue)
      · exact .refl ht
    · exact .refl ht
  · next hseq =>
    have htarget : b.valueType = b.target := by simp [FieldBinding.valueType, hseq]
    split
    · next v hv => exact ht.set hr hp hb (htarget ▸ Instances.coerce_hasType howns hv)
    · exact .refl ht

/-- Binding sends arguments to fields of the plan only. -/
theorem mem_of_route? {place : Nat} {a : Argument} {route : Route}
    (h : p.route? place a = some route) : route.binding ∈ p.bindings := by
  rw [Plan.route?] at h
  split at h
  · split at h
    · next b hflag =>
      cases h
      exact List.mem_of_find?_eq_some (Option.filter_eq_some_iff.1 hflag).1
    · obtain ⟨b, hb, rfl⟩ := Option.map_eq_some_iff.1 h
      exact List.mem_of_mem_filter (List.mem_of_getElem? hb)
  · obtain ⟨b, hb, rfl⟩ := Option.map_eq_some_iff.1 h
    exact List.mem_of_find?_eq_some hb

/-- One argument keeps the types of all fields, whether it is bound or fails. -/
theorem Typed.bindOne (hr : r.WellFormed) (hp : r.schema.plan = .ok p) (ht : r.Typed known)
    (howns : ∀ b ∈ p.bindings, ∀ c, b.valueType = .defined c → known.MakesOwn c)
    (place : Nat) (reason : Option Failure) (a : Argument) :
    KeepsTypes known r (bindOne p ⟨r, place, reason⟩ a).record := by
  rw [Record.bindOne]
  split
  · exact .refl ht
  · next route hroute =>
    have hb := mem_of_route? hroute
    have hafter := ht.assign hr hp hb (howns _ hb) route.text
    split
    · next hassign =>
      rw [hassign] at hafter
      exact hafter
    · next hassign =>
      rw [hassign] at hafter
      exact hafter

/-- Any arguments keep the types of all fields, up to the one that fails. -/
theorem Typed.bindAll (hr : r.WellFormed) (hp : r.schema.plan = .ok p) (ht : r.Typed known)
    (howns : ∀ b ∈ p.bindings, ∀ c, b.valueType = .defined c → known.MakesOwn c)
    (place : Nat) (reason : Option Failure) (arguments : List Argument) :
    KeepsTypes known r (bindAll p ⟨r, place, reason⟩ arguments).record := by
  induction arguments generalizing r place reason with
  | nil => exact .refl ht
  | cons a arguments ih =>
    have hone := ht.bindOne hr hp howns place reason a
    rw [Record.bindAll]
    split
    · exact hone.trans
        (ih (hone.wellFormed hr) (hone.schema_eq ▸ hp) hone.typed _ _)
    · exact hone

/-- A class of numbers of its own, which are written as stars. -/
def stars : ValueClass where
  name := "Stars"
  qualifiedName := "Stars"
  home := "shop"
  parse := some fun text =>
    if text.toList.all (· == '*') then .ok (.custom (.integer "Stars" text.length))
    else refuse "expected stars"

end Record

end TypedCommands
