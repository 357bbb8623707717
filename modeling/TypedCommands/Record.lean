import TypedCommands.Plan

/-!
# Records

A record is an instance of a schema: for every field a value, or nothing for a
field that no one has assigned yet.

A list is an object.  Several fields may hold the same one, and it may lie inside the value of
another field; what is appended to it is then seen in all of these places.  A field that is
assigned holds a value of its own from then on.

Main results:

- Theorem `Record.get?_set`: a field that was set holds the new value and every other
  field what it held before.
- Theorem `Record.names_set`: setting a field keeps the fields and their order.
- Theorem `Record.get?_append_of_ignores`: appending to a list is not seen in a field that does
  not hold this list.
-/

namespace TypedCommands

/-- The items of the lists that may be held in several places, by the numbers of these lists. -/
abbrev Lists := Nat → List Value

/-- The lists when a value is appended to one of them. -/
def Lists.append (lists : Lists) (number : Nat) (v : Value) : Lists := fun k =>
  if k = number then lists k ++ [v] else lists k

/-- A list with a value behind its items; any other value is left as it is. -/
def Value.appended (w v : Value) : Value :=
  match w with
  | .list items => .list (items ++ [v])
  | w => w

/-- What is assigned to a field. -/
inductive Content where
  /-- A value that is held nowhere else. -/
  | own (v : Value)
  /-- A list that may be held elsewhere, by its number. -/
  | shared (number : Nat)
  /-- A value with such lists inside. -/
  | around (view : Lists → Value)

namespace Content

/-- The value that is assigned, with the lists as they are. -/
def value (lists : Lists) : Content → Value
  | own v => v
  | shared number => .list (lists number)
  | around view => view lists

/-- The list with a number is not held here, neither as the value nor inside it. -/
def Ignores (number : Nat) : Content → Prop
  | own _ => True
  | shared other => other ≠ number
  | around view => ∀ lists v, view (lists.append number v) = view lists

/-- Appending to a list changes no value that is no such list. -/
theorem value_append_of_ignores {c : Content} {number : Nat} (h : c.Ignores number)
    (lists : Lists) (v : Value) : c.value (lists.append number v) = c.value lists := by
  cases c with
  | own w => rfl
  | shared other => simp only [value, Lists.append, if_neg (show other ≠ number from h)]
  | around view => exact h lists v

end Content

/-- A field of a record. -/
structure Slot where
  /-- The field. -/
  name : String
  /-- What is assigned to it, if anything is. -/
  content : Option Content

/-- An instance of a schema. -/
structure Record where
  /-- The schema. -/
  schema : Schema
  /-- The fields in declaration order. -/
  slots : List Slot
  /-- The lists that fields may share. -/
  lists : Lists := fun _ => []

namespace Record

/-- The names of the fields. -/
def names (r : Record) : List String := r.slots.map (·.name)

/-- What is assigned to a field; nothing for a field that is not assigned or not there. -/
def content? (r : Record) (field : String) : Option Content :=
  (r.slots.find? (·.name == field)).bind (·.content)

/-- The value that a field holds, if it holds one. -/
def get? (r : Record) (field : String) : Option Value := (r.content? field).map (·.value r.lists)

/-- The fields with the values that they hold. -/
def values (r : Record) : List (String × Option Value) :=
  r.slots.map fun s => (s.name, s.content.map (·.value r.lists))

/-- Assign something to a field. -/
def put (r : Record) (field : String) (c : Content) : Record :=
  { r with
    slots := r.slots.map fun s => if s.name == field then { s with content := some c } else s }

/-- Assign a new value to a field. -/
def set (r : Record) (field : String) (v : Value) : Record := r.put field (.own v)

/-- Append a value to the list that a field holds, wherever else this list is held. -/
def append (r : Record) (field : String) (v : Value) : Record :=
  match r.content? field with
  | none => r
  | some (.own w) => r.put field (.own (w.appended v))
  | some (.shared number) => { r with lists := r.lists.append number v }
  | some (.around view) => r.put field (.around fun lists => (view lists).appended v)

/-- Putting a value into a field adds no field. -/
theorem names_put (r : Record) (field : String) (c : Content) :
    (r.put field c).names = r.names := by
  simp only [names, put, List.map_map]
  apply List.map_congr_left
  intro s _
  simp only [Function.comp]
  split <;> rfl

/-- Setting a field adds no field. -/
theorem names_set (r : Record) (field : String) (v : Value) : (r.set field v).names = r.names :=
  r.names_put field (.own v)

/-- Appending to a field adds no field. -/
theorem names_append (r : Record) (field : String) (v : Value) :
    (r.append field v).names = r.names := by
  unfold append
  split
  · rfl
  · exact r.names_put _ _
  · rfl
  · exact r.names_put _ _

theorem schema_append (r : Record) (field : String) (v : Value) :
    (r.append field v).schema = r.schema := by
  unfold append
  split <;> rfl

/-- Only the field that is put has another content. -/
theorem content?_put (r : Record) (field other : String) (c : Content) :
    (r.put field c).content? other =
      if other = field ∧ field ∈ r.names then some c else r.content? other := by
  have keeps : (fun s : Slot => s.name == other) ∘
      (fun s : Slot => if s.name == field then { s with content := some c } else s) =
      fun s => s.name == other := by
    funext s
    simp only [Function.comp]
    split <;> rfl
  simp only [content?, put, List.find?_map, keeps]
  cases h : r.slots.find? (fun s => s.name == other) with
  | none =>
    have hn : ∀ s ∈ r.slots, ¬ s.name = other := by simpa using h
    have : ¬ (other = field ∧ field ∈ r.names) := by
      rintro ⟨rfl, hm⟩
      obtain ⟨s, hs, he⟩ := List.mem_map.1 hm
      exact hn s hs he
    simp [this]
  | some s =>
    have hs : s.name = other := by simpa using List.find?_some h
    have hm := List.mem_of_find?_eq_some h
    by_cases hf : other = field
    · have : field ∈ r.names := hf ▸ List.mem_map.2 ⟨s, hm, hs⟩
      simp [hs, hf, this]
    · simp [hs, hf]

/-- Only the field that is put has another value. -/
theorem get?_put (r : Record) (field other : String) (c : Content) :
    (r.put field c).get? other =
      if other = field ∧ field ∈ r.names then some (c.value r.lists) else r.get? other := by
  rw [get?, get?, content?_put]
  split <;> rfl

/-- Only the field that is set has another value. -/
theorem get?_set (r : Record) (field other : String) (v : Value) :
    (r.set field v).get? other =
      if other = field ∧ field ∈ r.names then some v else r.get? other :=
  r.get?_put field other (.own v)

/-- A field to which something is assigned is a field of the record. -/
theorem mem_names_of_content? {r : Record} {field : String} {c : Content}
    (h : r.content? field = some c) : field ∈ r.names := by
  obtain ⟨s, hfind, -⟩ := Option.bind_eq_some_iff.1 h
  have hname : s.name = field := by simpa using List.find?_some hfind
  exact hname ▸ List.mem_map_of_mem (List.mem_of_find?_eq_some hfind)

/-- The list that is appended to is the one that the field holds. -/
theorem get?_append_self {r : Record} {field : String} {items : List Value}
    (h : r.get? field = some (.list items)) (v : Value) :
    (r.append field v).get? field = some (.list (items ++ [v])) := by
  obtain ⟨c, hc, hvalue⟩ := Option.map_eq_some_iff.1 h
  have hmem := mem_names_of_content? hc
  cases c with
  | own w =>
    obtain rfl : w = .list items := hvalue
    simp only [append, hc, get?_put, hmem, and_self, if_true]
    rfl
  | shared number =>
    have hitems : r.lists number = items := by simpa [Content.value] using hvalue
    simp only [append, hc, get?]
    show (r.content? field).map _ = _
    simp [hc, Content.value, Lists.append, hitems]
  | around view =>
    have hview : view r.lists = .list items := hvalue
    simp only [append, hc, get?_put, hmem, and_self, if_true]
    simp [Content.value, hview, Value.appended]

/-- What is appended to a list of another field is not seen where this list is not held. -/
theorem get?_append_of_ignores {r : Record} {field other : String} (hne : other ≠ field)
    (h : ∀ number c, r.content? field = some (.shared number) → r.content? other = some c →
      c.Ignores number) (v : Value) : (r.append field v).get? other = r.get? other := by
  unfold append
  split
  · rfl
  · rw [get?_put, if_neg fun hboth => hne hboth.1]
  · next number hfield =>
    simp only [get?]
    show (r.content? other).map _ = _
    cases hother : r.content? other with
    | none => rfl
    | some c =>
      exact congrArg some (Content.value_append_of_ignores (h number c hfield hother) r.lists v)
  · rw [get?_put, if_neg fun hboth => hne hboth.1]

end Record

namespace Schema

/-- The slot that a field starts with, given the values a record is built from. -/
def startSlot (given : List (String × Value)) (f : Field) : Slot :=
  match if f.inConstructor then given.lookup f.name else none with
  | some v => ⟨f.name, some (.own v)⟩
  | none => ⟨f.name, f.default.map .own⟩

/-- Whether a record can be built from given values: required fields and no others. -/
def accepts (s : Schema) (given : List (String × Value)) : Bool :=
  s.requiredFields.all (fun name => (given.lookup name).isSome) &&
    given.all fun g => s.fields.any fun f => f.inConstructor && f.name == g.1

/-- Build a record from given values, each of which is held by its field alone. -/
def build (s : Schema) (given : List (String × Value)) : Except Failure Record :=
  if s.accepts given then .ok { schema := s, slots := s.fields.map (startSlot given) }
  else .error (.defect .wrongFields)

/-- The record that a schema starts with. -/
def blank (s : Schema) : Record := { schema := s, slots := s.fields.map (startSlot []) }

end Schema

end TypedCommands
