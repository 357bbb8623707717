import TypedCommands.Record.Binding

/-!
# Lists that fields share

A text that is given to a field which collects values is seen in every field that holds the
same list.  Where no list of such a field is held anywhere else, the fields are independent of
each other, and they stay so: what is assigned is held by one field alone, and appending moves
no list from one place to another.

Main results:

- Theorem `Record.Separate.set`, `Record.Separate.append`: independent fields stay independent.
- Theorem `Record.Separate.get?_append_of_ne`: appending to the list of one field leaves the
  others alone.
- Theorem `Record.separate_blank`: the fields of a new record are independent.
-/

namespace TypedCommands

namespace Record

variable {r : Record} {p : Plan}

/-! ## What is assigned -/

/-- Assigning something to a field leaves what is assigned to the others. -/
theorem content?_put_of_ne {field other : String} (hne : other ≠ field) (c : Content) :
    (r.put field c).content? other = r.content? other := by
  rw [content?_put, if_neg fun hboth => hne hboth.1]

/-- Appending to a list leaves what is assigned to other fields, though not what that holds. -/
theorem content?_append_of_ne {field other : String} (hne : other ≠ field) (v : Value) :
    (r.append field v).content? other = r.content? other := by
  unfold append
  split
  · rfl
  · exact content?_put_of_ne hne _
  · rfl
  · exact content?_put_of_ne hne _

/-- A value of a field's own stays one when something is appended to it. -/
theorem content?_append_of_own {field : String} {w : Value}
    (h : r.content? field = some (.own w)) (v : Value) :
    (r.append field v).content? field = some (.own (w.appended v)) := by
  simp only [append, h, content?_put, mem_names_of_content? h, and_self, if_true]

/-- Only a field that held a shared list before holds it after something was appended. -/
theorem content?_of_content?_append {field : String} {v : Value} {number : Nat}
    (h : (r.append field v).content? field = some (.shared number)) :
    r.content? field = some (.shared number) := by
  unfold append at h
  split at h
  · exact h
  · next hfield =>
    rw [content?_put, if_pos ⟨rfl, mem_names_of_content? hfield⟩] at h
    cases h
  · exact h
  · next hfield =>
    rw [content?_put, if_pos ⟨rfl, mem_names_of_content? hfield⟩] at h
    cases h

/-- What ignores a list still does when something was appended to another one. -/
theorem ignores_content?_append {field other : String} {v : Value} {number : Nat} {c : Content}
    (h : ∀ c, r.content? other = some c → c.Ignores number)
    (hc : (r.append field v).content? other = some c) : c.Ignores number := by
  by_cases hfield : other = field
  · subst hfield
    unfold append at hc
    split at hc
    · exact h c hc
    · next hother =>
      rw [content?_put, if_pos ⟨rfl, mem_names_of_content? hother⟩] at hc
      cases hc
      trivial
    · exact h c hc
    · next view hother =>
      rw [content?_put, if_pos ⟨rfl, mem_names_of_content? hother⟩] at hc
      cases hc
      intro lists w
      exact congrArg (·.appended v) (h _ hother lists w)
  · rw [content?_append_of_ne hfield] at hc
    exact h c hc

/-! ## Independent fields -/

/--
No list that a field of the plan collects values in is held by another field or lies inside
what another field holds.
-/
def Separate (r : Record) (p : Plan) : Prop :=
  ∀ b ∈ p.bindings, b.isSequence = true → ∀ number, r.content? b.field = some (.shared number) →
    ∀ field c, field ≠ b.field → r.content? field = some c → c.Ignores number

/-- A value of a field's own keeps the fields separate. -/
theorem Separate.put (h : r.Separate p) (field : String) (v : Value) :
    (r.put field (.own v)).Separate p := by
  intro b hb hseq number hshared other c hother hc
  have hne : b.field ≠ field := by
    rintro rfl
    rw [content?_put] at hshared
    split at hshared
    · cases hshared
    · next hno => exact hno ⟨rfl, mem_names_of_content? hshared⟩
  rw [content?_put_of_ne hne] at hshared
  rw [content?_put] at hc
  split at hc
  · cases hc
    trivial
  · exact h b hb hseq number hshared other c hother hc

/-- Independent fields stay independent when one is set. -/
theorem Separate.set (h : r.Separate p) (field : String) (v : Value) :
    (r.set field v).Separate p := h.put field v

/-- Independent fields stay independent when something is appended to the list of one. -/
theorem Separate.append (h : r.Separate p) (field : String) (v : Value) :
    (r.append field v).Separate p := by
  intro b hb hseq number hshared other c hother hc
  have hbefore : r.content? b.field = some (.shared number) := by
    by_cases hfield : b.field = field
    · rw [hfield] at hshared ⊢
      exact content?_of_content?_append hshared
    · rwa [content?_append_of_ne hfield] at hshared
  exact ignores_content?_append (fun c hc => h b hb hseq number hbefore other c hother hc) hc

/-- Among independent fields, appending to the list of one leaves the others alone. -/
theorem Separate.get?_append_of_ne (h : r.Separate p) {b : FieldBinding} (hb : b ∈ p.bindings)
    (hseq : b.isSequence = true) {other : String} (hne : other ≠ b.field) (v : Value) :
    (r.append b.field v).get? other = r.get? other :=
  get?_append_of_ignores hne
    (fun number c hshared hc => h b hb hseq number hshared other c hne hc) v

/-- Fields that hold values of their own are independent. -/
theorem separate_of_own (h : ∀ field c, r.content? field = some c → ∃ v, c = .own v) (p : Plan) :
    r.Separate p := by
  intro b _ _ number hshared
  obtain ⟨v, hv⟩ := h b.field _ hshared
  cases hv

/-- A new record holds values of its own. -/
theorem exists_own_of_blank {s : Schema} {field : String} {c : Content}
    (h : s.blank.content? field = some c) : ∃ v, c = .own v := by
  obtain ⟨slot, hfind, hslot⟩ := Option.bind_eq_some_iff.1 h
  obtain ⟨f, -, rfl⟩ := List.mem_map.1 (List.mem_of_find?_eq_some hfind)
  rw [Schema.startSlot, List.lookup_nil, ite_self] at hslot
  obtain ⟨v, -, rfl⟩ := Option.map_eq_some_iff.1 hslot
  exact ⟨v, rfl⟩

/-- The fields of a new record are independent. -/
theorem separate_blank (s : Schema) (p : Plan) : s.blank.Separate p :=
  separate_of_own (fun _ _ => exists_own_of_blank) p

end Record

end TypedCommands
