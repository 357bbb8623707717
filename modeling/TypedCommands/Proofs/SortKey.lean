import Mathlib.Data.List.TakeWhile
import TypedCommands.MediaBrowser

/-!
# Sort keys and their texts

A text means a sort key if anything but hyphens is left of it; however many hyphens stand
in front, the key is what follows them.  A sort key is written with one hyphen or with none.
So the two ways are inverse to each other exactly where a single hyphen stands for the
direction and the key begins with something else.

Main results:

- Theorem `parse_eq_some_iff`: the texts that mean a sort key.
- Theorem `parse_render_iff`: the sort keys that are read back from their own text.
- Theorem `render_eq_iff_of_parse`: the texts that are written again as they were.
- Theorem `read_write_exact`: all of this for all texts and all sort keys.
-/

namespace TypedCommands

namespace SortKey

/-- A sort key that a text can mean: its key is there and does not begin with a hyphen. -/
structure Proper (k : SortKey) : Prop where
  /-- The key is not empty. -/
  ne_empty : k.key ≠ ""
  /-- The key does not begin with a hyphen. -/
  no_hyphen : k.key.toList.head? ≠ some '-'

/-! ## Hyphens in front -/

/-- Every text is a number of hyphens and a rest that does not begin with one. -/
theorem exists_replicate_append (cs : List Char) :
    ∃ n rest, cs = List.replicate n '-' ++ rest ∧ rest.head? ≠ some '-' := by
  induction cs with
  | nil => exact ⟨0, [], rfl, by simp⟩
  | cons c cs ih =>
    by_cases hc : c = '-'
    · obtain ⟨n, rest, rfl, hrest⟩ := ih
      exact ⟨n + 1, rest, by rw [hc, List.replicate_succ, List.cons_append], hrest⟩
    · exact ⟨0, c :: cs, rfl, by simpa using hc⟩

/-- Hyphens are dropped up to the first other character. -/
theorem dropWhile_hyphens_append {rest : List Char} (n : Nat) (h : rest.head? ≠ some '-') :
    (List.replicate n '-' ++ rest).dropWhile (· == '-') = rest := by
  rw [List.dropWhile_append_of_pos (by simp)]
  cases rest with
  | nil => rfl
  | cons c rest =>
    have hc : c ≠ '-' := by simpa using h
    simp [hc]

/-- A text begins with a hyphen if it has one in front. -/
theorem head?_hyphens_append {rest : List Char} (n : Nat) (h : rest.head? ≠ some '-') :
    ((List.replicate n '-' ++ rest).head? == some '-') = decide (0 < n) := by
  cases n with
  | zero => simpa using h
  | succ n => simp [List.replicate_succ]

/-- Two hyphens stand in front exactly if there are two or more. -/
theorem prefix_hyphens_append_iff {rest : List Char} (n : Nat) (h : rest.head? ≠ some '-') :
    ['-', '-'] <+: List.replicate n '-' ++ rest ↔ 1 < n := by
  have hfront (more : List Char) : ¬ '-' :: more <+: rest := by
    rintro ⟨tail, rfl⟩
    simp at h
  cases n with
  | zero => simp [hfront]
  | succ n =>
    cases n with
    | zero => simp [hfront]
    | succ n => simp [List.replicate_succ]

/-! ## Reading and writing -/

/-- The sort key of a text with hyphens in front. -/
theorem parse_hyphens_append {text : String} {n : Nat} {rest : List Char}
    (htext : text.toList = List.replicate n '-' ++ rest) (h : rest.head? ≠ some '-') :
    parse text = if rest = [] then none else some ⟨String.ofList rest, decide (0 < n)⟩ := by
  simp only [parse, htext, dropWhile_hyphens_append n h, head?_hyphens_append n h,
    List.isEmpty_iff]

/-- A text means a sort key if it is the key behind hyphens, their number giving the direction. -/
theorem parse_eq_some_iff {text : String} {k : SortKey} :
    parse text = some k ↔
      k.Proper ∧ ∃ n, text.toList = List.replicate n '-' ++ k.key.toList ∧
        k.descending = decide (0 < n) := by
  constructor
  · intro h
    obtain ⟨n, rest, htext, hrest⟩ := exists_replicate_append text.toList
    rw [parse_hyphens_append htext hrest] at h
    split at h
    · cases h
    · next hne =>
      cases h
      exact ⟨⟨by simpa using hne, by simpa using hrest⟩, n, by simpa using htext, rfl⟩
  · rintro ⟨hproper, n, htext, hdirection⟩
    rw [parse_hyphens_append htext hproper.no_hyphen,
      if_neg (by simpa using hproper.ne_empty), ← hdirection]
    simp

/-- The text of a sort key: its key behind one hyphen or none. -/
theorem toList_render (k : SortKey) :
    k.render.toList = List.replicate k.descending.toNat '-' ++ k.key.toList := by
  cases hd : k.descending <;> simp [render, hd]

/-- A sort key is read back from its own text exactly if some text means it at all. -/
theorem parse_render_iff (k : SortKey) : parse k.render = some k ↔ k.Proper := by
  rw [parse_eq_some_iff]
  constructor
  · exact fun h => h.1
  · intro h
    refine ⟨h, k.descending.toNat, toList_render k, ?_⟩
    cases k.descending <;> rfl

/-- A text is written again as it was unless two hyphens stand in front of it. -/
theorem render_eq_iff_of_parse {text : String} {k : SortKey} (h : parse text = some k) :
    k.render = text ↔ ¬ ['-', '-'] <+: text.toList := by
  obtain ⟨hproper, n, htext, hdirection⟩ := parse_eq_some_iff.1 h
  rw [htext, prefix_hyphens_append_iff n hproper.no_hyphen, ← String.toList_inj, toList_render,
    htext, hdirection, List.append_left_inj, List.replicate_inj]
  have hn : (decide (0 < n)).toNat = min n 1 := by
    cases n <;> simp
  simp only [hn, and_true, or_true]
  omega

/--
Which texts mean sort keys, and what is written for them.  A text means none exactly if it
consists of hyphens; otherwise it means one that has a key, does not begin with a hyphen and
is read back from its own text, which is the same text as before exactly if at most one
hyphen stood in front.  A sort key is read back from its text exactly if it is such a one.
-/
theorem read_write_exact :
    (∀ text, parse text = none ↔ ∀ c ∈ text.toList, c = '-') ∧
    (∀ text k, parse text = some k →
      k.key ≠ "" ∧ k.key.toList.head? ≠ some '-' ∧ parse k.render = some k ∧
        (k.render = text ↔ ¬ ['-', '-'] <+: text.toList)) ∧
    ∀ k, parse k.render = some k ↔ k.key ≠ "" ∧ k.key.toList.head? ≠ some '-' := by
  refine ⟨parse_eq_none_iff, ?_, ?_⟩
  · intro text k h
    have hproper := (parse_eq_some_iff.1 h).1
    exact ⟨hproper.ne_empty, hproper.no_hyphen, (parse_render_iff k).2 hproper,
      render_eq_iff_of_parse h⟩
  · intro k
    rw [parse_render_iff]
    exact ⟨fun h => ⟨h.ne_empty, h.no_hyphen⟩, fun h => ⟨h.1, h.2⟩⟩

/-- A field of sort keys takes the value back from the text that is shown for it. -/
theorem coerce_render_toValue {k : SortKey} (h : k.Proper) :
    coerce (.defined valueClass) k.toValue.render = .ok k.toValue := by
  have htext : k.toValue.render = k.render := rfl
  simp [coerce, FieldType.converter?, valueClass, htext, (parse_render_iff k).2 h]

example : (parse "--date").map render = some "-date" := by decide

end SortKey

end TypedCommands
