import TypedCommands.Proofs.Document.Json.Numbers
import TypedCommands.Proofs.Document.Json.Texts

/-!
# Written values read back

Values are read back from what is written of them, in every layout and at every level: the
words, whole numbers and texts from their own characters, lists and objects from their parts.
Between the parts there are only blanks, whatever the layout, and these are skipped.  Fuel for
as many steps as there are characters is enough.

Main results:

- Theorem `ReadsPart.intercalate`: the parts of a list or an object are read back one by one.
- Theorem `Storable.restores`: every value of a kind that JSON has is read back.
- Theorem `read_render`: the same for whole texts.
-/

namespace TypedCommands

/-! ## Mappings without a key given twice -/

section Mapping

variable {α β : Type} {same : α → α → Bool}

/-- A key that is not known yet is added behind the others. -/
theorem assocSet_of_new {k : α} {v : β} {m : List (α × β)} (h : ∀ e ∈ m, same e.1 k = false) :
    assocSet same k v m = m ++ [(k, v)] := by
  induction m with
  | nil => rfl
  | cons e m ih =>
    have hne := h e List.mem_cons_self
    rw [assocSet, if_neg (by simp [hne]), ih fun d hd => h d (List.mem_cons_of_mem e hd)]
    rfl

/-- Pairs whose keys are told apart are a mapping as they are. -/
theorem assocOfPairs_of_pairwise {pairs : List (α × β)}
    (h : pairs.Pairwise fun a b => same a.1 b.1 = false) : assocOfPairs same pairs = pairs := by
  have hall : ∀ m, (m ++ pairs).Pairwise (fun a b => same a.1 b.1 = false) →
      pairs.foldl (fun m p => assocSet same p.1 p.2 m) m = m ++ pairs := by
    induction pairs with
    | nil => exact fun m _ => (List.append_nil m).symm
    | cons p pairs ih =>
      intro m hm
      have hnew : ∀ e ∈ m, same e.1 p.1 = false := fun e he =>
        (List.pairwise_append.mp hm).2.2 e he p List.mem_cons_self
      have hmore : (m ++ [p] ++ pairs).Pairwise fun a b => same a.1 b.1 = false := by
        rwa [List.append_assoc]
      rw [List.foldl_cons, assocSet_of_new hnew, ih h.of_cons (m ++ [p]) hmore, List.append_assoc]
      rfl
  exact hall [] h

end Mapping

namespace Json

open TypedCommands.Text

/-! ## Blanks between parts -/

variable {l : Layout} {level : Nat} {rest gap : List Char} {c : Char}

/-- Characters that are skipped between the parts of a text. -/
def IsGap (gap : List Char) : Prop := ∀ c ∈ gap, isJsonBlank c = true

/-- Lines start with a gap. -/
theorem isGap_lineStart (l : Layout) (level : Nat) : IsGap (l.lineStart level) := by
  intro c hc
  cases l with
  | oneLine => cases hc
  | lines indent =>
    rcases List.mem_cons.mp hc with rfl | hc
    · rfl
    · rw [List.eq_of_mem_replicate hc]
      rfl

/-- A separator is a comma and a gap. -/
theorem exists_separator_eq (l : Layout) (level : Nat) :
    ∃ gap, IsGap gap ∧ l.separator level = ',' :: gap := by
  cases l with
  | oneLine => exact ⟨[' '], by simp [IsGap, isJsonBlank], rfl⟩
  | lines indent => exact ⟨_, isGap_lineStart (.lines indent) level, rfl⟩

theorem skipBlanks_cons (hc : isJsonBlank c = false) (rest : List Char) :
    skipBlanks (c :: rest) = c :: rest :=
  List.dropWhile_cons_of_neg (by simp [hc])

theorem skipBlanks_gap (hgap : IsGap gap) (hc : isJsonBlank c = false) (rest : List Char) :
    skipBlanks (gap ++ c :: rest) = c :: rest := by
  rw [skipBlanks, List.dropWhile_append_of_pos hgap]
  exact skipBlanks_cons hc rest

/-- No number goes on with a gap and a closing bracket. -/
theorem endsNumber_gap (hgap : IsGap gap) (hc : c = ']' ∨ c = '\x7d') (rest : List Char) :
    EndsNumber (gap ++ c :: rest) := by
  cases gap with
  | nil => exact .of_mem (by rcases hc with rfl | rfl <;> simp) rest
  | cons d gap =>
    have hd := hgap d List.mem_cons_self
    simp only [isJsonBlank, Bool.or_eq_true, beq_iff_eq] at hd
    exact .of_mem (by rcases hd with ((rfl | rfl) | rfl) | rfl <;> simp) _

/-! ## What values begin with -/

/-- A character that a value may begin with, and nothing that stands around values. -/
def StartsValue (c : Char) : Prop :=
  isJsonBlank c = false ∧ c ≠ ']' ∧ c ≠ '\x7d' ∧ c ≠ '\ufeff'

instance (c : Char) : Decidable (StartsValue c) := inferInstanceAs (Decidable (_ ∧ _))

/-- Digits start values. -/
theorem startsValue_of_digit {d : Nat} (h : asciiDigit? c = some d) : StartsValue c := by
  have hne : ∀ e ∈ [' ', '\t', '\n', '\r', ']', '\x7d', '\ufeff'], c ≠ e := by
    have hnone : ∀ e ∈ [' ', '\t', '\n', '\r', ']', '\x7d', '\ufeff'], asciiDigit? e = none := by
      simp [asciiDigit?]
    rintro e he rfl
    rw [hnone c he] at h
    cases h
  simp only [List.forall_mem_cons, List.not_mem_nil, false_imp_iff, implies_true, and_true] at hne
  simp [StartsValue, isJsonBlank, hne]

/-- Enclosed parts begin with the opening bracket. -/
theorem exists_enclose_eq (l : Layout) (level : Nat) (opening closing : Char)
    (parts : List (List Char)) :
    ∃ more, enclose l level opening closing parts = opening :: more := by
  unfold enclose
  split_ifs
  · exact ⟨_, rfl⟩
  · exact ⟨_, rfl⟩

/-- Brackets with parts between them, as they stand in front of more text. -/
theorem enclose_append {opening closing : Char} {parts : List (List Char)} (h : parts ≠ [])
    (rest : List Char) :
    enclose l level opening closing parts ++ rest =
      opening :: (l.lineStart (level + 1) ++ ((l.separator (level + 1)).intercalate parts ++
        (l.lineStart level ++ closing :: rest))) := by
  rw [enclose, if_neg (by simpa using h)]
  simp

/-- Enclosing makes a text longer by at least two characters. -/
theorem length_lt_enclose {opening closing : Char} {parts : List (List Char)} (h : parts ≠ []) :
    ((l.separator (level + 1)).intercalate parts).length + 1 <
      (enclose l level opening closing parts).length := by
  rw [← List.append_nil (enclose l level opening closing parts), enclose_append h]
  simp only [List.length_cons, List.length_append]
  omega

/-- Items are written one by one. -/
theorem writeItems_eq_map (l : Layout) (level : Nat) (items : List Value) :
    writeItems l level items = items.map (write l level) := by
  induction items with
  | nil => rfl
  | cons v items ih => rw [writeItems, ih, List.map_cons]

/-- An entry of an object as it is written. -/
def writeEntry (l : Layout) (level : Nat) (e : Value × Value) : List Char :=
  writeText e.1.render ++ ':' :: ' ' :: write l level e.2

/-- Entries are written one by one. -/
theorem writeEntries_eq_map (l : Layout) (level : Nat) (entries : List (Value × Value)) :
    writeEntries l level entries = entries.map (writeEntry l level) := by
  induction entries with
  | nil => rfl
  | cons e entries ih => rw [writeEntries, ih, List.map_cons, writeEntry]

/-! ## Values that can be stored -/

/-- Values that a JSON text has a form of their own for, and whole numbers not too long for it. -/
inductive Storable : Value → Prop
  | null : Storable .null
  | bool (b : Bool) : Storable (.bool b)
  | int {n : Int} : Whole.isTooLong n = false → Storable (.int n)
  | text (s : String) : Storable (.text s)
  | list {items : List Value} : (∀ v ∈ items, Storable v) → Storable (.list items)
  | dict {entries : List (String × Value)} :
      (entries.map (·.1)).Nodup → (∀ e ∈ entries, Storable e.2) →
      Storable (.dict (entries.map fun e => (.text e.1, e.2)))

/-- What is written of a value begins with a character that values begin with. -/
theorem Storable.exists_start {v : Value} (hv : Storable v) (l : Layout) (level : Nat) :
    ∃ c more, write l level v = c :: more ∧ StartsValue c := by
  cases hv with
  | null => exact ⟨'n', _, rfl, by decide⟩
  | bool b =>
    cases b with
    | false => exact ⟨'f', _, rfl, by decide⟩
    | true => exact ⟨'t', _, rfl, by decide⟩
  | @int n _ =>
    obtain ⟨c, digits, hdigit, -, ⟨-, hchars⟩ | ⟨-, hchars⟩⟩ := toString_cases n
    · exact ⟨'-', _, by rw [write, hchars], by decide⟩
    · exact ⟨c, digits, by rw [write, hchars], startsValue_of_digit hdigit⟩
  | text s => exact ⟨'"', _, rfl, by decide⟩
  | list _ =>
    obtain ⟨more, hmore⟩ := exists_enclose_eq l level '[' ']' _
    exact ⟨'[', more, hmore, by decide⟩
  | dict _ _ =>
    obtain ⟨more, hmore⟩ := exists_enclose_eq l level '\x7b' '\x7d' _
    exact ⟨'\x7b', more, hmore, by decide⟩

/--
A value is read back from what is written of it, with all fuel that is long enough, and what
follows is left.
-/
def Restores (v : Value) : Prop :=
  ∀ (l : Layout) (level : Nat) (rest : List Char) (fuel : Nat), EndsNumber rest →
    (write l level v).length ≤ fuel → readValue fuel (write l level v ++ rest) = .ok (v, rest)

/-! ## Parts -/

/-- Parts with separators between them begin as the first one does. -/
theorem exists_intercalate_eq (separator : List Char) (c : Char) (more : List Char)
    (parts : List (List Char)) :
    ∃ behind, separator.intercalate ((c :: more) :: parts) = c :: behind := by
  cases parts with
  | nil => exact ⟨more, List.intercalate_singleton⟩
  | cons part parts =>
    rw [List.intercalate_cons_cons]
    exact ⟨_, rfl⟩

/--
A reader of parts reads what is written of one part, in front of the closing bracket as well
as in front of a comma and another part.
-/
structure ReadsPart {α : Type} (read : Nat → List Char → Except Stop (List α × List Char))
    (written : α → List Char) (closing : Char) (a : α) : Prop where
  /-- What is written begins with no blank and with no closing bracket. -/
  starts : ∃ c more, written a = c :: more ∧ isJsonBlank c = false ∧ c ≠ closing
  /-- It may be the last part. -/
  last : ∀ {gap : List Char} (rest : List Char) {fuel : Nat}, IsGap gap →
    (written a).length ≤ fuel →
    read (fuel + 1) (written a ++ (gap ++ closing :: rest)) = .ok ([a], rest)
  /-- Other parts may follow. -/
  next : ∀ {gap : List Char} {c : Char} (rest : List Char) {fuel : Nat}, IsGap gap →
    isJsonBlank c = false → (written a).length ≤ fuel →
    read (fuel + 1) (written a ++ ',' :: (gap ++ c :: rest)) =
      (read fuel (c :: rest)).map fun r => (a :: r.1, r.2)

/-- A reader of parts reads them one by one, up to the closing bracket. -/
theorem ReadsPart.intercalate {α : Type}
    {read : Nat → List Char → Except Stop (List α × List Char)} {written : α → List Char}
    {closing : Char} {parts : List α} (hne : parts ≠ [])
    (hall : ∀ a ∈ parts, ReadsPart read written closing a) (hgap : IsGap gap) (rest : List Char)
    {fuel : Nat} (hfuel : ((l.separator level).intercalate (parts.map written)).length < fuel) :
    read fuel ((l.separator level).intercalate (parts.map written) ++ (gap ++ closing :: rest)) =
      .ok (parts, rest) := by
  obtain ⟨space, hspace, hseparator⟩ := exists_separator_eq l level
  rw [hseparator] at hfuel ⊢
  induction parts generalizing fuel with
  | nil => exact absurd rfl hne
  | cons a parts ih =>
    obtain ⟨fuel, rfl⟩ : ∃ n, fuel = n + 1 := ⟨fuel - 1, by omega⟩
    have ha := hall a List.mem_cons_self
    cases parts with
    | nil =>
      simp only [List.map_cons, List.map_nil, List.intercalate_singleton] at hfuel ⊢
      exact ha.last rest hgap (by omega)
    | cons b parts =>
      have hmore := @ih (List.cons_ne_nil b parts)
        (fun d hd => hall d (List.mem_cons_of_mem a hd)) fuel
      -- The text goes on with the first character of the next part, which is no blank.
      obtain ⟨c, more, hstart, hc, -⟩ :=
        (hall b (List.mem_cons_of_mem a List.mem_cons_self)).starts
      obtain ⟨behind, hbehind⟩ :=
        exists_intercalate_eq (',' :: space) c more (parts.map written)
      simp only [List.map_cons, List.intercalate_cons_cons, hstart, hbehind, List.length_append,
        List.length_cons, List.append_assoc, List.cons_append] at hfuel hmore ⊢
      rw [ha.next _ hspace hc (by omega), hmore (by omega)]
      rfl

/-! ## Items and members -/

/-- A value that is read back is read back as an item of a list. -/
theorem readsPart_item {v : Value} (hv : Storable v) (hrestores : Restores v) (l : Layout)
    (level : Nat) : ReadsPart readItems (write l level) ']' v where
  starts := by
    obtain ⟨c, more, hstart, hc, hclosing, -⟩ := hv.exists_start l level
    exact ⟨c, more, hstart, hc, hclosing⟩
  last := by
    intro gap rest fuel hgap hfuel
    have hread := hrestores l level _ fuel (endsNumber_gap hgap (.inl rfl) rest) hfuel
    simp only [readItems, hread, skipBlanks_gap hgap (by decide : isJsonBlank ']' = false)]
  next := by
    intro gap c rest fuel hgap hc hfuel
    have hcomma : EndsNumber (',' :: (gap ++ c :: rest)) := .of_mem (by simp) _
    have hread := hrestores l level _ fuel hcomma hfuel
    simp only [readItems, hread, skipBlanks_cons (by decide : isJsonBlank ',' = false),
      skipBlanks_gap hgap hc]

/-- Behind the quote of its key a member is the key, a colon, a blank and the value. -/
theorem writeEntry_append {v : Value} (hv : Storable v) (key : String) (l : Layout) (level : Nat)
    (rest : List Char) :
    ∃ name value, writeEntry l level (.text key, v) ++ rest = '"' :: name ∧
      (∀ start, readText start (name.length + 1) name = .ok (key.toList, ':' :: value)) ∧
      skipBlanks value = write l level v ++ rest := by
  obtain ⟨c, more, hstart, hc, -⟩ := hv.exists_start l level
  obtain ⟨name, hname, hkey⟩ := readText_writeText key (':' :: ' ' :: (write l level v ++ rest))
  refine ⟨name, _, ?_, hkey, ?_⟩
  · rw [← hname, writeEntry, Value.render_text]
    simp
  · have hblank : IsGap [' '] := by simp [IsGap, isJsonBlank]
    rw [hstart]
    exact skipBlanks_gap hblank hc (more ++ rest)

theorem length_write_le_writeEntry (l : Layout) (level : Nat) (e : Value × Value) :
    (write l level e.2).length ≤ (writeEntry l level e).length := by
  simp only [writeEntry, List.length_append, List.length_cons]
  omega

/-- A value that is read back is read back as a member of an object. -/
theorem readsPart_member {v : Value} (hv : Storable v) (hrestores : Restores v) (key : String)
    (l : Layout) (level : Nat) :
    ReadsPart readMembers (writeEntry l level) '\x7d' (.text key, v) where
  starts := ⟨'"', _, rfl, by decide, by decide⟩
  last := by
    intro gap rest fuel hgap hfuel
    obtain ⟨name, value, hwritten, hkey, hvalue⟩ :=
      writeEntry_append hv key l level (gap ++ '\x7d' :: rest)
    have hread := hrestores l level _ fuel (endsNumber_gap hgap (.inr rfl) rest)
      (Nat.le_trans (length_write_le_writeEntry l level (.text key, v)) hfuel)
    rw [hwritten]
    simp only [readMembers, hkey, skipBlanks_cons (by decide : isJsonBlank ':' = false), hvalue,
      hread, skipBlanks_gap hgap (by decide : isJsonBlank '\x7d' = false), String.ofList_toList]
  next := by
    intro gap c rest fuel hgap hc hfuel
    obtain ⟨name, value, hwritten, hkey, hvalue⟩ :=
      writeEntry_append hv key l level (',' :: (gap ++ c :: rest))
    have hcomma : EndsNumber (',' :: (gap ++ c :: rest)) := .of_mem (by simp) _
    have hread := hrestores l level _ fuel hcomma
      (Nat.le_trans (length_write_le_writeEntry l level (.text key, v)) hfuel)
    rw [hwritten]
    simp only [readMembers, hkey, skipBlanks_cons (by decide : isJsonBlank ':' = false), hvalue,
      hread, skipBlanks_cons (by decide : isJsonBlank ',' = false), skipBlanks_gap hgap hc,
      String.ofList_toList]

/-! ## Values -/

section Steps

variable {fuel : Nat} {cs more : List Char}

/-- A list is read item by item. -/
theorem readValue_list (hcs : skipBlanks cs = c :: more) (hc : c ≠ ']') :
    readValue (fuel + 1) ('[' :: cs) =
      (readItems fuel (c :: more)).map fun r => (.list r.1, r.2) := by
  simp only [readValue, Char.reduceEq, if_false, if_true, hcs]
  split
  · next h => exact absurd (List.cons.inj h).1 hc
  · rfl

/-- An object is read member by member. -/
theorem readValue_dict (hcs : skipBlanks cs = c :: more) (hc : c ≠ '\x7d') :
    readValue (fuel + 1) ('\x7b' :: cs) =
      (readMembers fuel (c :: more)).map fun r => (.dict (assocOfPairs sameText r.1), r.2) := by
  simp only [readValue, Char.reduceEq, if_false, if_true, hcs]
  split
  · next h => exact absurd (List.cons.inj h).1 hc
  · rfl

/-- What is no text, no list, no object and no word is a number. -/
theorem readValue_number (hquote : c ≠ '"') (hlist : c ≠ '[') (hdict : c ≠ '\x7b')
    (hword : readWord? (c :: cs) = none) :
    readValue (fuel + 1) (c :: cs) = readNumber (c :: cs) := by
  simp only [readValue, hquote, hlist, hdict, if_false, hword]

end Steps

/-- Parts in brackets are read as parts behind the opening bracket. -/
theorem ReadsPart.enclosed {α : Type}
    {read : Nat → List Char → Except Stop (List α × List Char)} {written : α → List Char}
    {opening closing : Char} {parts : List α} (hne : parts ≠ [])
    (hall : ∀ a ∈ parts, ReadsPart read written closing a) (rest : List Char) {fuel : Nat}
    (hfuel : (enclose l level opening closing (parts.map written)).length ≤ fuel + 1) :
    ∃ cs c more, enclose l level opening closing (parts.map written) ++ rest = opening :: cs ∧
      skipBlanks cs = c :: more ∧ c ≠ closing ∧ read fuel (c :: more) = .ok (parts, rest) := by
  have hwritten : parts.map written ≠ [] := by simpa using hne
  have hlength : ((l.separator (level + 1)).intercalate (parts.map written)).length < fuel :=
    Nat.lt_of_succ_lt_succ (Nat.lt_of_lt_of_le (length_lt_enclose hwritten) hfuel)
  have hread := ReadsPart.intercalate hne hall (isGap_lineStart l level) rest hlength
  obtain ⟨a, others, rfl⟩ := List.exists_cons_of_ne_nil hne
  obtain ⟨c, more, hstart, hc, hclosing⟩ := (hall a List.mem_cons_self).starts
  obtain ⟨behind, hbehind⟩ :=
    exists_intercalate_eq (l.separator (level + 1)) c more (others.map written)
  rw [List.map_cons, hstart, hbehind] at hread
  refine ⟨_, c, behind ++ (l.lineStart level ++ closing :: rest), enclose_append hwritten rest, ?_,
    hclosing, hread⟩
  rw [List.map_cons, hstart, hbehind]
  exact skipBlanks_gap (isGap_lineStart l (level + 1)) hc _

/-- A list is read back if its items are. -/
theorem restores_list {items : List Value} (hstored : ∀ v ∈ items, Storable v)
    (hall : ∀ v ∈ items, Restores v) : Restores (.list items) := by
  intro l level rest fuel hrest hfuel
  rw [write, writeItems_eq_map] at hfuel ⊢
  obtain ⟨fuel, rfl⟩ : ∃ n, fuel = n + 1 := by
    obtain ⟨more, hmore⟩ := exists_enclose_eq l level '[' ']' (items.map (write l (level + 1)))
    rw [hmore, List.length_cons] at hfuel
    exact ⟨fuel - 1, by omega⟩
  by_cases hne : items = []
  · subst hne
    rfl
  · obtain ⟨cs, c, more, hwritten, hskip, hc, hread⟩ := ReadsPart.enclosed hne
      (fun v hv => readsPart_item (hstored v hv) (hall v hv) l (level + 1)) rest hfuel
    rw [hwritten, readValue_list hskip hc, hread]
    rfl

/-- An object is read back if its keys are told apart and its values are read back. -/
theorem restores_dict {entries : List (String × Value)} (hkeys : (entries.map (·.1)).Nodup)
    (hstored : ∀ e ∈ entries, Storable e.2) (hall : ∀ e ∈ entries, Restores e.2) :
    Restores (.dict (entries.map fun e => (.text e.1, e.2))) := by
  intro l level rest fuel hrest hfuel
  rw [write, writeEntries_eq_map] at hfuel ⊢
  generalize hmembers : entries.map (fun e => (Value.text e.1, e.2)) = members at hfuel ⊢
  have hparts : ∀ m ∈ members, ReadsPart readMembers (writeEntry l (level + 1)) '\x7d' m := by
    rw [← hmembers]
    intro m hm
    obtain ⟨e, he, rfl⟩ := List.mem_map.mp hm
    exact readsPart_member (hstored e he) (hall e he) e.1 l (level + 1)
  have hassoc : assocOfPairs sameText members = members := by
    apply assocOfPairs_of_pairwise
    rw [← hmembers, List.pairwise_map]
    refine (List.pairwise_map.mp hkeys).imp fun hne => ?_
    simpa [sameText] using hne
  obtain ⟨fuel, rfl⟩ : ∃ n, fuel = n + 1 := by
    obtain ⟨more, hmore⟩ :=
      exists_enclose_eq l level '\x7b' '\x7d' (members.map (writeEntry l (level + 1)))
    rw [hmore, List.length_cons] at hfuel
    exact ⟨fuel - 1, by omega⟩
  by_cases hne : members = []
  · rw [hne]
    rfl
  · obtain ⟨cs, c, more, hwritten, hskip, hc, hread⟩ := ReadsPart.enclosed hne hparts rest hfuel
    rw [hwritten, readValue_dict hskip hc, hread]
    exact congrArg (fun m => Except.ok (Value.dict m, rest)) hassoc

/-- A word is read for what it stands for. -/
theorem restores_word {v : Value} (hv : v = .null ∨ ∃ b, v = .bool b) : Restores v := by
  intro l level rest fuel _ hfuel
  rcases hv with rfl | ⟨_ | _, rfl⟩ <;>
    obtain ⟨fuel, rfl⟩ : ∃ n, fuel = n + 1 := ⟨fuel - 1, by simp [write] at hfuel; omega⟩ <;>
    simp [write, readValue, readWord?, words] <;> rfl

/-- The numeral of a number that is not too long is read as the number. -/
theorem restores_int {n : Int} (hn : Whole.isTooLong n = false) : Restores (.int n) := by
  intro l level rest fuel hrest hfuel
  have hword := readWord?_toString n rest
  have hnumber := readNumber_toString hn hrest
  rw [write] at hfuel ⊢
  obtain ⟨c, more, hchars, hquote, hlist, hdict⟩ :
      ∃ c more, (toString n).toList = c :: more ∧ c ≠ '"' ∧ c ≠ '[' ∧ c ≠ '\x7b' := by
    obtain ⟨c, digits, hdigit, -, ⟨-, hchars⟩ | ⟨-, hchars⟩⟩ := toString_cases n
    · exact ⟨'-', c :: digits, hchars, by decide, by decide, by decide⟩
    · refine ⟨c, digits, hchars, ?_, ?_, ?_⟩ <;> rintro rfl <;> cases hdigit
  rw [hchars] at hfuel hword hnumber ⊢
  obtain ⟨fuel, rfl⟩ : ∃ n, fuel = n + 1 := ⟨fuel - 1, by simp at hfuel; omega⟩
  rw [List.cons_append] at hword hnumber ⊢
  rw [readValue_number hquote hlist hdict hword]
  exact hnumber

/-- A text in quotes is read as the text. -/
theorem restores_text (s : String) : Restores (.text s) := by
  intro l level rest fuel _ hfuel
  obtain ⟨cs, hwritten, hread⟩ := readText_writeText s rest
  rw [write] at hfuel ⊢
  obtain ⟨fuel, rfl⟩ : ∃ n, fuel = n + 1 := ⟨fuel - 1, by simp [writeText] at hfuel; omega⟩
  rw [hwritten]
  simp only [readValue, if_true, hread, Except.map, String.ofList_toList]

/-- Every value that can be stored is read back. -/
theorem Storable.restores {v : Value} (hv : Storable v) : Restores v := by
  induction hv with
  | null => exact restores_word (.inl rfl)
  | bool b => exact restores_word (.inr ⟨b, rfl⟩)
  | int hn => exact restores_int hn
  | text s => exact restores_text s
  | list hstored ih => exact restores_list hstored ih
  | dict hkeys hstored ih => exact restores_dict hkeys hstored ih

/-- The text of a value that can be stored is read as the value, in every layout. -/
theorem read_render {v : Value} (hv : Storable v) (l : Layout) : read (render l v) = .ok v := by
  obtain ⟨c, more, hstart, hc, -, -, hmark⟩ := hv.exists_start l 0
  have hread := hv.restores l 0 [] (2 * (write l 0 v).length + 2) endsNumber_nil (by omega)
  rw [List.append_nil, hstart] at hread
  have hall : readAll (c :: more) = .ok v := by
    unfold readAll
    split
    · next h => exact absurd (List.cons.inj h).1 hmark
    · rw [skipBlanks_cons hc, hread]
      rfl
  rw [read, render, String.toList_ofList, hstart, hall]

end Json

end TypedCommands
