import TypedCommands.Proofs.Line.Names
import TypedCommands.Proofs.Plan
import TypedCommands.Record.Binding

/-!
# The names that fields are bound by

A binding tag is a name, or nothing in the place of one, and perhaps a comma with the mark
of positional fields behind it.  Without a name the field's own name in lower case counts,
and lower-casing keeps a bare word a bare word.  A tag of this form is accepted if the name
could be typed, were its stray characters letters.  So a field whose binding name holds no
stray character can be reached by that name from some line.

Main results:

- Theorem `isBareWord_lowercase`: a bare word is one in lower case.
- Theorems `BindingTag.binding_of_gives` and `BindingTag.binding_of_not_gives`: a tag is read
  exactly if it has the form of one; then its name is judged.
- Theorem `BindingTag.binding_typed`: tags are accepted for the names that can be typed, and
  the fields of a plan are reached by them.
-/

namespace TypedCommands

open TypedCommands.Text TypedCommands.Line

/-! ## Bare words in lower case -/

/-- A character that may stand anywhere in a bare word. -/
def IsPlain (c : Char) : Prop := isWord c = true ∧ isQuote c = false

/-- Ranges of characters that hold no blank, control character, separator or quote. -/
def plainRanges : List (Nat × Nat) :=
  [(0x61, 0x7A), (0xA1, 0x167F), (0x1681, 0x1FFF), (0x2060, 0x2FFF), (0x3001, 0xD7FF),
    (0xE000, 0x10FFFF)]

/-- The lower-case forms of a run lie in one of the plain ranges. -/
def runIsPlain (r : CaseRun) : Bool :=
  plainRanges.any fun p =>
    decide ((p.1 : Int) ≤ r.first + r.distance) && decide (r.last + r.distance ≤ (p.2 : Int))

theorem all_lowercaseRuns_runIsPlain : lowercaseRuns.all runIsPlain = true := by
  decide +kernel

/-- The characters of the plain ranges are plain. -/
theorem isPlain_of_inRanges {c : Char} (h : inRanges plainRanges c.toNat = true) :
    IsPlain c := by
  have hseparator : c ≠ nameSeparator := by
    rintro rfl
    exact absurd h (by decide)
  have hquote : isQuote c = false := by
    rw [← Bool.not_eq_true, ← mem_quoteChars_iff]
    intro hmem
    simp only [quoteChars, List.mem_cons, List.not_mem_nil, or_false] at hmem
    rcases hmem with rfl | rfl <;> exact absurd h (by decide)
  obtain ⟨r, hr, hlow, hhigh⟩ := (inRanges_iff plainRanges c.toNat).1 h
  have hclass : isBlank c = false ∧ isControl c = false := by
    simp only [plainRanges, List.mem_cons, List.not_mem_nil, or_false] at hr
    simp only [isBlank, isControl, Bool.or_eq_false_iff, Bool.and_eq_false_iff, beq_eq_false_iff_ne,
      decide_eq_false_iff_not]
    rcases hr with rfl | rfl | rfl | rfl | rfl | rfl <;> dsimp only at hlow hhigh <;> omega
  exact ⟨(isWord_iff c).2 ⟨hclass.1, hseparator, hclass.2⟩, hquote⟩

/-- The characters with a number in the plain ranges are plain. -/
theorem isPlain_ofNat {n : Nat} (h : inRanges plainRanges n = true) : IsPlain (Char.ofNat n) := by
  apply isPlain_of_inRanges
  have hvalid : n.isValidChar := by
    obtain ⟨r, hr, hlow, hhigh⟩ := (inRanges_iff plainRanges n).1 h
    simp only [plainRanges, List.mem_cons, List.not_mem_nil, or_false] at hr
    rcases hr with rfl | rfl | rfl | rfl | rfl | rfl <;> simp [Nat.isValidChar] at * <;> omega
  have hvalue : (Char.ofNat n).toNat = n := by
    rw [Char.ofNat, dif_pos hvalid]
    rfl
  rwa [hvalue]

/-- The shifted code of a character of a run is the code of a plain character. -/
theorem isPlain_of_mem_run {r : CaseRun} (hr : r ∈ lowercaseRuns) {n : Nat}
    (hfirst : r.first ≤ n) (hlast : n ≤ r.last) :
    IsPlain (Char.ofNat (n + r.distance).toNat) := by
  have hplain := List.all_eq_true.1 all_lowercaseRuns_runIsPlain r hr
  obtain ⟨p, hp, hlow, hhigh⟩ :
      ∃ p ∈ plainRanges,
        (p.1 : Int) ≤ r.first + r.distance ∧ r.last + r.distance ≤ (p.2 : Int) := by
    simpa [runIsPlain] using hplain
  apply isPlain_ofNat
  rw [inRanges_iff]
  exact ⟨p, hp, by omega, by omega⟩

theorem toLower_eq_or_inRanges :
    ∀ n < 0x80, (Char.ofNat n).toLower = Char.ofNat n ∨
      inRanges plainRanges (Char.ofNat n).toLower.toNat = true := by
  decide +kernel

/-- A character in lower case is the character itself or a plain one. -/
theorem of_mem_lowercaseChar {c d : Char} (h : d ∈ lowercaseChar c) : d = c ∨ IsPlain d := by
  rw [lowercaseChar] at h
  split at h
  · next hascii =>
    obtain rfl := List.mem_singleton.1 h
    have hlower := toLower_eq_or_inRanges c.toNat hascii
    rw [Char.ofNat_toNat] at hlower
    exact hlower.imp_right isPlain_of_inRanges
  · split at h
    · simp only [List.mem_cons, List.not_mem_nil, or_false] at h
      rcases h with rfl | rfl <;> exact .inr (isPlain_of_inRanges (by decide))
    · split at h
      · next r hfind =>
        obtain rfl := List.mem_singleton.1 h
        have hmem := List.mem_of_find?_eq_some hfind
        have hrange := List.find?_some hfind
        simp only [Bool.and_eq_true, decide_eq_true_eq] at hrange
        exact .inr (isPlain_of_mem_run hmem hrange.1.1 hrange.1.2)
      · exact .inl (List.mem_singleton.1 h)

/-- The lower-case form of one character of a text, which may depend on the text around it. -/
theorem exists_lowercaseFrom_cons (before rest : List Char) (c : Char) :
    ∃ here, lowercaseFrom before (c :: rest) = here ++ lowercaseFrom (c :: before) rest ∧
      here ≠ [] ∧ ∀ d ∈ here, d = c ∨ IsPlain d := by
  refine ⟨_, rfl, ?_, ?_⟩
  · split
    · simp
    · exact lowercaseChar_ne_nil c
  · intro d hd
    split at hd
    · obtain rfl := List.mem_singleton.1 hd
      split <;> exact .inr (isPlain_of_inRanges (by decide))
    · exact of_mem_lowercaseChar hd

/-- Characters of a text in small letters come from the text or are plain. -/
theorem of_mem_lowercaseFrom {before cs : List Char} {d : Char}
    (h : d ∈ lowercaseFrom before cs) : d ∈ cs ∨ IsPlain d := by
  induction cs generalizing before with
  | nil => cases h
  | cons c rest ih =>
    obtain ⟨here, hlower, -, hhere⟩ := exists_lowercaseFrom_cons before rest c
    rw [hlower, List.mem_append] at h
    rcases h with h | h
    · rcases hhere d h with rfl | hplain
      · exact .inl List.mem_cons_self
      · exact .inr hplain
    · exact (ih h).imp_left (List.mem_cons_of_mem c)

/-- A bare word is one in lower case as well. -/
theorem isBareWord_lowercase {s : String} (h : IsBareWord s.toList) :
    IsBareWord (lowercase s).toList := by
  rw [lowercase, String.toList_ofList]
  have hword : ∀ d ∈ lowercaseFrom [] s.toList, isWord d = true := by
    intro d hd
    rcases of_mem_lowercaseFrom hd with hmem | hplain
    · exact h.isWord d hmem
    · exact hplain.1
  obtain ⟨c, rest, hs, -, hquote⟩ := h.exists_head
  obtain ⟨here, hlower, hne, hhere⟩ := exists_lowercaseFrom_cons [] rest c
  rw [hs, hlower] at hword ⊢
  obtain ⟨d, more, rfl⟩ := List.exists_cons_of_ne_nil hne
  apply isBareWord_of_isWord hword
  rcases hhere d List.mem_cons_self with rfl | hplain
  · exact hquote
  · exact hplain.2

/-! ## The form of a tag -/

/-- The text is its own middle with blanks at both ends, and the middle is what trimming leaves. -/
theorem exists_trimBlanks (cs : List Char) :
    ∃ left right, IsGap left ∧ IsGap right ∧ cs = left ++ (trimBlanks cs ++ right) := by
  have hleft : cs.takeWhile isBlank ++ cs.dropWhile isBlank = cs := List.takeWhile_append_dropWhile
  have hright := congrArg List.reverse
    (List.takeWhile_append_dropWhile (p := isBlank) (l := (cs.dropWhile isBlank).reverse))
  rw [List.reverse_append, List.reverse_reverse] at hright
  refine ⟨cs.takeWhile isBlank, ((cs.dropWhile isBlank).reverse.takeWhile isBlank).reverse,
    ?_, ?_, ?_⟩
  · intro c hc
    exact List.mem_takeWhile_imp hc
  · intro c hc
    exact List.mem_takeWhile_imp (List.mem_reverse.1 hc)
  · rw [trimBlanks, trimWhere, hright, hleft]

/-- Blanks around a word that neither begins nor ends in one are trimmed away. -/
theorem trimBlanks_append {left word right : List Char} (hleft : IsGap left)
    (hright : IsGap right) (hhead : (word ++ right).dropWhile isBlank = word ++ right)
    (hlast : word.reverse.dropWhile isBlank = word.reverse) :
    trimBlanks (left ++ (word ++ right)) = word := by
  have hgap : ∀ c ∈ right.reverse, isBlank c = true := by
    intro c hc
    exact hright c (List.mem_reverse.1 hc)
  rw [trimBlanks, trimWhere, List.dropWhile_append_of_pos hleft, hhead, List.reverse_append,
    List.dropWhile_append_of_pos hgap, hlast, List.reverse_reverse]

namespace BindingTag

/--
A tag gives a name, which may be empty, and whether the field takes unnamed arguments: if
it does, a comma stands behind the name, and the mark for it between blanks behind that.
-/
inductive Gives : List Char → List Char → Bool → Prop
  | name {part : List Char} : ',' ∉ part → Gives part part false
  | positional {part left right : List Char} : ',' ∉ part → IsGap left → IsGap right →
      Gives (part ++ ',' :: (left ++ (positionalFlag.toList ++ right))) part true

theorem comma_not_mem_of_isGap {cs : List Char} (h : IsGap cs) : ',' ∉ cs := by
  intro hmem
  exact absurd (h _ hmem) (by decide)

theorem comma_not_mem_flag {left right : List Char} (hleft : IsGap left) (hright : IsGap right) :
    ',' ∉ left ++ (positionalFlag.toList ++ right) := by
  have hflag : ',' ∉ positionalFlag.toList := by decide
  simp [comma_not_mem_of_isGap hleft, comma_not_mem_of_isGap hright, hflag]

/-- Of a tag that gives a name, the name is judged. -/
theorem binding_of_gives {field s : String} {part : List Char} {positional : Bool}
    (h : Gives s.toList part positional) :
    (text s).binding field = checkName field (nameOr field part) positional := by
  rw [binding]
  generalize hcs : s.toList = cs at h
  cases h with
  | name hpart => rw [List.splitOn_eq_singleton hpart]
  | @positional _ left right hpart hleft hright =>
    have htrim : trimBlanks (left ++ (positionalFlag.toList ++ right)) = positionalFlag.toList :=
      trimBlanks_append hleft hright rfl (by decide)
    rw [List.splitOn_append_cons_self_of_not_mem hpart,
      List.splitOn_eq_singleton (comma_not_mem_flag hleft hright)]
    simp only [htrim, if_true]

/-- A tag that gives no name is misconfigured. -/
theorem binding_of_not_gives {field s : String}
    (h : ∀ part positional, ¬ Gives s.toList part positional) :
    (text s).binding field = .error (.ofProblem (.tag (.misconfigured field s))) := by
  rw [binding]
  have hcomma : ',' ∈ s.toList := by
    by_contra hnone
    exact h _ _ (.name hnone)
  obtain ⟨part, behind, hsplit, hpart⟩ := List.eq_append_cons_of_mem hcomma
  rw [hsplit, List.splitOn_append_cons_self_of_not_mem hpart]
  by_cases hmore : ',' ∈ behind
  · obtain ⟨second, rest, rfl, hsecond⟩ := List.eq_append_cons_of_mem hmore
    rw [List.splitOn_append_cons_self_of_not_mem hsecond]
    obtain ⟨third, others, hrest⟩ := List.exists_cons_of_ne_nil (List.splitOn_ne_nil ',' rest)
    rw [hrest]
  · rw [List.splitOn_eq_singleton hmore]
    have hflag : trimBlanks behind ≠ positionalFlag.toList := by
      intro hflag
      obtain ⟨left, right, hleft, hright, hbehind⟩ := exists_trimBlanks behind
      rw [hflag] at hbehind
      rw [hsplit, hbehind] at h
      exact h _ _ (.positional hpart hleft hright)
    simp only [if_neg hflag]

/-! ## The judgment on a name -/

/-- A name can be matched exactly if it could be typed with letters for its stray characters. -/
theorem isUnmatchable_eq_false_iff {cs : List Char} (hcs : cs ≠ []) :
    isUnmatchable cs = false ↔ IsBareWord (lettered cs) := by
  rw [isBareWord_lettered_iff]
  cases cs with
  | nil => exact absurd rfl hcs
  | cons c cs => simp [isUnmatchable, and_assoc]

/-- A name that could be typed with letters for its strays is accepted as it is. -/
theorem checkName_of_isBareWord {field : String} {cs : List Char} {positional : Bool}
    (h : IsBareWord (lettered cs)) :
    checkName field cs positional = .ok (String.ofList cs, positional) := by
  cases cs with
  | nil => exact absurd rfl h.ne_nil
  | cons c cs =>
    rw [checkName, (isUnmatchable_eq_false_iff (List.cons_ne_nil c cs)).2 h]
    rfl

/-- A name that could not be typed even with letters for its strays is refused. -/
theorem checkName_of_not_isBareWord {field : String} {cs : List Char} {positional : Bool}
    (hcs : cs ≠ []) (h : ¬ IsBareWord (lettered cs)) :
    checkName field cs positional =
      .error (.ofProblem (.tag (.unmatchable field (String.ofList cs)))) := by
  cases cs with
  | nil => exact absurd rfl hcs
  | cons c cs =>
    rw [← isUnmatchable_eq_false_iff hcs, Bool.not_eq_false] at h
    rw [checkName, if_pos h]

/-- The binding name of a field whose tag has a name, or nothing, in front of the comma. -/
def nameFor (field : String) (part : List Char) : String := String.ofList (nameOr field part)

theorem isTypedName_nameFor_iff (field : String) (part : List Char) :
    IsTypedName (withLetters (nameFor field part)) ↔ IsBareWord (lettered (nameOr field part)) := by
  rw [isTypedName_iff, toList_withLetters, nameFor, String.toList_ofList]

/-- Why a tag is refused: it has not the form of one, or no argument can have its name. -/
inductive Refuses (field s : String) : Failure → Prop
  | misconfigured :
      (∀ part positional, ¬ Gives s.toList part positional) →
      Refuses field s (.ofProblem (.tag (.misconfigured field s)))
  | unmatchable {part : List Char} {positional : Bool} :
      Gives s.toList part positional → ¬ IsTypedName (withLetters (nameFor field part)) →
      Refuses field s (.ofProblem (.tag (.unmatchable field (nameFor field part))))

/-- Of a tag that gives a name, the name is taken if it can be typed, strays apart. -/
theorem binding_of_isTypedName {field s : String} {part : List Char} {positional : Bool}
    (hgives : Gives s.toList part positional)
    (hname : IsTypedName (withLetters (nameFor field part))) :
    (text s).binding field = .ok (nameFor field part, positional) := by
  rw [binding_of_gives hgives]
  exact checkName_of_isBareWord ((isTypedName_nameFor_iff field part).1 hname)

/-- What is refused is refused with that failure. -/
theorem Refuses.binding_eq {field s : String} (hfield : field ≠ "") {failure : Failure}
    (h : Refuses field s failure) : (text s).binding field = .error failure := by
  cases h with
  | misconfigured hnot => exact binding_of_not_gives hnot
  | unmatchable hgives hname =>
    rw [isTypedName_nameFor_iff] at hname
    rw [binding_of_gives hgives]
    exact checkName_of_not_isBareWord (nameOr_ne_nil hfield _) hname

/-- A tag gives a name or is refused. -/
theorem accepts_or_refuses (field s : String) :
    (∃ part positional, Gives s.toList part positional ∧
      IsTypedName (withLetters (nameFor field part))) ∨ ∃ failure, Refuses field s failure := by
  by_cases hgives : ∃ part positional, Gives s.toList part positional
  · obtain ⟨part, positional, hgives⟩ := hgives
    by_cases hname : IsTypedName (withLetters (nameFor field part))
    · exact .inl ⟨part, positional, hgives, hname⟩
    · exact .inr ⟨_, .unmatchable hgives hname⟩
  · exact .inr ⟨_, .misconfigured fun part positional h => hgives ⟨part, positional, h⟩⟩

/-- The name and the place that a tag gives, and when it gives them. -/
theorem binding_eq_ok_iff {field s : String} (hfield : field ≠ "") {name : String}
    {positional : Bool} :
    (text s).binding field = .ok (name, positional) ↔
      ∃ part, Gives s.toList part positional ∧ name = nameFor field part ∧
        IsTypedName (withLetters name) := by
  constructor
  · intro h
    rcases accepts_or_refuses field s with ⟨part, positional', hgives, hname⟩ | ⟨failure, hrefuses⟩
    · rw [binding_of_isTypedName hgives hname] at h
      cases h
      exact ⟨part, hgives, rfl, hname⟩
    · rw [hrefuses.binding_eq hfield] at h
      cases h
  · rintro ⟨part, hgives, rfl, hname⟩
    exact binding_of_isTypedName hgives hname

/-- The tags that are refused, and with which failure. -/
theorem binding_eq_error_iff {field s : String} (hfield : field ≠ "") {failure : Failure} :
    (text s).binding field = .error failure ↔ Refuses field s failure := by
  constructor
  · intro h
    rcases accepts_or_refuses field s with ⟨part, positional, hgives, hname⟩ | ⟨reason, hrefuses⟩
    · rw [binding_of_isTypedName hgives hname] at h
      cases h
    · rw [hrefuses.binding_eq hfield] at h
      cases h
      exact hrefuses
  · exact fun h => h.binding_eq hfield

end BindingTag

/-! ## Fields and the lines that reach them -/

/--
A binding name is a bare word if nothing in it is stray and the field's own name is one.
-/
theorem Schema.isBareWord_of_mem_plan {s : Schema} {p : Plan} (hp : s.plan = .ok p)
    (hfields : ∀ f ∈ s.fields, IsBareWord f.name.toList) {b : FieldBinding}
    (hb : b ∈ p.bindings) (hstray : ∀ c ∈ b.name.toList, isStray c = false) :
    IsBareWord b.name.toList := by
  obtain ⟨f, hf, -, htag, -⟩ := Schema.exists_field_of_mem_plan hp hb
  have hword := hfields f hf
  cases hkind : f.tag with
  | absent =>
    rw [hkind, BindingTag.binding_absent] at htag
    simp only [Except.ok.injEq, Prod.mk.injEq] at htag
    rw [← htag.1]
    exact isBareWord_lowercase hword
  | other type =>
    rw [hkind] at htag
    cases htag
  | text tag =>
    have hname : f.name ≠ "" := by
      intro hempty
      rw [hempty] at hword
      exact hword.ne_nil rfl
    rw [hkind, BindingTag.binding_eq_ok_iff hname] at htag
    obtain ⟨part, -, -, htyped⟩ := htag
    rwa [withLetters_eq_self hstray, isTypedName_iff] at htyped

/-- An argument with the name of a binding goes to the field of the binding. -/
theorem Plan.route?_of_name {p : Plan} (hp : (p.bindings.map (·.name)).Nodup)
    {b : FieldBinding} (hb : b ∈ p.bindings) {a : Argument} (hname : a.name = b.name)
    (hne : a.name ≠ "") (place : Nat) : p.route? place a = some ⟨b, a.value, place⟩ := by
  have hfound := (Plan.find?_eq_some_iff hp).2 ⟨hb, hname.symm⟩
  rw [Plan.route?, if_neg hne, hfound]
  rfl

/-- A field with a bare word for its binding name is reached by name from some line. -/
theorem Plan.exists_route?_of_isBareWord {p : Plan} (hp : (p.bindings.map (·.name)).Nodup)
    {b : FieldBinding} (hb : b ∈ p.bindings) (hword : IsBareWord b.name.toList) {value : String}
    (hvalue : CanQuote value.toList ∨ IsBareWord value.toList) :
    ∃ line a, tokenize line = .ok [a] ∧ a.name = b.name ∧ a.value = value ∧
      ∀ place, p.route? place a = some ⟨b, value, place⟩ := by
  have hspell := (exists_canSpell_iff hword.ne_nil value.toList).2 ⟨hword, hvalue⟩
  obtain ⟨line, a, hline, hname, rfl⟩ := (exists_tokenize_singleton_iff b.name value).2 hspell
  have hne : a.name ≠ "" := by
    intro hempty
    rw [← hname, hempty] at hword
    exact hword.ne_nil rfl
  exact ⟨line, a, hline, hname, rfl, Plan.route?_of_name hp hb hname hne⟩

namespace BindingTag

/--
The names of fields.  A tag is accepted exactly if it gives a name that could be typed with
letters for its stray characters, where nothing stands for the field's own name in lower
case; the answer is that name and whether there was a comma.  Every other tag is refused,
with trouble about the tag.  For a name without stray characters the letters change
nothing, and a name with one is given by no line.  So in a plan every field whose binding
name holds nothing stray is reached by that name, from a line of one argument, with every
value that can be written at all.
-/
theorem binding_typed {field : String} (hfield : field ≠ "") (tag : String) :
    (∀ name positional, (text tag).binding field = .ok (name, positional) ↔
      ∃ part, Gives tag.toList part positional ∧ name = nameFor field part ∧
        IsTypedName (withLetters name)) ∧
    (∀ failure, (text tag).binding field = .error failure ↔ Refuses field tag failure) ∧
    (∀ name : String, (∀ c ∈ name.toList, isStray c = false) →
      (IsTypedName (withLetters name) ↔ IsTypedName name)) ∧
    (∀ name : String, IsTypedName name → ∀ c ∈ name.toList, isStray c = false) ∧
    ∀ (s : Schema) (p : Plan), s.plan = .ok p →
      (∀ f ∈ s.fields, IsBareWord f.name.toList) →
      ∀ b ∈ p.bindings, (∀ c ∈ b.name.toList, isStray c = false) →
      ∀ value : String, (CanQuote value.toList ∨ IsBareWord value.toList) →
        ∃ line a, tokenize line = .ok [a] ∧ a.name = b.name ∧ a.value = value ∧
          ∀ place, p.route? place a = some ⟨b, value, place⟩ := by
  refine ⟨fun name positional => binding_eq_ok_iff hfield,
    fun failure => binding_eq_error_iff hfield, ?_, ?_, ?_⟩
  · intro name hstray
    rw [withLetters_eq_self hstray]
  · intro name htyped
    rw [isTypedName_iff, isBareWord_iff_lettered] at htyped
    exact htyped.2
  · intro s p hplan hfields b hb hstray value hvalue
    have hword := Schema.isBareWord_of_mem_plan hplan hfields hb hstray
    exact Plan.exists_route?_of_isBareWord (Schema.plan_eq_ok hplan).1 hb hword hvalue

/-- A schema with one field that takes unnamed arguments and is bound by its own name. -/
def visit : Schema where
  name := "Visit"
  fields := [
    { name := "Site", type := .builtin .text, default := some (.text ""),
      tag := .text ", positional" }]

/-- The binding of the field of visits. -/
def visitBinding : FieldBinding := ⟨"Site", "site", true, .builtin .text, false⟩

/-- The field of a visit is bound by its name in lower case and reached by it. -/
theorem binding_typed_visit :
    (text ", positional").binding "Site" = .ok ("site", true) ∧
      visit.plan = .ok ⟨"Visit", [visitBinding]⟩ ∧
      ∃ line a, tokenize line = .ok [a] ∧ a.name = "site" ∧ a.value = "old town" ∧
        ∀ place, Plan.route? ⟨"Visit", [visitBinding]⟩ place a =
          some ⟨visitBinding, "old town", place⟩ := by
  have hfield : "Site" ≠ "" := by decide
  obtain ⟨haccepts, -, -, -, hreach⟩ := binding_typed hfield ", positional"
  have hblank : IsGap [' '] := by
    intro c hc
    obtain rfl := List.mem_singleton.1 hc
    decide
  have hnothing : IsGap [] := by
    intro c hc
    cases hc
  have hgives : Gives ", positional".toList [] true :=
    .positional List.not_mem_nil hblank hnothing
  have hplan : visit.plan = .ok ⟨"Visit", [visitBinding]⟩ := by rfl
  have hstray : ∀ c ∈ visitBinding.name.toList, isStray c = false := by
    simp [visitBinding, isStray, isControl]
  refine ⟨(haccepts "site" true).2 ⟨[], hgives, by decide +kernel, ?_⟩, hplan, ?_⟩
  · rw [isTypedName_iff]
    exact isBareWord_of_isWord (List.all_eq_true.1 (by decide)) (by decide)
  · refine hreach visit _ hplan ?_ visitBinding (List.mem_singleton_self _) hstray
      "old town" (.inl (by simp [CanQuote, escapeChar]))
    intro f hf
    obtain rfl := List.mem_singleton.1 hf
    exact isBareWord_of_isWord (List.all_eq_true.1 (by decide)) (by decide)

/-- A tag is accepted for a name with a stray character in it, which no line gives. -/
theorem binding_bell :
    (text bellName).binding "x" = .ok (bellName, false) ∧ ¬ IsTypedName bellName := by
  refine ⟨by decide +kernel, ?_⟩
  rw [isTypedName_iff]
  exact not_isBareWord_bellName

end BindingTag

end TypedCommands
