import TypedCommands.Document.Yaml.Library
import TypedCommands.Proofs.Document.Yaml.Rereading
import TypedCommands.Proofs.Document.Yaml.Tokens

/-!
# Written arguments as nodes and values

The tokens of the text of a list of arguments make up one mapping with one key, a
sequence of mappings with four keys each.  What the nodes stand for are the texts that
are restored and the starts, so that the arguments come back in their order; only a start
of more digits than a numeral may have stands for nothing.

Main results:

- Theorem `document_documentTokens`: the node of the text of a list of arguments.
- Theorem `value_documentNode`: what that node stands for.
-/

namespace TypedCommands.Yaml

/-! ## Nodes -/

/-- The node of a written text. -/
def textNode (text : String) : Node :=
  .scalar (styleOf text.toList == .plain) (String.ofList (restored text.toList))

/-- The pairs of a written argument. -/
def argumentPairs (a : Argument) : List (Node × Node) := [
  (.scalar true "name", textNode a.name), (.scalar true "raw", textNode a.raw),
  (.scalar true "start", .scalar true (toString a.start)), (.scalar true "value", textNode a.value)]

/-- The node of a written list of arguments. -/
def documentNode (arguments : List Argument) : Node :=
  .mapping [(.scalar true "arguments",
    .sequence (arguments.map fun a => .mapping (argumentPairs a)))]

variable (last : Fault) (fuel : Nat) {rest : List Token}

/-- A pair of a key and the node behind its colon. -/
theorem readBlockPairs_pair (key : String) {ts : List Token} {value : Node}
    (hvalue : orEmpty (readNode last (fuel + 1) .entry) last [.key, .value, .blockEnd] ts =
      .ok (value, rest)) :
    readBlockPairs last (fuel + 2) (.key :: .scalar true key :: .value :: ts) =
      (readBlockPairs last (fuel + 1) rest).map fun r =>
        ((.scalar true key, value) :: r.1, r.2) := by
  have hkey : orEmpty (readNode last (fuel + 1) .entry) last [.key, .value, .blockEnd]
      (.scalar true key :: .value :: ts) = .ok (.scalar true key, .value :: ts) := rfl
  have hbehind : valueOrEmpty (readNode last (fuel + 1) .entry) last [.key, .value, .blockEnd]
      (.value :: ts) = .ok (value, rest) := hvalue
  rw [readBlockPairs]
  simp only [hkey, hbehind]

/-- An entry of scalars is read as a pair in front of the others. -/
theorem readBlockPairs_entry (key : String) (plain : Bool) (text : String) :
    readBlockPairs last (fuel + 2) (entryTokens key (.scalar plain text) ++ rest) =
      (readBlockPairs last (fuel + 1) rest).map fun r =>
        ((.scalar true key, .scalar plain text) :: r.1, r.2) :=
  readBlockPairs_pair last fuel key rfl

theorem readBlockPairs_end : readBlockPairs last (fuel + 1) (.blockEnd :: rest) = .ok ([], rest) :=
  rfl

/-- The tokens of an argument behind the mark of its item. -/
theorem readNode_argument (a : Argument) (position : Position) (hposition : position ≠ .flow) :
    readNode last (fuel + 7) position ((argumentTokens a).tail ++ rest) =
      .ok (.mapping (argumentPairs a), rest) := by
  have htokens : (argumentTokens a).tail ++ rest =
      .blockMapping :: (entryTokens "name" (textToken a.name.toList) ++
        (entryTokens "raw" (textToken a.raw.toList) ++
          (entryTokens "start" (numberToken a.start) ++
            (entryTokens "value" (textToken a.value.toList) ++ .blockEnd :: rest)))) := by
    simp [argumentTokens]
  rw [htokens, readNode, if_neg hposition, textToken, textToken, textToken, numberToken]
  rw [readBlockPairs_entry, readBlockPairs_entry, readBlockPairs_entry, readBlockPairs_entry,
    readBlockPairs_end]
  rfl

/-- The items of a written list of arguments. -/
theorem readEntryItems_arguments {fuel : Nat} (arguments : List Argument)
    (hfuel : arguments.length + 8 ≤ fuel) :
    readEntryItems last fuel (arguments.flatMap argumentTokens ++ .blockEnd :: rest) =
      .ok (arguments.map fun a => .mapping (argumentPairs a), .blockEnd :: rest) := by
  induction arguments generalizing fuel with
  | nil =>
    obtain ⟨fuel, rfl⟩ : ∃ n, fuel = n + 1 := ⟨fuel - 1, by simp at hfuel; omega⟩
    rfl
  | cons a arguments ih =>
    obtain ⟨fuel, rfl⟩ : ∃ n, fuel = n + 7 + 1 := ⟨fuel - 8, by omega⟩
    have htokens : (a :: arguments).flatMap argumentTokens ++ .blockEnd :: rest =
        .item :: ((argumentTokens a).tail ++
          (arguments.flatMap argumentTokens ++ .blockEnd :: rest)) := by
      simp [argumentTokens]
    have hnode : orEmpty (readNode last (fuel + 7) .block) last [.item, .key, .value, .blockEnd]
        ((argumentTokens a).tail ++ (arguments.flatMap argumentTokens ++ .blockEnd :: rest)) =
          .ok (.mapping (argumentPairs a), arguments.flatMap argumentTokens ++ .blockEnd :: rest) :=
      readNode_argument last fuel a .block (by decide)
    rw [htokens, readEntryItems, hnode]
    have hothers := ih (show arguments.length + 8 ≤ fuel + 7 by simp at hfuel; omega)
    simp only [hothers]
    rfl

/-- A written list of arguments as the value of its key. -/
theorem readNode_arguments {arguments : List Argument} (h : arguments ≠ [])
    (hfuel : arguments.length + 8 ≤ fuel) :
    orEmpty (readNode last (fuel + 1) .entry) last [.key, .value, .blockEnd]
      (arguments.flatMap argumentTokens ++ .blockEnd :: rest) =
        .ok (.sequence (arguments.map fun a => .mapping (argumentPairs a)), .blockEnd :: rest) := by
  have hitems : readEntryItems last fuel (arguments.flatMap argumentTokens ++ .blockEnd :: rest) =
      .ok (arguments.map fun a => .mapping (argumentPairs a), .blockEnd :: rest) :=
    readEntryItems_arguments last arguments hfuel
  obtain ⟨a, others, rfl⟩ := List.exists_cons_of_ne_nil h
  obtain ⟨more, hmore⟩ : ∃ more, (a :: others).flatMap argumentTokens ++ .blockEnd :: rest =
      .item :: more := ⟨_, rfl⟩
  rw [hmore] at hitems ⊢
  have hnode : readNode last (fuel + 1) .entry (.item :: more) =
      (readEntryItems last fuel (.item :: more)).map fun r => (.sequence r.1, r.2) := rfl
  rw [hitems] at hnode
  exact hnode

/-- Every argument has at least one token. -/
theorem length_le_flatMap_argumentTokens (arguments : List Argument) :
    arguments.length ≤ (arguments.flatMap argumentTokens).length := by
  induction arguments with
  | nil => simp
  | cons a arguments ih =>
    simp only [List.flatMap_cons, List.length_append, List.length_cons, argumentTokens]
    omega

/-- The node of the text of a list of arguments. -/
theorem document_documentTokens {arguments : List Argument} (h : arguments ≠ []) :
    document last (documentTokens arguments) = .ok (some (documentNode arguments)) := by
  have hlength := length_le_flatMap_argumentTokens arguments
  obtain ⟨fuel, hfuel⟩ : ∃ n, 4 * (documentTokens arguments).length + 4 = n + 4 := ⟨_, rfl⟩
  have henough : arguments.length + 8 ≤ fuel + 1 := by
    simp only [documentTokens, List.length_append, List.length_cons, List.length_nil] at hfuel
    omega
  have hdocument : documentTokens arguments = .blockMapping :: .key :: .scalar true "arguments" ::
      .value :: (arguments.flatMap argumentTokens ++ [.blockEnd, .streamEnd]) := by
    simp [documentTokens]
  have hpairs : readBlockPairs last (fuel + 3) (.key :: .scalar true "arguments" :: .value ::
      (arguments.flatMap argumentTokens ++ [.blockEnd, .streamEnd])) =
        .ok ([(.scalar true "arguments",
          .sequence (arguments.map fun a => .mapping (argumentPairs a)))], [.streamEnd]) := by
    rw [readBlockPairs_pair last (fuel + 1) "arguments"
      (readNode_arguments last (fuel + 1) h henough)]
    rfl
  have hread : readNode last (fuel + 4) .block (documentTokens arguments) =
      .ok (documentNode arguments, [.streamEnd]) := by
    rw [hdocument, readNode, if_neg (by decide), hpairs]
    rfl
  rw [hdocument] at hfuel hread ⊢
  simp only [document, hfuel, hread]
  rfl

/-! ## Faults -/

namespace Node

variable {arguments : List Argument}

/-- Without a mark among its keys a mapping is not merged with others. -/
theorem merging_of_keys {pairs : List (Node × Node)}
    (hkeys : ∀ p ∈ pairs, ∃ key, p.1 = scalar true key ∧ key ≠ "<<" ∧ key ≠ "=") :
    merging pairs = .ok { own := pairs } := by
  induction pairs with
  | nil => rw [merging]
  | cons p pairs ih =>
    obtain ⟨k, v⟩ := p
    obtain ⟨key, rfl, hmerge, hdefault⟩ := hkeys _ List.mem_cons_self
    rw [merging, ih fun q hq => hkeys q (List.mem_cons_of_mem _ hq)]
    simp [isMerge, asKey, hmerge, hdefault, Except.map]

theorem merging_argumentPairs (a : Argument) :
    merging (argumentPairs a) = .ok { own := argumentPairs a } := by
  refine merging_of_keys ?_
  simp [argumentPairs]

theorem merging_documentPairs (n : Node) :
    merging [(scalar true "arguments", n)] = .ok { own := [(scalar true "arguments", n)] } := by
  refine merging_of_keys ?_
  simp

/-- A fault of some level counts exactly if none is in any level. -/
theorem firstFault?_eq_none_iff (depth : Nat) (level : List (Except Fault Node)) :
    firstFault? (depth + 1) level = none ↔
      (∀ p ∈ level, partFault? p = none) ∧ firstFault? depth (level.flatMap innerParts) = none := by
  rw [firstFault?, ← List.findSome?_eq_none_iff]
  cases level.findSome? partFault? <;> simp

/-- A text that is written without quotes stands for itself, and so does one in quotes. -/
theorem textNode_cases (text : String) :
    textNode text = scalar false (String.ofList (restored text.toList)) ∨
      textNode text = scalar true text ∧ Plain.value text = .ok (.text text) ∧
        restored text.toList = text.toList := by
  by_cases hplain : styleOf text.toList = .plain
  · refine .inr ⟨?_, value_of_styleOf_eq_plain hplain, by simp [restored, hplain]⟩
    simp [textNode, restored, hplain]
  · exact .inl (by rw [textNode, beq_false_of_ne hplain])

/-- A text that was written has no fault. -/
theorem scalarFault?_textNode (text : String) : (textNode text).scalarFault? = none := by
  rcases textNode_cases text with htext | ⟨htext, hvalue, -⟩
  · rw [htext]
    rfl
  · simp only [htext, scalarFault?, hvalue]

theorem scalarFault?_number_eq_none_iff (n : Int) :
    (scalar true (toString n)).scalarFault? = none ↔ Whole.isTooLong n = false := by
  simp only [scalarFault?, Plain.value_toString]
  cases Whole.isTooLong n <;> simp

/-- The parts of the node of an argument. -/
theorem parts_argumentPairs (a : Argument) :
    parts (mapping (argumentPairs a)) =
      (argumentPairs a).flatMap fun p => [.ok p.1, .ok p.2] := by
  simp only [parts, merging_argumentPairs, Merging.all, List.nil_append]
  rfl

/-- The keys stand for themselves. -/
theorem value_key {key : String} (h : key ∈ documentKeys) :
    Plain.value key = .ok (.text key) := by
  have hall : ∀ key ∈ documentKeys,
      (Plain.value? key.toList).isNone = true := by decide +kernel
  rw [Plain.value, Option.isNone_iff_eq_none.mp (hall key h)]
  rfl

theorem scalarFault?_key {key : String} (h : key ∈ documentKeys) :
    (scalar true key).scalarFault? = none := by
  simp only [scalarFault?, value_key h]

theorem scalarValue_key {key : String} (h : key ∈ documentKeys) :
    scalarValue true key = .text key := by
  rw [scalarValue, if_pos rfl, value_key h]
  rfl

/-- The node of an argument has no fault but that of a start of too many digits. -/
theorem partFault?_argumentPairs_iff (a : Argument) :
    (∀ p ∈ parts (mapping (argumentPairs a)), partFault? p = none) ↔
      Whole.isTooLong a.start = false := by
  have hkeys : ∀ key ∈ documentKeys, (scalar true key).scalarFault? = none :=
    fun _ => scalarFault?_key
  simp only [documentKeys, List.forall_mem_cons] at hkeys
  rw [parts_argumentPairs, ← scalarFault?_number_eq_none_iff]
  simp [argumentPairs, partFault?, hkeys, scalarFault?_textNode]

/-- No node lies inside the parts of the node of an argument. -/
theorem innerParts_argumentPairs (a : Argument) :
    (parts (mapping (argumentPairs a))).flatMap innerParts = [] := by
  rw [parts_argumentPairs]
  rfl

/-- Arguments are mappings of scalars. -/
theorem depthOfAll_le (arguments : List Argument) :
    depthOfAll (arguments.map fun a => mapping (argumentPairs a)) ≤ 2 := by
  induction arguments with
  | nil => exact Nat.zero_le 2
  | cons a arguments ih => exact max_le (Nat.le_refl 2) ih

/-- A document with arguments has four levels. -/
theorem depth_documentNode (h : arguments ≠ []) : (documentNode arguments).depth = 4 := by
  obtain ⟨a, others, rfl⟩ := List.exists_cons_of_ne_nil h
  have hitems : depthOfAll ((a :: others).map fun a => mapping (argumentPairs a)) = 2 :=
    max_eq_left (depthOfAll_le others)
  simp only [documentNode, depth, depthOfPairs, hitems]
  rfl

/-- Written arguments have a fault exactly if a start has too many digits. -/
theorem firstFault?_documentNode_iff (h : arguments ≠ []) :
    firstFault? (documentNode arguments).depth [.ok (documentNode arguments)] = none ↔
      ∀ a ∈ arguments, Whole.isTooLong a.start = false := by
  have hkey : (scalar true "arguments").scalarFault? = none := scalarFault?_key (by decide)
  -- the whole, its key and its sequence, the arguments, and what is in them
  have houter : [.ok (documentNode arguments)].flatMap innerParts =
      [.ok (scalar true "arguments"),
        .ok (sequence (arguments.map fun a => mapping (argumentPairs a)))] := by
    simp only [documentNode, List.flatMap_singleton, innerParts, parts, merging_documentPairs]
    rfl
  have hitems : [.ok (scalar true "arguments"),
      .ok (sequence (arguments.map fun a => mapping (argumentPairs a)))].flatMap innerParts =
        arguments.map fun a => .ok (mapping (argumentPairs a)) := by
    simp [innerParts, parts]
  have hparts : (arguments.map fun a => .ok (mapping (argumentPairs a))).flatMap innerParts =
      arguments.flatMap fun a => parts (mapping (argumentPairs a)) := by
    simp [List.flatMap_map, innerParts]
  have hinner : (arguments.flatMap fun a => parts (mapping (argumentPairs a))).flatMap innerParts =
      [] := by
    simp [List.flatMap_assoc, innerParts_argumentPairs]
  rw [depth_documentNode h, firstFault?_eq_none_iff, houter, firstFault?_eq_none_iff, hitems,
    firstFault?_eq_none_iff, hparts, firstFault?_eq_none_iff, hinner]
  simp only [← partFault?_argumentPairs_iff]
  constructor
  · rintro ⟨-, -, -, hall, -⟩ a ha p hp
    exact hall p (List.mem_flatMap.mpr ⟨a, ha, hp⟩)
  · intro hall
    refine ⟨?_, ?_, ?_, ?_, rfl⟩
    · simp only [List.mem_singleton, forall_eq]
      rfl
    · simp only [List.mem_cons, List.not_mem_nil, or_false, forall_eq_or_imp, forall_eq]
      exact ⟨hkey, rfl⟩
    · intro p hp
      obtain ⟨a, -, rfl⟩ := List.mem_map.mp hp
      rfl
    · intro p hp
      obtain ⟨a, ha, hp⟩ := List.mem_flatMap.mp hp
      exact hall a ha p hp

/-! ## Values -/

/-- A text stands for what is restored of it. -/
theorem valueWithin_textNode (levels : Nat) (text : String) :
    valueWithin levels (textNode text) = .text (String.ofList (restored text.toList)) := by
  rcases textNode_cases text with htext | ⟨htext, hvalue, hrestored⟩
  · rw [htext, valueWithin, scalarValue, if_neg (by simp)]
  · rw [htext, valueWithin, scalarValue, if_pos rfl, hvalue, hrestored, String.ofList_toList]
    rfl

/-- The mapping of an argument stands for its entry as it is read again. -/
theorem valueWithin_argument {a : Argument} (hstart : Whole.isTooLong a.start = false)
    (levels : Nat) :
    valueWithin (levels + 1) (mapping (argumentPairs a)) = a.rereadEntry restoredText := by
  have hnumber : scalarValue true (toString a.start) = .int a.start := by
    rw [scalarValue, if_pos rfl, Plain.value_toString, hstart]
    rfl
  have hname : scalarValue true "name" = .text "name" := scalarValue_key (by decide)
  have hraw : scalarValue true "raw" = .text "raw" := scalarValue_key (by decide)
  have hkey : scalarValue true "start" = .text "start" := scalarValue_key (by decide)
  have hvalue : scalarValue true "value" = .text "value" := scalarValue_key (by decide)
  rw [valueWithin, merging_argumentPairs]
  simp only [Merging.all, argumentPairs, List.nil_append, List.map_cons, List.map_nil,
    valueWithin_textNode, valueWithin, hname, hraw, hkey, hvalue, hnumber]
  rfl

/-- The document of arguments stands for the list of their entries. -/
theorem valueWithin_documentNode {arguments : List Argument}
    (hstarts : ∀ a ∈ arguments, Whole.isTooLong a.start = false) :
    valueWithin 4 (documentNode arguments) =
      .dict [(.text "arguments", .list (arguments.map (Argument.rereadEntry restoredText)))] := by
  have hkey : scalarValue true "arguments" = .text "arguments" := scalarValue_key (by decide)
  have hitems : (arguments.map fun a => mapping (argumentPairs a)).map (valueWithin 2) =
      arguments.map (Argument.rereadEntry restoredText) := by
    rw [List.map_map]
    exact List.map_congr_left fun a ha => valueWithin_argument (hstarts a ha) 1
  rw [documentNode, valueWithin, merging_documentPairs]
  simp only [Merging.all, List.nil_append, List.map_cons, List.map_nil, valueWithin, hkey, hitems]
  rfl

/-- What the node of a written list of arguments stands for. -/
theorem value_documentNode {arguments : List Argument} (h : arguments ≠ [])
    (hstarts : ∀ a ∈ arguments, Whole.isTooLong a.start = false) :
    (documentNode arguments).value =
      .ok (.dict
        [(.text "arguments", .list (arguments.map (Argument.rereadEntry restoredText)))]) := by
  rw [value, (firstFault?_documentNode_iff h).mpr hstarts, depth_documentNode h,
    valueWithin_documentNode hstarts]

/-- A start of too many digits stands for nothing. -/
theorem exists_fault_of_tooLong {arguments : List Argument} {a : Argument} (ha : a ∈ arguments)
    (hstart : Whole.isTooLong a.start = true) :
    ∃ fault, (documentNode arguments).value = .error fault := by
  have h : arguments ≠ [] := List.ne_nil_of_mem ha
  cases hfault : firstFault? (documentNode arguments).depth [.ok (documentNode arguments)] with
  | some fault => exact ⟨fault, by rw [value, hfault]⟩
  | none =>
    have hfine := (firstFault?_documentNode_iff h).mp hfault a ha
    rw [hstart] at hfine
    cases hfine

end Node

end TypedCommands.Yaml
