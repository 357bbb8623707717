import Mathlib.Data.List.Sort
import TypedCommands.Document.Yaml

/-!
# Arguments that a library writes and reads back

What a library for YAML texts reads of the text it wrote of a document is the document with
the entries of its dictionaries in order and with its texts restored, as far as line ends
allow: in single quotes and without quotes the line end U+0085 is read as another one, and only
the escapes in double quotes keep it.  Arguments are read by the keys of their entries, so the
order of these does not matter.

Main results:

- Definition `Yaml.Library.Documented`: what is known of a library.
- Theorem `Argument.ofYaml_toYaml`: what is read back of a list of arguments.
- Theorem `Argument.restoredBy_eq_self_iff`: which arguments are read back as they are.
-/

namespace TypedCommands

/-! ## Documents that are read back -/

namespace Value

/-- Whether an entry stands in front of another one: the key of both is a text. -/
def entryLe (e f : Value × Value) : Bool :=
  match e.1, f.1 with
  | .text k, .text l => k ≤ l
  | _, _ => true

mutual

/-- A value as it is read back: keys are in order, and texts are restored. -/
def reread (restored : String → String) : Value → Value
  | .text s => .text (restored s)
  | .list items => .list (rereadItems restored items)
  | .dict entries =>
    .dict ((rereadEntries restored entries).insertionSort fun e f => entryLe e f = true)
  | v => v

/-- The items of a list as they are read back. -/
def rereadItems (restored : String → String) : List Value → List Value
  | [] => []
  | v :: rest => v.reread restored :: rereadItems restored rest

/-- The entries of a dictionary as they are read back, in the order they are given. -/
def rereadEntries (restored : String → String) : List (Value × Value) → List (Value × Value)
  | [] => []
  | (k, v) :: rest => (k.reread restored, v.reread restored) :: rereadEntries restored rest

end

/-- Items are read back one by one. -/
theorem rereadItems_eq_map (restored : String → String) (items : List Value) :
    rereadItems restored items = items.map (·.reread restored) := by
  induction items with
  | nil => rfl
  | cons v rest ih => rw [rereadItems, ih, List.map_cons]

end Value

/-- The line end that is read as another one unless it is escaped. -/
def nextLineEnd : Char := '\x85'

/-- A text is kept if it does not hold U+0085, or is written in double quotes. -/
def IsKept (doubled : String → Bool) (text : String) : Prop :=
  nextLineEnd ∈ text.toList → doubled text = true

instance (doubled : String → Bool) (text : String) : Decidable (IsKept doubled text) :=
  inferInstanceAs (Decidable (_ → _))

/--
What is known of a library: how texts are restored, and which texts it writes in double
quotes.  Only the documents of arguments are spoken of.
-/
structure Yaml.Library.Documented {Fault : Type} (library : Yaml.Library Fault)
    (restored : String → String) (doubled : String → Bool) : Prop where
  /-- A document whose numbers have numerals is read back as itself, with its texts restored. -/
  load_dump : ∀ arguments : List Argument,
    (∀ a ∈ arguments, Whole.isTooLong a.start = false) →
    library.load (library.dump (Argument.toDocument arguments)) =
      .ok ((Argument.toDocument arguments).reread restored)
  /-- A number that has more digits than a numeral may have is not read. -/
  load_tooLong : ∀ (arguments : List Argument) (a : Argument), a ∈ arguments →
    Whole.isTooLong a.start = true →
    ∃ fault, library.load (library.dump (Argument.toDocument arguments)) = .error fault
  /-- A text is restored unless U+0085 stands in it and is not escaped. -/
  restored_iff : ∀ text, restored text = text ↔ IsKept doubled text

namespace Argument

variable {Fault : Type} {library : Yaml.Library Fault} {restored : String → String}
  {doubled : String → Bool} {arguments : List Argument} {a : Argument}

/-! ## Entries -/

/-- The dictionary of an argument as it is read back. -/
def rereadEntry (restored : String → String) (a : Argument) : Value :=
  .dict [(.text "name", .text (restored a.name)), (.text "raw", .text (restored a.raw)),
    (.text "start", .int a.start), (.text "value", .text (restored a.value))]

/-- An argument as it is read back. -/
def restoredBy (restored : String → String) (a : Argument) : Argument :=
  ⟨restored a.raw, restored a.name, restored a.value, a.start⟩

/-- The keys of the documents of arguments. -/
def documentKeys : List String := ["arguments", "raw", "name", "value", "start"]

/-- None of them holds U+0085. -/
theorem restored_key (h : library.Documented restored doubled) {key : String}
    (hkey : key ∈ documentKeys) : restored key = key := by
  have hfree : ∀ key ∈ documentKeys, nextLineEnd ∉ key.toList := by decide
  exact (h.restored_iff key).2 fun hmem => absurd hmem (hfree key hkey)

/-- The document of arguments as it is read back, if its keys are restored. -/
theorem reread_toDocument (hkeys : ∀ key ∈ documentKeys, restored key = key)
    (arguments : List Argument) :
    (toDocument arguments).reread restored =
      .dict [(.text "arguments", .list (arguments.map (rereadEntry restored)))] := by
  simp only [documentKeys, List.forall_mem_cons, List.not_mem_nil, false_imp_iff,
    implies_true, and_true] at hkeys
  obtain ⟨harguments, hraw, hname, hvalue, hstart⟩ := hkeys
  have hentry : ∀ a : Argument, a.toEntry.reread restored = rereadEntry restored a := by
    intro a
    simp only [toEntry, Value.reread, Value.rereadEntries, hraw, hname, hvalue, hstart]
    rfl
  have hitems : (arguments.map toEntry).map (·.reread restored) =
      arguments.map (rereadEntry restored) := by
    rw [List.map_map]
    exact List.map_congr_left fun a _ => hentry a
  simp only [toDocument, Value.reread, Value.rereadEntries, Value.rereadItems_eq_map, hitems,
    harguments]
  rfl

/-- The order of the entries makes no difference to the argument they give. -/
theorem ofEntry_rereadEntry (restored : String → String) (a : Argument) :
    ofEntry (rereadEntry restored a) = .ok (a.restoredBy restored) := by
  simp [rereadEntry, ofEntry, valueAt?, textEntry, textOf_text, startOf, sameText, bind,
    Except.bind, pure, Except.pure, restoredBy]

/-- So arguments are read from their entries one by one. -/
theorem ofItems_rereadEntry (restored : String → String) (arguments : List Argument) :
    ofItems (arguments.map (rereadEntry restored)) = .ok (arguments.map (restoredBy restored)) := by
  induction arguments with
  | nil => rfl
  | cons a arguments ih =>
    rw [List.map_cons, ofItems, ofEntry_rereadEntry, ih]
    rfl

/-! ## Lists of arguments -/

/--
What is read back of the text of a list of arguments: as many arguments in the same order,
each with its start, and with its texts as far as they are restored.
-/
theorem ofYaml_toYaml (h : library.Documented restored doubled)
    (hstarts : ∀ a ∈ arguments, Whole.isTooLong a.start = false) :
    ofYaml library (toYaml library arguments) = .ok (arguments.map (restoredBy restored)) := by
  have hload := h.load_dump arguments hstarts
  rw [reread_toDocument fun key => restored_key h] at hload
  have hdocument : ofDocument
      (.dict [(.text "arguments", .list (arguments.map (rereadEntry restored)))]) =
        .ok (arguments.map (restoredBy restored)) := by
    rw [← ofItems_rereadEntry]
    simp [ofDocument, valueAt?, sameText, itemsOf]
  simp [ofYaml, toYaml, hload, Value.isNothing, hdocument]

/-- A start of too many digits is not read back. -/
theorem exists_fault_of_tooLong (h : library.Documented restored doubled) (ha : a ∈ arguments)
    (hstart : Whole.isTooLong a.start = true) :
    ∃ fault, ofYaml library (toYaml library arguments) = .error fault := by
  obtain ⟨fault, hload⟩ := h.load_tooLong arguments a ha hstart
  exact ⟨.text fault, by rw [ofYaml, toYaml, hload]⟩

/-- An argument is read back as it is if all of its texts are kept. -/
theorem restoredBy_eq_self_iff (h : library.Documented restored doubled) :
    a.restoredBy restored = a ↔
      IsKept doubled a.raw ∧ IsKept doubled a.name ∧ IsKept doubled a.value := by
  obtain ⟨raw, name, value, start⟩ := a
  simp [restoredBy, h.restored_iff]

/-- So is a list of arguments if this holds of each. -/
theorem map_restoredBy_eq_self_iff (h : library.Documented restored doubled) :
    arguments.map (restoredBy restored) = arguments ↔
      ∀ a ∈ arguments, IsKept doubled a.raw ∧ IsKept doubled a.name ∧ IsKept doubled a.value := by
  have hsame : arguments.map (restoredBy restored) = arguments ↔
      ∀ a ∈ arguments, a.restoredBy restored = a := by
    simpa using List.map_inj_left (f := restoredBy restored) (g := id) (l := arguments)
  rw [hsame]
  exact forall₂_congr fun a _ => restoredBy_eq_self_iff h

end Argument

end TypedCommands
