import Mathlib
import TypedCommands.Document.Yaml.Library
import TypedCommands.Proofs.Document.Yaml.Allowed
import TypedCommands.Proofs.Document.Yaml.Nodes
import TypedCommands.Proofs.Line.Spelling

/-!
# Arguments written and read back

The text of a list of arguments is one document, and what it stands for are these arguments
in their order, each with its start.  Their texts are read back with all their characters,
whatever these look like and however long the lines are, but for the line end U+0085 in a
text that is written between single quotes.  The writer and the reader of block style are a
library of this kind.

Main results:

- Theorem `Yaml.documented_library`: what is known of libraries holds of this one.
- Theorem `Argument.ofYaml_toYaml_eq_self_iff`: exactly when a list of arguments is read back
  from its text as it is.
- Theorem `Argument.ofYaml_toYaml_nextLine`: the argument of a line that is not read back.
-/

namespace TypedCommands

namespace Yaml

variable {arguments : List Argument}

/-- The text of arguments, of which there is at least one, is a document with their node. -/
theorem ofText?_writeArguments (h : arguments ≠ []) :
    Node.ofText? (String.ofList (writeArguments arguments)) =
      .ok (some (documentNode arguments)) := by
  have hallowed : (writeArguments arguments).all isAllowed = true :=
    allAllowed_writeArguments arguments
  rw [Node.ofText?, String.toList_ofList, if_pos hallowed]
  simp only [tokens_writeArguments h]
  exact document_documentTokens _ h

/-- So the text is read as what the node stands for. -/
theorem load_dump_toDocument (h : arguments ≠ []) :
    library.load (library.dump (Argument.toDocument arguments)) =
      (documentNode arguments).value := by
  rw [load_dump_eq_read, read, ofText?_writeArguments h]

/-- Without arguments there is an empty list. -/
theorem load_dump_nil :
    library.load (library.dump (Argument.toDocument [])) =
      .ok (.dict [(.text "arguments", .list [])]) := by
  have hwritten : String.ofList (writeArguments []) = "arguments: []\n" := by
    simp [writeArguments]
  rw [load_dump_eq_read, hwritten]
  cbv

/-- A text is restored unless it holds U+0085 and is written between single quotes. -/
theorem restoredText_eq_self_iff {text : String} :
    restoredText text = text ↔ IsKept isDoubled text := by
  rw [restoredText, String.ext_iff, String.toList_ofList, restored_eq_self_iff, IsKept]
  by_cases hmem : nextLineEnd ∈ text.toList
  · have hline : text.toList.any isLineEnd = true := List.any_eq_true.2 ⟨_, hmem, rfl⟩
    have hstyle : styleOf text.toList ≠ .plain := by
      rw [styleOf, hline]
      split_ifs <;> simp_all
    have hmem' : '\x85' ∈ text.toList := hmem
    cases hcase : styleOf text.toList <;> simp_all [isDoubled]
  · have hmem' : '\x85' ∉ text.toList := hmem
    simp [hmem, hmem']

/-- Next to a blank U+0085 makes a text be written in double quotes. -/
example : IsKept isDoubled "a \x85b" ∧ ¬IsKept isDoubled "a\x85b" := by decide +kernel

/-- What is known of libraries for YAML texts holds of the writer and the reader. -/
theorem documented_library : library.Documented restoredText isDoubled where
  load_dump arguments hstarts := by
    rw [Argument.reread_toDocument fun key hkey => ?_]
    · by_cases h : arguments = []
      · rw [h]
        exact load_dump_nil
      · rw [load_dump_toDocument h, Node.value_documentNode h hstarts]
    · have hkept : ∀ key ∈ Argument.documentKeys, IsKept isDoubled key := by decide +kernel
      exact restoredText_eq_self_iff.2 (hkept key hkey)
  load_tooLong arguments a ha hstart := by
    obtain ⟨fault, hfault⟩ := Node.exists_fault_of_tooLong ha hstart
    exact ⟨fault, (load_dump_toDocument (List.ne_nil_of_mem ha)).trans hfault⟩
  restored_iff _ := restoredText_eq_self_iff

end Yaml

namespace Argument

open Yaml

/--
With a library that behaves as it is known to, a list of arguments is read back from its text,
in the same order and with each raw text, name, value and start, exactly if no start has more
digits than a numeral may have and none of the texts holds U+0085 without being written in
double quotes.
-/
theorem ofYaml_toYaml_eq_self_iff {Fault : Type} {library : Yaml.Library Fault}
    {restored : String → String} {doubled : String → Bool}
    (h : library.Documented restored doubled) (arguments : List Argument) :
    ofYaml library (toYaml library arguments) = .ok arguments ↔
      ∀ a ∈ arguments, Whole.isTooLong a.start = false ∧
        IsKept doubled a.raw ∧ IsKept doubled a.name ∧ IsKept doubled a.value := by
  constructor
  · intro hsame
    have hstarts : ∀ a ∈ arguments, Whole.isTooLong a.start = false := by
      intro a ha
      by_contra htoo
      obtain ⟨fault, hfault⟩ := exists_fault_of_tooLong h ha (by simpa using htoo)
      rw [hsame] at hfault
      cases hfault
    rw [ofYaml_toYaml h hstarts, Except.ok.injEq, map_restoredBy_eq_self_iff h] at hsame
    exact fun a ha => ⟨hstarts a ha, hsame a ha⟩
  · intro hkept
    rw [ofYaml_toYaml h fun a ha => (hkept a ha).1,
      (map_restoredBy_eq_self_iff h).2 fun a ha => (hkept a ha).2]

/-- An argument that looks like a number, and one with a line end and a colon in quotes. -/
def awkwardArguments : List Argument :=
  [⟨"0x1F", "", "0x1F", 0⟩, ⟨"b=\"x: \u2028#\"", "b", "x: \u2028#", 5⟩]

/-- The writer and the reader of block style keep them. -/
theorem ofYaml_toYaml_awkward :
    library.Documented restoredText isDoubled ∧
      ofYaml library (toYaml library awkwardArguments) = .ok awkwardArguments :=
  ⟨documented_library,
    (ofYaml_toYaml_eq_self_iff documented_library awkwardArguments).2 (by decide +kernel)⟩

/-- The argument of the line that is one letter, U+0085 and another letter in quotes. -/
def nextLineArgument : Argument := ⟨"\"a\x85b\"", "", "a\x85b", 0⟩

/-- A line with U+0085 in quotes has an argument that is not read back: it has a blank there. -/
theorem ofYaml_toYaml_nextLine :
    tokenize "\"a\x85b\"" = .ok [nextLineArgument] ∧
      ofYaml library (toYaml library [nextLineArgument]) = .ok [⟨"\"a b\"", "", "a b", 0⟩] ∧
      ofYaml library (toYaml library [nextLineArgument]) ≠ .ok [nextLineArgument] := by
  have htokenize : tokenize "\"a\x85b\"" = .ok [nextLineArgument] := by cbv
  have hread : ofYaml library (toYaml library [nextLineArgument]) =
      .ok [⟨"\"a b\"", "", "a b", 0⟩] := by
    rw [ofYaml_toYaml documented_library (by decide +kernel)]
    decide +kernel
  refine ⟨htokenize, hread, ?_⟩
  rw [hread]
  decide

end Argument

end TypedCommands
