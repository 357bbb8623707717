import TypedCommands.Document.Arguments
import TypedCommands.Proofs.Document.Json.Values

/-!
# Arguments written as JSON and read back

The document of a list of arguments is made of texts, whole numbers, lists and objects with
different keys, so its text is read as the document again, in every layout.  The document
gives the arguments in their order, with their raw texts, names, values and starts.

Main results:

- Theorem `Argument.storable_toDocument`: the document of arguments can be stored.
- Theorem `Argument.read_toJson`: its text is read as the document again.
-/

namespace TypedCommands.Argument

variable {arguments : List Argument}

/-- An argument can be stored if its start is not too long. -/
theorem storable_toEntry {a : Argument} (h : Whole.isTooLong a.start = false) :
    Json.Storable a.toEntry := by
  have hentries : a.toEntry = .dict (List.map (fun e => (Value.text e.1, e.2))
      [("raw", .text a.raw), ("name", .text a.name), ("value", .text a.value),
        ("start", .int a.start)]) := rfl
  rw [hentries]
  refine .dict (by simp) ?_
  simp only [List.forall_mem_cons, List.not_mem_nil, false_imp_iff, implies_true, and_true]
  exact ⟨.text a.raw, .text a.name, .text a.value, .int h⟩

/-- So can a list of them as a document. -/
theorem storable_toDocument (h : ∀ a ∈ arguments, Whole.isTooLong a.start = false) :
    Json.Storable (toDocument arguments) := by
  have hentries : toDocument arguments = .dict (List.map (fun e => (Value.text e.1, e.2))
      [("arguments", .list (arguments.map toEntry))]) := rfl
  rw [hentries]
  refine .dict (by simp) ?_
  simp only [List.forall_mem_cons, List.not_mem_nil, false_imp_iff, implies_true, and_true]
  refine .list fun v hv => ?_
  obtain ⟨a, ha, rfl⟩ := List.mem_map.mp hv
  exact storable_toEntry (h a ha)

/--
The JSON text of a list of arguments is read as their document, which gives the arguments
again: the same ones in the same order, each with its raw text, name, value and start.  The
texts may hold any characters, and the layout makes no difference.  Only the starts may not
have more digits than a numeral may have.
-/
theorem read_toJson (hstarts : ∀ a ∈ arguments, Whole.isTooLong a.start = false)
    (layout : Json.Layout) :
    Json.read (toJson layout arguments) = .ok (toDocument arguments) ∧
      ofDocument (toDocument arguments) = .ok arguments := by
  have hstored := storable_toDocument hstarts
  refine ⟨?_, ofDocument_toDocument arguments⟩
  rw [toJson]
  exact Json.read_render hstored layout

/-- An argument with characters of every kind that JSON texts treat in their own way. -/
def awkwardArgument : Argument := ⟨"\"a\\\x01", "\x08\n\x7f", "/\u2028😀", -12⟩

/-- Escapes, characters that are written as they are and a start below zero are read back. -/
theorem read_toJson_awkward :
    toJson .oneLine [awkwardArgument] =
        "\x7b\"arguments\": [\x7b\"raw\": \"\\\"a\\\\\\u0001\", \"name\": \"\\b\\n\x7f\", " ++
          "\"value\": \"/\u2028😀\", \"start\": -12\x7d]\x7d" ∧
      Json.read (toJson .oneLine [awkwardArgument]) = .ok (toDocument [awkwardArgument]) ∧
      ofDocument (toDocument [awkwardArgument]) = .ok [awkwardArgument] :=
  ⟨by decide +kernel, read_toJson (by decide +kernel) .oneLine⟩

end TypedCommands.Argument
