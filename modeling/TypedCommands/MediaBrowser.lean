import TypedCommands.Command

/-!
# A media browser

A sample table of commands for a browser of scenes and galleries, with the schemas
of its records.  It is the table that lines are resolved against unless another one
is named.

Main results:

- Theorem `SortKey.parse_eq_none_iff`: a text is no sort key exactly when it consists
  of hyphens only.
-/

namespace TypedCommands

/-- What to sort by, and in which direction. -/
structure SortKey where
  /-- The property to sort by. -/
  key : String := "date"
  /-- Whether the greatest comes first. -/
  descending : Bool := false
  deriving DecidableEq, Repr

namespace SortKey

/-- A key with a hyphen in front if the greatest comes first. -/
def render (k : SortKey) : String := (if k.descending then "-" else "") ++ k.key

/-- The key behind any number of hyphens; one hyphen or more means descending. -/
def parse (text : String) : Option SortKey :=
  let cs := text.toList
  let key := cs.dropWhile (· == '-')
  if key.isEmpty then none else some ⟨String.ofList key, cs.head? == some '-'⟩

/-- Nothing is left behind the hyphens of a text of hyphens only. -/
theorem dropWhile_hyphens_eq_nil_iff (cs : List Char) :
    cs.dropWhile (· == '-') = [] ↔ ∀ c ∈ cs, c = '-' := by
  induction cs with
  | nil => simp
  | cons c cs ih =>
    by_cases h : c = '-'
    · simp [h, ih]
    · simp [h]

/-- Texts of hyphens only are no sort keys, and all others are. -/
theorem parse_eq_none_iff (text : String) :
    parse text = none ↔ ∀ c ∈ text.toList, c = '-' := by
  rw [← dropWhile_hyphens_eq_nil_iff]
  simp only [parse, List.isEmpty_iff]
  split <;> simp_all only [reduceCtorEq]

/-- A sort key as a value: a record with a text of its own. -/
def toValue (k : SortKey) : Value :=
  .record "Sort" (some (.made k.render))
    [("key", some (.text k.key)), ("descending", some (.bool k.descending))]

/-- The class of sort keys. -/
def valueClass : ValueClass :=
  { name := "Sort"
    qualifiedName := "Sort"
    home := "cmdlang.demo"
    parse := some fun text =>
      match parse text with
      | some k => .ok k.toValue
      | none => .error (.defect (.refused "empty sort key")) }

end SortKey

namespace MediaBrowser

/-- The schema of sort keys; its records cannot be changed. -/
def sortKey : Schema :=
  { name := "Sort"
    fields := [
      { name := "key", type := .builtin .text, default := some (.text "date") },
      { name := "descending", type := .builtin .flag, default := some (.bool false) }]
    frozen := true }

/-- A type that also allows no value. -/
def orNone (t : FieldType) : FieldType := .unionOf .short [t, .nothing]

/-- The field of the text that is searched for. -/
def queryField : Field :=
  { name := "query", type := .builtin .text, default := some (.text ""),
    tag := .text ",positional" }

/-- The field of the order of what is listed. -/
def sortField : Field :=
  { name := "sort", type := .defined SortKey.valueClass, default := some (SortKey.toValue {}) }

/-- The field of the page that is listed. -/
def pageField : Field := { name := "page", type := .builtin .integer, default := some (.int 1) }

/-- A search for scenes. -/
def sceneQuery : Schema :=
  { name := "SceneQuery"
    fields := [
      queryField,
      sortField,
      { name := "organised", type := orNone (.builtin .flag), default := some .null },
      { name := "tags", type := .container .list [.builtin .text], default := some (.list []) },
      pageField] }

/-- A search for galleries. -/
def galleryQuery : Schema :=
  { name := "GalleryQuery"
    fields := [
      queryField,
      sortField,
      { name := "before", type := orNone (.builtin .date), default := some .null },
      pageField] }

/-- A request to open items. -/
def openItem : Schema :=
  { name := "OpenItem"
    fields := [
      { name := "ids", type := .container .list [.builtin .text], default := some (.list []),
        tag := .text "id,positional" }] }

/-- A request to delete a scene. -/
def deleteScene : Schema :=
  { name := "DeleteScene"
    fields := [
      { name := "id", type := .builtin .text, default := some (.text ""),
        tag := .text ",positional" },
      { name := "force", type := .builtin .flag, default := some (.bool false) }] }

/-- A request to leave. -/
def quit : Schema := { name := "Quit", fields := [], frozen := true }

/-- The commands of the browser. -/
def commands? : Except Problem CommandTable := do
  let openScenes ← Command.binding (.schema openItem) [] "Open scenes by id"
  let delete ← Command.binding (.schema deleteScene) [] "Delete a scene"
  let scenes ← Command.binding (.schema sceneQuery)
    [(.text "open", .command openScenes), (.text "delete", .command delete)]
    "List scenes matching a filter"
  let openGalleries ← Command.binding (.schema openItem) [] "Open galleries by id"
  let galleries ← Command.binding (.schema galleryQuery)
    [(.text "open", .command openGalleries)] "List galleries matching a filter"
  let leave ← Command.constant (.record quit.blank) [] "Leave the application"
  CommandTable.ofEntries
    [(.text "scenes", .command scenes), (.text "galleries", .command galleries),
      (.text "quit", .command leave)]

/-- The table of the browser. -/
def commands : CommandTable :=
  match commands? with
  | .ok t => t
  | .error _ => ⟨[]⟩

end MediaBrowser

/-- The schema of arguments themselves; its records cannot be changed. -/
def Argument.schema : Schema :=
  { name := "Argument"
    fields := [
      { name := "raw", type := .builtin .text },
      { name := "name", type := .builtin .text, default := some (.text "") },
      { name := "value", type := .builtin .text, default := some (.text "") },
      { name := "start", type := .builtin .integer, default := some (.int 0) }]
    frozen := true }

end TypedCommands
