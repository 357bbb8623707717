import TypedCommands.Proofs.Record.PlainView
import TypedCommands.Proofs.Shell.Status

/-!
# What is shown of an answer

What a command answers to a line is shown in full, as far as its texts mean themselves to the
console: the message of an error behind a heading, the public fields of a record in the rows
of a table, and any other value in its shown form.  Marks, names of pictures and backslashes
in front of brackets do not mean themselves, whoever typed them.

Main results:

- Theorem `ofFields_of_isShown`: what there is to see of the fields of a record.
- Theorem `Host.perform_displays`: what a run on a line shows of the answer.
- Theorem `resolve_boldMark`: a name that is a mark is not shown.
-/

namespace TypedCommands

namespace Shell

open TypedCommands.Text
open Console (IsLiteral Metrics RowShows Wraps filter_printLines isLiteral_of_isHarmless isHarmless
  lightBar printLines)

variable {host : Host} {metrics : Metrics} {line : String}

/-! ## Answers to lines -/

/-- A request gets an answer to a line from what it names. -/
inductive Answers (host : Host) (line : String) : Request → Except Failure Outcome → Prop
  /-- The line is bound to a new record of a class. -/
  | bind {target : String} {c : Candidate} : host.Names target (.kind c) →
      Answers host line (.bind line target) ((c.bindNew (Source.ofLine line)).map .record)
  /-- The line is resolved against a table. -/
  | resolve {table : String} {t : CommandTable} : host.Names table (.table t) →
      Answers host line (.resolve line table) (t.resolve (Source.ofLine line))

/-- The answer to a request is shown. -/
theorem Answers.perform_eq {request : Request} {answer : Except Failure Outcome}
    (h : Answers host line request answer) :
    host.perform request = conclude host.console line answer := by
  cases h with
  | bind hnames => exact perform_bind_of_names line hnames
  | resolve hnames => exact perform_resolve_of_names line hnames

/-! ## Fields -/

/-- A cell holds the name of a field and the shown form of the plain view of its value. -/
def IsShown (field : String × Option Value) (cell : String × String) : Prop :=
  field.1 = cell.1 ∧
    ∃ v plain, field.2 = some v ∧ v.plain = .ok plain ∧ plain.asShown = .ok cell.2

/-- The forms of several fields can be made if each of them can. -/
theorem fieldCells_cons {name shown : String} {v : Value} {fields : List (String × Value)}
    {cells : List (String × String)} (hv : v.asShown = .ok shown)
    (h : fieldCells fields = .ok cells) :
    fieldCells ((name, v) :: fields) = .ok ((name, shown) :: cells) := by
  rw [fieldCells, hv, h]
  rfl

/-- Fields are viewed with the forms of their plain values. -/
theorem ofFields_of_isShown (name : String) {fields : List (String × Option Value)}
    {cells : List (String × String)} (h : List.Forall₂ IsShown (publicFields fields) cells) :
    View.ofFields name (plainValues fields) = .ok (.record name cells) := by
  have hviews : ∃ views, List.Forall₂
        (fun f e => f.1 = e.1 ∧ ∃ v, f.2 = some v ∧ v.plain = .ok e.2) (publicFields fields) views ∧
      fieldCells views = .ok cells := by
    generalize publicFields fields = listed at h
    induction h with
    | nil => exact ⟨[], .nil, rfl⟩
    | cons hfirst _ ih =>
      obtain ⟨hname, v, plain, hv, hplain, hshown⟩ := hfirst
      obtain ⟨views, hall, hcells⟩ := ih
      exact ⟨(_, plain) :: views, .cons ⟨hname, v, hv, hplain⟩ hall, fieldCells_cons hshown hcells⟩
  obtain ⟨views, hall, hcells⟩ := hviews
  rw [plainValues_eq_ok_iff.2 hall, View.ofFields, hcells]
  rfl

/-- The cells that are shown for an answer that is a record: one pair for each public field. -/
inductive ShownFields : Except Failure Outcome → String → List (String × String) → Prop
  /-- The fields of a record. -/
  | record {r : Record} {cells : List (String × String)} :
      List.Forall₂ IsShown (publicFields r.values) cells →
      ShownFields (.ok (.record r)) r.schema.name cells
  /-- The fields of a value that is a record. -/
  | value {name : String} {own : Option OwnText} {fields : List (String × Option Value)}
      {cells : List (String × String)} : List.Forall₂ IsShown (publicFields fields) cells →
      ShownFields (.ok (.value (.record name own fields))) name cells

/-- Such an answer is viewed as a record. -/
theorem ShownFields.ofOutcome {answer : Except Failure Outcome} {name : String}
    {cells : List (String × String)} (h : ShownFields answer name cells) :
    ∃ outcome, answer = .ok outcome ∧ View.ofOutcome outcome = .ok (.record name cells) := by
  cases h with
  | record hcells => exact ⟨_, rfl, ofFields_of_isShown _ hcells⟩
  | value hcells => exact ⟨_, rfl, ofFields_of_isShown _ hcells⟩

/-! ## Runs on a line -/

/--
What a run on a line shows of the answer.  The message of an error that means itself stands
behind a heading, up to wrapping; behind it only the place in a malformed line is shown.  The
public fields of a record whose names and values are legible are shown one by one in the rows
of a table.  Any other value whose form means itself is shown in that form.  In general there
is a report exactly if the console prints what there is to see, and then that is in it.
-/
theorem Host.perform_displays (h : host.console.Documented metrics) {request : Request}
    {answer : Except Failure Outcome} (hanswer : Answers host line request answer) :
    (∀ e, answer = .error (.command e) → IsLiteral metrics e.message.toList →
      ∃ lines place,
        Wraps ((headingOf e.problem.category).toList ++ ' ' :: e.message.toList) lines ∧
        printPlace host.console line e.problem = .ok place ∧
        host.perform request = .ok
          { status := statusOf e.problem.category
            errors := String.ofList (printLines lines) ++ place }) ∧
    (∀ name cells, ShownFields answer name cells → (recordSheet name cells).IsLegible metrics →
      ∃ head rows foot,
        List.Forall₂ (fun (cell : String × String) row =>
          RowShows lightBar [cell.1.toList, cell.2.toList] row) cells rows ∧
        host.perform request =
          .ok (success (String.ofList (printLines (head ++ rows.flatten ++ foot))))) ∧
    (∀ v shown, answer = .ok (.value v) → v.plainFields? = none → v.asShown = .ok shown →
      IsLiteral metrics shown.toList →
      ∃ lines, Wraps shown.toList lines ∧
        host.perform request = .ok (success (String.ofList (printLines lines)))) ∧
    ∀ report, host.perform request = .ok report ↔ Displays host.console line answer report := by
  rw [hanswer.perform_eq]
  refine ⟨?_, ?_, ?_, fun report => displays_iff⟩
  · rintro e rfl hliteral
    obtain ⟨lines, hwraps, hprinted⟩ :=
      h.shows_headed _ e.message (isHeading_headingOf metrics e.problem.category) hliteral
    obtain ⟨place, hplace⟩ := exists_printPlace h line e.problem
    exact ⟨lines, place, hwraps, hplace, displays_iff.2 (.error hprinted hplace)⟩
  · intro name cells hfields hlegible
    obtain ⟨outcome, rfl, hview⟩ := hfields.ofOutcome
    obtain ⟨head, rows, foot, hrows, hprinted⟩ := h.shows_sheet _ hlegible
    refine ⟨head, rows, foot, ?_, displays_iff.2 (.record hview hprinted)⟩
    rw [recordSheet, List.forall₂_map_left_iff] at hrows
    exact hrows
  · rintro v shown rfl hnone hshown hliteral
    obtain ⟨lines, hwraps, hprinted⟩ := h.shows_marked shown hliteral
    have hview : View.ofOutcome (.value v) = .ok (.value shown) := by
      rw [View.ofOutcome, hnone, hshown]
      rfl
    exact ⟨lines, hwraps, displays_iff.2 (.value hview hprinted)⟩

/-- The cells of a request to delete a scene when nothing is typed. -/
def deleteCells : List (String × String) := [("id", "''"), ("force", "False")]

/-- They are legible at a terminal. -/
theorem isLegible_deleteCells :
    (recordSheet "DeleteScene" deleteCells).IsLegible Terminal.metrics := by
  have hcells : ∀ row ∈ (recordSheet "DeleteScene" deleteCells).rows,
      ∀ text ∈ Console.cellTexts row,
        text.all (fun c => isHarmless c && !Terminal.endsMeasuredLine c) = true := by decide
  have hall : ∀ row ∈ (recordSheet "DeleteScene" deleteCells).rows,
      ∀ text ∈ Console.cellTexts row,
        IsLiteral Terminal.metrics text ∧ ∀ c ∈ text, Terminal.endsMeasuredLine c = false := by
    intro row hrow text htext
    have hchars : ∀ c ∈ text, isHarmless c = true ∧ Terminal.endsMeasuredLine c = false := by
      simpa using hcells row hrow text htext
    exact ⟨isLiteral_of_isHarmless fun c hc => (hchars c hc).1, fun c hc => (hchars c hc).2⟩
  have hheadings : ∀ heading ∈ (recordSheet "DeleteScene" deleteCells).headings,
      heading.text.toList.all isHarmless = true ∧ heading.side = .left := by decide
  constructor
  case framed => rfl
  case title => exact isLiteral_of_isHarmless (List.all_eq_true.mp (by decide))
  case headings =>
    intro heading hheading
    obtain ⟨hharmless, hside⟩ := hheadings heading hheading
    exact ⟨isLiteral_of_isHarmless (List.all_eq_true.mp hharmless), hside⟩
  case whole => decide
  case cells => exact fun row hrow text htext => (hall row hrow text htext).1
  case fits => exact Terminal.fits_of_fullWidths hall (by decide +kernel)

/-- The class of such requests is found under its name. -/
theorem names_deleteScene : packageModules.host.Names (inPackage "demo:DeleteScene")
    (.kind (.schema MediaBrowser.deleteScene)) :=
  Host.load_eq_ok_iff.1 (by rfl)

/-- The fields of a request that nothing was typed for are shown in two rows. -/
theorem perform_displays_deleteScene :
    packageModules.host.console.Documented Terminal.metrics ∧
      Answers packageModules.host "" (.bind "" (inPackage "demo:DeleteScene"))
        (.ok (.record MediaBrowser.deleteScene.blank)) ∧
      ∃ head rows foot,
        List.Forall₂ (fun (cell : String × String) row =>
          RowShows lightBar [cell.1.toList, cell.2.toList] row) deleteCells rows ∧
        packageModules.host.perform (.bind "" (inPackage "demo:DeleteScene")) =
          .ok (success (String.ofList (printLines (head ++ rows.flatten ++ foot)))) := by
  have hline : Source.ofLine "" = ⟨[], none⟩ := by
    rw [Source.ofLine, Source.ofScanner, Line.Scanner.remaining_of_finished (by rfl)]
    rfl
  have hrecord : ((Candidate.schema MediaBrowser.deleteScene).bindNew (Source.ofLine "")).map
      Outcome.record = .ok (.record MediaBrowser.deleteScene.blank) := by
    rw [hline]
    rfl
  have hanswer : Answers packageModules.host "" (.bind "" (inPackage "demo:DeleteScene"))
      (.ok (.record MediaBrowser.deleteScene.blank)) :=
    hrecord ▸ Answers.bind names_deleteScene
  have hfields : ShownFields (.ok (.record MediaBrowser.deleteScene.blank)) "DeleteScene"
      deleteCells :=
    .record (.cons ⟨rfl, .text "", .text "", rfl, rfl, rfl⟩
      (.cons ⟨rfl, .bool false, .bool false, rfl, rfl, rfl⟩ .nil))
  exact ⟨Terminal.documented_console, hanswer,
    (Host.perform_displays Terminal.documented_console hanswer).2.1 _ _ hfields
      isLegible_deleteCells⟩

/-- The only argument of a line that is a mark for heavy type. -/
def boldMark : Argument := ⟨"[b]", "", "[b]", 0⟩

/-- The error for it, which repeats the mark in its message. -/
def boldMarkError : CommandError := ⟨.unmatchedCommand boldMark, none⟩

/-- A name that no command has is not shown if it is a mark. -/
theorem resolve_boldMark :
    Answers packageModules.host "[b]" (.resolve "[b]" defaultTable)
        (.error (.command boldMarkError)) ∧
      boldMarkError.message = "no matched command: '[b]'" ∧
      packageModules.host.perform (.resolve "[b]" defaultTable) =
        .ok { status := 1, errors := "Error: no matched command: ''\n" } ∧
      ∀ lines, Wraps boldMarkError.message.toList lines →
        ¬ printLines lines <:+: "Error: no matched command: ''\n".toList := by
  have hline : Source.ofLine "[b]" = ⟨[boldMark], none⟩ := ofLine_single (by rfl)
  have hresolve : MediaBrowser.commands.resolve (Source.ofLine "[b]") =
      .error (.command boldMarkError) := by
    rw [hline]
    rfl
  have hanswer : Answers packageModules.host "[b]" (.resolve "[b]" defaultTable)
      (.error (.command boldMarkError)) := hresolve ▸ Answers.resolve names_defaultTable
  have hmessage : boldMarkError.message = "no matched command: '[b]'" := by rfl
  refine ⟨hanswer, hmessage, ?_, ?_⟩
  · have hread : Terminal.Markup.read boldMarkError.message.toList =
        .ok ⟨"no matched command: ''".toList, [⟨21, 22, true⟩]⟩ := by
      rw [hmessage]
      decide +kernel
    have hwords : Terminal.readWords (errorWords boldMarkError) =
        .ok ((Terminal.Markup.headingText "Error:".toList).append
          ⟨"no matched command: ''".toList, [⟨21, 22, true⟩]⟩) := by
      rw [errorWords, Terminal.readWords_headed (isHeading_headingOf _ _), hread]
      rfl
    have hparagraph : Terminal.paragraph ((Terminal.Markup.headingText "Error:".toList).append
        ⟨"no matched command: ''".toList, [⟨21, 22, true⟩]⟩) =
          "Error: no matched command: ''\n".toList := by
      decide +kernel
    have hprinted := Terminal.print_eq_ok hwords (by decide)
    rw [hparagraph, String.ofList_toList] at hprinted
    have hplace : printPlace Terminal.console "[b]" boldMarkError.problem = .ok "" := rfl
    have hdisplays : Displays Terminal.console "[b]" (.error (.command boldMarkError)) _ :=
      .error hprinted hplace
    have hconsole : packageModules.host.console = Terminal.console := rfl
    rw [String.append_empty] at hdisplays
    rw [hanswer.perform_eq, hconsole, displays_iff]
    exact hdisplays
  · intro lines hwraps hinside
    have hfilter := hinside.filter fun c => !isBlank c
    rw [filter_printLines, hwraps.filter_eq, hmessage] at hfilter
    exact absurd hfilter (by decide +kernel)

end Shell

end TypedCommands
