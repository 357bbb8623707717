import TypedCommands.Proofs.Console
import TypedCommands.Shell

/-!
# What the shell prints

Whatever the shell shows of an answer goes to the console as words with marks: messages behind
a heading, the names and values of the fields of a record, and any other value.  If no text
holds a mark the console prints it; otherwise it may fail, and nothing else can go wrong.

Main results:

- Definition `Host.Documented`: what is known of a host.
- Theorem `exists_report_of_holdsNoMark`: a view without marks is printed.
- Theorem `View.print_eq_error`: printing a view fails with an exception of the console only.
- Theorem `displays_iff`: when there is a report on an answer, and what it holds.
-/

namespace TypedCommands.Shell

open TypedCommands.Text
open Console (HoldsNoMark IsHeading Metrics Words holdsNoMark_of_noOpening isLiteral_of_isHarmless)

/-! ## Hosts -/

/-- What is known of a host. -/
structure Host.Documented (host : Host) (metrics : Metrics) : Prop where
  /-- Its console prints what holds no marks and shows what means itself. -/
  console : host.console.Documented metrics
  /-- Complaints about what was typed have the status 2. -/
  complain_status : ∀ task refusal, (host.complain task refusal).status = 2
  /-- There is no module that names relative to another one could be relative to. -/
  import_relative : ∀ name : String, name.toList.head? = some '.' →
    host.importModule name = .error (.raised "TypeError")

/-! ## Chains of steps that can fail -/

section

variable {α β ε : Type} {result : Except ε α} {b : β}

/-- A successful chain of two steps is made of two successful steps. -/
theorem bind_eq_ok_iff {next : α → Except ε β} :
    (result >>= next) = .ok b ↔ ∃ a, result = .ok a ∧ next a = .ok b := by
  cases result with
  | error other => exact ⟨fun h => (by cases h), fun ⟨a, h, _⟩ => (by cases h)⟩
  | ok a =>
    refine ⟨fun h => ⟨a, rfl, h⟩, ?_⟩
    rintro ⟨a', h, hb⟩
    cases h
    exact hb

/-- What is made of a result is there if the result is. -/
theorem map_eq_ok_iff {f : α → β} : result.map f = .ok b ↔ ∃ a, result = .ok a ∧ b = f a := by
  cases result with
  | error other => exact ⟨fun h => (by cases h), fun ⟨a, h, _⟩ => (by cases h)⟩
  | ok a => simp [Except.map, eq_comm]

end

/-- What the console prints is printed. -/
theorem uncaught_eq_ok_iff {printed : Except String String} {output : String} :
    uncaught printed = .ok output ↔ printed = .ok output := by
  cases printed with
  | error exception => exact ⟨fun h => (by cases h), fun h => (by cases h)⟩
  | ok text =>
    constructor
    · intro h
      cases h
      rfl
    · intro h
      cases h
      rfl

/-- Exceptions of the console are all that is in the way. -/
def FailsByConsole {α : Type} (result : Except Breakdown α) : Prop :=
  ∀ b, result = .error b → ∃ exception, b = .escaped exception

/-- So it is where something is printed. -/
theorem failsByConsole_uncaught (printed : Except String String) :
    FailsByConsole (uncaught printed) := by
  intro b h
  cases printed with
  | ok output => cases h
  | error exception =>
    cases h
    exact ⟨exception, rfl⟩

/-- A chain fails by the console if its steps do. -/
theorem FailsByConsole.bind {α β : Type} {result : Except Breakdown α}
    {next : α → Except Breakdown β} (h : FailsByConsole result)
    (hnext : ∀ a, FailsByConsole (next a)) : FailsByConsole (result >>= next) := by
  intro b hb
  cases hresult : result with
  | error other =>
    rw [hresult] at hb
    cases hb
    exact h b hresult
  | ok a =>
    rw [hresult] at hb
    exact hnext a b hb

/-- What is made of a result fails if the result does. -/
theorem FailsByConsole.map {α β : Type} {result : Except Breakdown α} (h : FailsByConsole result)
    (f : α → β) : FailsByConsole (result.map f) := by
  intro b hb
  cases hresult : result with
  | error other =>
    rw [hresult] at hb
    cases hb
    exact h b hresult
  | ok a =>
    rw [hresult] at hb
    cases hb

/-! ## Errors -/

variable {console : Console} {metrics : Metrics}

/-- The headings of errors are headings. -/
theorem isHeading_headingOf (metrics : Metrics) (c : Category) :
    IsHeading metrics (headingOf c).toList where
  nonempty := by cases c <;> decide
  literal := by
    have hbefore : ∀ c : Category, ∃ cs, (headingOf c).toList = cs ++ [':'] ∧
        cs.all (fun d => d != ':') = true := by
      intro c
      cases c
      · exact ⟨"Syntax error".toList, by decide, by decide⟩
      · exact ⟨"Error".toList, by decide, by decide⟩
      · exact ⟨"Configuration error".toList, by decide, by decide⟩
      · exact ⟨"Error".toList, by decide, by decide⟩
    have hplain : (headingOf c).toList.all (fun d => d != '[' && Console.isOrdinary d) = true := by
      cases c <;> decide
    have hopening : '[' ∉ (headingOf c).toList := by
      intro hmem
      simpa using List.all_eq_true.1 hplain _ hmem
    refine ⟨holdsNoMark_of_noOpening hopening, ?_, ?_, ?_⟩
    · intro front inside hwhole
      exact hopening (by simp [hwhole])
    · -- the only colon is the last character
      intro front name back hwhole
      obtain ⟨cs, hlast, hno⟩ := hbefore c
      have hcount : (headingOf c).toList.count ':' = 1 := by
        have hnone : cs.count ':' = 0 := by
          rw [List.count_eq_zero]
          intro hmem
          simpa using List.all_eq_true.1 hno _ hmem
        rw [hlast, List.count_append, hnone]
        rfl
      rw [hwhole] at hcount
      simp at hcount
      omega
    · intro d hd
      simpa using (Bool.and_eq_true_iff.1 (List.all_eq_true.1 hplain d hd)).2
  bare := by
    have hall : (headingOf c).toList.all (fun d => d != '[' && d != '\\') = true := by
      cases c <;> decide
    exact fun d hd => by simpa using List.all_eq_true.1 hall d hd

/-- The place in a line can always be shown. -/
theorem exists_printPlace (h : console.Documented metrics) (line : String) (problem : Problem) :
    ∃ place, printPlace console line problem = .ok place := by
  cases problem with
  | malformed fault =>
    obtain ⟨shown, hshown⟩ := h.prints_plain ("  " ++ line)
    obtain ⟨caret, hcaret⟩ :=
      h.prints_plain (String.ofList (List.replicate (fault.index.toNat + 2) ' ') ++ "^")
    refine ⟨shown ++ caret, ?_⟩
    rw [printPlace, bind_eq_ok_iff]
    refine ⟨shown, uncaught_eq_ok_iff.2 hshown, ?_⟩
    rw [bind_eq_ok_iff]
    exact ⟨caret, uncaught_eq_ok_iff.2 hcaret, rfl⟩
  | _ => exact ⟨"", rfl⟩

/-- Printing the place fails by the console only. -/
theorem failsByConsole_printPlace (console : Console) (line : String) (problem : Problem) :
    FailsByConsole (printPlace console line problem) := by
  cases problem with
  | malformed fault =>
    refine (failsByConsole_uncaught _).bind fun _ => (failsByConsole_uncaught _).bind fun _ => ?_
    intro b h
    cases h
  | _ =>
    intro b h
    cases h

/-- There is a report of an error if its message and its place are printed. -/
theorem errorReport_eq_ok_iff {line : String} {e : CommandError} {report : Report} :
    errorReport console line e = .ok report ↔
      ∃ output place, console.print (errorWords e) = .ok output ∧
        printPlace console line e.problem = .ok place ∧
        report = { status := statusOf e.problem.category, errors := output ++ place } := by
  simp only [errorReport, bind_eq_ok_iff, uncaught_eq_ok_iff]
  constructor
  · rintro ⟨output, houtput, place, hplace, h⟩
    cases h
    exact ⟨output, place, houtput, hplace, rfl⟩
  · rintro ⟨output, place, houtput, hplace, rfl⟩
    exact ⟨output, houtput, place, hplace, rfl⟩

/-- A message that the console fails on makes the run break down. -/
theorem errorReport_of_error {e : CommandError} {exception : String} (line : String)
    (h : console.print (errorWords e) = .error exception) :
    errorReport console line e = .error (.escaped exception) := by
  rw [errorReport, h]
  rfl

/-- An error whose message holds no mark is reported. -/
theorem exists_errorReport (h : console.Documented metrics) (line : String) {e : CommandError}
    (he : HoldsNoMark e.message.toList) : ∃ report, errorReport console line e = .ok report := by
  obtain ⟨output, houtput⟩ :=
    h.prints_headed _ e.message (isHeading_headingOf metrics e.problem.category) he
  obtain ⟨place, hplace⟩ := exists_printPlace h line e.problem
  exact ⟨_, errorReport_eq_ok_iff.2 ⟨output, place, houtput, hplace, rfl⟩⟩

/-! ## Views -/

namespace View

/-- The texts of a view. -/
def texts : View → List String
  | record name cells => name :: cells.flatMap fun cell => [cell.1, cell.2]
  | value shown => [shown]
  | error e => [e.message]

/-- The status that a view is reported with. -/
def status : View → Nat
  | error e => statusOf e.problem.category
  | _ => 0

/-- Printing a view fails with an exception of the console only. -/
theorem print_eq_error (console : Console) (line : String) (view : View) :
    FailsByConsole (view.print console line) := by
  cases view with
  | record name cells => exact (failsByConsole_uncaught _).map _
  | value shown => exact (failsByConsole_uncaught _).map _
  | error e =>
    refine (failsByConsole_uncaught _).bind fun _ =>
      (failsByConsole_printPlace _ _ _).bind fun _ => ?_
    intro b h
    cases h

/-- A report has the status of its view. -/
theorem status_of_print {line : String} {view : View} {report : Report}
    (h : view.print console line = .ok report) : report.status = view.status := by
  cases view with
  | record name cells =>
    obtain ⟨output, -, rfl⟩ := map_eq_ok_iff.1 h
    rfl
  | value shown =>
    obtain ⟨output, -, rfl⟩ := map_eq_ok_iff.1 h
    rfl
  | error e =>
    obtain ⟨output, place, -, -, rfl⟩ := errorReport_eq_ok_iff.1 h
    rfl

end View

/-- The table of a record holds no marks if its name and its cells hold none. -/
theorem holdsNoMark_recordSheet {name : String} {cells : List (String × String)}
    (h : ∀ text ∈ (View.record name cells).texts, HoldsNoMark text.toList) :
    (recordSheet name cells).HoldsNoMark where
  framed := rfl
  title := h name List.mem_cons_self
  headings := by
    have hfree : ∀ heading ∈ (recordSheet name cells).headings, '[' ∉ heading.text.toList := by
      simp only [recordSheet, List.forall_mem_cons, List.not_mem_nil, false_imp_iff,
        implies_true, and_true]
      exact ⟨by decide, by decide⟩
    exact fun heading hheading => holdsNoMark_of_noOpening (hfree heading hheading)
  cells := by
    intro row hrow text htext
    obtain ⟨cell, hcell, rfl⟩ := List.mem_map.1 hrow
    refine h text (List.mem_cons_of_mem _ (List.mem_flatMap.2 ⟨cell, hcell, ?_⟩))
    simpa using htext

/-- A view without marks is printed. -/
theorem exists_report_of_holdsNoMark (h : console.Documented metrics) (line : String)
    {view : View} (hview : ∀ text ∈ view.texts, HoldsNoMark text.toList) :
    ∃ report, view.print console line = .ok report := by
  cases view with
  | record name cells =>
    obtain ⟨output, houtput⟩ := h.prints_sheet _ (holdsNoMark_recordSheet hview)
    exact ⟨_, map_eq_ok_iff.2 ⟨output, uncaught_eq_ok_iff.2 houtput, rfl⟩⟩
  | value shown =>
    obtain ⟨output, houtput⟩ := h.prints_marked shown (hview shown (List.mem_singleton_self _))
    exact ⟨_, map_eq_ok_iff.2 ⟨output, uncaught_eq_ok_iff.2 houtput, rfl⟩⟩
  | error e => exact exists_errorReport h line (hview e.message (List.mem_singleton_self _))

/-! ## Answers -/

/-- What is reported on an answer to a line. -/
inductive Displays (console : Console) (line : String) : Except Failure Outcome → Report → Prop
  /-- A record, or a value that is one, is shown as a table of its public fields. -/
  | record {outcome : Outcome} {name : String} {cells : List (String × String)}
      {output : String} : View.ofOutcome outcome = .ok (.record name cells) →
      console.printSheet (recordSheet name cells) = .ok output →
      Displays console line (.ok outcome) (success output)
  /-- Any other value is shown by itself. -/
  | value {outcome : Outcome} {shown output : String} :
      View.ofOutcome outcome = .ok (.value shown) →
      console.print (.marked shown) = .ok output →
      Displays console line (.ok outcome) (success output)
  /-- The message of an error is shown behind a heading, and has the status of its category. -/
  | error {e : CommandError} {output place : String} :
      console.print (.headed (headingOf e.problem.category) e.message) = .ok output →
      printPlace console line e.problem = .ok place →
      Displays console line (.error (.command e))
        { status := statusOf e.problem.category, errors := output ++ place }

/-- No outcome is viewed as an error. -/
theorem ofOutcome_ne_error (outcome : Outcome) (e : CommandError) :
    View.ofOutcome outcome ≠ .ok (.error e) := by
  have hfields : ∀ name fields, View.ofFields name fields ≠ .ok (.error e) := by
    intro name fields h
    cases fields with
    | error failure => cases h
    | ok fields =>
      obtain ⟨cells, -, hview⟩ := map_eq_ok_iff.1 h
      cases hview
  cases outcome with
  | record r => exact hfields _ _
  | value v =>
    rw [View.ofOutcome]
    split
    · exact hfields _ _
    · intro h
      obtain ⟨shown, -, hview⟩ := map_eq_ok_iff.1 h
      cases hview

/-- There is a report on an answer exactly if the console prints what there is to see. -/
theorem displays_iff {line : String} {answer : Except Failure Outcome} {report : Report} :
    conclude console line answer = .ok report ↔ Displays console line answer report := by
  constructor
  · intro h
    rw [conclude] at h
    split at h
    · cases h
    · next view hview =>
      match answer, hview with
      | .ok outcome, hview =>
        cases view with
        | record name cells =>
          obtain ⟨output, houtput, rfl⟩ := map_eq_ok_iff.1 h
          exact .record hview (uncaught_eq_ok_iff.1 houtput)
        | value shown =>
          obtain ⟨output, houtput, rfl⟩ := map_eq_ok_iff.1 h
          exact .value hview (uncaught_eq_ok_iff.1 houtput)
        | error e => exact absurd hview (ofOutcome_ne_error outcome e)
      | .error (.command e), hview =>
        cases hview
        obtain ⟨output, place, houtput, hplace, rfl⟩ := errorReport_eq_ok_iff.1 h
        exact .error houtput hplace
      | .error (.defect d), hview => cases hview
  · intro h
    cases h with
    | record hview houtput =>
      simp only [conclude, View.ofAnswer, hview]
      exact map_eq_ok_iff.2 ⟨_, uncaught_eq_ok_iff.2 houtput, rfl⟩
    | value hview houtput =>
      simp only [conclude, View.ofAnswer, hview]
      exact map_eq_ok_iff.2 ⟨_, uncaught_eq_ok_iff.2 houtput, rfl⟩
    | error houtput hplace => exact errorReport_eq_ok_iff.2 ⟨_, _, houtput, hplace, rfl⟩

/-! ## Runs on what a text names -/

variable {host : Host}

/-- A line is bound to the class that a text names, and the answer is shown. -/
theorem perform_bind_of_names {target : String} {c : Candidate} (line : String)
    (h : host.Names target (.kind c)) :
    host.perform (.bind line target) =
      conclude host.console line ((c.bindNew (Source.ofLine line)).map .record) := by
  simp only [Host.perform, Host.withKind, Host.withOffer, Host.load_eq_ok_iff.2 h]

/-- A line is resolved against the table that a text names, and the answer is shown. -/
theorem perform_resolve_of_names {table : String} {t : CommandTable} (line : String)
    (h : host.Names table (.table t)) :
    host.perform (.resolve line table) =
      conclude host.console line (t.resolve (Source.ofLine line)) := by
  simp only [Host.perform, Host.withTable, Host.withOffer, Host.load_eq_ok_iff.2 h]

end TypedCommands.Shell
