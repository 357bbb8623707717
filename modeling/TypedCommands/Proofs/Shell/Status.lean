import TypedCommands.Proofs.Line.FaultPlace
import TypedCommands.Proofs.Number.Digits
import TypedCommands.Proofs.Shell.Printing
import TypedCommands.Proofs.Terminal.Console
import TypedCommands.Shell.Builtin
import TypedCommands.Shell.CommandLine

/-!
# Statuses

A run that shows how a line is scanned, bound or resolved ends with a status that tells how
that went: 0 for an answer, 1 for a mistake in the line or in the input, 2 for a mistake in
a schema, a table or the text that refers to it.  A run breaks down with the defects of
commands and values, with the exceptions of modules that are imported, and with those of the
console, which fails on some of the marks that a user can type.

Main results:

- Theorem `concludes_conclude`: how a run ends that shows an answer.
- Theorem `showArguments_concludes`: showing how a line is scanned always ends with a report.
- Theorem `Host.perform_concludes`: the status of every run on a line, and when there is one.
- Theorem `resolve_closingMark`: a line with a mark that closes nothing.
-/

namespace TypedCommands.Shell

open TypedCommands.Text
open Console (HoldsNoMark Metrics holdsNoMark_of_noOpening)

variable {host : Host} {metrics : Metrics}

/-! ## Reports on answers -/

/-- How a run ends that shows an answer. -/
structure Concludes (answer : Except Failure Outcome) (ending : Ending) : Prop where
  /-- The status 0 tells that the command gave an answer. -/
  zero_iff : ∀ report, ending = .ok report →
    (report.status = 0 ↔ ∃ outcome, answer = .ok outcome)
  /-- The status 1 tells that the line or the input is wrong. -/
  one_iff : ∀ report, ending = .ok report →
    (report.status = 1 ↔ ∃ e, answer = .error (.command e) ∧
      e.problem.category ≠ .configuration)
  /-- The status 2 tells that a schema or a table is wrong. -/
  two_iff : ∀ report, ending = .ok report →
    (report.status = 2 ↔ ∃ e, answer = .error (.command e) ∧
      e.problem.category = .configuration)
  /-- A run breaks down with a failure exactly if there is nothing to see of the answer. -/
  failure_iff : ∀ f, ending = .error (.failure f) ↔ View.ofAnswer answer = .error f
  /-- There is a report if there is something to see and it holds no marks. -/
  reports : ∀ view, View.ofAnswer answer = .ok view →
    (∀ text ∈ view.texts, HoldsNoMark text.toList) → ∃ report, ending = .ok report
  /-- An exception is in the way only where a text that is to be seen holds a mark. -/
  escapes : ∀ exception, ending = .error (.escaped exception) →
    ∃ view, View.ofAnswer answer = .ok view ∧ ∃ text ∈ view.texts, ¬ HoldsNoMark text.toList

/-- Only mistakes in a line or in the input have the status 1. -/
theorem one_eq_statusOf_iff {c : Category} : statusOf c = 1 ↔ c ≠ .configuration := by
  cases c <;> simp [statusOf]

/-- Only mistakes in a schema or a table have the status 2. -/
theorem two_eq_statusOf_iff {c : Category} : statusOf c = 2 ↔ c = .configuration := by
  cases c <;> simp [statusOf]

/-- An answer that is shown concludes the run. -/
theorem concludes_conclude (h : host.console.Documented metrics) (line : String)
    (answer : Except Failure Outcome) :
    Concludes answer (conclude host.console line answer) where
  zero_iff := by
    intro report hreport
    cases displays_iff.1 hreport <;> simp [success, statusOf_ne_zero]
  one_iff := by
    intro report hreport
    cases displays_iff.1 hreport <;> simp [success, one_eq_statusOf_iff]
  two_iff := by
    intro report hreport
    cases displays_iff.1 hreport <;> simp [success, two_eq_statusOf_iff]
  failure_iff := by
    intro f
    rw [conclude]
    cases hview : View.ofAnswer answer with
    | error failure => simp
    | ok view =>
      refine ⟨fun hending => ?_, fun hf => (by cases hf)⟩
      obtain ⟨exception, hexception⟩ := View.print_eq_error _ _ _ _ hending
      cases hexception
  reports := by
    intro view hview htexts
    rw [conclude, hview]
    exact exists_report_of_holdsNoMark h line htexts
  escapes := by
    intro exception hending
    rw [conclude] at hending
    cases hview : View.ofAnswer answer with
    | error failure =>
      rw [hview] at hending
      cases hending
    | ok view =>
      refine ⟨view, rfl, ?_⟩
      by_contra hnone
      have htexts : ∀ text ∈ view.texts, HoldsNoMark text.toList := by simpa using hnone
      obtain ⟨report, hreport⟩ := exists_report_of_holdsNoMark h line htexts
      rw [hview] at hending
      exact absurd (hending.symm.trans hreport) (by simp)

/-! ## Lines that are scanned -/

/-- Hexadecimal digits hold no opening bracket. -/
theorem opening_notMem_hexDigits (width n : Nat) : '[' ∉ hexDigits hexDigit width n := by
  have hdigit : ∀ k < 16, hexDigit k ≠ '[' := by decide
  induction width generalizing n with
  | zero => simp [hexDigits]
  | succ width ih =>
    rw [hexDigits, List.mem_append, List.mem_singleton]
    rintro (h | h)
    · exact ih _ h
    · exact hdigit _ (Nat.mod_lt _ (by omega)) h.symm

theorem opening_notMem_quotedChar (q : Char) {c : Char} (hc : c ≠ '[') :
    '[' ∉ quotedChar q c := by
  rw [quotedChar]
  split_ifs <;> simp [opening_notMem_hexDigits, hc.symm]

/-- A text without an opening bracket is quoted without one. -/
theorem opening_notMem_quoted {s : String} (h : '[' ∉ s.toList) : '[' ∉ (quoted s).toList := by
  have hq : quoteFor s.toList ≠ '[' := by
    rw [quoteFor]
    split <;> decide
  simp only [quoted, String.toList_ofList, List.cons_append, List.mem_cons, List.mem_append,
    List.mem_flatMap, List.not_mem_nil, or_false, not_or, not_exists, not_and]
  exact ⟨hq.symm, fun c hc => opening_notMem_quotedChar _ fun heq => h (heq ▸ hc), hq.symm⟩

/-- Numerals hold no opening bracket. -/
theorem opening_notMem_toString (n : Int) : '[' ∉ (toString n).toList := by
  rw [Whole.toList_toString, List.mem_append]
  rintro (h | h)
  · split_ifs at h <;> simp at h
  · exact absurd (Whole.asciiDigit?_of_mem_toDigits h) (by decide)

/-- The message of a fault of the scanner holds no mark, whatever the line is. -/
theorem holdsNoMark_message {line : String} {fault : LineFault}
    (h : tokenize line = .error fault) : HoldsNoMark fault.message.toList := by
  have htrouble : ∃ complaint, fault.trouble = .complaint complaint ∧
      ∀ c, complaint = .unexpected c → c ≠ '[' := by
    obtain ⟨g, hfault, rfl⟩ := Line.tokenize_eq_error_iff.1 h
    rw [Line.Scanner.ofLine_eq_between] at hfault
    rcases Line.Scanner.breaksAt_or_open hfault with
      ⟨front, d, behind, complaint, word, -, hword, rfl, -⟩ | ⟨rfl, -⟩
    · refine ⟨complaint, rfl, ?_⟩
      rintro c rfl rfl
      rcases hword.complaint_cases with ⟨hc, hcontrol, -⟩ | ⟨hc, -⟩ | ⟨hc, -⟩
      · cases hc
        exact absurd hcontrol (by decide)
      · cases hc
      · cases hc
    · refine ⟨_, rfl, ?_⟩
      intro c hc
      cases hc
  obtain ⟨complaint, hcomplaint, hplain⟩ := htrouble
  apply holdsNoMark_of_noOpening
  rw [LineFault.message, hcomplaint]
  have hnumber := opening_notMem_toString fault.offset
  cases complaint with
  | leadingSeparator => simpa using hnumber
  | repeatedSeparator => simpa using hnumber
  | unterminatedQuote => simpa using hnumber
  | unexpected c =>
    have hquoted : '[' ∉ (quoted (String.singleton c)).toList :=
      opening_notMem_quoted (by simpa using (hplain c rfl).symm)
    simpa using ⟨hnumber, hquoted⟩

/-- The table of arguments shows what was typed as it is. -/
theorem holdsNoMark_argumentSheet (arguments : List Argument) :
    (argumentSheet arguments).HoldsNoMark where
  framed := rfl
  title := by
    refine holdsNoMark_of_noOpening ?_
    have hcount : '[' ∉ (toString arguments.length).toList :=
      opening_notMem_toString (arguments.length : Int)
    simpa [argumentSheet] using hcount
  headings := by
    have hfree : ∀ heading ∈ (argumentSheet arguments).headings, '[' ∉ heading.text.toList := by
      simp only [argumentSheet, List.forall_mem_cons, List.not_mem_nil, false_imp_iff,
        implies_true, and_true]
      decide
    exact fun heading hheading => holdsNoMark_of_noOpening (hfree heading hheading)
  cells := by
    intro row hrow text htext
    obtain ⟨a, -, rfl⟩ := List.mem_map.1 hrow
    have hnumber : text = toString a.1 := by simpa using htext
    subst hnumber
    exact holdsNoMark_of_noOpening (opening_notMem_toString (a.1 : Int))

/-- Showing how a line is scanned ends with a report that tells whether it was read. -/
theorem showArguments_concludes (h : host.console.Documented metrics) (line : String)
    (format : Format) :
    ∃ report, host.showArguments line format = .ok report ∧
      (report.status = 0 ↔ ∃ arguments, tokenize line = .ok arguments) ∧
      (report.status = 1 ↔ ¬ ∃ arguments, tokenize line = .ok arguments) := by
  rw [Host.showArguments]
  cases htokens : tokenize line with
  | ok arguments =>
    have hstatus : ∀ output, ((success output).status = 0 ↔
          ∃ others, Except.ok (ε := LineFault) arguments = .ok others) ∧
        ((success output).status = 1 ↔
          ¬ ∃ others, Except.ok (ε := LineFault) arguments = .ok others) := by
      simp [success]
    cases format with
    | json => exact ⟨_, rfl, hstatus _⟩
    | yaml => exact ⟨_, rfl, hstatus _⟩
    | table =>
      obtain ⟨output, houtput⟩ := h.prints_sheet _ (holdsNoMark_argumentSheet arguments)
      exact ⟨_, map_eq_ok_iff.2 ⟨output, uncaught_eq_ok_iff.2 houtput, rfl⟩, hstatus output⟩
  | error fault =>
    obtain ⟨report, hreport⟩ := exists_errorReport h line (e := ⟨.malformed fault, none⟩)
      (holdsNoMark_message htokens)
    have hprinted : (View.error ⟨.malformed fault, none⟩).print host.console line = .ok report :=
      hreport
    have hstatus : report.status = 1 := View.status_of_print hprinted
    exact ⟨report, hreport, by simp [hstatus], by simp [hstatus]⟩

/-! ## Runs on a line -/

/-- The answer of binding a line to a new record of what is offered, if it is a class. -/
def bindAnswer (line : String) : Offer → Option (Except Failure Outcome)
  | .kind c => some ((c.bindNew (Source.ofLine line)).map .record)
  | _ => none

/-- The answer of resolving a line against what is offered, if it is a table. -/
def resolveAnswer (line : String) : Offer → Option (Except Failure Outcome)
  | .table t => some (t.resolve (Source.ofLine line))
  | _ => none

/-- How a run ends on what a text refers to; `answer?` is the answer that an offer gives. -/
structure Follows (host : Host) (reference : String)
    (answer? : Offer → Option (Except Failure Outcome)) (ending : Ending) : Prop where
  /-- The answer of an offer of the right kind is shown. -/
  concludes : ∀ offer answer, host.Names reference offer → answer? offer = some answer →
    Concludes answer ending
  /-- A text that leads nowhere, or to something of another kind, gives the status 2. -/
  misuse : (∀ exception, ¬ host.Raises reference exception) →
    (∀ offer, host.Names reference offer → answer? offer = none) →
    ∃ report, ending = .ok report ∧ report.status = 2
  /-- An exception that comes up on the way to a module or in it is not caught. -/
  escapes : ∀ exception, host.Raises reference exception → ending = .error (.escaped exception)
  /-- So a module that is named relative to another one makes a run break down. -/
  relative : ∀ r, Reference.parse reference = some r → r.moduleName.toList.head? = some '.' →
    ending = .error (.escaped "TypeError")

/-- A run on what a text refers to: whatever does not answer is misuse. -/
theorem follows_withOffer (h : host.Documented metrics) {reference : String}
    {answer? : Offer → Option (Except Failure Outcome)} (task : Task) {use : Offer → Ending}
    (hanswer : ∀ offer answer, answer? offer = some answer → Concludes answer (use offer))
    (hmisuse : ∀ offer, answer? offer = none → ∃ report, use offer = .ok report ∧
      report.status = 2) :
    Follows host reference answer? (host.withOffer task reference use) := by
  have hescapes : ∀ exception, host.Raises reference exception →
      host.withOffer task reference use = .error (.escaped exception) := by
    intro exception hraises
    rw [Host.withOffer, Host.load_eq_escaped_iff.2 hraises]
  constructor
  case concludes =>
    intro offer answer hnames hoffer
    rw [Host.withOffer, Host.load_eq_ok_iff.2 hnames]
    exact hanswer offer answer hoffer
  case misuse =>
    intro hraises hnone
    rw [Host.withOffer]
    split
    · next exception hload => exact absurd (Host.load_eq_escaped_iff.1 hload) (hraises exception)
    · next refusal hload => exact ⟨_, rfl, h.complain_status task refusal⟩
    · next offer hload => exact hmisuse offer (hnone offer (Host.load_eq_ok_iff.1 hload))
  case escapes => exact hescapes
  case relative =>
    intro r hparse hrelative
    exact hescapes _ ⟨r, hparse, .inl (h.import_relative _ hrelative)⟩

/--
The statuses of runs on a line.  Showing how it is scanned gives 0 if it can be read and 1
if not.  Binding and resolving give 0 for an answer, 1 for a mistake in the line or the
input, and 2 for a mistake in a schema or a table or for a reference that leads to nothing
of the right kind.  They break down without a status if an exception comes up in an import,
with a failure of the command, of the record it gave or of a text that is to be shown, or
where the console fails on marks in such a text.
-/
theorem Host.perform_concludes (h : host.Documented metrics) (line : String) :
    (∀ format, ∃ report, host.perform (.lex line format) = .ok report ∧
      (report.status = 0 ↔ ∃ arguments, tokenize line = .ok arguments) ∧
      (report.status = 1 ↔ ¬ ∃ arguments, tokenize line = .ok arguments)) ∧
    (∀ target, Follows host target (bindAnswer line) (host.perform (.bind line target))) ∧
    ∀ table, Follows host table (resolveAnswer line) (host.perform (.resolve line table)) := by
  refine ⟨showArguments_concludes h.console line, fun target => ?_, fun table => ?_⟩
  · refine follows_withOffer h _ ?_ ?_
    · intro offer answer hanswer
      cases offer with
      | kind c =>
        cases hanswer
        exact concludes_conclude h.console line _
      | table t => cases hanswer
      | other => cases hanswer
    · intro offer hnone
      cases offer with
      | kind c => cases hnone
      | table t => exact ⟨_, rfl, h.complain_status _ _⟩
      | other => exact ⟨_, rfl, h.complain_status _ _⟩
  · refine follows_withOffer h _ ?_ ?_
    · intro offer answer hanswer
      cases offer with
      | kind c => cases hanswer
      | table t =>
        cases hanswer
        exact concludes_conclude h.console line _
      | other => cases hanswer
    · intro offer hnone
      cases offer with
      | kind c => exact ⟨_, rfl, h.complain_status _ _⟩
      | table t => cases hnone
      | other => exact ⟨_, rfl, h.complain_status _ _⟩

/-- What is known of hosts holds of those that run in a terminal. -/
theorem documented_host (registry : Registry) : registry.host.Documented Terminal.metrics where
  console := Terminal.documented_console
  complain_status _ _ := rfl
  import_relative name hrelative := by
    simp [Registry.host, Registry.importModule, hrelative]

/-- A line that is one argument gives that argument and no fault. -/
theorem ofLine_single {line : String} {a : Argument}
    (h : (Line.Scanner.ofLine line).next = (.argument a, ⟨line.toList, [], none⟩)) :
    Source.ofLine line = ⟨[a], none⟩ := by
  rw [Source.ofLine, Source.ofScanner, Line.Scanner.remaining_of_argument h,
    Line.Scanner.remaining_of_finished (by rfl)]
  rfl

/-- The table of the package is found under its name. -/
theorem names_defaultTable :
    packageModules.host.Names defaultTable (.table MediaBrowser.commands) :=
  Host.load_eq_ok_iff.1 (by rfl)

/--
At the terminal a line that quits is answered, a text that is no reference is misused, and a
table that is named relative to another module makes the run break down.
-/
theorem perform_concludes_quit :
    packageModules.host.Documented Terminal.metrics ∧
      (∃ report, packageModules.host.perform (.resolve "quit" defaultTable) = .ok report ∧
        report.status = 0) ∧
      (∃ report, packageModules.host.perform (.bind "quit" "nowhere") = .ok report ∧
        report.status = 2) ∧
      packageModules.host.perform (.resolve "quit" ".demo:COMMANDS") =
        .error (.escaped "TypeError") := by
  have h := documented_host packageModules
  obtain ⟨-, hbind, hresolve⟩ := Host.perform_concludes h "quit"
  have hnone : Reference.parse "nowhere" = none := rfl
  refine ⟨h, ?_, (hbind _).misuse ?_ ?_, (hresolve _).relative ⟨".demo", "COMMANDS"⟩ rfl rfl⟩
  · have hanswer : MediaBrowser.commands.resolve (Source.ofLine "quit") =
        .ok (.record MediaBrowser.quit.blank) := by
      have hline : Source.ofLine "quit" = ⟨[⟨"quit", "", "quit", 0⟩], none⟩ :=
        ofLine_single (by rfl)
      rw [hline]
      rfl
    have hconcludes := (hresolve defaultTable).concludes _ _ names_defaultTable rfl
    rw [hanswer] at hconcludes
    have htexts : ∀ text ∈ (View.record "Quit" []).texts, '[' ∉ text.toList := by decide
    obtain ⟨report, hreport⟩ := hconcludes.reports (.record "Quit" []) rfl
      fun text htext => holdsNoMark_of_noOpening (htexts text htext)
    exact ⟨report, hreport, (hconcludes.zero_iff report hreport).2 ⟨_, rfl⟩⟩
  · rintro exception ⟨r, hparse, -⟩
    rw [hnone] at hparse
    cases hparse
  · rintro offer ⟨r, m, hparse, -⟩
    rw [hnone] at hparse
    cases hparse

/-- The only argument of a line that is a mark. -/
def closingMark : Argument := ⟨"[/]", "", "[/]", 0⟩

/-- The error for it, which repeats the mark in its message. -/
def closingMarkError : CommandError := ⟨.unmatchedCommand closingMark, none⟩

/-- A name that no command has may be a mark that closes nothing. -/
theorem resolve_closingMark :
    packageModules.host.Names defaultTable (.table MediaBrowser.commands) ∧
      MediaBrowser.commands.resolve (Source.ofLine "[/]") = .error (.command closingMarkError) ∧
      closingMarkError.problem.category = .input ∧
      packageModules.host.perform (.resolve "[/]" defaultTable) =
        .error (.escaped "MarkupError") := by
  have hresolve : MediaBrowser.commands.resolve (Source.ofLine "[/]") =
      .error (.command closingMarkError) := by
    have hline : Source.ofLine "[/]" = ⟨[closingMark], none⟩ :=
      ofLine_single (by rfl)
    rw [hline]
    rfl
  have hread : Terminal.Markup.read closingMarkError.message.toList = .error .nothingOpen := by
    rfl
  have hwords : Terminal.readWords (errorWords closingMarkError) = .error .nothingOpen := by
    rw [errorWords, Terminal.readWords_headed (isHeading_headingOf _ _), hread]
    rfl
  have hexception : Terminal.Markup.Fault.nothingOpen.exception = "MarkupError" := rfl
  have hprinted := Terminal.print_eq_error hwords
  have hconsole : packageModules.host.console = Terminal.console := rfl
  refine ⟨names_defaultTable, hresolve, rfl, ?_⟩
  rw [perform_resolve_of_names "[/]" names_defaultTable, hresolve, hconsole, ← hexception]
  exact errorReport_of_error "[/]" hprinted

end TypedCommands.Shell
