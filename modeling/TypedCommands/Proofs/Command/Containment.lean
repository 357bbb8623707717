import TypedCommands.Proofs.Coercion
import TypedCommands.Proofs.Command.Resolution
import TypedCommands.Proofs.Record.Shortfall

/-!
# Failures of commands that bind records

Binding a line to a new record asks many questions that can go unanswered: whether the
record can be built, where an argument goes, what its text means, which list it is added to.
For a schema whose records can be built from nothing, all but one of them are answered or
end in a command error, and none of these errors is about the destination.  What is left is
a field that is to collect values but is neither given when a record is built nor has a
default: the first argument for it fails with a defect.

Main results:

- Theorem `Candidate.bindNew_eq_defect_iff`: binding fails with a defect exactly at such a
  field.
- Theorem `Candidate.exists_raises_of_bindNew`: a problem with the destination is raised by
  a converter.
- Theorem `Candidate.bindNew_of_defaults`: with defaults everywhere there is no defect.
- Theorem `Candidate.failures_contained`: the same for binding and for every table that
  leads to a command that binds.
-/

namespace TypedCommands

namespace Schema

/-! ## Schemas that can be asked for -/

/-- The declarations that the author of a schema answers for. -/
structure Admissible (s : Schema) : Prop where
  /-- Every field has a name. -/
  named : ∀ f ∈ s.fields, f.name ≠ ""
  /-- No name is given twice. -/
  nodup : (s.fields.map (·.name)).Nodup
  /-- The type of a field is known, or a name in it is not defined. -/
  resolves : ∀ f ∈ s.fields, ∀ fault, f.type.resolve f.scope = .error fault →
    ∃ name, fault = .undefined name
  /-- The default of a field that collects values is a list or nothing. -/
  defaults : ∀ f ∈ s.fields, ∀ type v, f.type.resolve f.scope = .ok type → f.default = some v →
    type.withoutNone.1.isSequence = true → v = .null ∨ ∃ items, v = .list items
  /-- The converters of defined classes answer, refuse, or fail with command errors. -/
  polite : ∀ p, s.plan = .ok p → ∀ b ∈ p.bindings, ∀ c, b.valueType = .defined c →
    b.valueType.Polite

/-- A converter of the schema fails with a command error of its own. -/
def Raises (s : Schema) (e : CommandError) : Prop :=
  ∃ p, s.plan = .ok p ∧ ∃ b ∈ p.bindings, b.valueType.Raises e

/-- A failure is a command error, and a converter raises it if it is about the destination. -/
def Reports (s : Schema) (failure : Failure) : Prop :=
  ∃ e, failure = .command e ∧ ∀ trouble, e.problem = .destination trouble → s.Raises e

theorem reports_ofProblem (s : Schema) {problem : Problem}
    (h : ∀ trouble, problem ≠ .destination trouble) : s.Reports (.ofProblem problem) :=
  ⟨_, rfl, fun trouble hproblem => absurd hproblem (h trouble)⟩

/--
Behind arguments that are bound, an argument of the source goes to a field that is to
collect values and has no default.
-/
def Starves (s : Schema) (src : Source) (field : String) : Prop :=
  ∃ p before a rest b text, s.plan = .ok p ∧ src.arguments = before ++ a :: rest ∧
    (s.blank.bind ⟨before, none⟩).2 = none ∧ p.Routes before a b text ∧
    b.isSequence = true ∧ b.field = field ∧ ∃ f ∈ s.fields, f.name = field ∧ f.default = none

/--
An answer to a source fails with a defect exactly where the source starves a field, and
with a problem about the destination only if a converter raises it.
-/
structure Contains {α : Type} (s : Schema) (src : Source) (answer : Except Failure α) :
    Prop where
  /-- The only defect is a list that no one has assigned. -/
  defect_iff : ∀ d, answer = .error (.defect d) ↔
    ∃ field, d = .unassigned field ∧ s.Starves src field
  /-- Nothing but a converter has trouble with the destination. -/
  destination : ∀ e trouble, answer = .error (.command e) → e.problem = .destination trouble →
    ∃ raised, s.Raises raised ∧ raised.problem = .destination trouble

/-- A source starves no field if every field has a default. -/
theorem not_starves {s : Schema} (h : ∀ f ∈ s.fields, f.default ≠ none) (src : Source)
    (field : String) : ¬ s.Starves src field := by
  rintro ⟨-, -, -, -, -, -, -, -, -, -, -, -, f, hf, -, hnone⟩
  exact h f hf hnone

/-! ## New records -/

/-- A record that begins from nothing holds the defaults of its fields. -/
theorem get?_blank {s : Schema} (hs : (s.fields.map (·.name)).Nodup) {f : Field}
    (hf : f ∈ s.fields) : s.blank.get? f.name = f.default := by
  have hslot : ∀ g ∈ s.fields, startSlot [] g = ⟨g.name, g.default.map .own⟩ := by
    intro g _
    rw [startSlot, List.lookup_nil, ite_self]
  have hfound : s.fields.find? (·.name == f.name) = some f :=
    (find?_key_eq_some_iff hs).2 ⟨hf, rfl⟩
  rw [Record.get?, Record.content?, blank, List.map_congr_left hslot, List.find?_map]
  simp only [Function.comp_def, hfound, Option.map_some, Option.bind_some, Option.map_map]
  exact Option.map_id'

/-- Where a candidate can be built, no field is required and records can be changed. -/
theorem of_buildable {c : Candidate} {s : Schema} (h : c.buildable = .ok s) :
    c = .schema s ∧ s.requiredFields = [] ∧ s.frozen = false := by
  cases c with
  | plainClass shown => cases h
  | value v => cases h
  | schema other =>
    rw [Candidate.buildable] at h
    split at h
    · next hnone =>
      split at h
      · cases h
      · next hfrozen =>
        cases h
        exact ⟨rfl, hnone, by simpa using hfrozen⟩
    · cases h

/-- Building from nothing goes well if no field is required. -/
theorem build_nil {s : Schema} (h : s.requiredFields = []) : s.build [] = .ok s.blank := by
  rw [build, accepts, h]
  rfl

variable {s : Schema} {p : Plan}

/-- A new record is well formed and is bound under the plan of its schema. -/
theorem Admissible.blank (hs : s.Admissible) (hfrozen : s.frozen = false) :
    s.blank.WellFormed ∧ s.blank.bindingPlan = s.plan := by
  refine ⟨Record.wellFormed_blank hs.nodup, ?_⟩
  rw [Record.bindingPlan, Schema.blank]
  simp only [hfrozen, Bool.false_eq_true, if_false]

/-- A new record lacks the fields that are to collect values and have no default. -/
theorem Admissible.lacks_blank_iff (hs : s.Admissible) (hp : s.plan = .ok p)
    {b : FieldBinding} (hb : b ∈ p.bindings) :
    s.blank.Lacks b ↔
      b.isSequence = true ∧ ∃ f ∈ s.fields, f.name = b.field ∧ f.default = none := by
  obtain ⟨f, hf, hfield, -⟩ := s.exists_field_of_mem_plan hp hb
  rw [Record.Lacks, hfield, get?_blank hs.nodup hf]
  -- The field that is declared under this name is the one the binding comes of.
  refine and_congr_right fun _ => ⟨fun hnone => ⟨f, hf, rfl, hnone⟩, ?_⟩
  rintro ⟨g, hg, hname, hnone⟩
  rwa [← List.inj_on_of_nodup_map hs.nodup hg hf hname]

/-- The fields of a new record that collect values hold lists or nothing if they are assigned. -/
theorem Admissible.collectsAssigned_blank (hs : s.Admissible) (hp : s.plan = .ok p) :
    s.blank.CollectsAssigned p := by
  intro b hb hseq hlacks
  obtain ⟨f, hf, hfield, -, type, htype, htarget⟩ := s.exists_field_of_mem_plan hp hb
  have hget : s.blank.get? b.field = f.default := by rw [hfield, get?_blank hs.nodup hf]
  have htypeSeq : type.withoutNone.1.isSequence = true := by rw [← htarget]; exact hseq
  cases hdefault : f.default with
  | none => exact absurd ⟨hseq, hget.trans hdefault⟩ hlacks
  | some v =>
    rw [hget, hdefault]
    rcases hs.defaults f hf type v htype hdefault htypeSeq with rfl | ⟨items, rfl⟩
    · exact .inl rfl
    · exact .inr ⟨items, rfl⟩

/-- An argument is refused with a command error. -/
theorem Admissible.reports_of_refuses (hs : s.Admissible) (hp : s.plan = .ok p)
    {before : List Argument} {a : Argument} {failure : Failure}
    (h : p.Refuses before a failure) : s.Reports failure := by
  cases h with
  | unrecognised => exact s.reports_ofProblem (by simp)
  | uncoerced hroutes hcoerce =>
    have hpolite := FieldType.polite_of_defined (hs.polite p hp _ hroutes.mem)
    rcases coerce_eq_error hpolite hcoerce with rfl | ⟨kind, cause, rfl⟩ | ⟨e, hraises, rfl⟩
    · exact s.reports_ofProblem (by simp)
    · exact s.reports_ofProblem (by simp)
    · exact ⟨e, rfl, fun trouble _ => ⟨p, hp, _, hroutes.mem, hraises⟩⟩

/-- How binding to a new record fails: a field starves, or there is a command error. -/
theorem Admissible.bind_failure_cases (hs : s.Admissible) (hfrozen : s.frozen = false)
    {src : Source} {failure : Failure} (h : (s.blank.bind src).2 = some failure) :
    (∃ field, failure = .defect (.unassigned field) ∧ s.Starves src field) ∨
      s.Reports failure := by
  obtain ⟨hr, hplan⟩ := hs.blank hfrozen
  cases hp : s.plan with
  | error planFailure =>
    rw [hp] at hplan
    simp only [Record.bind, hplan, Option.some.injEq] at h
    subst h
    rcases plan_eq_error hs.named hp with ⟨f, hf, fault, hfault, rfl⟩ | ⟨tag, rfl⟩
    · obtain ⟨name, rfl⟩ := hs.resolves f hf fault hfault
      exact .inr (s.reports_ofProblem (by simp))
    · exact .inr (s.reports_ofProblem (by simp))
  | ok p =>
    rw [hp] at hplan
    rcases Record.bind_failure_cases hr hplan (hs.collectsAssigned_blank hp)
        (Record.separate_blank s p) h with
      ⟨before, a, rest, hsplit, hbefore, ⟨b, text, hroutes, hlacks, rfl⟩ | hrefuses⟩ |
      ⟨fault, -, rfl⟩
    · obtain ⟨hseq, hf⟩ := (hs.lacks_blank_iff hp hroutes.mem).1 hlacks
      exact .inl ⟨b.field, rfl, p, before, a, rest, b, text, hp, hsplit, hbefore, hroutes,
        hseq, rfl, hf⟩
    · exact .inr (hs.reports_of_refuses hp hrefuses)
    · exact .inr (s.reports_ofProblem (by simp))

/-- Binding to a new record fails with a defect where the source starves a field. -/
theorem Admissible.bind_failure_of_starves (hs : s.Admissible) (hfrozen : s.frozen = false)
    {src : Source} {field : String} (h : s.Starves src field) :
    (s.blank.bind src).2 = some (.defect (.unassigned field)) := by
  obtain ⟨p, before, a, rest, b, text, hp, hsplit, hbefore, hroutes, hseq, rfl, hf⟩ := h
  obtain ⟨hr, hplan⟩ := hs.blank hfrozen
  rw [hp] at hplan
  have hlacks := (hs.lacks_blank_iff hp hroutes.mem).2 ⟨hseq, hf⟩
  have hfail := Record.bind_failure_of_lacks hr hplan (hs.collectsAssigned_blank hp)
    (Record.separate_blank s p) hbefore hroutes hlacks rest src.fault
  rwa [← hsplit] at hfail

end Schema

/-! ## Candidates -/

namespace Candidate

variable {c : Candidate} {s : Schema} {src : Source}

/-- Binding a candidate that can be built fails the way binding its new record does. -/
theorem bindNew_eq_error_iff (hc : c.buildable = .ok s) {failure : Failure} :
    c.bindNew src = .error failure ↔ (s.blank.bind src).2 = some failure := by
  simp only [bindNew, hc]
  generalize s.blank.bind src = answer
  obtain ⟨r, reason⟩ := answer
  cases reason <;> simp

/-- The only defect of binding is a list field that nothing has assigned. -/
theorem bindNew_eq_defect_iff (hc : c.buildable = .ok s) (hs : s.Admissible) {d : Defect} :
    c.bindNew src = .error (.defect d) ↔
      ∃ field, d = .unassigned field ∧ s.Starves src field := by
  obtain ⟨-, -, hfrozen⟩ := Schema.of_buildable hc
  rw [bindNew_eq_error_iff hc]
  constructor
  · intro h
    rcases hs.bind_failure_cases hfrozen h with ⟨field, hd, hstarves⟩ | ⟨e, he, -⟩
    · exact ⟨field, Failure.defect.inj hd, hstarves⟩
    · cases he
  · rintro ⟨field, rfl, hstarves⟩
    exact hs.bind_failure_of_starves hfrozen hstarves

/-- If every field has a default, binding answers a record or fails with a command error. -/
theorem bindNew_of_defaults (hc : c.buildable = .ok s) (hs : s.Admissible)
    (hdefaults : ∀ f ∈ s.fields, f.default ≠ none) (src : Source) :
    (∃ r, c.bindNew src = .ok r) ∨ ∃ e, c.bindNew src = .error (.command e) := by
  cases h : c.bindNew src with
  | ok r => exact .inl ⟨r, rfl⟩
  | error failure =>
    cases failure with
    | command e => exact .inr ⟨e, rfl⟩
    | defect d =>
      obtain ⟨field, -, hstarves⟩ := (bindNew_eq_defect_iff hc hs).1 h
      exact absurd hstarves (Schema.not_starves hdefaults src field)

/-- A problem with the destination comes from the schema itself. -/
theorem exists_raises_of_bindNew (hc : c.buildable = .ok s) (hs : s.Admissible)
    {e : CommandError} {trouble : DestinationTrouble} (h : c.bindNew src = .error (.command e))
    (hproblem : e.problem = .destination trouble) : s.Raises e := by
  obtain ⟨-, -, hfrozen⟩ := Schema.of_buildable hc
  rw [bindNew_eq_error_iff hc] at h
  rcases hs.bind_failure_cases hfrozen h with ⟨field, hd, -⟩ | ⟨other, he, hraises⟩
  · cases hd
  · cases he
    exact hraises trouble hproblem

/-- The answers and failures of binding are those that a schema allows. -/
theorem contains_bindNew (hc : c.buildable = .ok s) (hs : s.Admissible) (src : Source) :
    s.Contains src (c.bindNew src) where
  defect_iff _ := bindNew_eq_defect_iff hc hs
  destination e _ h hproblem :=
    ⟨e, exists_raises_of_bindNew hc hs h hproblem, hproblem⟩

end Candidate

/-! ## Tables -/

/-- An answer whose failures are contained keeps them so when it leaves a command. -/
theorem Schema.Contains.under {α β : Type} {s : Schema} {src : Source}
    {answer : Except Failure α} (h : s.Contains src answer) (f : α → β) (path : String) :
    s.Contains src ((answer.map f).mapError (·.under path)) where
  defect_iff d := by
    rw [← h.defect_iff d]
    cases answer with
    | ok a => exact iff_of_false nofun nofun
    | error failure =>
      change Except.error (failure.under path) = Except.error (.defect d) ↔ _
      cases failure <;> simp [Failure.under]
  destination e trouble he hproblem := by
    cases answer with
    | ok a => cases he
    | error failure =>
      cases failure with
      | defect d => cases he
      | command inner =>
        cases he
        rw [CommandError.under_problem] at hproblem
        exact h.destination inner trouble rfl hproblem

namespace CommandTable

/-- Where no command is found, the problem is with the line. -/
theorem locate_ne_destination {t : CommandTable} {src : Source} {problem : Problem}
    (h : t.locate src = .error problem) (trouble : DestinationTrouble) :
    problem ≠ .destination trouble := by
  rintro rfl
  rw [locate] at h
  split at h
  · cases h
  · cases h
  · split at h
    · split at h
      · cases h
      · split at h
        · cases h
        · cases h
    · cases h

end CommandTable

/-- A command that binds has a handler that binds. -/
theorem Command.handler_of_binding {c : Candidate} {entries : List (Value × Entry)}
    {description : String} {command : Command}
    (h : Command.binding c entries description = .ok command) :
    command.handler = some (Command.bindHandler c) := by
  rw [Command.binding] at h
  split at h
  · cases h
  · rw [Command.make] at h
    cases htable : CommandTable.ofEntries entries with
    | error problem => simp [htable, Except.map] at h
    | ok t =>
      simp only [htable, Except.map, Except.ok.injEq] at h
      subst h
      rfl

/-! ## Everything that can come of a line -/

/--
Failures stay inside the command errors, but for one defect.  A schema that can be built
from nothing is bound to every source with a record or a command error, unless the source
gives a value to a list that is not given when a record is built and has no default; and no
problem is about the destination, unless a converter says so.  The same holds of every
table and every source that leads to a command that binds the schema; where a source leads
nowhere, the problem is with the source.
-/
theorem Candidate.failures_contained {c : Candidate} {s : Schema} (hc : c.buildable = .ok s)
    (hs : s.Admissible) :
    s.build [] = .ok s.blank ∧
    (∀ src, s.Contains src (c.bindNew src)) ∧
    ∀ (t : CommandTable) (src : Source),
      (∀ problem, t.locate src = .error problem →
        t.resolve src = .error (.ofProblem problem) ∧
          ∀ trouble, problem ≠ .destination trouble) ∧
      ∀ reached entries description, t.locate src = .ok reached →
        Command.binding c entries description = .ok reached.command →
        s.Contains reached.cursor.remaining (t.resolve src) ∧
          ∀ outcome, t.resolve src = .ok outcome → ∃ r, outcome = .record r := by
  refine ⟨Schema.build_nil (Schema.of_buildable hc).2.1, contains_bindNew hc hs, ?_⟩
  intro t src
  constructor
  · intro problem hlocate
    have hnothing : t.RunsNothing src (.ofProblem problem) :=
      CommandTable.runsNothing_of_locate hlocate
    exact ⟨@hnothing Id _ _, CommandTable.locate_ne_destination hlocate⟩
  · intro reached entries description hlocate hbinding
    have hruns : t.RunsOnly src (Command.bindHandler c) reached.path reached.cursor :=
      CommandTable.runsOnly_of_locate hlocate (Command.handler_of_binding hbinding)
    rw [hruns.resolve_eq, Command.bindHandler]
    refine ⟨(contains_bindNew hc hs reached.cursor.remaining).under _ _, ?_⟩
    intro outcome houtcome
    cases hbind : c.bindNew reached.cursor.remaining with
    | error failure =>
      rw [hbind] at houtcome
      cases houtcome
    | ok r =>
      rw [hbind] at houtcome
      exact ⟨r, (Except.ok.inj houtcome).symm⟩

/-- A class whose converter counts stars and refuses every other text. -/
def rating : ValueClass where
  name := "Rating"
  qualifiedName := "Rating"
  home := "shop"
  parse := some fun text =>
    if text.toList.all (· == '*') then .ok (.int text.length) else refuse "expected stars"

/-- A list that is not given when a record is built and has no default. -/
def tagsField : Field where
  name := "tags"
  type := .container .list [.builtin .text]
  inConstructor := false

/-- The binding of the list. -/
def tagsBinding : FieldBinding :=
  ⟨"tags", "tags", false, .container .list [.builtin .text], false⟩

/-- A schema with a text, a rating or nothing, and a list that begins unassigned. -/
def basket : Schema where
  name := "Basket"
  fields := [
    { name := "label", type := .builtin .text, default := some (.text "") },
    { name := "rating", type := .union .short [.defined rating, .nothing],
      default := some .null },
    tagsField]

/-- The plan of baskets. -/
def basketPlan : Plan where
  schema := "Basket"
  bindings := [
    ⟨"label", "label", false, .builtin .text, false⟩,
    ⟨"rating", "rating", false, .defined rating, true⟩,
    tagsBinding]

/-- An argument for the list. -/
def tagArgument : Argument := ⟨"tags=x", "tags", "x", 0⟩

/-- The example class of ratings is polite. -/
theorem polite_rating : (FieldType.defined rating).Polite := by
  rintro kind convert h text failure hfail
  cases h
  dsimp only at hfail
  split at hfail
  · cases hfail
  · exact .inl (exists_of_refuse hfail)

/-- The example schema meets what is asked of a schema. -/
theorem admissible_basket : basket.Admissible where
  named := by decide
  nodup := by decide
  resolves := by
    intro f hf fault hfault
    simp only [basket, List.mem_cons, List.not_mem_nil, or_false] at hf
    rcases hf with rfl | rfl | rfl <;> cases hfault
  defaults := by
    intro f hf type v htype hdefault hseq
    simp only [basket, List.mem_cons, List.not_mem_nil, or_false] at hf
    rcases hf with rfl | rfl | rfl
    · cases htype
      cases hseq
    · cases htype
      cases hseq
    · cases hdefault
  polite := by
    intro p hp b hb c hc
    obtain rfl : basketPlan = p := Except.ok.inj hp
    simp only [basketPlan, List.mem_cons, List.not_mem_nil, or_false] at hb
    rcases hb with rfl | rfl | rfl
    · cases hc
    · exact polite_rating
    · cases hc

/-- A table with one command, which binds baskets. -/
def market : CommandTable :=
  ⟨[("fill", .node (some (Command.bindHandler (.schema basket))) [] "")]⟩

/-- A source for the table that gives the list a value. -/
def fillSource : Source := ⟨[⟨"fill", "", "fill", 0⟩, tagArgument], none⟩

/-- The list of a basket starves, and binding fails there, on its own and in a table. -/
theorem failures_contained_basket :
    basket.Starves ⟨[tagArgument], none⟩ "tags" ∧
      (Candidate.schema basket).bindNew ⟨[tagArgument], none⟩ =
        .error (.defect (.unassigned "tags")) ∧
      market.resolve fillSource = .error (.defect (.unassigned "tags")) := by
  have hc : (Candidate.schema basket).buildable = .ok basket := by rfl
  have hroutes : basketPlan.Routes [] tagArgument tagsBinding "x" :=
    .named (by decide) (by simp [basketPlan]) rfl
  have hstarves : basket.Starves ⟨[tagArgument], none⟩ "tags" :=
    ⟨basketPlan, [], tagArgument, [], tagsBinding, "x", by rfl, by rfl, by rfl, hroutes, by rfl,
      by rfl, tagsField, by simp [basket], by rfl, by rfl⟩
  obtain ⟨-, hbind, htables⟩ := Candidate.failures_contained hc admissible_basket
  have hreached := ((htables market fillSource).2
    ⟨.node (some (Command.bindHandler (.schema basket))) [] "", ["fill"],
      ⟨⟨[tagArgument], none⟩, .empty, 1⟩⟩ [] "" (by rfl) (by rfl)).1
  exact ⟨hstarves, ((hbind _).defect_iff _).2 ⟨"tags", rfl, hstarves⟩,
    (hreached.defect_iff _).2 ⟨"tags", rfl, hstarves⟩⟩

/-- A line for a basket that is neither bound nor answered with a command error. -/
theorem bindNew_basket_unassigned :
    (Candidate.schema basket).buildable = .ok basket ∧ basket.Admissible ∧
      (Candidate.schema basket).bindNew (Source.ofLine "tags=x") =
        .error (.defect (.unassigned "tags")) := by
  have hline : Source.ofLine "tags=x" = ⟨[tagArgument], none⟩ := by
    have hnext : (Line.Scanner.ofLine "tags=x").next =
        (.argument tagArgument, ⟨"tags=x".toList, [], none⟩) := by rfl
    rw [Source.ofLine, Source.ofScanner, Line.Scanner.remaining_of_argument hnext,
      Line.Scanner.remaining_of_finished (by rfl)]
    rfl
  refine ⟨by rfl, admissible_basket, ?_⟩
  rw [hline]
  rfl

end TypedCommands
