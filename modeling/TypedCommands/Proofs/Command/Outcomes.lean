import TypedCommands.Proofs.Command.Resolution

/-!
# What resolution answers

Resolution ends in one of seven ways.  A source may be empty, or malformed before a handler
could start; its first argument may be no name, or no name of the table; the command at the
longest path may do nothing.  In all other cases the handler of that command answers.  The
first six are told apart from whatever a handler answers by the path of the command: a
command error that leaves a handler always carries one, and the others never do.

Main results:

- Theorem `CommandTable.astray_or_endsAt`: there is no other way to end.
- Theorem `CommandTable.resolve_eq_ofProblem_iff`: which problems resolution has of its own.
- Theorem `CommandTable.resolve_classified`: every answer of resolution and when it is given.
-/

namespace TypedCommands

/-- A failure that leaves a command is no problem outside of any. -/
theorem Failure.under_ne_ofProblem (path : String) (failure : Failure) (problem : Problem) :
    failure.under path ≠ .ofProblem problem := by
  intro h
  cases failure with
  | defect d => cases h
  | command e =>
    have hcommand := congrArg CommandError.command (Failure.command.inj h)
    rw [CommandError.under_command] at hcommand
    cases hcommand

/-- A command error that leaves a command keeps its problem and its path, if it has one. -/
theorem CommandError.under_eq (path : String) (e : CommandError) :
    e.under path = ⟨e.problem, some (e.command.getD path)⟩ := by
  rw [← under_problem path e, ← under_command path e]

theorem Source.answer_zero_eq_finished_iff {s : Source} :
    s.answer 0 = .finished ↔ s = ⟨[], none⟩ := by
  obtain ⟨arguments, fault⟩ := s
  cases arguments <;> cases fault <;> simp [answer, pull]

/-- A source that answers an argument begins with it. -/
theorem Source.exists_eq_of_answer_zero {s : Source} {a : Argument}
    (h : s.answer 0 = .argument a) : ∃ rest, s = ⟨a :: rest, s.fault⟩ := by
  obtain ⟨arguments, fault⟩ := s
  cases arguments with
  | nil => cases fault <;> cases h
  | cons b rest =>
    obtain rfl : b = a := Pulled.argument.inj h
    exact ⟨rest, rfl⟩

namespace CommandTable

variable {t : CommandTable} {s : Source}

/-! ## Ways to end -/

/--
The descent of a source ends at a command: the longest path leads to it, and no fault stands
where a sub-command could be named.
-/
structure EndsAt (t : CommandTable) (s : Source) (k : Nat) (c : Command) : Prop where
  /-- The first `k` arguments spell the longest path. -/
  deepest : t.Deepest s.arguments k c
  /-- Looking for a sub-command meets no fault. -/
  clear : c.children = [] ∨ ∀ f, s.answer k ≠ .failed f

/-- Why a source leads to no handler. -/
inductive Astray (t : CommandTable) (s : Source) : Problem → Prop
  /-- The source is empty. -/
  | noInput : s.answer 0 = .finished → Astray t s .noInput
  /-- It is malformed from the start. -/
  | malformed {f : LineFault} : s.answer 0 = .failed f → Astray t s (.malformed f)
  /-- The first argument is not shaped like a name. -/
  | expectedCommand {a : Argument} :
      s.answer 0 = .argument a → a.isName = false → Astray t s (.expectedCommand a)
  /-- The first argument is shaped like a name, but the table has no such name. -/
  | unmatchedCommand {a : Argument} :
      s.answer 0 = .argument a → a.isName = true → t.get? a.raw = none →
      Astray t s (.unmatchedCommand a)
  /-- The source is malformed where a sub-command could be named. -/
  | malformedAhead {k : Nat} {c : Command} {f : LineFault} :
      t.Deepest s.arguments k c → c.children ≠ [] → s.answer k = .failed f →
      Astray t s (.malformed f)
  /-- The command at the longest path has no handler. -/
  | noHandler {k : Nat} {c : Command} :
      t.EndsAt s k c → c.handler = none → Astray t s .noHandler

/-- Arguments that lead somewhere can be continued to a longest path. -/
theorem exists_deepest {arguments : List Argument} {k : Nat} {c : Command}
    (hk : k ≤ arguments.length) (h : t.Leads (arguments.take k) c) :
    ∃ j d, t.Deepest arguments j d := by
  induction hn : arguments.length - k generalizing k c with
  | zero =>
    refine ⟨k, c, deepest_iff.2 ⟨hk, h, ?_⟩⟩
    intro a ha
    obtain ⟨hlt, -⟩ := List.getElem?_eq_some_iff.1 ha
    omega
  | succ n ih =>
    have hlt : k < arguments.length := by omega
    cases hchild : c.child? arguments[k] with
    | none =>
      refine ⟨k, c, deepest_iff.2 ⟨hk, h, ?_⟩⟩
      intro a ha
      obtain ⟨-, rfl⟩ := List.getElem?_eq_some_iff.1 ha
      exact hchild
    | some child =>
      have hnext := h.snoc hchild
      rw [List.take_append_getElem hlt] at hnext
      exact ih hlt hnext (by omega)

/-- A first argument that names a command of the table begins a longest path. -/
theorem exists_deepest_of_get? {a : Argument} {c : Command} (ha : s.answer 0 = .argument a)
    (hname : a.isName = true) (hc : t.get? a.raw = some c) :
    ∃ k d, t.Deepest s.arguments k d := by
  obtain ⟨hlt, rfl⟩ := List.getElem?_eq_some_iff.1 (Source.answer_eq_argument_iff.1 ha)
  have htake : s.arguments.take 1 = [s.arguments[0]] := by
    rw [← List.take_append_getElem hlt, List.take_zero, List.nil_append]
  refine exists_deepest (k := 1) (c := c) hlt ?_
  rw [htake]
  refine ⟨by simpa using hname, ?_⟩
  simp [atPath?, hc, Command.below?]

/-- Either a source leads to no handler, or its descent ends at a command that has one. -/
theorem astray_or_endsAt (t : CommandTable) (s : Source) :
    (∃ problem, t.Astray s problem) ∨
      ∃ k c handler, t.EndsAt s k c ∧ c.handler = some handler := by
  cases hfirst : s.answer 0 with
  | finished => exact .inl ⟨_, .noInput hfirst⟩
  | failed f => exact .inl ⟨_, .malformed hfirst⟩
  | argument a =>
    cases hname : a.isName with
    | false => exact .inl ⟨_, .expectedCommand hfirst hname⟩
    | true =>
      cases hget : t.get? a.raw with
      | none => exact .inl ⟨_, .unmatchedCommand hfirst hname hget⟩
      | some top =>
        obtain ⟨k, c, hdeepest⟩ := exists_deepest_of_get? hfirst hname hget
        by_cases hclear : c.children = [] ∨ ∀ f, s.answer k ≠ .failed f
        · cases hhandler : c.handler with
          | none => exact .inl ⟨_, .noHandler ⟨hdeepest, hclear⟩ hhandler⟩
          | some handler => exact .inr ⟨k, c, handler, ⟨hdeepest, hclear⟩, hhandler⟩
        · obtain ⟨hchildren, hfails⟩ := not_or.1 hclear
          obtain ⟨f, hf⟩ := Classical.not_forall.1 hfails
          exact .inl ⟨_, .malformedAhead hdeepest hchildren (Classical.not_not.1 hf)⟩

/-! ## What is answered -/

theorem runsNothing_of_handler_eq_none {r : Reached} (hr : t.locate s = .ok r)
    (hnone : r.command.handler = none) : t.RunsNothing s (.ofProblem .noHandler) := by
  intro m _ run
  simp only [resolveWith, hr, hnone]

theorem locate_of_finished (h : s.answer 0 = .finished) : t.locate s = .error .noInput := by
  obtain rfl := Source.answer_zero_eq_finished_iff.1 h
  rfl

/-- A line that is malformed from its start names no command. -/
theorem locate_of_failed {f : LineFault} (h : s.answer 0 = .failed f) :
    t.locate s = .error (.malformed f) := by
  obtain ⟨hle, hfault⟩ := Source.answer_eq_failed_iff.1 h
  obtain ⟨arguments, fault⟩ := s
  obtain rfl : arguments = [] := List.eq_nil_of_length_eq_zero (Nat.le_zero.1 hle)
  subst hfault
  rfl

/-- A line whose first argument is no name names no command. -/
theorem locate_of_not_isName {a : Argument} (h : s.answer 0 = .argument a)
    (hname : a.isName = false) : t.locate s = .error (.expectedCommand a) := by
  obtain ⟨rest, hs⟩ := Source.exists_eq_of_answer_zero h
  rw [hs]
  simp [locate, Cursor.next, Cursor.pull, Source.pull, hname]

/-- A line whose first argument is not in the table names no command. -/
theorem locate_of_get?_eq_none {a : Argument} (h : s.answer 0 = .argument a)
    (hname : a.isName = true) (hget : t.get? a.raw = none) :
    t.locate s = .error (.unmatchedCommand a) := by
  obtain ⟨rest, hs⟩ := Source.exists_eq_of_answer_zero h
  rw [hs]
  simp [locate, Cursor.next, Cursor.pull, Source.pull, hname, hget]

/-- A source that leads to no handler is not located, or it ends at a command without one. -/
theorem Astray.locate_eq {problem : Problem} (h : t.Astray s problem) :
    t.locate s = .error problem ∨
      ∃ k c, t.EndsAt s k c ∧ c.handler = none ∧ problem = .noHandler := by
  cases h with
  | noInput hfirst => exact .inl (locate_of_finished hfirst)
  | malformed hfirst => exact .inl (locate_of_failed hfirst)
  | expectedCommand hfirst hname => exact .inl (locate_of_not_isName hfirst hname)
  | unmatchedCommand hfirst hname hget => exact .inl (locate_of_get?_eq_none hfirst hname hget)
  | malformedAhead hdeepest hchildren hfailed =>
    exact .inl (locate_of_deepest_of_failed hdeepest hchildren hfailed)
  | noHandler hends hnone => exact .inr ⟨_, _, hends, hnone, rfl⟩

theorem EndsAt.locate_eq {k : Nat} {c : Command} (h : t.EndsAt s k c) :
    t.locate s = .ok ⟨c, (s.arguments.take k).map (·.raw),
      c.handed ⟨s.arguments.drop k, s.fault⟩ k⟩ :=
  locate_of_deepest h.deepest h.clear

/-- A source that leads to no handler is answered with its problem, and nothing runs. -/
theorem Astray.runsNothing {problem : Problem} (h : t.Astray s problem) :
    t.RunsNothing s (.ofProblem problem) := by
  rcases h.locate_eq with hlocate | ⟨k, c, hends, hnone, rfl⟩
  · exact runsNothing_of_locate hlocate
  · exact runsNothing_of_handler_eq_none hends.locate_eq hnone

/-- Wherever a command is found, the descent has ended at it. -/
theorem exists_endsAt_of_locate {r : Reached} (h : t.locate s = .ok r) :
    ∃ k c, t.EndsAt s k c ∧ r = ⟨c, (s.arguments.take k).map (·.raw),
      c.handed ⟨s.arguments.drop k, s.fault⟩ k⟩ := by
  obtain ⟨k, c, hends⟩ : ∃ k c, t.EndsAt s k c := by
    rcases t.astray_or_endsAt s with ⟨problem, hastray⟩ | ⟨k, c, handler, hends, -⟩
    · rcases hastray.locate_eq with hlocate | ⟨k, c, hends, -⟩
      · rw [hlocate] at h
        cases h
      · exact ⟨k, c, hends⟩
    · exact ⟨k, c, hends⟩
  refine ⟨k, c, hends, ?_⟩
  rw [hends.locate_eq] at h
  exact (Except.ok.inj h).symm

/-- Where the descent ends at a command with a handler, the handler answers. -/
theorem EndsAt.runsOnly {k : Nat} {c : Command} {handler : Handler} (h : t.EndsAt s k c)
    (hh : c.handler = some handler) :
    t.RunsOnly s handler ((s.arguments.take k).map (·.raw))
      (c.handed ⟨s.arguments.drop k, s.fault⟩ k) :=
  runsOnly_of_locate h.locate_eq hh

/-- What a handler answers is no problem outside of any command. -/
theorem EndsAt.resolve_ne_ofProblem {k : Nat} {c : Command} {handler : Handler}
    (h : t.EndsAt s k c) (hh : c.handler = some handler) (problem : Problem) :
    t.resolve s ≠ .error (.ofProblem problem) := by
  have hruns : t.RunsOnly s handler _ _ := h.runsOnly hh
  rw [hruns.resolve_eq]
  intro hproblem
  generalize handler _ = answer at hproblem
  cases answer with
  | ok outcome => cases hproblem
  | error failure => exact failure.under_ne_ofProblem _ _ (Except.error.inj hproblem)

/-- A source that leads to no handler is answered with its problem. -/
theorem Astray.resolve_eq {problem : Problem} (h : t.Astray s problem) :
    t.resolve s = .error (.ofProblem problem) := by
  have hnothing : t.RunsNothing s (.ofProblem problem) := h.runsNothing
  rw [resolve, hnothing]
  rfl

/-- The problems that resolution has of its own are those of sources that lead nowhere. -/
theorem resolve_eq_ofProblem_iff {problem : Problem} :
    t.resolve s = .error (.ofProblem problem) ↔ t.Astray s problem := by
  constructor
  · intro h
    rcases t.astray_or_endsAt s with ⟨other, hastray⟩ | ⟨k, c, handler, hends, hh⟩
    · rw [hastray.resolve_eq] at h
      cases h
      exact hastray
    · exact absurd h (hends.resolve_ne_ofProblem hh problem)
  · exact Astray.resolve_eq

/-! ## Every answer -/

/-- The lines without arguments. -/
theorem astray_noInput_iff : t.Astray s .noInput ↔ s = ⟨[], none⟩ := by
  rw [← Source.answer_zero_eq_finished_iff]
  constructor
  · intro h
    cases h with
    | noInput hfirst => exact hfirst
  · exact .noInput

/-- The lines that do not begin with a name. -/
theorem astray_expectedCommand_iff {a : Argument} :
    t.Astray s (.expectedCommand a) ↔ s.answer 0 = .argument a ∧ a.isName = false := by
  constructor
  · intro h
    cases h with
    | expectedCommand hfirst hname => exact ⟨hfirst, hname⟩
  · rintro ⟨hfirst, hname⟩
    exact .expectedCommand hfirst hname

/-- The lines that begin with a name that is not in the table. -/
theorem astray_unmatchedCommand_iff {a : Argument} :
    t.Astray s (.unmatchedCommand a) ↔
      s.answer 0 = .argument a ∧ a.isName = true ∧ t.get? a.raw = none := by
  constructor
  · intro h
    cases h with
    | unmatchedCommand hfirst hname hget => exact ⟨hfirst, hname, hget⟩
  · rintro ⟨hfirst, hname, hget⟩
    exact .unmatchedCommand hfirst hname hget

/-- The lines that are malformed where the descent looks at them. -/
theorem astray_malformed_iff {f : LineFault} :
    t.Astray s (.malformed f) ↔ s.answer 0 = .failed f ∨
      ∃ k c, t.Deepest s.arguments k c ∧ c.children ≠ [] ∧ s.answer k = .failed f := by
  constructor
  · intro h
    cases h with
    | malformed hfirst => exact .inl hfirst
    | malformedAhead hdeepest hchildren hfailed =>
      exact .inr ⟨_, _, hdeepest, hchildren, hfailed⟩
  · rintro (hfirst | ⟨k, c, hdeepest, hchildren, hfailed⟩)
    · exact .malformed hfirst
    · exact .malformedAhead hdeepest hchildren hfailed

/-- The lines that name a command without a handler. -/
theorem astray_noHandler_iff :
    t.Astray s .noHandler ↔ ∃ k c, t.EndsAt s k c ∧ c.handler = none := by
  constructor
  · intro h
    cases h with
    | noHandler hends hnone => exact ⟨_, _, hends, hnone⟩
  · rintro ⟨k, c, hends, hnone⟩
    exact .noHandler hends hnone

/-- No problem of resolution itself means that a handler answers. -/
theorem forall_ne_ofProblem_iff :
    (∀ problem, t.resolve s ≠ .error (.ofProblem problem)) ↔
      ∃ k c handler, t.EndsAt s k c ∧ c.handler = some handler := by
  constructor
  · intro h
    rcases t.astray_or_endsAt s with ⟨problem, hastray⟩ | hends
    · exact absurd hastray.resolve_eq (h problem)
    · exact hends
  · rintro ⟨k, c, handler, hends, hh⟩
    exact hends.resolve_ne_ofProblem hh

/--
Every answer of resolution.  The first five parts say when resolution has a problem of its
own: the source is empty; its first argument is not shaped like a name; it is, but the table
has no such name; a fault stands first, or where the command at the longest path could have
a sub-command named; that command has no handler, whatever the commands above it have.  Each
comes without the path of a command and before any handler runs, and there are no others.
Otherwise the handler at the longest path runs alone and its answer is passed on.  A command
error keeps its problem and takes the names of the path with single blanks between them,
unless it has a path already; any other failure is passed on as it is.
-/
theorem resolve_classified (t : CommandTable) (s : Source) :
    (t.resolve s = .error (.ofProblem .noInput) ↔ s = ⟨[], none⟩) ∧
    (∀ a, t.resolve s = .error (.ofProblem (.expectedCommand a)) ↔
      s.answer 0 = .argument a ∧ a.isName = false) ∧
    (∀ a, t.resolve s = .error (.ofProblem (.unmatchedCommand a)) ↔
      s.answer 0 = .argument a ∧ a.isName = true ∧ t.get? a.raw = none) ∧
    (∀ f, t.resolve s = .error (.ofProblem (.malformed f)) ↔
      s.answer 0 = .failed f ∨
        ∃ k c, t.Deepest s.arguments k c ∧ c.children ≠ [] ∧ s.answer k = .failed f) ∧
    (t.resolve s = .error (.ofProblem .noHandler) ↔
      ∃ k c, t.EndsAt s k c ∧ c.handler = none) ∧
    (∀ problem, t.resolve s = .error (.ofProblem problem) →
      t.Astray s problem ∧ t.RunsNothing s (.ofProblem problem)) ∧
    ((∀ problem, t.resolve s ≠ .error (.ofProblem problem)) ↔
      ∃ k c handler, t.EndsAt s k c ∧ c.handler = some handler) ∧
    ∀ k c handler, t.EndsAt s k c → c.handler = some handler →
      ∃ cursor, t.RunsOnly s handler ((s.arguments.take k).map (·.raw)) cursor ∧
        (∀ outcome, handler cursor = .ok outcome → t.resolve s = .ok outcome) ∧
        (∀ e, handler cursor = .error (.command e) → t.resolve s = .error (.command
          ⟨e.problem,
            some (e.command.getD (" ".intercalate ((s.arguments.take k).map (·.raw))))⟩)) ∧
        ∀ d, handler cursor = .error (.defect d) → t.resolve s = .error (.defect d) := by
  refine ⟨resolve_eq_ofProblem_iff.trans astray_noInput_iff,
    fun a => resolve_eq_ofProblem_iff.trans astray_expectedCommand_iff,
    fun a => resolve_eq_ofProblem_iff.trans astray_unmatchedCommand_iff,
    fun f => resolve_eq_ofProblem_iff.trans astray_malformed_iff,
    resolve_eq_ofProblem_iff.trans astray_noHandler_iff, ?_, forall_ne_ofProblem_iff, ?_⟩
  · intro problem h
    have hastray := resolve_eq_ofProblem_iff.1 h
    exact ⟨hastray, hastray.runsNothing⟩
  · intro k c handler hends hh
    have hruns : t.RunsOnly s handler ((s.arguments.take k).map (·.raw))
        (c.handed ⟨s.arguments.drop k, s.fault⟩ k) := hends.runsOnly hh
    refine ⟨_, hends.runsOnly hh, ?_, ?_, ?_⟩
    · intro outcome houtcome
      rw [hruns.resolve_eq, houtcome]
      rfl
    · intro e he
      rw [hruns.resolve_eq, he]
      exact congrArg (fun e => Except.error (Failure.command e)) (CommandError.under_eq _ e)
    · intro d hd
      rw [hruns.resolve_eq, hd]
      rfl

end CommandTable

end TypedCommands
