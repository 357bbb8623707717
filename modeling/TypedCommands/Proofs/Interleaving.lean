import TypedCommands.Proofs.Feed
import TypedCommands.Proofs.Line.Run
import TypedCommands.ScannedLine

/-!
# Reading a line while it is used

A line may be read to its end before anything is done with it, or each argument may be read
only when binding or resolution asks for it.  The second way stops reading where the first
thing goes wrong and has changed a record before it meets a fault further on in the line.
On a line without a fault nobody can tell the two apart.

Main results:

- Theorem `Record.bindLive_eq`: arguments that are bound while they are pulled are bound as
  if they had been listed before.
- Theorem `CommandTable.resolveLive_eq`: resolution that pulls its arguments leads to the
  same handler, which is given a cursor that replies alike.
- Theorem `ScannedLine.read_agrees`: what a line does when it is read beforehand and when it
  is read on demand.
-/

namespace TypedCommands

variable {σ : Type} [Feed σ]

/-! ## Binding -/

namespace Record

/-- Bind each argument before the next one is asked for, until one fails or none is left. -/
def bindAllLive (p : Plan) (now : Progress) (s : σ) : Progress :=
  match h : (Feed.pull s).1 with
  | .argument a =>
    have := Feed.size_pull_lt h
    let after := bindOne p now a
    match after.failure with
    | none => bindAllLive p after (Feed.pull s).2
    | some _ => after
  | .finished => now
  | .failed f => { now with failure := some (.ofProblem (.malformed f)) }
termination_by Feed.size s

/-- Bind the arguments of a feed while they are pulled. -/
def bindLive (r : Record) (s : σ) : Record × Option Failure :=
  match r.bindingPlan with
  | .error failure => (r, some failure)
  | .ok p =>
    let after := bindAllLive p { record := r } s
    (after.record, after.failure)

/-- The failure of binding comes first, and then the fault behind the arguments. -/
theorem bindAllLive_eq {p : Plan} {now : Progress} (hnow : now.failure = none) (s : σ) :
    bindAllLive p now s =
      let after := bindAll p now (Feed.source s).arguments
      { after with
        failure := after.failure.or
          ((Feed.source s).fault.map fun f => .ofProblem (.malformed f)) } := by
  -- One step for each argument that is pulled; a failure leaves the rest unread on both sides.
  fun_induction bindAllLive p now s with
  | case1 now s a h _ after hafter ih =>
    simp only [Feed.source_of_argument h, bindAll]
    rw [ih hafter]
    simp only [after] at hafter
    simp only [after, hafter]
  | case2 now s a h _ after failure hafter =>
    simp only [Feed.source_of_argument h, bindAll]
    simp only [after] at hafter ⊢
    simp only [hafter, Option.some_or]
    rw [← hafter]
  | case3 now s h =>
    simp only [Feed.source_of_finished h, bindAll, Option.map_none, Option.or_none]
  | case4 now s f h =>
    simp only [Feed.source_of_failed h, bindAll, hnow, Option.map_some, Option.none_or]

/-- Binding arguments while they are pulled is binding those of the source. -/
theorem bindLive_eq (r : Record) (s : σ) : r.bindLive s = r.bind (Feed.source s) := by
  rw [bindLive, bind]
  cases r.bindingPlan with
  | error failure => rfl
  | ok p =>
    simp only [bindAllLive_eq]
    cases (bindAll p { record := r } (Feed.source s).arguments).failure <;> rfl

/-- A fault behind the arguments is the failure of binding unless one of them fails. -/
theorem bind_of_fault (r : Record) (arguments : List Argument) (f : LineFault) :
    r.bind ⟨arguments, some f⟩ =
      let before := r.bind ⟨arguments, none⟩
      (before.1, before.2.or (some (.ofProblem (.malformed f)))) := by
  simp only [bind]
  cases r.bindingPlan with
  | error failure => rfl
  | ok p =>
    simp only
    cases (bindAll p { record := r } arguments).failure <;> rfl

end Record

/-- Build a record of a candidate schema and bind the arguments of a feed as they are pulled. -/
def Candidate.bindNewLive (c : Candidate) (s : σ) : Except Failure Record :=
  match c.buildable with
  | .error problem => .error (.ofProblem problem)
  | .ok made =>
    match made.blank.bindLive s with
    | (r, none) => .ok r
    | (_, some failure) => .error failure

/-- Binding that pulls arguments one by one is binding of all of them. -/
theorem Candidate.bindNewLive_eq (c : Candidate) (s : σ) :
    c.bindNewLive s = c.bindNew (Feed.source s) := by
  rw [bindNewLive, bindNew]
  cases c.buildable with
  | error problem => rfl
  | ok made =>
    rcases hbound : made.blank.bindLive s with ⟨r, failure | _⟩ <;>
      simp only [hbound, ← Record.bindLive_eq]

/-- A handler that binds the arguments of its cursor may pull them one by one. -/
theorem Command.bindHandler_toCursor (c : Candidate) (cursor : LiveCursor σ) :
    Command.bindHandler c cursor.toCursor = (c.bindNewLive cursor).map .record := by
  rw [Command.bindHandler, Candidate.bindNewLive_eq, LiveCursor.source_eq]

/-! ## Resolution -/

/-- A sub-command is smaller than its command. -/
theorem Command.sizeOf_child?_lt {c child : Command} {a : Argument}
    (h : c.child? a = some child) : sizeOf child < sizeOf c := by
  obtain ⟨handler, children, description⟩ := c
  rw [child?] at h
  split at h
  · obtain ⟨before, after, hsplit, -⟩ := List.lookup_eq_some_iff.1 h
    have hmem : (a.raw, child) ∈ children := by
      rw [Command.children] at hsplit
      rw [hsplit]
      exact List.mem_append_right before List.mem_cons_self
    have hlt := List.sizeOf_lt_of_mem hmem
    simp only [Prod.mk.sizeOf_spec, Command.node.sizeOf_spec] at hlt ⊢
    omega
  · cases h

/-- Where the descent has ended, with the cursor over the feed. -/
structure LiveReached (σ : Type) [Feed σ] where
  /-- The command. -/
  command : Command
  /-- The names that led to it. -/
  path : List String
  /-- The place in the feed behind its path. -/
  cursor : LiveCursor σ

/-- The same place, with the cursor over the source of the feed. -/
def LiveReached.toReached (r : LiveReached σ) : Reached := ⟨r.command, r.path, r.cursor.toCursor⟩

/-- Go down into sub-commands for as long as the next argument names one. -/
def descendLive (r : LiveReached σ) : Except LineFault (LiveReached σ) :=
  if r.command.children.isEmpty then .ok r
  else
    match r.cursor.peek with
    | (.error f, _) => .error f
    | (.ok none, cursor) => .ok { r with cursor := cursor }
    | (.ok (some a), cursor) =>
      match h : r.command.child? a with
      | none => .ok { r with cursor := cursor }
      | some child =>
        -- The tree bounds the descent; how many arguments there are is not known yet.
        have := Command.sizeOf_child?_lt h
        descendLive ⟨child, r.path ++ [a.raw], cursor.commit⟩
termination_by sizeOf r.command

/-- An argument that is looked at and committed does not remain. -/
theorem Cursor.length_remaining_commit_lt {c : Cursor} (hsound : c.Sound) {a : Argument}
    (h : c.peek.1 = .ok (some a)) :
    c.peek.2.commit.remaining.arguments.length < c.remaining.arguments.length := by
  have hheld : c.peek.2.held = 1 := by rw [held_peek, h, Reply.showsArgument]
  rw [remaining_commit hsound.peek, if_pos hheld, remaining_peek]
  rw [peek_eq_first hsound, Source.first] at h
  cases hpull : c.remaining.pull.1 with
  | argument b => exact Feed.size_pull_lt hpull
  | finished => simp [hpull] at h
  | failed f => simp [hpull] at h

/-- The descent goes the same way, given as many steps as there are arguments and one more. -/
theorem descend_toReached {left : Nat} {r : LiveReached σ}
    (h : r.cursor.toCursor.remaining.arguments.length < left) :
    descend left r.toReached = (descendLive r).map LiveReached.toReached := by
  obtain ⟨left, rfl⟩ : ∃ n, left = n + 1 := ⟨left - 1, by omega⟩
  fun_induction descendLive r generalizing left with
  | case1 r hleaf => simp [descend, LiveReached.toReached, hleaf, Except.map]
  | case2 r hchildren f cursor hpeek =>
    simp [descend, LiveReached.toReached, hchildren, LiveCursor.peek_toCursor, hpeek, Except.map]
  | case3 r hchildren cursor hpeek =>
    simp [descend, LiveReached.toReached, hchildren, LiveCursor.peek_toCursor, hpeek, Except.map]
  | case4 r hchildren a cursor hpeek hchild =>
    simp [descend, LiveReached.toReached, hchildren, LiveCursor.peek_toCursor, hpeek, hchild,
      Except.map]
  | case5 r hchildren a cursor hpeek child hchild _ ih =>
    have hlt := Cursor.length_remaining_commit_lt r.cursor.sound_toCursor (a := a)
      (by rw [LiveCursor.peek_toCursor, hpeek])
    simp only [LiveCursor.peek_toCursor, hpeek] at hlt
    -- The argument that was taken pays for the step.
    obtain ⟨less, rfl⟩ : ∃ n, left = n + 1 := ⟨left - 1, by omega⟩
    have hrest := ih less (by rw [LiveCursor.toCursor_commit]; omega)
    rw [← hrest, descend]
    simp [LiveReached.toReached, hchildren, LiveCursor.peek_toCursor, hpeek, hchild]

namespace CommandTable

/-- Find the command that the arguments of a feed lead to, pulling no more than that takes. -/
def locateLive (t : CommandTable) (s : σ) : Except Problem (LiveReached σ) :=
  match (LiveCursor.start s).next with
  | (.failed f, _) => .error (.malformed f)
  | (.finished, _) => .error .noInput
  | (.argument a, cursor) =>
    if a.isName then
      match t.get? a.raw with
      | none => .error (.unmatchedCommand a)
      | some c =>
        match descendLive ⟨c, [a.raw], cursor⟩ with
        | .error f => .error (.malformed f)
        | .ok r => .ok r
    else .error (.expectedCommand a)

/-- Find the command that a feed leads to and run its handler on what was not pulled yet. -/
def resolveLive {m : Type → Type} [Monad m]
    (run : Handler → LiveCursor σ → m (Except Failure Outcome)) (t : CommandTable) (s : σ) :
    m (Except Failure Outcome) :=
  match t.locateLive s with
  | .error problem => pure (.error (.ofProblem problem))
  | .ok r =>
    match r.command.handler with
    | none => pure (.error (.ofProblem .noHandler))
    | some handler => do
      match ← run handler r.cursor with
      | .ok outcome => pure (.ok outcome)
      | .error failure => pure (.error (failure.under (pathText r.path)))

/-- Locating that pulls arguments one by one is locating over all of them. -/
theorem locate_source (t : CommandTable) (s : σ) :
    t.locate (Feed.source s) = (t.locateLive s).map LiveReached.toReached := by
  have hnext := (LiveCursor.start s).next_toCursor
  have hlt (a : Argument) (h : (LiveCursor.start s).next.1 = .argument a) :
      (LiveCursor.start s).next.2.toCursor.remaining.arguments.length <
        (Feed.source s).arguments.length :=
    Feed.size_pull_lt (s := LiveCursor.start s) h
  rw [LiveCursor.toCursor_start] at hnext
  rw [locate, locateLive]
  simp only [hnext]
  generalize (LiveCursor.start s).next = answered at hlt
  obtain ⟨answer, cursor⟩ := answered
  cases answer with
  | finished => rfl
  | failed f => rfl
  | argument a =>
    simp only
    split
    · cases t.get? a.raw with
      | none => rfl
      | some c =>
        have hdescend :
            descend ((Feed.source s).arguments.length + 1) ⟨c, [a.raw], cursor.toCursor⟩ =
              (descendLive ⟨c, [a.raw], cursor⟩).map LiveReached.toReached :=
          descend_toReached (r := ⟨c, [a.raw], cursor⟩) (Nat.lt_succ_of_lt (hlt a rfl))
        simp only [hdescend]
        cases descendLive ⟨c, [a.raw], cursor⟩ <;> rfl
    · rfl

/-- Resolution that pulls its arguments is resolution of the source. -/
theorem resolveLive_eq {m : Type → Type} [Monad m]
    {live : Handler → LiveCursor σ → m (Except Failure Outcome)}
    {run : Handler → Cursor → m (Except Failure Outcome)}
    (h : ∀ handler cursor, live handler cursor = run handler cursor.toCursor)
    (t : CommandTable) (s : σ) : t.resolveLive live s = t.resolveWith run (Feed.source s) := by
  rw [resolveLive, resolveWith, locate_source]
  cases t.locateLive s with
  | error problem => rfl
  | ok r =>
    simp only [Except.map, LiveReached.toReached]
    cases r.command.handler with
    | none => rfl
    | some handler =>
      change live handler r.cursor >>= _ = run handler r.cursor.toCursor >>= _
      refine congr (congrArg bind (h handler r.cursor)) (funext fun answer => ?_)
      cases answer <;> rfl

end CommandTable

/-! ## Lines -/

/-- What a line is rejected with follows the arguments that can be read. -/
theorem exists_ofLine_of_tokenize {line : String} {f : LineFault} (h : tokenize line = .error f) :
    ∃ arguments, Source.ofLine line = ⟨arguments, some f⟩ := by
  rw [tokenize] at h
  generalize Source.ofLine line = s at h
  obtain ⟨arguments, fault⟩ := s
  cases fault with
  | none => cases h
  | some g =>
    obtain rfl : g = f := Except.error.inj h
    exact ⟨arguments, rfl⟩

/--
A line that can be read to its end does the same whether it is read beforehand or on demand.
Binding leaves the same record and fails in the same way, a new record is the same, and
resolution leads to the same outcome or the same failure below the same path.  There a handler
may do whatever the replies of its cursor determine, with any effects, or answer to the cursor
itself.  A line with a fault cannot be read beforehand at all; bound on demand, it does what
the arguments in front of the fault do, and fails with the fault unless they fail already.
-/
theorem ScannedLine.read_agrees {m : Type → Type} [Monad m]
    (run : Handler → (List Operation → List Reply) → m (Except Failure Outcome))
    (line : String) (r : Record) (c : Candidate) (t : CommandTable) :
    let scanner := Line.Scanner.ofLine line
    match tokenize line with
    | .ok arguments =>
      ∃ l, ScannedLine.read line = .ok l ∧ l.arguments = arguments ∧
        r.bindLive scanner = r.bind l.source ∧
        c.bindNewLive scanner = c.bindNew l.source ∧
        t.resolveLive (fun handler cursor => run handler cursor.replies) scanner =
          t.resolveWith (fun handler cursor => run handler cursor.replies) l.source ∧
        Id.run (t.resolveLive (fun handler cursor => pure (handler cursor.toCursor)) scanner) =
          t.resolve l.source
    | .error f =>
      ScannedLine.read line = .error f ∧
        ∃ arguments, Source.ofLine line = ⟨arguments, some f⟩ ∧
          r.bindLive scanner =
            let before := r.bind ⟨arguments, none⟩
            (before.1, before.2.or (some (.ofProblem (.malformed f)))) := by
  intro scanner
  have hfeed : Feed.source scanner = Source.ofLine line := Line.Scanner.source_eq _
  cases h : tokenize line with
  | ok arguments =>
    rw [Line.tokenize_eq_ok_iff.1 h] at hfeed
    refine ⟨⟨line, arguments⟩, by rw [read, h]; rfl, rfl, ?_, ?_, ?_, ?_⟩
    · rw [Record.bindLive_eq, hfeed, source]
    · rw [Candidate.bindNewLive_eq, hfeed, source]
    · rw [source, ← hfeed]
      refine CommandTable.resolveLive_eq (fun handler cursor => ?_) t scanner
      rw [LiveCursor.replies_toCursor]
    · rw [source, ← hfeed, CommandTable.resolve]
      exact congrArg Id.run (CommandTable.resolveLive_eq (fun _ _ => rfl) t scanner)
  | error f =>
    obtain ⟨arguments, hsource⟩ := exists_ofLine_of_tokenize h
    refine ⟨by rw [read, h]; rfl, arguments, hsource, ?_⟩
    rw [Record.bindLive_eq, hfeed, hsource, Record.bind_of_fault]

end TypedCommands
