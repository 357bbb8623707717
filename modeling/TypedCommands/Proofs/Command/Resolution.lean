import TypedCommands.Proofs.Command.Descent

/-!
# The handler that resolution runs

Which handler a source leads to is settled by the longest path that its first arguments
spell.  Running handlers is a parameter of resolution, so "this handler and no other,
exactly once" can be said of every way to run them: resolution is one run of the handler
and nothing else.

Main results:

- Theorems `CommandTable.locate_of_deepest` and `CommandTable.locate_of_deepest_of_failed`:
  where the descent of a whole line ends.
- Theorem `CommandTable.resolve_deepest`: the handler at the longest path runs once, on a
  cursor from which nothing is lost.
-/

namespace TypedCommands

namespace CommandTable

/-! ## What resolution runs -/

/--
Resolving a source runs one handler on one cursor and nothing else, whatever it is to run
a handler; a failure is put under the path of the command.
-/
def RunsOnly (t : CommandTable) (s : Source) (handler : Handler) (path : List String)
    (cursor : Cursor) : Prop :=
  ∀ {m : Type → Type} [Monad m] (run : Handler → Cursor → m (Except Failure Outcome)),
    t.resolveWith run s = do
      let answer ← run handler cursor
      pure (answer.mapError (·.under (pathText path)))

/-- Resolving a source fails and runs no handler at all. -/
def RunsNothing (t : CommandTable) (s : Source) (failure : Failure) : Prop :=
  ∀ {m : Type → Type} [Monad m] (run : Handler → Cursor → m (Except Failure Outcome)),
    t.resolveWith run s = pure (.error failure)

/-- Run a handler and add it with its cursor to a record of all runs. -/
def recordRun (handler : Handler) (cursor : Cursor) :
    StateM (List (Handler × Cursor)) (Except Failure Outcome) :=
  fun runs => (handler cursor, runs ++ [(handler, cursor)])

/-- The record of all runs holds the one run. -/
theorem RunsOnly.runs {t : CommandTable} {s : Source} {handler : Handler}
    {path : List String} {cursor : Cursor} (h : t.RunsOnly s handler path cursor) :
    (t.resolveWith recordRun s []).2 = [(handler, cursor)] := by
  rw [h recordRun]
  rfl

/-- Resolution answers what the handler answers. -/
theorem RunsOnly.resolve_eq {t : CommandTable} {s : Source} {handler : Handler}
    {path : List String} {cursor : Cursor} (h : t.RunsOnly s handler path cursor) :
    t.resolve s = (handler cursor).mapError (·.under (pathText path)) := by
  rw [resolve, h]
  rfl

/-- The handler of a located command is the only one that runs. -/
theorem runsOnly_of_locate {t : CommandTable} {s : Source} {r : Reached} {handler : Handler}
    (hr : t.locate s = .ok r) (hh : r.command.handler = some handler) :
    t.RunsOnly s handler r.path r.cursor := by
  intro m _ run
  simp only [resolveWith, hr, hh]
  congr 1
  funext answer
  cases answer <;> rfl

theorem runsNothing_of_locate {t : CommandTable} {s : Source} {problem : Problem}
    (h : t.locate s = .error problem) : t.RunsNothing s (.ofProblem problem) := by
  intro m _ run
  simp only [resolveWith, h]

/-! ## Where the descent of a line ends -/

/-- Arguments that lead to a command are taken, and the descent goes on from there. -/
theorem locate_of_leads {t : CommandTable} {first rest : List Argument}
    {fault : Option LineFault} {c : Command} (h : t.Leads first c) :
    t.locate ⟨first ++ rest, fault⟩ =
      (descend (rest.length + 2)
        ⟨c, first.map (·.raw), ⟨⟨rest, fault⟩, .empty, first.length⟩⟩).mapError .malformed := by
  obtain ⟨hnames, hpath⟩ := h
  cases first with
  | nil => cases hpath
  | cons a more =>
    have hname : a.isName = true := hnames a List.mem_cons_self
    rw [List.map_cons, atPath?] at hpath
    obtain ⟨top, htop, hbelow⟩ := Option.bind_eq_some_iff.1 hpath
    have hfuel : (a :: (more ++ rest)).length + 1 = rest.length + 2 + more.length := by
      simp only [List.length_cons, List.length_append]
      omega
    simp only [locate, List.cons_append, Cursor.next, Cursor.pull, Source.pull, hname, htop,
      if_true, hfuel]
    rw [descend_append (fun b hb => hnames b (List.mem_cons_of_mem _ hb)) hbelow,
      List.singleton_append, Nat.zero_add, Nat.add_comm 1, List.map_cons, List.length_cons]
    generalize descend (rest.length + 2) _ = reached
    cases reached <;> rfl

variable {t : CommandTable} {s : Source} {k : Nat} {c : Command}

/-- The next answer after the longest path is no argument that names a sub-command. -/
theorem Deepest.stop (h : t.Deepest s.arguments k c) :
    ∀ a, (s.arguments.drop k)[0]? = some a → c.child? a = none := by
  intro a ha
  rw [List.getElem?_drop] at ha
  exact (deepest_iff.1 h).2.2 a ha

/-- The descent of a line goes on from the end of its longest path. -/
theorem Deepest.locate_eq (h : t.Deepest s.arguments k c) :
    t.locate s = (descend ((s.arguments.drop k).length + 2)
      ⟨c, (s.arguments.take k).map (·.raw),
        ⟨⟨s.arguments.drop k, s.fault⟩, .empty, k⟩⟩).mapError .malformed := by
  have hlocate := @locate_of_leads t (s.arguments.take k) (s.arguments.drop k) s.fault c h.leads
  rw [List.take_append_drop, List.length_take_of_le h.le] at hlocate
  exact hlocate

/-- The deepest command is located if the look behind it finds no fault. -/
theorem locate_of_deepest (h : t.Deepest s.arguments k c)
    (hgo : c.children = [] ∨ ∀ f, s.answer k ≠ .failed f) :
    t.locate s = .ok ⟨c, (s.arguments.take k).map (·.raw),
      c.handed ⟨s.arguments.drop k, s.fault⟩ k⟩ := by
  have hgo : c.children = [] ∨
      ∀ f, (⟨s.arguments.drop k, s.fault⟩ : Source).answer 0 ≠ .failed f := by
    rw [Source.answer_drop]
    exact hgo
  rw [h.locate_eq, descend_stop h.stop hgo]
  rfl

/-- A fault behind a command with sub-commands is reported instead. -/
theorem locate_of_deepest_of_failed (h : t.Deepest s.arguments k c) {f : LineFault}
    (hchildren : c.children ≠ []) (hfailed : s.answer k = .failed f) :
    t.locate s = .error (.malformed f) := by
  obtain ⟨hle, hfault⟩ := Source.answer_eq_failed_iff.1 hfailed
  rw [h.locate_eq, List.drop_eq_nil_of_le hle, hfault, descend_fault hchildren]
  rfl

/--
A source that answers alike for the arguments of the longest path, and once more where
the command there has sub-commands, has the same longest path.
-/
theorem Deepest.of_answer_eq (h : t.Deepest s.arguments k c) {other : Source}
    (hsame : ∀ n < k, other.answer n = s.answer n)
    (hnext : c.children ≠ [] → other.answer k = s.answer k) :
    t.Deepest other.arguments k c := by
  obtain ⟨hle, htake⟩ := Source.take_eq_of_answer_eq h.le hsame
  refine deepest_iff.2 ⟨hle, htake ▸ h.leads, ?_⟩
  intro a ha
  by_cases hchildren : c.children = []
  · simp [Command.child?, hchildren]
  · have hother := Source.answer_of_getElem? ha
    rw [hnext hchildren, Source.answer_eq_argument_iff] at hother
    exact (deepest_iff.1 h).2.2 a hother

/-! ## The handler that runs -/

/--
The handler at the longest path.  Unless a fault stands where a sub-command could be
named, the handler of the command there runs, once and alone.  Its cursor answers with
all that follows the path, at most one argument of it is pulled already, and none if the
command has no sub-commands.  Whatever a source answers behind that changes nothing.
-/
theorem resolve_deepest {handler : Handler} (h : t.Deepest s.arguments k c)
    (hh : c.handler = some handler) :
    (∀ f, c.children ≠ [] → s.answer k = .failed f →
      t.RunsNothing s (.ofProblem (.malformed f))) ∧
    ((c.children = [] ∨ ∀ f, s.answer k ≠ .failed f) →
      (∃ cursor, t.RunsOnly s handler ((s.arguments.take k).map (·.raw)) cursor ∧
        (∀ n, cursor.answer n = s.answer (k + n)) ∧
        cursor.source = ⟨s.arguments.drop cursor.pulled, s.fault⟩ ∧
        k ≤ cursor.pulled ∧ cursor.pulled ≤ k + 1 ∧ (c.children = [] → cursor.pulled = k)) ∧
      ∀ other : Source, (∀ n < k, other.answer n = s.answer n) →
        (c.children ≠ [] → other.answer k = s.answer k) →
        ∃ cursor, t.RunsOnly other handler ((s.arguments.take k).map (·.raw)) cursor) := by
  constructor
  · intro f hchildren hfailed
    exact runsNothing_of_locate (locate_of_deepest_of_failed h hchildren hfailed)
  · intro hgo
    constructor
    · refine ⟨_, runsOnly_of_locate (locate_of_deepest h hgo) hh, ?_, ?_⟩
      · intro n
        rw [Command.answer_handed, Source.answer_drop]
      · obtain ⟨extra, hextra, hpulled, hsource, hleaf⟩ :=
          c.source_handed ⟨s.arguments.drop k, s.fault⟩ k
        rw [hpulled, hsource, List.drop_drop]
        refine ⟨rfl, by omega, by omega, ?_⟩
        intro hnone
        rw [hleaf hnone, Nat.add_zero]
    · intro other hsame hnext
      have hother := h.of_answer_eq hsame hnext
      have hgo_other : c.children = [] ∨ ∀ f, other.answer k ≠ .failed f := by
        by_cases hchildren : c.children = []
        · exact .inl hchildren
        · rw [hnext hchildren]
          exact hgo
      have htake := (Source.take_eq_of_answer_eq h.le hsame).2
      rw [← htake]
      exact ⟨_, runsOnly_of_locate (locate_of_deepest hother hgo_other) hh⟩

/-- A handler that looks at no arguments. -/
def lookAround : Handler := fun _ => .ok (.value (.text "here"))

/-- A command with a handler and a sub-command. -/
def upward : Command := .node (some lookAround) [("again", .node none [] "")] ""

/-- A table with a command at a path of two names. -/
def stroll : CommandTable := ⟨[("go", .node none [("up", upward)] "")]⟩

/-- A line that names the command and goes on with something else. -/
def strollLine : Source :=
  ⟨[⟨"go", "", "go", 0⟩, ⟨"up", "", "up", 3⟩, ⟨"north", "", "north", 6⟩], none⟩

/-- On a stroll the one handler runs once and is given what follows. -/
theorem resolve_deepest_stroll :
    ∃ cursor, (stroll.resolveWith recordRun strollLine []).2 = [(lookAround, cursor)] ∧
      ∀ n, cursor.answer n = strollLine.answer (2 + n) := by
  have hdeepest : stroll.Deepest strollLine.arguments 2 upward := by
    refine deepest_iff.2 ⟨by decide, ⟨by decide, by rfl⟩, ?_⟩
    intro a ha
    obtain rfl : ⟨"north", "", "north", 6⟩ = a := by simpa [strollLine] using ha
    rfl
  have hgo : upward.children = [] ∨ ∀ f, strollLine.answer 2 ≠ .failed f := by
    refine .inr fun f => ?_
    simp [strollLine, Source.answer, Source.pull]
  obtain ⟨⟨cursor, hruns, hanswers, -⟩, -⟩ := (resolve_deepest hdeepest rfl).2 hgo
  exact ⟨cursor, hruns.runs, hanswers⟩

end CommandTable

end TypedCommands
