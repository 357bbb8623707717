import TypedCommands.Proofs.Command.Outcomes
import TypedCommands.Proofs.Command.Tree

/-!
# Walking a tree and going down in it

A walk lists every command of a table with its path.  It comes to the commands in the order
of their paths, name by name, where a path stands in front of the longer ones it begins.  A
path is listed with a command exactly if the arguments that spell it lead resolution to that
command and none of them is left.

Main results:

- Theorem `CommandTable.mem_walk_iff`: a walk lists the paths of the table.
- Theorem `CommandTable.pairwise_walk`: it lists them in increasing order.
- Theorem `CommandTable.walk_describes`: what a walk lists, what comes before it, and what
  resolution does with it.
-/

namespace TypedCommands

/-- Looking up a key finds its entry if no key stands twice. -/
theorem lookup_eq_some_iff_mem {α : Type} {entries : List (String × α)}
    (h : (entries.map (·.1)).Nodup) {name : String} {v : α} :
    entries.lookup name = some v ↔ (name, v) ∈ entries := by
  rw [List.lookup_eq_some_iff]
  constructor
  · rintro ⟨before, after, rfl, -⟩
    exact List.mem_append_right _ List.mem_cons_self
  · intro hmem
    obtain ⟨before, after, rfl⟩ := List.append_of_mem hmem
    refine ⟨before, after, rfl, ?_⟩
    intro e he
    rw [List.map_append, List.nodup_append] at h
    simpa using (h.2.2 e.1 (List.mem_map_of_mem he) name (by simp)).symm

namespace Command

/-- A path below a command goes on below the sub-command that it names first. -/
theorem below?_cons_eq_some_iff {c d : Command} {name : String} {path : List String} :
    c.below? (name :: path) = some d ↔
      ∃ child, c.children.lookup name = some child ∧ child.below? path = some d := by
  rw [below?]
  cases c.children.lookup name <;> simp

/-! ## What a walk lists -/

/-- A walk through commands with their names, siblings in order of their names. -/
def walkList (commands : List (String × Command)) : List (List String × Command) :=
  ((walkAll commands).mergeSort fun a b => a.1 ≤ b.1).flatMap (·.2)

/-- Commands are walked one by one. -/
theorem walkAll_eq_map (commands : List (String × Command)) :
    walkAll commands = commands.map fun e => (e.1, walkBelow e.1 e.2) := by
  induction commands with
  | nil => rw [walkAll, List.map_nil]
  | cons e commands ih => rw [walkAll, ih, List.map_cons]

/-- A walk from a command begins with it and goes on below it. -/
theorem walkBelow_eq (name : String) (c : Command) :
    walkBelow name c =
      ([name], c) :: (walkList c.children).map fun found => (name :: found.1, found.2) := by
  obtain ⟨handler, children, description⟩ := c
  rw [walkBelow, walkList, List.map_flatMap]
  rfl

/-- What a walk finds is found below one of the commands. -/
theorem mem_walkList {commands : List (String × Command)} {found : List String × Command} :
    found ∈ walkList commands ↔ ∃ e ∈ commands, found ∈ walkBelow e.1 e.2 := by
  simp only [walkList, List.mem_flatMap, List.mem_mergeSort, walkAll_eq_map, List.mem_map]
  constructor
  · rintro ⟨-, ⟨e, he, rfl⟩, hfound⟩
    exact ⟨e, he, hfound⟩
  · rintro ⟨e, he, hfound⟩
    exact ⟨_, ⟨e, he, rfl⟩, hfound⟩

/-- Every path of a walk from a command begins with the name of the command. -/
theorem exists_path_of_mem_walkBelow {name : String} {c : Command}
    {found : List String × Command} (h : found ∈ walkBelow name c) :
    ∃ path, found.1 = name :: path := by
  rw [walkBelow_eq] at h
  rcases List.mem_cons.1 h with rfl | h
  · exact ⟨[], rfl⟩
  · obtain ⟨deeper, -, rfl⟩ := List.mem_map.1 h
    exact ⟨deeper.1, rfl⟩

/-- A walk lists a command with its path below the command that the walk begins at. -/
theorem WellFormed.mem_walkBelow_iff {c : Command} (h : c.WellFormed) {name : String}
    {path : List String} {d : Command} :
    (path, d) ∈ walkBelow name c ↔ ∃ rest, path = name :: rest ∧ c.below? rest = some d := by
  induction h generalizing name path with
  | @node handler children description hnodup _ _ ih =>
    rw [walkBelow_eq, List.mem_cons, List.mem_map]
    constructor
    · rintro (hhere | ⟨⟨deeper, found⟩, hdeeper, hpath⟩)
      · obtain ⟨rfl, rfl⟩ := Prod.mk.inj hhere
        exact ⟨[], rfl, rfl⟩
      · obtain ⟨rfl, rfl⟩ := Prod.mk.inj hpath
        obtain ⟨e, he, hfound⟩ := mem_walkList.1 hdeeper
        obtain ⟨rest, rfl, hrest⟩ := (ih e he).1 hfound
        have hlookup := (lookup_eq_some_iff_mem hnodup).2 he
        exact ⟨e.1 :: rest, rfl, below?_cons_eq_some_iff.2 ⟨e.2, hlookup, hrest⟩⟩
    · rintro ⟨rest, rfl, hbelow⟩
      cases rest with
      | nil =>
        cases hbelow
        exact .inl rfl
      | cons next rest =>
        obtain ⟨child, hlookup, hrest⟩ := below?_cons_eq_some_iff.1 hbelow
        have he := (lookup_eq_some_iff_mem hnodup).1 hlookup
        refine .inr ⟨(next :: rest, d), mem_walkList.2 ⟨_, he, ?_⟩, rfl⟩
        exact (ih _ he).2 ⟨rest, rfl, hrest⟩

/-! ## In which order -/

/-- The groups of siblings are in increasing order of their names. -/
theorem pairwise_groups {commands : List (String × Command)}
    (h : (commands.map (·.1)).Nodup) :
    ((walkAll commands).mergeSort fun a b => a.1 ≤ b.1).Pairwise fun a b => a.1 < b.1 := by
  have hsorted : ((walkAll commands).mergeSort fun a b => a.1 ≤ b.1).Pairwise
      fun a b => decide (a.1 ≤ b.1) = true := by
    apply List.pairwise_mergeSort
    · intro a b c hab hbc
      simp only [decide_eq_true_eq] at hab hbc ⊢
      exact String.le_trans hab hbc
    · intro a b
      simpa using String.le_total a.1 b.1
  have hnames : ((walkAll commands).mergeSort fun a b => a.1 ≤ b.1).Pairwise
      fun a b => a.1 ≠ b.1 := by
    rw [← List.pairwise_map (R := (· ≠ ·))]
    refine ((List.mergeSort_perm _ _).map _).nodup_iff.2 ?_
    rwa [walkAll_eq_map, List.map_map]
  refine (hsorted.and hnames).imp fun {a b} hab => ?_
  refine Classical.not_not.1 fun hnot => hab.2 ?_
  exact String.le_antisymm (by simpa using hab.1) (String.not_lt.1 hnot)

/-- A walk through commands is in order if the walks from each of them are. -/
theorem pairwise_walkList {commands : List (String × Command)}
    (h : (commands.map (·.1)).Nodup)
    (hbelow : ∀ e ∈ commands, (walkBelow e.1 e.2).Pairwise fun a b => a.1 < b.1) :
    (walkList commands).Pairwise fun a b => a.1 < b.1 := by
  have hgroups : ∀ group ∈ (walkAll commands).mergeSort fun a b => a.1 ≤ b.1,
      ∃ e ∈ commands, group = (e.1, walkBelow e.1 e.2) := by
    intro group hgroup
    rw [List.mem_mergeSort, walkAll_eq_map] at hgroup
    obtain ⟨e, he, rfl⟩ := List.mem_map.1 hgroup
    exact ⟨e, he, rfl⟩
  rw [walkList, List.pairwise_flatMap]
  constructor
  · intro group hgroup
    obtain ⟨e, he, rfl⟩ := hgroups group hgroup
    exact hbelow e he
  · refine (pairwise_groups h).imp_of_mem fun {a b} ha hb hlt => ?_
    obtain ⟨e, -, rfl⟩ := hgroups a ha
    obtain ⟨d, -, rfl⟩ := hgroups b hb
    intro x hx y hy
    obtain ⟨p, hp⟩ := exists_path_of_mem_walkBelow hx
    obtain ⟨q, hq⟩ := exists_path_of_mem_walkBelow hy
    rw [hp, hq]
    exact List.cons_lt_cons_iff.2 (.inl hlt)

/-- A walk from a command lists paths in increasing order. -/
theorem WellFormed.pairwise_walkBelow {c : Command} (h : c.WellFormed) (name : String) :
    (walkBelow name c).Pairwise fun a b => a.1 < b.1 := by
  induction h generalizing name with
  | @node handler children description hnodup _ _ ih =>
    have hlist := pairwise_walkList hnodup fun e he => ih e he e.1
    rw [walkBelow_eq, List.pairwise_cons]
    constructor
    · intro found hfound
      obtain ⟨⟨path, d⟩, hdeeper, rfl⟩ := List.mem_map.1 hfound
      obtain ⟨e, -, he⟩ := mem_walkList.1 hdeeper
      obtain ⟨rest, hrest⟩ := exists_path_of_mem_walkBelow he
      refine List.cons_lt_cons_iff.2 (.inr ⟨rfl, ?_⟩)
      rw [hrest]
      exact List.nil_lt_cons _ _
    · refine List.pairwise_map.2 (hlist.imp fun {a b} hab => ?_)
      exact List.cons_lt_cons_iff.2 (.inr ⟨rfl, hab⟩)

/-- Every name on a path below a command can be used as one. -/
theorem WellFormed.usable {c d : Command} (h : c.WellFormed) {path : List String}
    (hbelow : c.below? path = some d) : ∀ name ∈ path, isCommandName name = true := by
  induction h generalizing path with
  | @node handler children description hnodup husable _ ih =>
    cases path with
    | nil => simp
    | cons next path =>
      obtain ⟨child, hlookup, hrest⟩ := below?_cons_eq_some_iff.1 hbelow
      have he := (lookup_eq_some_iff_mem hnodup).1 hlookup
      exact List.forall_mem_cons.2 ⟨husable (next, child) he, ih (next, child) he hrest⟩

end Command

namespace CommandTable

variable {t : CommandTable}

/-! ## Walks through a table -/

theorem walk_eq (t : CommandTable) : t.walk = Command.walkList t.commands := rfl

/-- A walk lists the paths of a table with the commands they lead to. -/
theorem mem_walk_iff (h : t.WellFormed) {path : List String} {c : Command} :
    (path, c) ∈ t.walk ↔ t.atPath? path = some c := by
  rw [walk_eq, Command.mem_walkList]
  constructor
  · rintro ⟨e, he, hfound⟩
    obtain ⟨rest, rfl, hbelow⟩ := (h.below e he).mem_walkBelow_iff.1 hfound
    have hget : t.get? e.1 = some e.2 := (lookup_eq_some_iff_mem h.nodup).2 he
    simpa only [atPath?, hget, Option.bind_some] using hbelow
  · intro hpath
    cases path with
    | nil => cases hpath
    | cons name rest =>
      obtain ⟨top, hget, hbelow⟩ := Option.bind_eq_some_iff.1 hpath
      have he := (lookup_eq_some_iff_mem h.nodup).1 hget
      exact ⟨_, he, (h.below _ he).mem_walkBelow_iff.2 ⟨rest, rfl, hbelow⟩⟩

/-- A walk lists paths in increasing order. -/
theorem pairwise_walk (h : t.WellFormed) : t.walk.Pairwise fun a b => a.1 < b.1 :=
  Command.pairwise_walkList h.nodup fun e he => (h.below e he).pairwise_walkBelow e.1

/-- The names on a path of a table can be used as names. -/
theorem WellFormed.usable_of_atPath? (h : t.WellFormed) {path : List String} {c : Command}
    (hpath : t.atPath? path = some c) : ∀ name ∈ path, isCommandName name = true := by
  cases path with
  | nil => cases hpath
  | cons name rest =>
    obtain ⟨top, hget, hbelow⟩ := Option.bind_eq_some_iff.1 hpath
    have he := (lookup_eq_some_iff_mem h.nodup).1 hget
    exact List.forall_mem_cons.2
      ⟨h.usable name (List.mem_map_of_mem he), (h.below _ he).usable hbelow⟩

/-- A path begins in front of the longer paths that it begins. -/
theorem lt_of_prefix {shorter path : List String} (h : shorter <+: path)
    (hne : shorter ≠ path) : shorter < path := by
  obtain ⟨rest, rfl⟩ := h
  induction shorter with
  | nil =>
    cases rest with
    | nil => exact absurd rfl hne
    | cons name rest => exact List.nil_lt_cons _ _
  | cons name shorter ih =>
    exact List.cons_lt_cons_iff.2 (.inr ⟨rfl, ih fun hsame => hne (by simp [← hsame])⟩)

/-- The paths that begin a listed path are listed before it. -/
theorem mem_before_of_prefix (h : t.WellFormed) {before after : List (List String × Command)}
    {path shorter : List String} {c : Command} (hwalk : t.walk = before ++ (path, c) :: after)
    (hne : shorter ≠ []) (hbegins : shorter <+: path) (hproper : shorter ≠ path) :
    ∃ d, (shorter, d) ∈ before := by
  have hpath : t.atPath? path = some c :=
    (mem_walk_iff h).1 (hwalk ▸ List.mem_append_right _ List.mem_cons_self)
  obtain ⟨d, hd⟩ : ∃ d, t.atPath? shorter = some d := by
    obtain ⟨rest, rfl⟩ := hbegins
    rw [atPath?_append t hne] at hpath
    obtain ⟨d, hd, -⟩ := Option.bind_eq_some_iff.1 hpath
    exact ⟨d, hd⟩
  have hlt := lt_of_prefix hbegins hproper
  have hsorted := pairwise_walk h
  have hlisted := (mem_walk_iff h).2 hd
  rw [hwalk, List.pairwise_append] at hsorted
  rw [hwalk, List.mem_append, List.mem_cons] at hlisted
  rcases hlisted with hbefore | hhere | hafter
  · exact ⟨d, hbefore⟩
  · exact absurd (congrArg Prod.fst hhere) hproper
  · -- What comes later is larger than the path, but the shorter path is not.
    have hgt := (List.pairwise_cons.1 hsorted.2.1).1 _ hafter
    exact absurd (List.lt_trans hlt hgt) (List.lt_irrefl _)

/-! ## Resolving the arguments that spell a path -/

/-- Resolution of a source ends on a command and leaves no argument for it. -/
def UsesUp (t : CommandTable) (s : Source) (c : Command) : Prop :=
  ∃ path cursor, t.locate s = .ok ⟨c, path, cursor⟩ ∧ ∀ n, cursor.answer n = .finished

/-- If all arguments lead to a command, resolution ends there with none left. -/
theorem locate_of_leads_all {arguments : List Argument} {c : Command}
    (h : t.Leads arguments c) :
    ∃ cursor, t.locate ⟨arguments, none⟩ = .ok ⟨c, arguments.map (·.raw), cursor⟩ ∧
      ∀ n, cursor.answer n = .finished := by
  have hdeepest : t.Deepest arguments arguments.length c := by
    refine deepest_iff.2 ⟨Nat.le_refl _, ?_, by simp⟩
    rwa [List.take_length]
  have hend : ∀ n, (⟨arguments, none⟩ : Source).answer (arguments.length + n) = .finished :=
    fun n => Source.answer_of_length_le (Nat.le_add_right _ _)
  have hclear : ∀ f, (⟨arguments, none⟩ : Source).answer arguments.length ≠ .failed f := by
    intro f
    rw [← Nat.add_zero arguments.length, hend]
    simp
  have hlocate := locate_of_deepest (s := ⟨arguments, none⟩) hdeepest (.inr hclear)
  rw [List.take_length] at hlocate
  refine ⟨_, hlocate, ?_⟩
  intro n
  rw [Command.answer_handed, Source.answer_drop, hend]

/-- Arguments are used up on the command that they lead to, and on no other. -/
theorem usesUp_iff_leads {arguments : List Argument} {c : Command} :
    t.UsesUp ⟨arguments, none⟩ c ↔ t.Leads arguments c := by
  constructor
  · rintro ⟨path, cursor, hlocate, hfinished⟩
    obtain ⟨k, d, hends, hreached⟩ := exists_endsAt_of_locate hlocate
    obtain ⟨rfl, rfl, rfl⟩ := Reached.mk.inj hreached
    have hnone : arguments[k]? = none := by
      have hanswer := hfinished 0
      rw [Command.answer_handed, Source.answer_drop, Nat.add_zero] at hanswer
      cases hget : arguments[k]? with
      | none => rfl
      | some a =>
        rw [Source.answer_of_getElem? (s := ⟨arguments, none⟩) hget] at hanswer
        cases hanswer
    have hleads := hends.deepest.leads
    rwa [List.take_of_length_le (List.getElem?_eq_none_iff.1 hnone)] at hleads
  · intro hleads
    obtain ⟨cursor, hlocate, hfinished⟩ := locate_of_leads_all hleads
    exact ⟨_, cursor, hlocate, hfinished⟩

end CommandTable

/-- Unnamed, unquoted arguments are shaped like names if they are not empty. -/
theorem Argument.isName_eq_of_plain {a : Argument} (hname : a.name = "")
    (hquoted : a.isQuoted = false) : a.isName = (a.raw != "") := by
  have hstarts : startsQuoted a.raw.toList = false := by
    simpa [isQuoted, valueText, hname] using hquoted
  simp [isName, hname, hstarts]

/-- A name that can be used as one is not empty and does not begin with a quote. -/
theorem of_isCommandName {name : String} (h : isCommandName name = true) :
    name ≠ "" ∧ Argument.startsQuoted name.toList = false := by
  rw [isCommandName] at h
  cases hname : name.toList with
  | nil => simp [hname] at h
  | cons c cs =>
    constructor
    · rintro rfl
      cases hname
    · simp only [hname] at h
      simp_all [Argument.startsQuoted]

namespace CommandTable

variable {t : CommandTable}

/-- Unnamed, unquoted arguments lead to the command at the path that they spell. -/
theorem leads_iff_atPath? (h : t.WellFormed) {arguments : List Argument}
    (hplain : ∀ a ∈ arguments, a.name = "" ∧ a.isQuoted = false) {c : Command} :
    t.Leads arguments c ↔ t.atPath? (arguments.map (·.raw)) = some c := by
  refine and_iff_right_of_imp fun hpath a ha => ?_
  have husable := h.usable_of_atPath? hpath a.raw (List.mem_map_of_mem ha)
  rw [Argument.isName_eq_of_plain (hplain a ha).1 (hplain a ha).2]
  simpa using (of_isCommandName husable).1

/-- Every path of a table is spelled by unnamed, unquoted arguments. -/
theorem exists_arguments_of_mem_walk (h : t.WellFormed) {path : List String} {c : Command}
    (hpath : (path, c) ∈ t.walk) :
    ∃ arguments : List Argument, arguments.map (·.raw) = path ∧
      ∀ a ∈ arguments, a.name = "" ∧ a.isQuoted = false := by
  refine ⟨path.map fun name => ⟨name, "", name, 0⟩, by simp [Function.comp_def], ?_⟩
  intro a ha
  obtain ⟨name, hname, rfl⟩ := List.mem_map.1 ha
  have husable := h.usable_of_atPath? ((mem_walk_iff h).1 hpath) name hname
  exact ⟨rfl, (of_isCommandName husable).2⟩

/--
A walk and resolution describe the same tree.  Of every table that can be made a walk lists
the paths in increasing order, names compared character by character, hence none twice, and
every path after the shorter ones that it begins with.  It lists a path with a command
exactly if unnamed, unquoted arguments that spell the path are used up on that command:
then the handler of the command runs, alone and with no arguments left, or there is none and
that is the problem.
-/
theorem walk_describes (h : t.Made) :
    (t.walk.map (·.1)).Pairwise (· < ·) ∧ (t.walk.map (·.1)).Nodup ∧
    (∀ before path c after, t.walk = before ++ (path, c) :: after →
      ∀ shorter, shorter ≠ [] → shorter <+: path → shorter ≠ path →
        ∃ d, (shorter, d) ∈ before) ∧
    (∀ path c, (path, c) ∈ t.walk → ∃ arguments : List Argument,
      arguments.map (·.raw) = path ∧ ∀ a ∈ arguments, a.name = "" ∧ a.isQuoted = false) ∧
    ∀ arguments : List Argument, (∀ a ∈ arguments, a.name = "" ∧ a.isQuoted = false) →
      ∀ c, ((arguments.map (·.raw), c) ∈ t.walk ↔ t.UsesUp ⟨arguments, none⟩ c) ∧
        (t.UsesUp ⟨arguments, none⟩ c →
          (∀ handler, c.handler = some handler →
            ∃ cursor, t.RunsOnly ⟨arguments, none⟩ handler (arguments.map (·.raw)) cursor ∧
              ∀ n, cursor.answer n = .finished) ∧
          (c.handler = none → t.RunsNothing ⟨arguments, none⟩ (.ofProblem .noHandler))) := by
  have hwf := h.wellFormed
  have hsorted : (t.walk.map (·.1)).Pairwise (· < ·) := List.pairwise_map.2 (pairwise_walk hwf)
  refine ⟨hsorted, hsorted.imp ?_, fun before path c after hwalk shorter hne hbegins hproper =>
    mem_before_of_prefix hwf hwalk hne hbegins hproper,
    fun path c => exists_arguments_of_mem_walk hwf, ?_⟩
  · rintro path other hlt rfl
    exact List.lt_irrefl _ hlt
  · intro arguments hplain c
    rw [mem_walk_iff hwf, usesUp_iff_leads, leads_iff_atPath? hwf hplain]
    refine ⟨Iff.rfl, fun hpath => ?_⟩
    obtain ⟨cursor, hlocate, hfinished⟩ :=
      locate_of_leads_all ((leads_iff_atPath? hwf hplain).2 hpath)
    exact ⟨fun handler hh => ⟨cursor, runsOnly_of_locate hlocate hh, hfinished⟩,
      fun hnone => runsNothing_of_handler_eq_none hlocate hnone⟩

/-- A command with a sub-command, and no handler. -/
def tram : Command := .node none [("stop", .node (some lookAround) [] "")] ""

/-- A table whose commands are not given in the order of their names. -/
def city : CommandTable := ⟨[("tram", tram), ("bus", .node none [] "")]⟩

/-- The table of the city is made of its two commands. -/
theorem made_city : city.Made := by
  have hstop : (Command.node (some lookAround) [] "").Made :=
    @Command.Made.make (some lookAround) [] "" _ (by simp) rfl
  have hbus : (Command.node none [] "").Made := @Command.Made.make none [] "" _ (by simp) rfl
  have htram : tram.Made := by
    apply @Command.Made.make none
      [(.text "stop", .command (.node (some lookAround) [] ""))] "" _ ?_ (by rfl)
    intro key d hd
    simp only [List.mem_singleton, Prod.mk.injEq, Entry.command.injEq] at hd
    rw [hd.2]
    exact hstop
  refine ⟨[(.text "tram", .command tram), (.text "bus", .command (.node none [] ""))], ?_, by rfl⟩
  intro key d hd
  simp only [List.mem_cons, Prod.mk.injEq, Entry.command.injEq, List.not_mem_nil,
    or_false] at hd
  rcases hd with ⟨-, rfl⟩ | ⟨-, rfl⟩
  · exact htram
  · exact hbus

/-- The arguments that name the stop of the tram. -/
def tramStop : List Argument := [⟨"tram", "", "tram", 0⟩, ⟨"stop", "", "stop", 5⟩]

/-- In the city, the walk is in order and its path to the stop is used up there. -/
theorem walk_describes_city :
    city.Made ∧ (city.walk.map (·.1)).Pairwise (· < ·) ∧
      (tramStop.map (·.raw), .node (some lookAround) [] "") ∈ city.walk ∧
      ∃ cursor, city.RunsOnly ⟨tramStop, none⟩ lookAround ["tram", "stop"] cursor ∧
        ∀ n, cursor.answer n = .finished := by
  obtain ⟨hsorted, -, -, -, hresolve⟩ := walk_describes made_city
  obtain ⟨hiff, hruns⟩ :=
    hresolve tramStop (by decide) (.node (some lookAround) [] "")
  have hlisted : (tramStop.map (·.raw), Command.node (some lookAround) [] "") ∈ city.walk :=
    (mem_walk_iff made_city.wellFormed).2 rfl
  exact ⟨made_city, hsorted, hlisted, (hruns (hiff.1 hlisted)).1 lookAround rfl⟩

end CommandTable

end TypedCommands
