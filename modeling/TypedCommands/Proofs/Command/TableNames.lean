import Mathlib.Data.List.Forall2
import TypedCommands.Command
import TypedCommands.Proofs.Line.Names

/-!
# The names of a command table

A table goes through its entries in their order and either takes all of them or is refused
for the first that it does not take.  What it asks of a name is what can be asked without a
scanner: that the name could be typed, were its stray characters letters.  So among the
names without stray characters a table takes those that some line gives, and no others.

Main results:

- Theorem `isCommandName_iff_isTypedCommand`: which names a table takes.
- Theorems `CommandTable.check_eq_ok_iff` and `CommandTable.check_eq_error_iff`: when all
  entries are taken, and for which entry and with which problem they are refused.
- Theorem `CommandTable.ofEntries_typed`: tables, at the root or below a command, take the
  names that can be typed.
-/

namespace TypedCommands

open TypedCommands.Text TypedCommands.Line

/-- A name is taken if it is a bare word with letters for its stray characters. -/
theorem isCommandName_iff_isBareWord (name : String) :
    isCommandName name = true ↔ IsBareWord (lettered name.toList) := by
  rw [isBareWord_lettered_iff, isCommandName]
  cases hname : name.toList with
  | nil => simp
  | cons c cs => simp [and_comm, and_left_comm]

/-- A name is taken exactly if it could be typed with letters for its stray characters. -/
theorem isCommandName_iff_isTypedCommand (name : String) :
    isCommandName name = true ↔ IsTypedCommand (withLetters name) := by
  rw [isTypedCommand_iff, toList_withLetters]
  exact isCommandName_iff_isBareWord name

namespace CommandTable

/-! ## One entry -/

/-- An entry is a command under a name. -/
def Gives (e : Value × Entry) (c : String × Command) : Prop :=
  e.1.content? = some c.1 ∧ e.2 = .command c.2

/-- An entry that a table takes: a name that can be typed, strays apart, with a command. -/
def Takes (e : Value × Entry) : Prop := ∃ c, Gives e c ∧ IsTypedCommand (withLetters c.1)

/-- Why a table refuses an entry: for its key, or for what stands under a name. -/
inductive Refuses : Value × Entry → Problem → Prop
  | key {key : Value} {entry : Entry} :
      (∀ name, key.content? = some name → ¬ IsTypedCommand (withLetters name)) →
      Refuses (key, entry) (.configuration (.commandName key.shown))
  | entry {key : Value} {name type : String} :
      key.content? = some name → IsTypedCommand (withLetters name) →
      Refuses (key, .other type) (.configuration (.notCommand key.shown type))

/-- A key gives the name that is its text, if that can be typed. -/
theorem commandName?_eq_some {key : Value} {name : String} (hkey : key.content? = some name)
    (h : IsTypedCommand (withLetters name)) : commandName? key = some name := by
  rw [commandName?, hkey]
  exact Option.filter_eq_some_iff.2 ⟨rfl, (isCommandName_iff_isTypedCommand name).2 h⟩

/-- A key gives no name if it has no text that can be typed. -/
theorem commandName?_eq_none {key : Value}
    (h : ∀ name, key.content? = some name → ¬ IsTypedCommand (withLetters name)) :
    commandName? key = none := by
  refine Option.filter_eq_none_iff.2 fun name hname husable => h name hname ?_
  exact (isCommandName_iff_isTypedCommand name).1 husable

/-- An entry is either taken or refused. -/
theorem takes_or_refuses (e : Value × Entry) : Takes e ∨ ∃ problem, Refuses e problem := by
  obtain ⟨key, entry⟩ := e
  by_cases hkey : ∃ name, key.content? = some name ∧ IsTypedCommand (withLetters name)
  · obtain ⟨name, hcontent, hname⟩ := hkey
    cases entry with
    | command c => exact .inl ⟨(name, c), ⟨hcontent, rfl⟩, hname⟩
    | other type => exact .inr ⟨_, .entry hcontent hname⟩
  · exact .inr ⟨_, .key fun name hname htyped => hkey ⟨name, hname, htyped⟩⟩

/-- What is refused is not taken. -/
theorem Refuses.not_takes {e : Value × Entry} {problem : Problem} (h : Refuses e problem) :
    ¬ Takes e := by
  obtain ⟨key, entry⟩ := e
  rintro ⟨c, ⟨hcontent, hcommand⟩, hname⟩
  cases h with
  | key hno => exact hno c.1 hcontent hname
  | entry => cases hcommand

/-! ## All entries -/

/-- An entry that is taken is the first command of the table. -/
theorem check_cons_of_gives {e : Value × Entry} {c : String × Command} (h : Gives e c)
    (htyped : IsTypedCommand (withLetters c.1)) (rest : List (Value × Entry)) :
    check (e :: rest) = (check rest).map (c :: ·) := by
  obtain ⟨key, entry⟩ := e
  obtain ⟨name, command⟩ := c
  obtain ⟨hcontent, rfl⟩ := h
  simp only [check, commandName?_eq_some hcontent htyped]

/-- An entry that is refused is what the whole table is refused for. -/
theorem check_cons_of_refuses {e : Value × Entry} {problem : Problem} (h : Refuses e problem)
    (rest : List (Value × Entry)) : check (e :: rest) = .error problem := by
  cases h with
  | key hno => simp only [check, commandName?_eq_none hno]
  | entry hcontent hname => simp only [check, commandName?_eq_some hcontent hname]

/-- An entry is refused for one reason only. -/
theorem Refuses.unique {e : Value × Entry} {problem other : Problem} (h : Refuses e problem)
    (h' : Refuses e other) : problem = other := by
  have hone := check_cons_of_refuses h []
  rw [check_cons_of_refuses h'] at hone
  exact (Except.error.inj hone).symm

/-- All entries are taken exactly if they are commands under names that can be typed. -/
theorem check_eq_ok_iff {entries : List (Value × Entry)} {commands : List (String × Command)} :
    check entries = .ok commands ↔
      List.Forall₂ Gives entries commands ∧
        ∀ c ∈ commands, IsTypedCommand (withLetters c.1) := by
  induction entries generalizing commands with
  | nil =>
    rw [check, List.forall₂_nil_left_iff, Except.ok.injEq]
    constructor
    · rintro rfl
      exact ⟨rfl, by simp⟩
    · rintro ⟨rfl, -⟩
      rfl
  | cons e entries ih =>
    constructor
    · intro h
      rcases takes_or_refuses e with ⟨c, hgives, hname⟩ | ⟨problem, hrefuses⟩
      · rw [check_cons_of_gives hgives hname] at h
        cases hrest : check entries with
        | error problem => simp [hrest, Except.map] at h
        | ok rest =>
          simp only [hrest, Except.map, Except.ok.injEq] at h
          subst h
          obtain ⟨hgiven, htyped⟩ := ih.1 hrest
          refine ⟨.cons hgives hgiven, ?_⟩
          intro d hd
          rcases List.mem_cons.1 hd with rfl | hd
          · exact hname
          · exact htyped d hd
      · rw [check_cons_of_refuses hrefuses] at h
        cases h
    · rintro ⟨hgiven, htyped⟩
      cases hgiven with
      | @cons _ c _ rest hgives hrest =>
        have hok : check entries = .ok rest :=
          ih.2 ⟨hrest, fun d hd => htyped d (List.mem_cons_of_mem _ hd)⟩
        rw [check_cons_of_gives hgives (htyped c List.mem_cons_self), hok]
        rfl

/-- The first refused entry is the first one of all, or that is taken and one behind it is. -/
theorem exists_first_refused_cons_iff {e : Value × Entry} {entries : List (Value × Entry)}
    {problem : Problem} :
    (∃ before d after, e :: entries = before ++ d :: after ∧ (∀ b ∈ before, Takes b) ∧
      Refuses d problem) ↔
    Refuses e problem ∨ Takes e ∧ ∃ before d after, entries = before ++ d :: after ∧
      (∀ b ∈ before, Takes b) ∧ Refuses d problem := by
  constructor
  · rintro ⟨before, d, after, hsplit, htakes, hd⟩
    cases before with
    | nil =>
      obtain ⟨rfl, -⟩ := List.cons.inj hsplit
      exact .inl hd
    | cons b before =>
      obtain ⟨rfl, hrest⟩ := List.cons.inj hsplit
      obtain ⟨hfirst, hothers⟩ := List.forall_mem_cons.1 htakes
      exact .inr ⟨hfirst, before, d, after, hrest, hothers, hd⟩
  · rintro (hd | ⟨hfirst, before, d, after, rfl, hothers, hd⟩)
    · exact ⟨[], e, entries, rfl, by simp, hd⟩
    · exact ⟨e :: before, d, after, rfl, List.forall_mem_cons.2 ⟨hfirst, hothers⟩, hd⟩

/-- Entries are refused for the first of them that is not taken. -/
theorem check_eq_error_iff {entries : List (Value × Entry)} {problem : Problem} :
    check entries = .error problem ↔
      ∃ before e after, entries = before ++ e :: after ∧ (∀ b ∈ before, Takes b) ∧
        Refuses e problem := by
  induction entries with
  | nil =>
    constructor
    · intro h
      cases h
    · rintro ⟨before, e, after, hsplit, -⟩
      simp at hsplit
  | cons e entries ih =>
    rw [exists_first_refused_cons_iff]
    rcases takes_or_refuses e with ⟨c, hgives, hname⟩ | ⟨reason, hrefuses⟩
    · have htakes : Takes e := ⟨c, hgives, hname⟩
      have hmap : (check entries).map (c :: ·) = .error problem ↔
          check entries = .error problem := by
        cases check entries <;> simp [Except.map]
      rw [check_cons_of_gives hgives hname, hmap, ih]
      constructor
      · exact fun hrest => .inr ⟨htakes, hrest⟩
      · rintro (hrefuses | ⟨-, hrest⟩)
        · exact absurd htakes hrefuses.not_takes
        · exact hrest
    · rw [check_cons_of_refuses hrefuses, Except.error.injEq]
      constructor
      · rintro rfl
        exact .inl hrefuses
      · rintro (hother | ⟨htakes, -⟩)
        · exact hrefuses.unique hother
        · exact absurd htakes hrefuses.not_takes

/-! ## Tables -/

/-- When a table is made of entries. -/
theorem ofEntries_eq_ok_iff {entries : List (Value × Entry)} {t : CommandTable} :
    ofEntries entries = .ok t ↔
      List.Forall₂ Gives (assocOfPairs sameKey entries) t.commands ∧
        ∀ name ∈ t.names, IsTypedCommand (withLetters name) := by
  have hmap : ofEntries entries = .ok t ↔
      check (assocOfPairs sameKey entries) = .ok t.commands := by
    rw [ofEntries]
    obtain ⟨commands⟩ := t
    cases check (assocOfPairs sameKey entries) <;> simp [Except.map]
  rw [hmap, check_eq_ok_iff, names, List.forall_mem_map]

/-- When entries are refused. -/
theorem ofEntries_eq_error_iff {entries : List (Value × Entry)} {problem : Problem} :
    ofEntries entries = .error problem ↔
      ∃ before e after, assocOfPairs sameKey entries = before ++ e :: after ∧
        (∀ b ∈ before, Takes b) ∧ Refuses e problem := by
  have hmap : ofEntries entries = .error problem ↔
      check (assocOfPairs sameKey entries) = .error problem := by
    rw [ofEntries]
    cases check (assocOfPairs sameKey entries) <;> simp [Except.map]
  rw [hmap, check_eq_error_iff]

/--
The names of tables.  A table is made of its entries exactly if each is a command under a
name that could be typed with letters for its stray characters; otherwise making it fails
with a configuration problem about the first entry that is not like this.  A table below a
command is made in the same way.  For a name without stray characters the letters change
nothing, so it is taken exactly if some line gives it; a name with one is given by no line.
-/
theorem ofEntries_typed (entries : List (Value × Entry)) :
    (∀ t, ofEntries entries = .ok t ↔
      List.Forall₂ Gives (assocOfPairs sameKey entries) t.commands ∧
        ∀ name ∈ t.names, IsTypedCommand (withLetters name)) ∧
    (∀ problem, ofEntries entries = .error problem ↔
      ∃ before e after, assocOfPairs sameKey entries = before ++ e :: after ∧
        (∀ b ∈ before, Takes b) ∧ Refuses e problem) ∧
    (∀ handler description,
      (∀ c, Command.make handler entries description = .ok c ↔
        ∃ t, ofEntries entries = .ok t ∧ c = .node handler t.commands description) ∧
      ∀ problem, Command.make handler entries description = .error problem ↔
        ofEntries entries = .error problem) ∧
    (∀ name : String, (∀ c ∈ name.toList, isStray c = false) →
      (IsTypedCommand (withLetters name) ↔ IsTypedCommand name)) ∧
    ∀ name : String, IsTypedCommand name → ∀ c ∈ name.toList, isStray c = false := by
  refine ⟨fun t => ofEntries_eq_ok_iff, fun problem => ofEntries_eq_error_iff, ?_, ?_, ?_⟩
  · intro handler description
    rw [Command.make]
    cases ofEntries entries with
    | error problem => simp [Except.map]
    | ok t => simp [Except.map, eq_comm]
  · intro name hstray
    rw [withLetters_eq_self hstray]
  · intro name htyped
    rw [isTypedCommand_iff, isBareWord_iff_lettered] at htyped
    exact htyped.2

/-- A table takes a name with a stray character in it, which no line gives. -/
theorem ofEntries_bell :
    (∃ t, ofEntries [(.text bellName, .command (.node none [] ""))] = .ok t ∧
      bellName ∈ t.names) ∧ ¬ IsTypedCommand bellName := by
  refine ⟨⟨⟨[(bellName, .node none [] "")]⟩, by rfl, List.mem_singleton_self _⟩, ?_⟩
  rw [isTypedCommand_iff]
  exact not_isBareWord_bellName

end CommandTable

end TypedCommands
