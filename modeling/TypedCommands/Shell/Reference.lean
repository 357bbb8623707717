import TypedCommands.Shell.Host
import TypedCommands.Text.Quoted

/-!
# References to objects in modules

The shell works on schemas and command tables that a user names with a module, a
colon and an attribute.  A text that is no reference is refused, and so is one whose module or
attribute the host does not find.  Any other exception of the host is not caught.

Main results:

- Theorem `Reference.parse_eq_some_iff`: a reference is the text in front of the first colon
  and the text behind it, and neither is empty.
- Theorem `Host.load_eq_ok_iff` and theorem `Host.load_eq_escaped_iff`: where a text leads to.
-/

namespace TypedCommands.Shell

open TypedCommands.Text

/-- A module and an attribute of it. -/
structure Reference where
  /-- The name of the module. -/
  moduleName : String
  /-- The name of the attribute. -/
  member : String
  deriving DecidableEq, Repr

namespace Reference

/-- The reference that a text writes. -/
def parse (text : String) : Option Reference :=
  let name := text.toList.takeWhile (· != ':')
  let member := (text.toList.dropWhile (· != ':')).drop 1
  if name.isEmpty || member.isEmpty then none
  else some ⟨String.ofList name, String.ofList member⟩

/-- A reference is written with a colon behind a name that has none. -/
theorem parse_eq_some_iff {text : String} {r : Reference} :
    parse text = some r ↔
      text = r.moduleName ++ ":" ++ r.member ∧ ':' ∉ r.moduleName.toList ∧
        r.moduleName ≠ "" ∧ r.member ≠ "" := by
  have hwhole := List.takeWhile_append_dropWhile (p := (· != ':')) (l := text.toList)
  obtain ⟨moduleName, member⟩ := r
  constructor
  · intro h
    simp only [parse] at h
    split at h
    · cases h
    · next hne =>
      rw [Option.some.injEq, Reference.mk.injEq] at h
      obtain ⟨rfl, rfl⟩ := h
      simp only [Bool.or_eq_true, List.isEmpty_iff, not_or] at hne
      obtain ⟨hname, hmember⟩ := hne
      have hfree : ':' ∉ text.toList.takeWhile (· != ':') := by
        intro hmem
        simpa using List.all_eq_true.1 List.all_takeWhile _ hmem
      cases hrest : text.toList.dropWhile (· != ':') with
      | nil => simp [hrest] at hmember
      | cons c rest =>
        have hc : c = ':' := by simpa using not_of_dropWhile_eq_cons (p := (· != ':')) hrest
        subst hc
        rw [hrest] at hwhole hmember
        have hne : ∀ cs : List Char, cs ≠ [] → String.ofList cs ≠ "" := by
          intro cs hcs h
          exact hcs (by simpa using congrArg String.toList h)
        refine ⟨?_, by simpa using hfree, hne _ hname, hne _ hmember⟩
        generalize text.toList.takeWhile (· != ':') = name at hwhole
        rw [← String.toList_inj, ← hwhole]
        simp
  · rintro ⟨rfl, hcolon, hname, hmember⟩
    have hfree : ∀ c ∈ moduleName.toList, (c != ':') = true := by
      intro c hc
      rw [bne_iff_ne]
      rintro rfl
      exact hcolon hc
    have hparts : (moduleName ++ ":" ++ member).toList =
        moduleName.toList ++ ':' :: member.toList := by
      simp
    rw [parse, hparts, List.takeWhile_append_of_pos hfree, List.dropWhile_append_of_pos hfree]
    simp [hname, hmember]

end Reference

/-- Why the shell gets nothing from a reference. -/
inductive LoadFault where
  /-- The reference is refused. -/
  | refused (refusal : Refusal)
  /-- The host fails with an exception that is not caught. -/
  | escaped (exception : String)
  deriving DecidableEq, Repr

namespace Host

/-- What a text refers to. -/
def load (host : Host) (text : String) : Except LoadFault Offer :=
  match Reference.parse text with
  | none => .error (.refused { reason := "expected MODULE:ATTRIBUTE, got " ++ quoted text })
  | some r =>
    match host.importModule r.moduleName with
    | .error (.raised exception) => .error (.escaped exception)
    | .error (.missing reason) =>
      .error (.refused { reason := "cannot import " ++ quoted r.moduleName ++ ": " ++ reason })
    | .ok m =>
      match m r.member with
      | .error (.raised exception) => .error (.escaped exception)
      | .error (.missing _) =>
        .error (.refused
          { reason := quoted r.moduleName ++ " has no attribute " ++ quoted r.member })
      | .ok offer => .ok offer

/-- A text names something that its module gives. -/
def Names (host : Host) (text : String) (offer : Offer) : Prop :=
  ∃ r m, Reference.parse text = some r ∧ host.importModule r.moduleName = .ok m ∧
    m r.member = .ok offer

/-- An exception comes up when what a text names is imported, or when its module is asked. -/
def Raises (host : Host) (text exception : String) : Prop :=
  ∃ r, Reference.parse text = some r ∧
    (host.importModule r.moduleName = .error (.raised exception) ∨
      ∃ m, host.importModule r.moduleName = .ok m ∧ m r.member = .error (.raised exception))

variable {host : Host} {text : String}

/-- A text leads to what it names. -/
theorem load_eq_ok_iff {offer : Offer} : host.load text = .ok offer ↔ host.Names text offer := by
  rw [load, Names]
  cases Reference.parse text with
  | none => simp
  | some r =>
    cases himport : host.importModule r.moduleName with
    | error absence => cases absence <;> simp [himport]
    | ok m =>
      cases hmember : m r.member with
      | error absence => cases absence <;> simp [himport, hmember]
      | ok found => simp [himport, hmember]

/-- An exception escapes if it comes up in the import or when the module is asked. -/
theorem load_eq_escaped_iff {exception : String} :
    host.load text = .error (.escaped exception) ↔ host.Raises text exception := by
  rw [load, Raises]
  cases Reference.parse text with
  | none => simp
  | some r =>
    cases himport : host.importModule r.moduleName with
    | error absence => cases absence <;> simp [himport]
    | ok m =>
      cases hmember : m r.member with
      | error absence => cases absence <;> simp [himport, hmember]
      | ok found => simp [himport, hmember]

end Host

end TypedCommands.Shell
