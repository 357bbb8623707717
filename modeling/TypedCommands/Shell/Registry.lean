import TypedCommands.Shell.Reference

/-!
# Registries of modules

A host may keep the modules that can be named in a list.  A module in a package is looked for
together with the packages around it, so that the outermost one that is missing is named.

Main definitions:

- Definition `Registry.importModule`: the module with a name.
-/

namespace TypedCommands.Shell

open TypedCommands.Text

/-- A module of a registry. -/
structure StoredModule where
  /-- Its name, with the names of the packages it lies in. -/
  name : String
  /-- Whether other modules may lie in it. -/
  package : Bool := false
  /-- What it offers. -/
  offers : List (String × Offer) := []

/-- The names that every module has, whatever it offers. -/
def ownNames : List String :=
  ["__annotations__", "__delattr__", "__dict__", "__dir__", "__doc__", "__eq__", "__format__",
    "__ge__", "__getattribute__", "__getstate__", "__gt__", "__hash__", "__init__",
    "__init_subclass__", "__le__", "__loader__", "__lt__", "__name__", "__ne__", "__new__",
    "__package__", "__reduce__", "__reduce_ex__", "__repr__", "__setattr__", "__sizeof__",
    "__spec__", "__str__", "__subclasshook__"]

/-- What a module gives under a name. -/
def StoredModule.give (m : StoredModule) : Module := fun name =>
  match m.offers.lookup name with
  | some o => .ok o
  | none =>
    if name = "__class__" then .ok (.kind (.plainClass "<class 'module'>"))
    else if ownNames.contains name then .ok .other
    else .error (.missing ("no attribute " ++ quoted name))

/-- The modules that can be named. -/
abbrev Registry := List StoredModule

/-- The names of a module and of the packages it lies in, the outermost first. -/
def enclosing (before : List Char) : List (List Char) → List String
  | [] => []
  | part :: rest =>
    let name := if before.isEmpty then part else before ++ '.' :: part
    String.ofList name :: enclosing name rest

namespace Registry

/-- Add an offer to a module, which is made if there is none of the name. -/
def offer (moduleName member : String) (o : Offer) : Registry → Registry
  | [] => [{ name := moduleName, offers := [(member, o)] }]
  | m :: rest =>
    if m.name = moduleName then { m with offers := (member, o) :: m.offers } :: rest
    else m :: offer moduleName member o rest

/-- Add what a text is to refer to; a text that is no reference adds nothing. -/
def insert (r : Registry) (text : String) (o : Offer) : Registry :=
  match Reference.parse text with
  | none => r
  | some reference => offer reference.moduleName reference.member o r

/-- The module with a name. -/
def find? (r : Registry) (name : String) : Option StoredModule := List.find? (·.name == name) r

/-- The wording for a module that is missing. -/
def noModule (name : String) : String := "No module named " ++ quoted name

/--
Find a module by its name and those of the packages around it, the innermost first.  A
module that is not there is looked for in its package, so that a missing package is the
first thing to be missed.
-/
def locate (r : Registry) : List String → Except String StoredModule
  | [] => .error (noModule "")
  | name :: outer =>
    match r.find? name with
    | some m => .ok m
    | none =>
      if outer.isEmpty then .error (noModule name)
      else
        match r.locate outer with
        | .error reason => .error reason
        | .ok m =>
          .error (noModule name ++
            if m.package then "" else "; " ++ quoted m.name ++ " is not a package")

/-- The module with a name; no name is relative to another one here. -/
def importModule (r : Registry) (name : String) : Except Absence Module :=
  if name.toList.head? == some '.' then .error (.raised "TypeError")
  else
    match r.locate (enclosing [] (name.toList.splitOn '.')).reverse with
    | .error reason => .error (.missing reason)
    | .ok m => .ok m.give

end Registry

end TypedCommands.Shell
