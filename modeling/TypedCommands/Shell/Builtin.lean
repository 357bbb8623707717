import TypedCommands.MediaBrowser
import TypedCommands.Shell
import TypedCommands.Shell.Registry

/-!
# The modules of the package

The modules that the package itself consists of, as a registry.  What a module takes over
from another one can be named in both.

Main definitions:

- Definition `packageModules`: the modules.
-/

namespace TypedCommands.Shell

/-- The words of texts. -/
def wordsOf (texts : List String) : List String :=
  texts.flatMap fun text => (text.toList.splitOn ' ').map String.ofList

/-- A class that declares no fields, as it is shown. -/
def shownClass (name shown : String) : String × Offer := (name, .kind (.plainClass shown))

/-- A class of a module that declares no fields. -/
def plainClass (home name : String) : String × Offer :=
  shownClass name ("<class '" ++ home ++ "." ++ name ++ "'>")

/-- Classes of a module that declare no fields. -/
def plainClasses (home : String) (names : List String) : List (String × Offer) :=
  (wordsOf names).map (plainClass home)

/-- Something of a module that is no class. -/
def plainOther (name : String) : String × Offer := (name, .other)

/-- Things of a module that are no classes. -/
def plainOthers (names : List String) : List (String × Offer) := (wordsOf names).map plainOther

/-- Names that a module which comes from a file has. -/
def fileNames : List (String × Offer) := plainOthers ["__builtins__ __cached__ __file__"]

/-- Names that a package has. -/
def packageNames : List (String × Offer) := plainOther "__path__" :: fileNames

/-- The name of a module of the package. -/
def inPackage (name : String) : String := packageName ++ "." ++ name

/-- A schema of a module. -/
def schemaOffer (s : Schema) : String × Offer := (s.name, .kind (.schema s))

/-- The schema of commands; its records cannot be changed. -/
def commandSchema : Schema :=
  { name := "Command"
    fields := [
      { name := "handler", type := .builtin .object, default := some .null },
      { name := "subcommands", type := .builtin .dict, default := some (.dict []) },
      { name := "description", type := .builtin .text, default := some (.text "") }]
    frozen := true }

/-- The schema of the places that a schema has for arguments. -/
def fieldBindingSchema : Schema :=
  { name := "FieldBinding"
    fields := [
      { name := "attr", type := .builtin .text },
      { name := "name", type := .builtin .text },
      { name := "positional", type := .builtin .flag },
      { name := "target", type := .builtin .any },
      { name := "optional", type := .builtin .flag, default := some (.bool false) }]
    frozen := true }

/-- The schema of binding plans. -/
def bindingPlanSchema : Schema :=
  { name := "BindingPlan"
    fields := [
      { name := "destination", type := .builtin .object },
      { name := "named", type := .builtin .dict },
      { name := "positional", type := .builtin .tuple }]
    frozen := true }

/-- Classes of errors. -/
def errorClasses (names : List String) : List (String × Offer) :=
  plainClasses (inPackage "errors") names

/-- Classes of collections. -/
def collectionClasses (names : List String) : List (String × Offer) :=
  plainClasses "collections.abc" names

/-- What stands for a type of any values. -/
def anyClass : String × Offer := shownClass "Any" "typing.Any"

/-- The class of dates. -/
def dateClass : String × Offer := plainClass "datetime" "date"

/-- The class of type variables. -/
def variableClass : String × Offer := plainClass "typing" "TypeVar"

/-- The class of scanned lines. -/
def lineClass : String × Offer := plainClass (inPackage "convenience") "CommandLine"

/-- The class of scanners. -/
def scannerClass : String × Offer := plainClass (inPackage "lexer.lexer") "Lexer"

/-- The class of command tables. -/
def tableClass : String × Offer := plainClass (inPackage "resolver.commands") "CommandTable"

/-- The class of sources that can be peeked at. -/
def cursorClass : String × Offer :=
  plainClass (inPackage "resolver.cursor") "PeekableIterator"

/-- The class of types that read their own values. -/
def parserClass : String × Offer := plainClass (inPackage "binder.values") "ValueParser"

/-- The schema of arguments. -/
def argumentOffer : String × Offer := schemaOffer Argument.schema

/-- The schema of commands. -/
def commandOffer : String × Offer := schemaOffer commandSchema

/-- What the package itself offers. -/
def rootModule : StoredModule :=
  { name := packageName
    package := true
    offers :=
    [anyClass, lineClass, argumentOffer, commandOffer, tableClass] ++
    collectionClasses ["Iterable Iterator"] ++
    errorClasses ["ArgumentSyntaxError CommandError ConfigurationError InputError"] ++
    plainOthers
      ["annotations bind_command static_command __version__ parse tokenize bind resolve __all__",
        "binder cli convenience demo errors grammar lexer resolver serializer"] ++
    packageNames }

/-- What the module of the sample browser offers. -/
def browserModule : StoredModule :=
  { name := inPackage "demo"
    offers :=
    [schemaOffer MediaBrowser.sceneQuery, schemaOffer MediaBrowser.galleryQuery,
      schemaOffer MediaBrowser.openItem, schemaOffer MediaBrowser.deleteScene,
      schemaOffer MediaBrowser.quit, schemaOffer MediaBrowser.sortKey,
      ("COMMANDS", .table MediaBrowser.commands), dateClass, tableClass] ++
    plainOthers ["annotations dataclass field binding bind_command static_command"] ++
    fileNames }

/-- What the module of scanned lines offers. -/
def lineModule : StoredModule :=
  { name := inPackage "convenience"
    offers :=
    [anyClass, variableClass, lineClass] ++ plainOthers ["annotations TYPE_CHECKING T"] ++
    fileNames }

/-- What the module of errors offers. -/
def errorModule : StoredModule :=
  { name := inPackage "errors"
    offers :=
    errorClasses
      ["CommandError ArgumentSyntaxError InputError UnrecognisedArgumentError InvalidValueError",
        "NoInputError ExpectedCommandError UnmatchedCommandError ConfigurationError",
        "BindDestinationError BindingTagError UnsupportedDestinationError NoResolverError"] ++
    plainOthers ["annotations TYPE_CHECKING _type_name"] ++ fileNames }

/-- What the module of documents offers. -/
def documentModule : StoredModule :=
  { name := inPackage "serializer"
    offers :=
    [anyClass, dateClass, argumentOffer,
      plainClass (inPackage "serializer") "ArgumentSerializer"] ++
    collectionClasses ["Iterable"] ++
    plainOthers ["annotations dataclasses json yaml record_to_dict _plain"] ++ fileNames }

/-- What the modules of the grammar offer. -/
def grammarModules : Registry := [
  { name := inPackage "grammar"
    package := true
    offers :=
    argumentOffer ::
      plainOthers
        ["annotations FULL_GRAMMAR GRAMMAR_LINE GRAMMAR_TAG ESCAPE_CHAR NAME_SEPARATOR QUOTE_CHARS",
        "__all__ grammar tokens"] ++
      packageNames },
  { name := inPackage "grammar.tokens"
    offers :=
    argumentOffer ::
      plainOthers ["annotations dataclass field Final NAME_SEPARATOR QUOTE_CHARS ESCAPE_CHAR"] ++
      fileNames },
  { name := inPackage "grammar.grammar"
    offers := plainOthers ["annotations GRAMMAR_LINE GRAMMAR_TAG FULL_GRAMMAR"] ++ fileNames }]

/-- What the modules of the scanner offer. -/
def scannerModules : Registry := [
  { name := inPackage "lexer"
    package := true
    offers :=
    scannerClass :: errorClasses ["ArgumentSyntaxError"] ++
      plainOthers ["annotations parse tokenize __all__ lexer"] ++ packageNames },
  { name := inPackage "lexer.lexer"
    offers :=
    scannerClass :: argumentOffer :: errorClasses ["ArgumentSyntaxError"] ++
      plainOthers
        ["annotations unicodedata ESCAPE_CHAR NAME_SEPARATOR QUOTE_CHARS _unquote _is_control",
        "parse tokenize"] ++
      fileNames }]

/-- What the modules of commands offer. -/
def commandModules : Registry := [
  { name := inPackage "resolver"
    package := true
    offers :=
    [commandOffer, tableClass, cursorClass] ++
    plainOthers
      ["annotations Handler bind_command resolve static_command __all__ commands cursor"] ++
    packageNames },
  { name := inPackage "resolver.commands"
    offers :=
    [anyClass, shownClass "MappingProxyType" "<class 'mappingproxy'>", argumentOffer,
      commandOffer, tableClass, scannerClass, cursorClass] ++
    collectionClasses ["Callable Iterable Iterator Mapping"] ++
    errorClasses
      ["CommandError ConfigurationError ExpectedCommandError NoInputError NoResolverError",
        "UnmatchedCommandError"] ++
    plainOthers
      ["annotations logging dataclass field bind_new check_constructible NAME_SEPARATOR",
        "QUOTE_CHARS logger Handler _is_command_name bind_command static_command resolve"] ++
    fileNames },
  { name := inPackage "resolver.cursor"
    offers :=
    argumentOffer :: cursorClass :: collectionClasses ["Iterable Iterator"] ++
      plainOthers ["annotations _EMPTY"] ++ fileNames }]

/-- What the modules of binding offer. -/
def bindingModules : Registry := [
  { name := inPackage "binder"
    package := true
    offers :=
    [schemaOffer bindingPlanSchema, schemaOffer fieldBindingSchema, parserClass] ++
    plainOthers
      ["annotations bind bind_new check_constructible TAG_KEY binding binding_plan parse_tag",
        "DATE_FORMAT coerce __all__ binder fields values"] ++
    packageNames },
  { name := inPackage "binder.binder"
    offers :=
    [variableClass, schemaOffer fieldBindingSchema, argumentOffer] ++
    collectionClasses ["Iterable"] ++
    errorClasses ["BindDestinationError UnrecognisedArgumentError"] ++
    plainOthers
      ["annotations dataclasses binding_plan coerce T bind bind_new check_constructible _assign"] ++
    fileNames },
  { name := inPackage "binder.fields"
    offers :=
    [anyClass, schemaOffer bindingPlanSchema, schemaOffer fieldBindingSchema] ++
    collectionClasses ["Mapping"] ++ errorClasses ["BindingTagError ConfigurationError"] ++
    plainOthers
      ["annotations dataclasses functools logging types typing dataclass Final Union",
        "NAME_SEPARATOR QUOTE_CHARS logger TAG_KEY POSITIONAL_FLAG binding parse_tag binding_plan",
        "_unwrap_optional"] ++
    fileNames },
  { name := inPackage "binder.values"
    offers :=
    [anyClass, dateClass, plainClass "typing" "Protocol", parserClass] ++
    plainClasses "datetime" ["datetime timezone"] ++ collectionClasses ["Callable"] ++
    errorClasses ["InvalidValueError UnsupportedDestinationError"] ++
    plainOthers
      ["annotations re typing Final runtime_checkable DATE_FORMAT _INT_PATTERN _DATE_PATTERN",
        "_BOOL_VALUES _parse_int _parse_float _parse_bool _parse_date _parse_datetime",
        "_BUILTIN_PARSERS coerce _parser_for"] ++
    fileNames }]

/-- What the modules of the shell offer. -/
def shellModules : Registry := [
  { name := inPackage "cli"
    package := true
    offers := plainOthers ["annotations main"] ++ packageNames },
  { name := inPackage "cli.main"
    offers :=
    [anyClass, plainClass "rich.console" "Console", plainClass "rich.table" "Table",
      plainClass "rich.text" "Text", plainClass "rich.tree" "Tree"] ++
    errorClasses ["ArgumentSyntaxError CommandError ConfigurationError"] ++
    plainOthers
      ["annotations importlib logging sys click console err_console DEFAULT_TABLE DEFAULT_TARGET",
        "_load_object _report_error _record_table cli version_command grammar_command lex_command",
        "bind_command resolve_command commands_command"] ++
    fileNames }]

/-- The modules of the package. -/
def packageModules : Registry :=
  [rootModule, browserModule, lineModule, errorModule, documentModule] ++ grammarModules ++
    scannerModules ++ commandModules ++ bindingModules ++ shellModules

end TypedCommands.Shell
