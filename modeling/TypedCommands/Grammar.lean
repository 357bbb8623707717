/-!
# The grammar of command lines and of binding tags

The grammar as it is printed for users.  The scanner of lines decides what a line
means; these texts describe it.
-/

namespace TypedCommands.Grammar

/-- Lines with line feeds between them. -/
def joinLines (ls : List String) : String := "\n".intercalate ls

/-- The grammar of command lines. -/
def lines : String := joinLines [
  "",
  "line      := (ws* argument)* ws*",
  "argument  := name? value",
  "name      := token '='            ; token contains no '=' and no whitespace",
  "value     := quoted | bare",
  "quoted    := '\"' ( '\\\"' | any-char-except-quote )* '\"'",
  "           | \"'\" ( \"\\'\" | any-char-except-quote )* \"'\"",
  "bare      := (any-char-except-whitespace-and-'=')+",
  ""]

/-- The grammar of binding tags. -/
def tags : String := joinLines [
  "",
  "tag       := binding-name? (',' 'positional')?",
  "           ; an empty binding-name defaults to the lower-cased field name",
  ""]

/-- Both grammars under headings. -/
def full : String := joinLines [
  "# Command Argument Grammar (EBNF-like notation)",
  "# =============================================",
  "",
  "# Input line",
  lines,
  "# Binding tags",
  tags]

end TypedCommands.Grammar
