import TypedCommands.Text.Quoted
import TypedCommands.Text.Similarity

/-!
# Options and arguments of shell commands

The words behind the name of a shell command are options, with or without a value,
and arguments.  Options may stand anywhere unless the first argument ends them; behind
two hyphens there are only arguments.

Main definitions:

- Definition `readWords`: the options and arguments of words.
-/

namespace TypedCommands.Shell

open TypedCommands.Text

/-- An option of a shell command. -/
structure Switch where
  /-- The name, with two hyphens in front. -/
  name : String
  /-- The letter that may stand for it behind one hyphen. -/
  letter : Option Char := none
  /-- What stands for its value in descriptions; none for an option without a value. -/
  placeholder : Option String := none
  /-- The values it can have, if not any. -/
  choices : List String := []
  /-- What it does. -/
  help : String
  /-- The value it has when it is not given, if descriptions show it. -/
  shownDefault : Option String := none

/-- Whether an option has a value. -/
def Switch.takesValue (s : Switch) : Bool := s.placeholder.isSome

/-- Why the words behind a shell command are not what it takes. -/
inductive UsageFault where
  /-- There is no such option. -/
  | noSuchOption (name : String) (similar : List String)
  /-- The value of an option is missing. -/
  | needsValue (name : String)
  /-- An option has a value though it takes none. -/
  | takesNoValue (name : String)
  /-- The argument is missing. -/
  | missingArgument (name : String)
  /-- There are more arguments than the command takes. -/
  | extraArguments (words : List String)
  /-- An option has a value that is none of its choices. -/
  | noChoice (name value : String) (choices : List String)
  /-- A value is refused; given are the option, if it is named, and the reason. -/
  | refusedValue (name : Option String) (reason : String)
  /-- There is no such command. -/
  | noSuchCommand (name : String) (similar : List String)
  /-- The command is missing. -/
  | missingCommand
  deriving DecidableEq, Repr

namespace UsageFault

/-- A question behind a message that offers similar names. -/
def suggestion : List String → String
  | [] => ""
  | [one] => " Did you mean " ++ quoted one ++ "?"
  | several =>
    " (Did you mean one of: " ++
      ", ".intercalate ((several.mergeSort (· ≤ ·)).map quoted) ++ "?)"

/-- The wording of a fault. -/
def message : UsageFault → String
  | noSuchOption name similar => "No such option " ++ quoted name ++ "." ++ suggestion similar
  | needsValue name => "Option " ++ quoted name ++ " requires an argument."
  | takesNoValue name => "Option " ++ quoted name ++ " does not take a value."
  | missingArgument name => "Missing argument '" ++ name ++ "'."
  | extraArguments words =>
    "Got unexpected extra argument" ++ (if words.length = 1 then "" else "s") ++ " (" ++
      " ".intercalate words ++ ")"
  | noChoice name value choices =>
    "Invalid value for '" ++ name ++ "': " ++ quoted value ++ " is not one of " ++
      ", ".intercalate (choices.map quoted) ++ "."
  | refusedValue none reason => "Invalid value: " ++ reason
  | refusedValue (some name) reason => "Invalid value for " ++ name ++ ": " ++ reason
  | noSuchCommand name similar => "No such command " ++ quoted name ++ "." ++ suggestion similar
  | missingCommand => "Missing command."

/-- Whether the message comes with a reminder of how the command is used. -/
def showsUsage : UsageFault → Bool
  | needsValue _ => false
  | takesNoValue _ => false
  | _ => true

end UsageFault

/-- The options and arguments that were given. -/
structure Given where
  /-- The options by their names, each with its value if it takes one, in order. -/
  options : List (String × Option String) := []
  /-- The arguments. -/
  arguments : List String := []

namespace Given

/-- Whether an option was given. -/
def has (g : Given) (name : String) : Bool := g.options.any (·.1 == name)

/-- The last value that was given to an option. -/
def value? (g : Given) (name : String) : Option String :=
  (g.options.reverse.find? (·.1 == name)).bind (·.2)

/-- Put an argument in front. -/
def withArgument (g : Given) (word : String) : Given :=
  { g with arguments := word :: g.arguments }

end Given

/-- What one word with hyphens in front gives. -/
inductive SwitchWord where
  /-- Options, the last of them with the value it has, if it has one. -/
  | complete (options : List (String × Option String))
  /-- Options, and one more whose value is the next word; `shown` is how it was written. -/
  | waiting (options : List (String × Option String)) (name shown : String)

/-- Put options in front of those of a word. -/
def SwitchWord.withFlag (name : String) : SwitchWord → SwitchWord
  | complete options => complete ((name, none) :: options)
  | waiting options last shown => waiting ((name, none) :: options) last shown

/-- Read letters behind one hyphen. -/
def readLetters (switches : List Switch) : List Char → Except UsageFault SwitchWord
  | [] => .ok (.complete [])
  | c :: rest =>
    let shown := String.ofList ['-', c]
    match switches.find? (·.letter == some c) with
    | none => .error (.noSuchOption shown [])
    | some s =>
      if s.takesValue then
        if rest.isEmpty then .ok (.waiting [] s.name shown)
        else .ok (.complete [(s.name, some (String.ofList rest))])
      else (readLetters switches rest).map (·.withFlag s.name)

/-- Read a word with hyphens in front. -/
def readSwitch (switches : List Switch) (word : String) : Except UsageFault SwitchWord :=
  let name := String.ofList (word.toList.takeWhile (· != '='))
  let attached :=
    if word.toList.contains '=' then
      some (String.ofList ((word.toList.dropWhile (· != '=')).drop 1))
    else none
  match switches.find? (·.name == name), attached with
  | some s, some value =>
    if s.takesValue then .ok (.complete [(s.name, some value)]) else .error (.takesNoValue name)
  | some s, none =>
    if s.takesValue then .ok (.waiting [] s.name name) else .ok (.complete [(s.name, none)])
  | none, _ =>
    if "--".isPrefixOf word then
      .error (.noSuchOption name (similarTexts name (switches.map (·.name))))
    else readLetters switches (word.toList.drop 1)

/-- Whether a word is read as an option. -/
def isSwitch (word : String) : Bool := "-".isPrefixOf word && word != "-"

/--
Read the words behind a shell command.  With `mixed` options may stand behind
arguments; without, the first argument ends them.
-/
def readWords (switches : List Switch) (mixed : Bool) : Nat → List String → Except UsageFault Given
  | 0, words => .ok { arguments := words }
  | _ + 1, [] => .ok {}
  | fuel + 1, word :: rest =>
    if word = "--" then .ok { arguments := rest }
    else if isSwitch word then
      match readSwitch switches word with
      | .error fault => .error fault
      | .ok (.complete options) =>
        (readWords switches mixed fuel rest).map fun g => { g with options := options ++ g.options }
      | .ok (.waiting options name shown) =>
        match rest with
        | [] => .error (.needsValue shown)
        | value :: rest =>
          (readWords switches mixed fuel rest).map fun g =>
            { g with options := options ++ (name, some value) :: g.options }
    else if mixed then (readWords switches mixed fuel rest).map (·.withArgument word)
    else .ok { arguments := word :: rest }

/-- The characters outside the ASCII set that stand for ASCII letters when capitals are ignored. -/
def foldedLetters : List (Char × String) :=
  [('ß', "ss"), ('ẞ', "ss"), ('ſ', "s"), ('\u212a', "k"), ('ﬀ', "ff"), ('ﬁ', "fi"), ('ﬂ', "fl"),
    ('ﬃ', "ffi"), ('ﬄ', "ffl"), ('ﬅ', "st"), ('ﬆ', "st")]

/--
A text without capitals.  Only what becomes ASCII letters is changed, which is enough
for a comparison with an ASCII text.
-/
def foldCapitals (text : String) : String :=
  String.ofList (text.toList.flatMap fun c =>
    match foldedLetters.lookup c with
    | some letters => letters.toList
    | none => [c.toLower])

/-- The choice that a value stands for, whatever its capitals. -/
def choice? (choices : List String) (value : String) : Option String :=
  choices.find? fun c => foldCapitals c == foldCapitals value

/-- Check the last value of an option that has choices. -/
def checkChoice (switches : List Switch) (g : Given) (name : String) : Except UsageFault Unit :=
  match switches.find? (·.name == name), g.value? name with
  | some s, some v =>
    if s.choices.isEmpty || (choice? s.choices v).isSome then .ok ()
    else .error (.noChoice name v s.choices)
  | _, _ => .ok ()

/-- Check the values of all options that have choices, in the order they were given. -/
def checkChoices (switches : List Switch) (g : Given) : Except UsageFault Unit :=
  g.options.forM fun o => checkChoice switches g o.1

end TypedCommands.Shell
