import TypedCommands.Text.Blank
import TypedCommands.Text.DecimalDigit
import TypedCommands.Text.Lowercase
import TypedCommands.Number.Whole

/-!
# Styles

A style is written as words: attributes, each perhaps with `not` in front, a colour, `on`
and a second colour for the background, and `link` with an address.  Styles of the same
effect have the same normal form.

Main definitions:

- Definition `normalForm`: the words that all styles of the same effect share.
-/

namespace TypedCommands.Terminal

open TypedCommands.Text

/-- Why words are no style. -/
inductive StyleFault where
  /-- A word is out of place or unknown. -/
  | unknown
  /-- A part of a colour is no number. -/
  | noNumber
  deriving DecidableEq, Repr

/-- The attributes in the order of normal forms, each with its other names. -/
def attributeNames : List (String × List String) :=
  [("bold", ["b"]), ("dim", ["d"]), ("italic", ["i"]), ("underline", ["u"]), ("blink", []),
    ("blink2", []), ("reverse", ["r"]), ("conceal", ["c"]), ("strike", ["s"]),
    ("underline2", ["uu"]), ("frame", []), ("encircle", []), ("overline", ["o"])]

/-- The attribute that a word names. -/
def attribute? (word : String) : Option String :=
  (attributeNames.find? fun a => a.1 == word || a.2.contains word).map (·.1)

/-- The names of colours. -/
def colourNames : List String :=
  [
    "black red green yellow blue magenta cyan white bright_black bright_red bright_green",
    "bright_yellow bright_blue bright_magenta bright_cyan bright_white grey0 gray0 navy_blue",
    "dark_blue blue3 blue1 dark_green deep_sky_blue4 dodger_blue3 dodger_blue2 green4",
    "spring_green4 turquoise4 deep_sky_blue3 dodger_blue1 green3 spring_green3 dark_cyan",
    "light_sea_green deep_sky_blue2 deep_sky_blue1 spring_green2 cyan3 dark_turquoise",
    "turquoise2 green1 spring_green1 medium_spring_green cyan2 cyan1 dark_red deep_pink4",
    "purple4 purple3 blue_violet orange4 grey37 gray37 medium_purple4 slate_blue3 royal_blue1",
    "chartreuse4 dark_sea_green4 pale_turquoise4 steel_blue steel_blue3 cornflower_blue",
    "chartreuse3 cadet_blue sky_blue3 steel_blue1 pale_green3 sea_green3 aquamarine3",
    "medium_turquoise chartreuse2 sea_green2 sea_green1 aquamarine1 dark_slate_gray2",
    "dark_magenta dark_violet purple light_pink4 plum4 medium_purple3 slate_blue1 yellow4",
    "wheat4 grey53 gray53 light_slate_grey light_slate_gray medium_purple light_slate_blue",
    "dark_olive_green3 dark_sea_green light_sky_blue3 sky_blue2 dark_sea_green3",
    "dark_slate_gray3 sky_blue1 chartreuse1 light_green pale_green1 dark_slate_gray1 red3",
    "medium_violet_red magenta3 dark_orange3 indian_red hot_pink3 medium_orchid3 medium_orchid",
    "medium_purple2 dark_goldenrod light_salmon3 rosy_brown grey63 gray63 medium_purple1 gold3",
    "dark_khaki navajo_white3 grey69 gray69 light_steel_blue3 light_steel_blue yellow3",
    "dark_sea_green2 light_cyan3 light_sky_blue1 green_yellow dark_olive_green2 dark_sea_green1",
    "pale_turquoise1 deep_pink3 magenta2 hot_pink2 orchid medium_orchid1 orange3 light_pink3",
    "pink3 plum3 violet light_goldenrod3 tan misty_rose3 thistle3 plum2 khaki3 light_goldenrod2",
    "light_yellow3 grey84 gray84 light_steel_blue1 yellow2 dark_olive_green1 honeydew2",
    "light_cyan1 red1 deep_pink2 deep_pink1 magenta1 orange_red1 indian_red1 hot_pink",
    "dark_orange salmon1 light_coral pale_violet_red1 orchid2 orchid1 orange1 sandy_brown",
    "light_salmon1 light_pink1 pink1 plum1 gold1 navajo_white1 misty_rose1 thistle1 yellow1",
    "light_goldenrod1 khaki1 wheat1 cornsilk1 grey100 gray100 grey3 gray3 grey7 gray7 grey11",
    "gray11 grey15 gray15 grey19 gray19 grey23 gray23 grey27 gray27 grey30 gray30 grey35 gray35",
    "grey39 gray39 grey42 gray42 grey46 gray46 grey50 gray50 grey54 gray54 grey58 gray58 grey62",
    "gray62 grey66 gray66 grey70 gray70 grey74 gray74 grey78 gray78 grey82 gray82 grey85 gray85",
    "grey89 gray89 grey93 gray93"
  ].flatMap fun line => (line.toList.splitOn ' ').map String.ofList

/-- The text between a beginning and an end. -/
def between? (front behind cs : List Char) : Option (List Char) :=
  if front.isPrefixOf cs && behind.isSuffixOf (cs.drop front.length) then
    some ((cs.drop front.length).take (cs.length - front.length - behind.length))
  else none

/-- Whether a text is a number sign and six digits in base sixteen. -/
def isHexColour (cs : List Char) : Bool :=
  match cs with
  | '#' :: digits =>
    digits.length == 6 && digits.all fun c => c.isDigit || ('a' ≤ c && c ≤ 'f')
  | _ => false

/-- Whether a text is the number of a colour. -/
def isNumberedColour (cs : List Char) : Bool :=
  match between? "color(".toList [')'] cs with
  | none => false
  | some digits =>
    match digits.mapM asciiDigit? with
    | none => false
    | some ds => !ds.isEmpty && ds.length ≤ 3 && ofDigits ds ≤ 255

/-- The number of a part of a colour. -/
def colourPart (cs : List Char) : Except StyleFault Nat :=
  let digits := cs.filterMap digitValue?
  if digits.isEmpty || Whole.digitLimit < digits.length then .error .noNumber
  else .ok (ofDigits digits)

/-- Judge a colour that is given by three numbers. -/
def checkMixedColour (cs : List Char) : Except StyleFault Unit :=
  match between? "rgb(".toList [')'] cs with
  | none => .error .unknown
  | some inside =>
    if inside.isEmpty || !(inside.all fun c => c == ',' || (digitValue? c).isSome) then
      .error .unknown
    else
      match inside.splitOn ',' with
      | [r, g, b] =>
        match [r, g, b].mapM colourPart with
        | .error fault => .error fault
        | .ok parts => if parts.all (· ≤ 255) then .ok () else .error .unknown
      | _ => .error .unknown

/-- The name of the colour that a word means. -/
def colour (word : String) : Except StyleFault String :=
  let name := lowercase word
  let cs := name.toList
  if name = "default" || colourNames.contains name || isHexColour cs || isNumberedColour cs then
    .ok name
  else (checkMixedColour cs).map fun _ => name

/-- A style. -/
structure Style where
  /-- The attributes that are set or taken away, the last one first. -/
  attributes : List (String × Bool) := []
  /-- The colour. -/
  foreground : Option String := none
  /-- The colour of the background. -/
  background : Option String := none
  /-- The address. -/
  link : Option String := none

namespace Style

/-- Add words to a style. -/
def addWords (s : Style) : List String → Except StyleFault Style
  | [] => .ok s
  | word :: rest =>
    let small := lowercase word
    if small = "on" then
      match rest with
      | [] => .error .unknown
      | next :: rest =>
        match colour next with
        | .error fault => .error fault
        | .ok name => { s with background := some name }.addWords rest
    else if small = "not" then
      match rest with
      | [] => .error .unknown
      | next :: rest =>
        match attribute? next with
        | none => .error .unknown
        | some name => { s with attributes := (name, false) :: s.attributes }.addWords rest
    else if small = "link" then
      match rest with
      | [] => .error .unknown
      | next :: rest => { s with link := some next }.addWords rest
    else
      match attribute? small with
      | some name => { s with attributes := (name, true) :: s.attributes }.addWords rest
      | none =>
        match colour small with
        | .error fault => .error fault
        | .ok name => { s with foreground := some name }.addWords rest

/-- The words of a style in their normal order. -/
def words (s : Style) : List String :=
  let attributes := attributeNames.filterMap fun a =>
    (s.attributes.lookup a.1).map fun given => if given then a.1 else "not " ++ a.1
  let background := s.background.toList.flatMap fun name => ["on", name]
  let link := s.link.toList.flatMap fun address => ["link", address]
  attributes ++ s.foreground.toList ++ background ++ link

/-- The text of a style. -/
def render (s : Style) : String :=
  if s.words.isEmpty then "none" else " ".intercalate s.words

end Style

/-- The words of a text, without the blanks around them. -/
def styleWords (cs : List Char) : List String :=
  ((cs.splitOnP isBlank).filter (!·.isEmpty)).map String.ofList

/-- The style that a text writes. -/
def readStyle (cs : List Char) : Except StyleFault Style :=
  if trimBlanks cs = "none".toList then .ok {} else ({} : Style).addWords (styleWords cs)

/-- The normal form of the name of a style; what is no style keeps its name in small letters. -/
def normalForm (cs : List Char) : Except StyleFault String :=
  match readStyle cs with
  | .ok s => .ok s.render
  | .error .unknown => .ok (lowercase (String.ofList (trimBlanks cs)))
  | .error .noNumber => .error .noNumber

end TypedCommands.Terminal
