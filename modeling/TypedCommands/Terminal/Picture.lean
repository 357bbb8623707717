import TypedCommands.Terminal.PictureTable
import TypedCommands.Text.Blank
import TypedCommands.Text.Hex
import TypedCommands.Text.Lowercase

/-!
# Pictures in texts

A name between two colons stands for the picture of that name; behind the name a hyphen
and a word may ask for the form of the picture.  Any other text between two colons stays
as it is, and its second colon begins no name.

Main definitions:

- Definition `replacePictures`: a text with pictures in the place of their names.
-/

namespace TypedCommands.Terminal

open TypedCommands.Text

/-- The tones of skin, by the words that name them. -/
def tones : List (String × Char) :=
  [("light", Char.ofNat 0x1F3FB), ("medium-light", Char.ofNat 0x1F3FC),
    ("medium", Char.ofNat 0x1F3FD), ("medium-dark", Char.ofNat 0x1F3FE),
    ("dark", Char.ofNat 0x1F3FF)]

/-- The characters of codes with plus signs between them. -/
def charsOfCodes (codes : List Char) : List Char :=
  (codes.splitOn '+').map fun code => Char.ofNat ((hexNumber? code).getD 0)

/-- The name, the characters and the mark for tones of an entry. -/
def readEntry (entry : List Char) : List Char × List Char × Bool :=
  let codes := (entry.dropWhile (· != '=')).drop 1
  (entry.takeWhile (· != '='), charsOfCodes (codes.takeWhile (· != '~')), codes.contains '~')

/-- The characters of a name in the table, and whether the picture can be had in all tones. -/
def pictureEntry? (name : List Char) : Option (List Char × Bool) :=
  pictureEntries.findSome? fun line =>
    ((line.toList.splitOn ' ').find? fun entry => (name ++ ['=']).isPrefixOf entry).map fun entry =>
      (readEntry entry).2

/-- The text in front of an ending, if it has that ending. -/
def withoutEnding? (ending cs : List Char) : Option (List Char) :=
  if ending.isSuffixOf cs then some (cs.take (cs.length - ending.length)) else none

/-- A picture in a tone: the tone follows the first character, in the place of a mark there. -/
def inTone (tone : Char) : List Char → List Char
  | [] => [tone]
  | c :: rest => c :: tone :: (if rest.head? = some '\ufe0f' then rest.drop 1 else rest)

/-- The picture that a name with a tone at its end stands for. -/
def tonedPicture? (name : List Char) : Option (List Char) :=
  tones.findSome? fun tone =>
    (withoutEnding? ("_" ++ tone.1 ++ "_skin_tone").toList name).bind fun base =>
      match pictureEntry? base with
      | some (picture, true) => some (inTone tone.2 picture)
      | _ => none

/-- The picture that a name stands for. -/
def picture? (name : List Char) : Option (List Char) :=
  match pictureEntry? name with
  | some (picture, _) => some picture
  | none => tonedPicture? name

/-- The words that ask for a form of a picture, and the characters that give it. -/
def pictureForms : List (List Char × Char) :=
  [("-emoji".toList, '\ufe0f'), ("-text".toList, '\ufe0e')]

/-- What the text between two colons stands for, if it names a picture. -/
def replacement? (inside : List Char) : Option (List Char) :=
  let formed := pictureForms.findSome? fun form =>
    (withoutEnding? form.1 inside).map fun name => (name, [form.2])
  let (name, form) := formed.getD (inside, [])
  (picture? (lowercase (String.ofList name)).toList).map (· ++ form)

/--
A text with pictures in the place of their names.  `pending` is the text behind the last
colon that may begin a name, the last character first.
-/
def replaceFrom (pending : Option (List Char)) : List Char → List Char
  | [] =>
    match pending with
    | none => []
    | some cs => ':' :: cs.reverse
  | c :: rest =>
    match pending with
    | none => if c = ':' then replaceFrom (some []) rest else c :: replaceFrom none rest
    | some cs =>
      if c = ':' then
        (replacement? cs.reverse).getD (':' :: cs.reverse ++ [':']) ++ replaceFrom none rest
      else if isBlank c then ':' :: cs.reverse ++ c :: replaceFrom none rest
      else replaceFrom (some (c :: cs)) rest

/-- A text with pictures in the place of their names. -/
def replacePictures (cs : List Char) : List Char := replaceFrom none cs

end TypedCommands.Terminal
