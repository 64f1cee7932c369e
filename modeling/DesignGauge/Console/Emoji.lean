import DesignGauge.Console.EmojiTable
import DesignGauge.Text.Case
import DesignGauge.Text.Cells
import DesignGauge.Text.Pieces

/-!
# Pictographs by name

A name between two colons stands for a pictograph. Five skin tones follow the names of people and
hands, and `flag_for_` may precede the name of a region. A form may follow any name after a hyphen:
`text` asks for the plain character and `emoji` for the coloured one. What names nothing stays as
it is.
-/

namespace DesignGauge.Console

open Text

/-- The endings that ask for a skin tone, and the modifiers that give it. -/
def skinTones : List (String × Char) := [
  ("_light_skin_tone", '🏻'), ("_medium-light_skin_tone", '🏼'), ("_medium_skin_tone", '🏽'),
  ("_medium-dark_skin_tone", '🏾'), ("_dark_skin_tone", '🏿')]

/-- A pictograph in a skin tone: the modifier follows its first character and takes the place of a
selector. -/
def inTone (modifier : Char) : List Char → List Char
  | [] => []
  | c :: rest => c :: modifier :: (if rest.head? == some selector then rest.drop 1 else rest)

/-- The flag of a region: its two letters as regional indicators. -/
def flagOf (letters : String) : List Char :=
  letters.toList.map fun c => Char.ofNat (0x1F1E6 + (c.toNat - 'A'.toNat))

/-- The start of the long names of flags. -/
def flagStart : List Char := "flag_for_".toList

/-- The flag that a name asks for. -/
def flag? (name : List Char) : Option (List Char) :=
  let region := if flagStart.isPrefixOf name then name.drop flagStart.length else name
  (flags.lookup (String.ofList region)).map flagOf

/-- The pictograph in a skin tone that a name asks for. -/
def toned? (name : List Char) : Option (List Char) :=
  skinTones.findSome? fun (ending, modifier) =>
    if ending.toList.isSuffixOf name then
      let base := String.ofList (name.take (name.length - ending.length))
      (tonedPictures.lookup base).map fun picture => inTone modifier picture.toList
    else none

/-- The pictograph of a name. -/
def picture? (name : List Char) : Option (List Char) :=
  let word := String.ofList name
  ((pictures.lookup word <|> tonedPictures.lookup word).map String.toList)
    <|> flag? name <|> toned? name

/-- The forms of a pictograph: endings of a name, and the selectors that ask for them. -/
def forms : List (String × Char) := [("-emoji", selector), ("-text", '\ufe0e')]

/-- A name without the ending for its form, and the selector of the form. -/
def formOfName (name : List Char) : List Char × List Char :=
  match forms.find? fun (ending, _) => ending.toList.isSuffixOf name with
  | some (ending, form) => (name.take (name.length - ending.length), [form])
  | none => (name, [])

/-- The pictograph that a name between colons stands for, in its form. -/
def named? (name : List Char) : Option (List Char) :=
  let (base, form) := formOfName name
  (picture? (lower (String.ofList base)).toList).map (· ++ form)

/-- Puts pictographs in place of names; the characters to be skipped belong to a name. A colon
starts a name if another one follows without a blank between them. -/
def withPictures : Nat → List Char → List Char
  | _, [] => []
  | skip + 1, _ :: rest => withPictures skip rest
  | 0, ':' :: rest =>
    let name := rest.takeWhile fun c => c != ':' && !isBlank c
    match rest.drop name.length with
    | ':' :: _ => (named? name).getD (':' :: name ++ [':']) ++ withPictures (name.length + 1) rest
    | _ => ':' :: withPictures 0 rest
  | 0, c :: rest => c :: withPictures 0 rest

/-- A text with pictographs in place of names. -/
def depicted (text : List Char) : List Char := withPictures 0 text

end DesignGauge.Console
