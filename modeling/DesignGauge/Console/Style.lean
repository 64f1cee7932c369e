import DesignGauge.Fault
import DesignGauge.Text.Case
import DesignGauge.Text.Word

/-!
# Style names

A style is named by words: attributes, a colour, `on` with a background colour, `link` with an
address. Different spellings of one style have one canonical name, by which an opening tag and its
closing tag find each other. Words that name no style are taken as a name as they are, in lower
case.
-/

namespace DesignGauge.Console

open Text

/-- The attributes of a style, in the order of its canonical name. -/
def attributes : List String :=
  ["bold", "dim", "italic", "underline", "blink", "blink2", "reverse", "conceal", "strike",
    "underline2", "frame", "encircle", "overline"]

/-- The short words of attributes. -/
def shortAttributes : List (String × String) :=
  [("d", "dim"), ("b", "bold"), ("i", "italic"), ("u", "underline"), ("r", "reverse"),
    ("c", "conceal"), ("s", "strike"), ("uu", "underline2"), ("o", "overline")]

/-- The attribute that a word names. -/
def attribute? (word : String) : Option String :=
  if attributes.contains word then some word else shortAttributes.lookup word

/-- The basic colours. -/
def basicColours : List String :=
  ["black", "red", "green", "yellow", "blue", "magenta", "cyan", "white"]

/-- The named shades; each also has names with numbers, as listed. -/
def shades : List (String × List String) := [
  ("navy_blue", [""]), ("dark_blue", [""]), ("blue", ["1", "3"]), ("dark_green", [""]),
  ("deep_sky_blue", ["1", "2", "3", "4"]), ("dodger_blue", ["1", "2", "3"]),
  ("green", ["1", "3", "4"]), ("spring_green", ["1", "2", "3", "4"]), ("turquoise", ["2", "4"]),
  ("dark_cyan", [""]), ("light_sea_green", [""]), ("cyan", ["1", "2", "3"]),
  ("dark_turquoise", [""]), ("medium_spring_green", [""]), ("dark_red", [""]),
  ("deep_pink", ["1", "2", "3", "4"]), ("purple", ["", "3", "4"]), ("blue_violet", [""]),
  ("orange", ["1", "3", "4"]), ("medium_purple", ["", "1", "2", "3", "4"]),
  ("slate_blue", ["1", "3"]), ("royal_blue", ["1"]), ("chartreuse", ["1", "2", "3", "4"]),
  ("dark_sea_green", ["", "1", "2", "3", "4"]), ("pale_turquoise", ["1", "4"]),
  ("steel_blue", ["", "1", "3"]), ("cornflower_blue", [""]), ("cadet_blue", [""]),
  ("sky_blue", ["1", "2", "3"]), ("pale_green", ["1", "3"]), ("sea_green", ["1", "2", "3"]),
  ("aquamarine", ["1", "3"]), ("medium_turquoise", [""]), ("dark_slate_gray", ["1", "2", "3"]),
  ("dark_magenta", [""]), ("dark_violet", [""]), ("light_pink", ["1", "3", "4"]),
  ("plum", ["1", "2", "3", "4"]), ("yellow", ["1", "2", "3", "4"]), ("wheat", ["1", "4"]),
  ("light_slate_grey", [""]), ("light_slate_gray", [""]), ("light_slate_blue", [""]),
  ("dark_olive_green", ["1", "2", "3"]), ("light_sky_blue", ["1", "3"]), ("light_green", [""]),
  ("red", ["1", "3"]), ("medium_violet_red", [""]), ("magenta", ["1", "2", "3"]),
  ("dark_orange", ["", "3"]), ("indian_red", ["", "1"]), ("hot_pink", ["", "2", "3"]),
  ("medium_orchid", ["", "1", "3"]), ("dark_goldenrod", [""]), ("light_salmon", ["1", "3"]),
  ("rosy_brown", [""]), ("gold", ["1", "3"]), ("dark_khaki", [""]), ("navajo_white", ["1", "3"]),
  ("light_steel_blue", ["", "1", "3"]), ("light_cyan", ["1", "3"]), ("green_yellow", [""]),
  ("orchid", ["", "1", "2"]), ("pink", ["1", "3"]), ("violet", [""]),
  ("light_goldenrod", ["1", "2", "3"]), ("tan", [""]), ("misty_rose", ["1", "3"]),
  ("thistle", ["1", "3"]), ("khaki", ["1", "3"]), ("light_yellow", ["3"]), ("honeydew", ["2"]),
  ("orange_red", ["1"]), ("salmon", ["1"]), ("light_coral", [""]), ("pale_violet_red", ["1"]),
  ("sandy_brown", [""]), ("cornsilk", ["1"])]

/-- The steps of the grey scale that have names. -/
def greySteps : List Nat :=
  [0, 3, 7, 11, 15, 19, 23, 27, 30, 35, 37, 39, 42, 46, 50, 53, 54, 58, 62, 63, 66, 69, 70, 74, 78,
    82, 84, 85, 89, 93, 100]

/-- A word names a shade. -/
def isShade (word : String) : Bool :=
  shades.any fun (name, endings) => endings.any fun ending => name ++ ending == word

/-- A word names a step of the grey scale. -/
def isGrey (word : String) : Bool :=
  greySteps.any fun step => word == "grey" ++ toString step || word == "gray" ++ toString step

/-- The text between a start and a closing bracket, if a word has that form. -/
def argument? (start : String) (word : List Char) : Option (List Char) :=
  if start.toList.isPrefixOf word && word.getLast? == some ')' then
    some ((word.drop start.length).dropLast)
  else none

/-- The greatest part of a colour. -/
def brightest : Nat := 255

/-- A part of a colour; there must be one. -/
def level (digits : List Char) : Except Fault Nat :=
  if digits.isEmpty then .error (.notInteger 10 "")
  else if digits.length > Reading.digitLimit then .error (.tooManyDigitsRead digits.length)
  else .ok (digits.foldl (fun n c => n * 10 + (digitValue? c).getD 0) 0)

/-- Three parts of a colour between commas. -/
def isMixture (text : List Char) : Except Fault Bool :=
  if text.isEmpty || !text.all fun c => c == ',' || (digitValue? c).isSome then .ok false
  else match text.splitOn ',' with
    | [red, green, blue] => do
      return [← level red, ← level green, ← level blue].all (· ≤ brightest)
    | _ => .ok false

/-- A number of a colour in the palette. -/
def isPaletteNumber (digits : List Char) : Bool :=
  !digits.isEmpty && digits.length ≤ 3 && digits.all isAsciiDigit
    && Reading.natOf digits ≤ brightest

/-- A word gives a colour by numbers. -/
def isNumberedColour (word : List Char) : Except Fault Bool :=
  match word, argument? "color(" word, argument? "rgb(" word with
  | '#' :: digits, _, _ =>
    .ok (digits.length == 6 && digits.all fun c => c.isDigit || ('a' ≤ c && c ≤ 'f'))
  | _, some digits, _ => .ok (isPaletteNumber digits)
  | _, _, some parts => isMixture parts
  | _, _, _ => .ok false

/-- A word names a colour. -/
def isColour (word : String) : Except Fault Bool :=
  if word == "default" || basicColours.contains word
    || basicColours.any (fun c => "bright_" ++ c == word) || isGrey word || isShade word then
    .ok true
  else isNumberedColour word.toList

/-- A style: the attributes that are set on or off, and the other parts. -/
structure Style where
  set : List (String × Bool) := []
  colour : Option String := none
  background : Option String := none
  link : Option String := none

/-- Reads the words of a style; none if they name no style. -/
def Style.read (style : Style) : List String → Except Fault (Option Style)
  | [] => .ok (some style)
  | word :: rest =>
    let w := lower word
    if w == "on" then match rest with
      | [] => .ok none
      | colour :: more => do
        if ← isColour (lower colour) then
          Style.read { style with background := some (lower colour) } more
        else return none
    else if w == "not" then match rest with
      | [] => .ok none
      | name :: more => match attribute? name with
        | some a => Style.read { style with set := (a, false) :: style.set } more
        | none => .ok none
    else if w == "link" then match rest with
      | [] => .ok none
      | address :: more => Style.read { style with link := some address } more
    else match attribute? w with
      | some a => Style.read { style with set := (a, true) :: style.set } rest
      | none => do
        if ← isColour w then Style.read { style with colour := some w } rest else return none

/-- The canonical name of a style. -/
def Style.name (style : Style) : String :=
  let words := (attributes.filterMap fun a => (style.set.lookup a).map fun on =>
      if on then a else "not " ++ a)
    ++ style.colour.toList ++ (style.background.map ("on " ++ ·)).toList
    ++ (style.link.map ("link " ++ ·)).toList
  if words.isEmpty then "none" else String.intercalate " " words

/-- The canonical name of the style that a text names. -/
def styleName (text : String) : Except Fault String := do
  let parts := (words text.toList).map String.ofList
  if parts == ["none"] || parts.isEmpty then return "none"
  match ← Style.read {} parts with
  | some style => return style.name
  | none => return lower (String.ofList (strip text.toList))

end DesignGauge.Console
