import DesignGauge.Number.Reading
import DesignGauge.Text.Pieces

/-!
# Tags of YAML

What kind of value a node stands for. A tag is named by its address, or it is suggested by the
text of a plain scalar: each kind has the texts that spell its values.
-/

namespace DesignGauge.Yaml

open Text

/-- The kinds of values. -/
inductive Tag where
  | null
  | bool
  | int
  | float
  | binary
  | time
  | orderedMap
  | pairs
  | set
  | text
  | list
  | map
  | merge
  | value
  | other (uri : String)
  deriving DecidableEq, Repr

namespace Tag

/-- The names of the kinds behind their common address. -/
def names : List (String × Tag) :=
  [("null", .null), ("bool", .bool), ("int", .int), ("float", .float), ("binary", .binary),
    ("timestamp", .time), ("omap", .orderedMap), ("pairs", .pairs), ("set", .set), ("str", .text),
    ("seq", .list), ("map", .map), ("merge", .merge), ("value", .value)]

/-- The kind of an address. -/
def ofUri (uri : String) : Tag :=
  let common := "tag:yaml.org,2002:".toList
  if common.isPrefixOf uri.toList then
    (names.lookup (String.ofList (uri.toList.drop common.length))).getD (.other uri)
  else .other uri

/-- The texts of truth values. -/
def boolWords : List (String × Bool) :=
  [("yes", true), ("Yes", true), ("YES", true), ("no", false), ("No", false), ("NO", false),
    ("true", true), ("True", true), ("TRUE", true), ("false", false), ("False", false),
    ("FALSE", false), ("on", true), ("On", true), ("ON", true), ("off", false), ("Off", false),
    ("OFF", false)]

/-- The texts of null. -/
def nullWords : List String := ["", "~", "null", "Null", "NULL"]

/-- A digit or an underscore. -/
def isDigitMark (c : Char) : Bool := isAsciiDigit c || c == '_'

/-- A text without a sign in front. -/
def unsigned (text : List Char) : List Char := (Reading.sign text).2

/-- The rest of a text after some digits and underscores that start with a digit. -/
def afterDigits? : List Char → Option (List Char)
  | c :: rest => if isAsciiDigit c then some (rest.dropWhile isDigitMark) else none
  | [] => none

/-- Groups of one or two digits below 60, each behind a colon, one at least; the text after the
last of them. -/
def afterSixties? : List Char → Option (List Char)
  | ':' :: a :: b :: rest =>
    if isAsciiDigit a && isAsciiDigit b && a ≤ '5' then
      (afterSixties? rest).orElse fun _ => some rest
    else if isAsciiDigit a then (afterSixties? (b :: rest)).orElse fun _ => some (b :: rest)
    else none
  | [':', a] => if isAsciiDigit a then some [] else none
  | _ => none

/-- The text spells an integer: binary, octal with a zero in front, decimal, hexadecimal, or
groups of sixty. -/
def spellsInt (text : List Char) : Bool :=
  match unsigned text with
  | '0' :: 'b' :: rest => !rest.isEmpty && rest.all fun c => c == '0' || c == '1' || c == '_'
  | '0' :: 'x' :: rest =>
    !rest.isEmpty && rest.all fun c => isDigitMark c || ('a' ≤ c && c ≤ 'f') || ('A' ≤ c && c ≤ 'F')
  | ['0'] => true
  | '0' :: rest => rest.all fun c => ('0' ≤ c && c ≤ '7') || c == '_'
  | c :: rest =>
    isAsciiDigit c && match rest.dropWhile isDigitMark with
      | [] => true
      | after => afterSixties? after == some []
  | [] => false

/-- The text is empty or a signed exponent. -/
def isExponent : List Char → Bool
  | [] => true
  | e :: s :: c :: rest =>
    (e == 'e' || e == 'E') && (s == '+' || s == '-') && isAsciiDigit c && rest.all isAsciiDigit
  | _ => false

/-- The text spells a double: a point is needed, an exponent has a sign, and what is not finite
has words of its own. -/
def spellsFloat (text : List Char) : Bool :=
  let body := unsigned text
  [".nan", ".NaN", ".NAN"].any (·.toList == text)
    || [".inf", ".Inf", ".INF"].any (·.toList == body)
    || (match text with
      | '.' :: rest => match afterDigits? rest with
        | some after => isExponent after
        | none => false
      | _ => false)
    || (match afterDigits? body with
      | some ('.' :: rest) => isExponent (rest.dropWhile isDigitMark)
      | some rest => match afterSixties? rest with
        | some ('.' :: fraction) => fraction.all isDigitMark
        | _ => false
      | none => false)

/-! ## Times -/

/-- The parts of a time as they are written. -/
structure TimeText where
  year : List Char
  month : List Char
  day : List Char
  /-- Hour, minute, second and fraction. -/
  clock : Option (List Char × List Char × List Char × List Char) := none
  /-- Sign, hours and minutes of the zone; no sign for universal time. -/
  zone : Option (Option Char × List Char × List Char) := none
  deriving DecidableEq, Repr

/-- Digits at the front of a text, at least and at most so many. -/
def digits? (least greatest : Nat) (text : List Char) : Option (List Char × List Char) :=
  let taken := (text.take greatest).takeWhile isAsciiDigit
  if taken.length < least then none else some (taken, text.drop taken.length)

/-- The text after a character. -/
def after? (c : Char) : List Char → Option (List Char)
  | x :: rest => if x == c then some rest else none
  | [] => none

/-- The zone that ends a time. -/
def zone? (text : List Char) : Option (Option (Option Char × List Char × List Char)) :=
  match text.dropWhile fun c => c == ' ' || c == '\t' with
  | [] => if text.isEmpty then some none else none
  | ['Z'] => some (some (none, [], []))
  | s :: rest =>
    if s == '+' || s == '-' then do
      let (hours, after) ← digits? 1 2 rest
      match after with
      | [] => some (some (some s, hours, []))
      | _ =>
        let (minutes, last) ← digits? 2 2 (← after? ':' after)
        if last.isEmpty then some (some (some s, hours, minutes)) else none
    else none

/-- The time of day behind a day. -/
def clock? (day : TimeText) (text : List Char) : Option TimeText := do
  let rest ← match text with
    | c :: rest =>
      if c == 'T' || c == 't' then some rest
      else if c == ' ' || c == '\t' then some (rest.dropWhile fun x => x == ' ' || x == '\t')
      else none
    | [] => none
  let (hour, rest) ← digits? 1 2 rest
  let (minute, rest) ← digits? 2 2 (← after? ':' rest)
  let (second, rest) ← digits? 2 2 (← after? ':' rest)
  let (fraction, rest) := match rest with
    | '.' :: more => (more.takeWhile isAsciiDigit, more.dropWhile isAsciiDigit)
    | _ => ([], rest)
  let zone ← zone? rest
  return { day with clock := some (hour, minute, second, fraction), zone }

/-- The parts of a day or of a moment. -/
def time? (text : List Char) : Option TimeText := do
  let (year, rest) ← digits? 4 4 text
  let (month, rest) ← digits? 1 2 (← after? '-' rest)
  let (day, rest) ← digits? 1 2 (← after? '-' rest)
  let parts : TimeText := { year, month, day }
  if rest.isEmpty then some parts else clock? parts rest

/-- A text without the line end that may close it. -/
def closed (text : List Char) : List Char :=
  if text.getLast? == some '\n' then text.dropLast else text

/-- The text spells a time; a day alone needs two digits for the month and for the day. -/
def spellsTime (text : List Char) : Bool :=
  match time? text with
  | some t => t.clock.isSome || (t.month.length == 2 && t.day.length == 2)
  | none => false

/-- The kind that the text of a plain scalar suggests. A line end may close the text, unless it is
all there is. -/
def ofPlain (whole : String) : Tag :=
  let text := if whole == "\n" then whole.toList else closed whole.toList
  let s := String.ofList text
  if (boolWords.lookup s).isSome then .bool
  else if spellsFloat text then .float
  else if spellsInt text then .int
  else if s == "<<" then .merge
  else if nullWords.contains s then .null
  else if spellsTime text then .time
  else if s == "=" then .value
  else .text

end Tag

end DesignGauge.Yaml
