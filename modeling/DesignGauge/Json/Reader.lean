import DesignGauge.Datum.Basic
import DesignGauge.Number.Reading
import DesignGauge.Text.Surrogate

/-!
# Reading JSON

One reader with two dialects. Stored files are strict: integers beyond 64 bits become doubles, a
number beyond the range of doubles and a lone surrogate are refused, and nesting is bounded.
Replies of a service are lenient: integers keep any size, a number beyond the range is infinite, a
lone surrogate is kept, and the words for what is not finite are read.

The reader is a recursive descent on the characters; its fuel is the length of the text, and each
call of one of its functions reads at least one character.
-/

namespace DesignGauge.Json

open Text

/-- Where the two kinds of JSON text differ. -/
structure Dialect where
  /-- `NaN`, `Infinity` and `-Infinity` are values. -/
  nonFiniteWords : Bool
  /-- Integers keep any size, and numbers beyond the range are infinite. -/
  unbounded : Bool
  /-- An escape may stand for a lone surrogate. -/
  loneSurrogates : Bool
  /-- The deepest nesting. -/
  depthLimit : Nat
  deriving DecidableEq, Repr

/-- Component and report files. -/
def Dialect.file : Dialect := ⟨false, false, false, 1024⟩

/-- Replies of the prediction service, with the deepest nesting that there is room for. -/
def Dialect.reply (depth : Nat) : Dialect := ⟨true, true, true, depth⟩

/-- Why a text is not JSON. -/
inductive Cause where
  | expectingValue
  | expectingName
  | expectingColon
  | expectingComma
  | unterminatedString
  | controlCharacter
  | badEscape (c : Char)
  | badUnicodeEscape
  | extraData
  | outOfRange
  | tooDeep (kind : String)
  | tooManyDigits (count : Nat)
  deriving DecidableEq, Repr

/-- A refusal, with the length of the text that was left when it arose. -/
structure Refusal where
  cause : Cause
  left : Nat
  deriving DecidableEq, Repr

/-- Refuses at the front of a text. -/
def refuse {α : Type} (cause : Cause) (rest : List Char) : Except Refusal α :=
  .error ⟨cause, rest.length⟩

/-- Drops the four blanks of JSON. -/
def skipBlanks (text : List Char) : List Char :=
  text.dropWhile fun c => c == ' ' || c == '\t' || c == '\n' || c == '\r'

/-- The value of a hexadecimal digit. -/
def hexValue? (c : Char) : Option Nat :=
  if isAsciiDigit c then some (c.toNat - '0'.toNat)
  else if 'a' ≤ c && c ≤ 'f' then some (c.toNat - 'a'.toNat + 10)
  else if 'A' ≤ c && c ≤ 'F' then some (c.toNat - 'A'.toNat + 10)
  else none

/-- The number of four hexadecimal digits at the front of a text. -/
def hexFour? : List Char → Option Nat
  | a :: b :: c :: d :: _ => do
    let digits ← [a, b, c, d].mapM hexValue?
    return digits.foldl (16 * · + ·) 0
  | _ => none

/-- The character of a one-letter escape. -/
def shortEscape? (c : Char) : Option Char :=
  match c with
  | '"' => some '"'
  | '\\' => some '\\'
  | '/' => some '/'
  | 'b' => some (Char.ofNat 8)
  | 'f' => some (Char.ofNat 12)
  | 'n' => some '\n'
  | 'r' => some '\r'
  | 't' => some '\t'
  | _ => none

/-- The number of an escape whose four digits stand in front; more text must follow, since the
string is not over. -/
def escapeNumber (digits : List Char) : Except Refusal Nat :=
  match hexFour? digits, digits.drop 4 with
  | some number, _ :: _ => .ok number
  | _, _ => .error ⟨.badUnicodeEscape, digits.length + 1⟩

/-- A surrogate without its partner. -/
def loneSurrogate (dialect : Dialect) (digits : List Char) (code : Nat) :
    Except Refusal (Nat × Nat) :=
  if dialect.loneSurrogates then .ok (code, 4)
  else .error ⟨.badUnicodeEscape, digits.length + 1⟩

/-- The code point of the escape whose four digits stand in front, and the number of further
characters that it takes after the letter `u`. -/
def unicodeEscape (dialect : Dialect) (digits : List Char) : Except Refusal (Nat × Nat) := do
  let high ← escapeNumber digits
  if 0xDC00 ≤ high && high < 0xE000 then loneSurrogate dialect digits high
  else if 0xD800 ≤ high && high < 0xDC00 then match digits.drop 4 with
    | '\\' :: 'u' :: rest =>
      if rest.length ≤ 4 then loneSurrogate dialect digits high
      else
        let low ← escapeNumber rest
        if 0xDC00 ≤ low && low < 0xE000 then
          return (0x10000 + (high - 0xD800) * 0x400 + (low - 0xDC00), 10)
        else loneSurrogate dialect digits high
    | _ => loneSurrogate dialect digits high
  else return (high, 4)

/-- Reads the characters of a string after its opening quote. `start` is the length of the text
after that quote, `skip` counts characters that an escape has taken already. -/
def readString (dialect : Dialect) (start : Nat) (acc : List Char) (skip : Nat) :
    List Char → Except Refusal (String × List Char)
  | [] => .error ⟨.unterminatedString, start + 1⟩
  | c :: rest =>
    match skip with
    | skip + 1 => readString dialect start acc skip rest
    | 0 =>
      if c == '"' then .ok (String.ofList acc.reverse, rest)
      else if c == '\\' then
        match rest with
        | [] => .error ⟨.unterminatedString, start + 1⟩
        | 'u' :: digits =>
          match unicodeEscape dialect digits with
          | .ok (code, taken) =>
            readString dialect start ((spell code).reverse ++ acc) (taken + 1) rest
          | .error refusal => .error refusal
        | e :: _ =>
          match shortEscape? e with
          | some char => readString dialect start (char :: acc) 1 rest
          | none => .error ⟨.badEscape e, rest.length + 1⟩
      else if c.toNat < 0x20 then .error ⟨.controlCharacter, rest.length + 1⟩
      else readString dialect start (c :: acc) 0 rest

/-- An integer literal as a value of the dialect. -/
def integer (dialect : Dialect) (negative : Bool) (digits : List Char) :
    Except Cause Datum :=
  let magnitude := Reading.natOf digits
  let value : Int := if negative then -(magnitude : Int) else magnitude
  if dialect.unbounded then
    if digits.length > Reading.digitLimit then .error (.tooManyDigits digits.length)
    else .ok (.int value)
  else if -signedBound ≤ value && value < unsignedBound then .ok (.int value)
  else match Double.ofInt? value with
    | some x => .ok (.float x)
    | none => .error .outOfRange

/-- The exponent part at the front of a text, if there is a complete one. -/
def takeExponent (text : List Char) : Int × List Char :=
  match text with
  | e :: rest =>
    if e == 'e' || e == 'E' then
      let (negative, digits) := Reading.sign rest
      let spelled := digits.takeWhile isAsciiDigit
      if spelled.isEmpty then (0, text)
      else
        let n : Int := Reading.natOf spelled
        (if negative then -n else n, digits.dropWhile isAsciiDigit)
    else (0, text)
  | [] => (0, text)

/-- The digits of a fraction at the front of a text, if there is a complete one. -/
def takeFraction (text : List Char) : List Char × List Char :=
  match text with
  | '.' :: rest =>
    if (rest.takeWhile isAsciiDigit).isEmpty then ([], text)
    else (rest.takeWhile isAsciiDigit, rest.dropWhile isAsciiDigit)
  | _ => ([], text)

/-- The digits before a point at the front of a text; a zero stands alone. -/
def takeWhole : List Char → List Char
  | '0' :: _ => ['0']
  | text => text.takeWhile isAsciiDigit

/-- Reads a number: no leading zeros, digits on both sides of a point. -/
def readNumber (dialect : Dialect) (text : List Char) : Except Refusal (Datum × List Char) :=
  let (negative, unsigned) := Reading.takeMinus text
  let whole := takeWhole unsigned
  if whole.isEmpty then refuse .expectingValue text
  else
    let rest := unsigned.drop whole.length
    let (fraction, afterFraction) := takeFraction rest
    let (exponent, after) := takeExponent afterFraction
    if after.length == rest.length then
      match integer dialect negative whole with
      | .ok value => .ok (value, after)
      | .error cause => refuse cause text
    else
      let value := Double.ofDecimal negative (Reading.natOf (whole ++ fraction))
        (exponent - fraction.length)
      if dialect.unbounded || value.isFinite then .ok (.float value, after)
      else refuse .outOfRange text

/-- The words of JSON and their values. -/
def literalWords (dialect : Dialect) : List (List Char × Datum) :=
  [("null".toList, .null), ("true".toList, .bool true), ("false".toList, .bool false)]
    ++ if dialect.nonFiniteWords then
      [("NaN".toList, .float .nan), ("Infinity".toList, .float (.infinite false)),
        ("-Infinity".toList, .float (.infinite true))]
    else []

/-- Reads a word or a number. -/
def readScalar (dialect : Dialect) (text : List Char) : Except Refusal (Datum × List Char) :=
  match (literalWords dialect).find? fun entry => entry.1.isPrefixOf text with
  | some (word, value) => .ok (value, text.drop word.length)
  | none => readNumber dialect text

mutual
/-- Reads a value; the text starts with no blank. -/
def readValue (dialect : Dialect) (depth : Nat) :
    Nat → List Char → Except Refusal (Datum × List Char)
  | 0, text => refuse .expectingValue text
  | fuel + 1, text =>
    match text with
    | '"' :: rest => do
      let (s, after) ← readString dialect rest.length [] 0 rest
      return (.text s, after)
    | '[' :: rest =>
      if dialect.depthLimit ≤ depth then refuse (.tooDeep "array") text
      else match skipBlanks rest with
        | ']' :: after => .ok (.list [], after)
        | inner => do
          let (items, after) ← readItems dialect (depth + 1) fuel inner
          return (.list items, after)
    | '\x7b' :: rest =>
      if dialect.depthLimit ≤ depth then refuse (.tooDeep "object") text
      else match skipBlanks rest with
        | '\x7d' :: after => .ok (.map [], after)
        | inner => do
          let (entries, after) ← readMembers dialect (depth + 1) fuel inner
          return (.map (Datum.mapOf entries), after)
    | _ => readScalar dialect text

/-- Reads the items of a list, one at least, and its closing bracket. -/
def readItems (dialect : Dialect) (depth : Nat) :
    Nat → List Char → Except Refusal (List Datum × List Char)
  | 0, text => refuse .expectingValue text
  | fuel + 1, text => do
    let (item, after) ← readValue dialect depth fuel text
    match skipBlanks after with
    | ']' :: rest => return ([item], rest)
    | ',' :: rest =>
      let (items, rest) ← readItems dialect depth fuel (skipBlanks rest)
      return (item :: items, rest)
    | rest => refuse .expectingComma rest

/-- Reads the members of an object, one at least, and its closing brace. -/
def readMembers (dialect : Dialect) (depth : Nat) :
    Nat → List Char → Except Refusal (List (Datum × Datum) × List Char)
  | 0, text => refuse .expectingName text
  | fuel + 1, text =>
    match text with
    | '"' :: rest => do
      let (name, after) ← readString dialect rest.length [] 0 rest
      match skipBlanks after with
      | ':' :: rest =>
        let (value, after) ← readValue dialect depth fuel (skipBlanks rest)
        match skipBlanks after with
        | '\x7d' :: rest => return ([(.text name, value)], rest)
        | ',' :: rest =>
          let (members, rest) ← readMembers dialect depth fuel (skipBlanks rest)
          return ((.text name, value) :: members, rest)
        | rest => refuse .expectingComma rest
      | rest => refuse .expectingColon rest
    | _ => refuse .expectingName text
end

/-- The value of a whole text. -/
def read (dialect : Dialect) (text : List Char) : Except Refusal Datum := do
  let (value, after) ← readValue dialect 0 (2 * text.length + 2) (skipBlanks text)
  match skipBlanks after with
  | [] => return value
  | rest => throw ⟨.extraData, rest.length⟩

/-- The wording of a cause. -/
def Cause.message : Cause → String
  | .expectingValue => "Expecting value"
  | .expectingName => "Expecting property name enclosed in double quotes"
  | .expectingColon => "Expecting ':' delimiter"
  | .expectingComma => "Expecting ',' delimiter"
  | .unterminatedString => "Unterminated string starting at"
  | .controlCharacter => "Invalid control character at"
  | .badEscape _ => "Invalid \\escape"
  | .badUnicodeEscape => "Invalid \\uXXXX escape"
  | .extraData => "Extra data"
  | .outOfRange => "number is infinity when parsed as double"
  | .tooDeep _ => "Recursion limit reached"
  | .tooManyDigits count =>
    "Exceeds the limit (4300 digits) for integer string conversion: value has "
      ++ toString count
      ++ " digits; use sys.set_int_max_str_digits() to increase the limit"

/-- The wording of a refusal: the cause and the line, column and index of its place. -/
def Refusal.message (refusal : Refusal) (text : List Char) : String :=
  match refusal.cause with
  | .tooManyDigits _ => refusal.cause.message
  | _ =>
    let before := text.take (text.length - refusal.left)
    let line := before.count '\n' + 1
    let column := (codes (takeRightWhile (· != '\n') before)).length + 1
    refusal.cause.message ++ ": line " ++ toString line ++ " column " ++ toString column
      ++ " (char " ++ toString (codes before).length ++ ")"

end DesignGauge.Json
