import DesignGauge.Datum.Basic
import DesignGauge.Number.Reading
import DesignGauge.Text.Printable
import DesignGauge.Text.Surrogate

/-!
# Literals

The text of a value inside a message: texts are quoted, with numbers for characters that do not
print; lists, tuples and mappings are bracketed; nothing, truth values and days have their words.
-/

namespace DesignGauge

open Text

/-- A number in base 16, with zeros in front up to a width. -/
def hexDigits (width n : Nat) : List Char :=
  padZeros width (Nat.toDigits 16 n)

/-- The number of a code point, with two, four or eight digits. -/
def numbered (code : Nat) : List Char :=
  if code < 0x100 then '\\' :: 'x' :: hexDigits 2 code
  else if code < 0x10000 then '\\' :: 'u' :: hexDigits 4 code
  else '\\' :: 'U' :: hexDigits 8 code

/-- A character inside quotes. -/
def quotedChar (quote c : Char) : List Char :=
  if c == quote || c == '\\' then ['\\', c]
  else if c == '\n' then ['\\', 'n']
  else if c == '\r' then ['\\', 'r']
  else if c == '\t' then ['\\', 't']
  else if isPrintable c then [c]
  else numbered c.toNat

/-- A code point inside quotes. -/
def quotedCode (quote : Char) (code : Nat) : List Char :=
  if isSurrogate code then numbered code else quotedChar quote (Char.ofNat code)

/-- The single quote. -/
def apostrophe : Char := Char.ofNat 0x27

/-- Single quotes, unless the text has some and no double quote. -/
def quoteFor (text : List Char) : Char :=
  if text.contains apostrophe && !text.contains '"' then '"' else apostrophe

/-- A text in quotes. -/
def quoted (text : String) : String :=
  let chars := text.toList
  let quote := quoteFor chars
  String.ofList (quote :: (codes chars).flatMap (quotedCode quote) ++ [quote])

/-- Octets in quotes, with numbers for those outside the printable basic range. -/
def quotedOctets (octets : Octets) : String :=
  let chars := octets.map fun b => Char.ofNat b.toNat
  let quote := quoteFor chars
  let body := chars.flatMap fun c =>
    if c.toNat < 0x7F then quotedChar quote c else '\\' :: 'x' :: hexDigits 2 c.toNat
  String.ofList ('b' :: quote :: body ++ [quote])

/-- Items between brackets. -/
def bracketed (left right : String) (items : List String) : String :=
  left ++ String.intercalate ", " items ++ right

/-- The literal of a list of texts. -/
def textListLiteral (texts : List String) : String :=
  bracketed "[" "]" (texts.map quoted)

/-- The literal of a span of seconds. -/
def spanLiteral (seconds : Int) : String :=
  let days := Int.fdiv seconds 86400
  let rest := seconds - days * 86400
  let parts := (if days == 0 then [] else ["days=" ++ toString days])
    ++ (if rest == 0 then [] else ["seconds=" ++ toString rest])
  "datetime.timedelta(" ++ (if parts.isEmpty then "0" else String.intercalate ", " parts) ++ ")"

/-- The literal of a day. -/
def Day.literal (d : Day) : String :=
  bracketed "datetime.date(" ")" [toString d.year, toString d.month, toString d.day]

/-- The literal of a moment; trailing zero seconds and microseconds are left out. -/
def Moment.literal (m : Moment) : String :=
  let times :=
    if m.microsecond != 0 then [m.hour, m.minute, m.second, m.microsecond]
    else if m.second != 0 then [m.hour, m.minute, m.second]
    else [m.hour, m.minute]
  let zone := match m.offset with
    | none => []
    | some 0 => ["tzinfo=datetime.timezone.utc"]
    | some seconds => ["tzinfo=datetime.timezone(" ++ spanLiteral seconds ++ ")"]
  bracketed "datetime.datetime(" ")"
    (([m.day.year, m.day.month, m.day.day] ++ times).map toString ++ zone)

namespace Datum

mutual
/-- The literal of a value. -/
def literal : Datum → String
  | .null => "None"
  | .bool b => if b then "True" else "False"
  | .int i => toString i
  | .float x => x.text
  | .text s => quoted s
  | .octets s => quotedOctets s
  | .day d => d.literal
  | .moment m => m.literal
  | .list xs => bracketed "[" "]" (literals xs)
  | .tuple [x] => "(" ++ literal x ++ ",)"
  | .tuple xs => bracketed "(" ")" (literals xs)
  | .set [] => "set()"
  | .set xs => bracketed "\x7b" "\x7d" (literals xs)
  | .map es => bracketed "\x7b" "\x7d" (entryLiterals es)
  | .record fs => bracketed "namespace(" ")" (attributeLiterals fs)
  | .outer mapping => if mapping then "\x7b...\x7d" else "[...]"

/-- The literals of a list of values. -/
def literals : List Datum → List String
  | [] => []
  | x :: rest => literal x :: literals rest

/-- The literals of the entries of a mapping. -/
def entryLiterals : List (Datum × Datum) → List String
  | [] => []
  | (k, v) :: rest => (literal k ++ ": " ++ literal v) :: entryLiterals rest

/-- The literals of the attributes of a record. -/
def attributeLiterals : List (String × Datum) → List String
  | [] => []
  | (k, v) :: rest => (k ++ "=" ++ literal v) :: attributeLiterals rest
end

mutual
/-- A value can be written in a message: no integer in it has more than 4300 digits. -/
def isWritable : Datum → Bool
  | .int i => i.natAbs < Nat.pow 10 Reading.digitLimit
  | .list xs | .tuple xs | .set xs => areWritable xs
  | .map es => areEntriesWritable es
  | .record fs => areAttributesWritable fs
  | _ => true

/-- All values of a list can be written. -/
def areWritable : List Datum → Bool
  | [] => true
  | x :: rest => isWritable x && areWritable rest

/-- All entries of a mapping can be written. -/
def areEntriesWritable : List (Datum × Datum) → Bool
  | [] => true
  | (k, v) :: rest => isWritable k && isWritable v && areEntriesWritable rest

/-- All attributes of a record can be written. -/
def areAttributesWritable : List (String × Datum) → Bool
  | [] => true
  | (_, v) :: rest => isWritable v && areAttributesWritable rest
end

end Datum

/-- A number with zeros in front up to a width. -/
def padded (width n : Nat) : String := String.ofList (padZeros width (digitChars n))

/-- A day as people write it: year, month, day. -/
def Day.display (d : Day) : String :=
  padded 4 d.year ++ "-" ++ padded 2 d.month ++ "-" ++ padded 2 d.day

/-- A distance from universal time: sign, hours and minutes, and seconds if there are some. -/
def offsetDisplay (seconds : Int) : String :=
  let n := seconds.natAbs
  (if seconds < 0 then "-" else "+") ++ padded 2 (n / 3600) ++ ":" ++ padded 2 (n / 60 % 60)
    ++ (if n % 60 == 0 then "" else ":" ++ padded 2 (n % 60))

/-- A moment as people write it. -/
def Moment.display (m : Moment) : String :=
  m.day.display ++ " " ++ padded 2 m.hour ++ ":" ++ padded 2 m.minute ++ ":" ++ padded 2 m.second
    ++ (if m.microsecond == 0 then "" else "." ++ padded 6 m.microsecond)
    ++ (match m.offset with | none => "" | some seconds => offsetDisplay seconds)

/-- A value as part of a sentence: texts and times stand without quotes. -/
def Datum.display : Datum → String
  | .text s => s
  | .day d => d.display
  | .moment m => m.display
  | value => value.literal

end DesignGauge
