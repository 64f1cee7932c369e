import DesignGauge.Datum.Literal

/-!
# Writing JSON

Files are written with two blanks of indentation and an explicit range of integers; requests are
written on one line. In both, characters outside the basic range stand for themselves.
-/

namespace DesignGauge.Json

open Text

/-- A character inside a JSON string. -/
def escapedChar (c : Char) : List Char :=
  if c == '"' || c == '\\' then ['\\', c]
  else if c == '\n' then ['\\', 'n']
  else if c == '\r' then ['\\', 'r']
  else if c == '\t' then ['\\', 't']
  else if c.toNat == 8 then ['\\', 'b']
  else if c.toNat == 12 then ['\\', 'f']
  else if c.toNat < 0x20 then '\\' :: 'u' :: hexDigits 4 c.toNat
  else [c]

/-- A JSON string. -/
def encodeText (s : String) : String :=
  String.ofList ('"' :: s.toList.flatMap escapedChar ++ ['"'])

/-- Why a value has no JSON text. -/
inductive WriteRefusal where
  | integerRange
  | tooManyDigits
  | notFinite
  | loneSurrogate
  | notName (kind : String)
  | notJson (kind : String)
  deriving DecidableEq, Repr

/-- How values are set on the page and which numbers are admitted. -/
structure Style where
  /-- Members and items on lines of their own, indented by depth. -/
  indented : Bool
  /-- Integers must fit in 64 bits; otherwise their digits are limited. -/
  bounded : Bool
  /-- What is not finite is written as null; otherwise it is refused. -/
  nonFiniteAsNull : Bool
  /-- Lone surrogates are refused; otherwise they are written as they are. -/
  wholePairs : Bool
  layout : Layout

/-- Component, report and result texts. -/
def Style.file : Style := ⟨true, true, true, true, .document⟩

/-- Bodies of requests. -/
def Style.request : Style := ⟨false, false, false, false, .message⟩

/-- Items or members between brackets. -/
def Style.enclose (style : Style) (depth : Nat) (left right : String) (parts : List String) :
    String :=
  if parts.isEmpty then left ++ right
  else if style.indented then
    let inner := "\n" ++ repeated (2 * (depth + 1)) ' '
    left ++ inner ++ String.intercalate ("," ++ inner) parts
      ++ "\n" ++ repeated (2 * depth) ' ' ++ right
  else left ++ String.intercalate "," parts ++ right

/-- The mark between a name and its value. -/
def Style.colon (style : Style) : String :=
  if style.indented then ": " else ":"

/-- The JSON text of a text. -/
def writeText (style : Style) (s : String) : Except WriteRefusal String :=
  if style.wholePairs && !isWhole s then .error .loneSurrogate else .ok (encodeText s)

/-- The JSON text of an integer. -/
def writeInt (style : Style) (i : Int) : Except WriteRefusal String :=
  if style.bounded then
    if -signedBound ≤ i && i < unsignedBound then .ok (toString i) else .error .integerRange
  else if i.natAbs < Nat.pow 10 Reading.digitLimit then .ok (toString i)
  else .error .tooManyDigits

/-- The JSON text of a number that is not whole. -/
def writeDouble (style : Style) (x : Double) : Except WriteRefusal String :=
  if x.isFinite then .ok (x.render style.layout)
  else if style.nonFiniteAsNull then .ok "null"
  else .error .notFinite

/-- The JSON text of the key of a mapping. -/
def writeName (style : Style) : Datum → Except WriteRefusal String
  | .text s => writeText style s
  | .null => .ok (encodeText "null")
  | .bool b => .ok (encodeText (if b then "true" else "false"))
  | .int i => do return encodeText (← writeInt style i)
  | .float x => do return encodeText (← writeDouble style x)
  | key => .error (.notName key.shortKindName)

mutual
/-- The JSON text of a value at a depth. -/
def write (style : Style) (depth : Nat) : Datum → Except WriteRefusal String
  | .null => .ok "null"
  | .bool b => .ok (if b then "true" else "false")
  | .int i => writeInt style i
  | .float x => writeDouble style x
  | .text s => writeText style s
  | .list xs => do return style.enclose depth "[" "]" (← writeItems style (depth + 1) xs)
  | .tuple xs => do return style.enclose depth "[" "]" (← writeItems style (depth + 1) xs)
  | .map es => do
    return style.enclose depth "\x7b" "\x7d" (← writeMembers style (depth + 1) es)
  | value => .error (.notJson value.shortKindName)

/-- The JSON texts of a list of values. -/
def writeItems (style : Style) (depth : Nat) : List Datum → Except WriteRefusal (List String)
  | [] => .ok []
  | x :: rest => do return (← write style depth x) :: (← writeItems style depth rest)

/-- The JSON texts of the members of a mapping. -/
def writeMembers (style : Style) (depth : Nat) :
    List (Datum × Datum) → Except WriteRefusal (List String)
  | [] => .ok []
  | (k, v) :: rest => do
    let name ← writeName style k
    let value ← write style depth v
    return (name ++ style.colon ++ value) :: (← writeMembers style depth rest)
end

/-- The text of a value in a file. -/
def fileText (value : Datum) : Except WriteRefusal String :=
  write .file 0 value

/-- The text of a value in a request. -/
def requestText (value : Datum) : Except WriteRefusal String :=
  write .request 0 value

end DesignGauge.Json
