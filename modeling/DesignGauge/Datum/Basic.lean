import DesignGauge.Number.Basic
import DesignGauge.Text.Pieces
import DesignGauge.Text.Utf8

/-!
# Data values

The values that component files, replies, configuration files and callers hand in: one type for
JSON trees and for what a YAML document can denote. Mappings keep the order of their entries, and
a key is any value.
-/

namespace DesignGauge

/-- A calendar day. -/
structure Day where
  year : Nat
  month : Nat
  day : Nat
  deriving DecidableEq, Repr

/-- A time of a day, with the offset of its zone in seconds if it has one. -/
structure Moment where
  day : Day
  hour : Nat
  minute : Nat
  second : Nat
  microsecond : Nat
  offset : Option Int
  deriving DecidableEq, Repr

/-- The number of a day in a count of days; years begin in March there, so that a leap day is the
last of its year. -/
def Day.number (d : Day) : Nat :=
  let year := if d.month ≤ 2 then d.year - 1 else d.year
  let month := (d.month + 9) % 12
  365 * year + year / 4 - year / 100 + year / 400 + (153 * month + 2) / 5 + d.day

/-- The place of a moment in time in microseconds, in universal time if it has a zone. -/
def Moment.instant (m : Moment) : Int :=
  let seconds : Int := ((m.day.number * 24 + m.hour) * 60 + m.minute) * 60 + m.second
  (seconds - m.offset.getD 0) * 1000000 + m.microsecond

/-- Two moments are on the same clock: both have a zone, or none has. -/
def Moment.isComparable (m n : Moment) : Bool := m.offset.isSome == n.offset.isSome

/-- A data value. -/
inductive Datum where
  | null
  | bool (value : Bool)
  | int (value : Int)
  | float (value : Double)
  | text (value : String)
  | octets (value : Text.Octets)
  | day (value : Day)
  | moment (value : Moment)
  | list (items : List Datum)
  | tuple (items : List Datum)
  | set (items : List Datum)
  | map (entries : List (Datum × Datum))
  | record (attributes : List (String × Datum))
  /-- An enclosing list, or an enclosing mapping, once more. -/
  | outer (mapping : Bool)
  deriving Repr

instance : Inhabited Datum := ⟨.null⟩

namespace Datum

/-- The number of a numeric value; truth values count as 1 and 0. -/
def number? : Datum → Option Number
  | .int i => some (.int i)
  | .float x => some (.float x)
  | .bool b => some (.int (if b then 1 else 0))
  | _ => none

/-- A number as a value. -/
def ofNumber : Number → Datum
  | .int i => .int i
  | .float x => .float x

mutual
/-- Two values are the same key of a mapping: numbers by value, everything else by content. -/
def same : Datum → Datum → Bool
  | .null, .null => true
  | .text a, .text b => a == b
  | .octets a, .octets b => a == b
  | .day a, .day b => a == b
  | .moment a, .moment b => a.isComparable b && a.instant == b.instant
  | .list a, .list b => sameAll a b
  | .tuple a, .tuple b => sameAll a b
  | a, b => match a.number?, b.number? with
    | some x, some y => x.equals y
    | _, _ => false

/-- Lists of the same values in the same order. -/
def sameAll : List Datum → List Datum → Bool
  | [], [] => true
  | a :: as, b :: bs => same a b && sameAll as bs
  | _, _ => false
end

/-- Values that count as absent: null, false, zero and whatever is empty. -/
def isVoid : Datum → Bool
  | .null => true
  | .bool b => !b
  | .int i => i == 0
  | .float (.finite x) => x.isZero
  | .text s => s.isEmpty
  | .octets s => s.isEmpty
  | .list xs => xs.isEmpty
  | .tuple xs => xs.isEmpty
  | .set xs => xs.isEmpty
  | .map es => es.isEmpty
  | _ => false

/-- The value of a text key: the first entry with that key. -/
def lookup? (key : String) (entries : List (Datum × Datum)) : Option Datum :=
  (entries.find? fun entry => match entry.1 with
    | .text s => s == key
    | _ => false).map Prod.snd

/-- Sets the value of a key: in place when the key is there, at the end otherwise. -/
def insertEntry (key value : Datum) : List (Datum × Datum) → List (Datum × Datum)
  | [] => [(key, value)]
  | (k, v) :: rest =>
    if k.same key then (k, value) :: rest else (k, v) :: insertEntry key value rest

/-- The mapping that a sequence of entries builds: a repeated key keeps its first place and
takes its last value. -/
def mapOf (entries : List (Datum × Datum)) : List (Datum × Datum) :=
  entries.foldl (fun acc entry => insertEntry entry.1 entry.2 acc) []

/-- A mapping with text keys. -/
def ofFields (fields : List (String × Datum)) : Datum :=
  .map (fields.map fun field => (.text field.1, field.2))

/-- The name of the kind of a value, as messages give it. -/
def kindName : Datum → String
  | .null => "NoneType"
  | .bool _ => "bool"
  | .int _ => "int"
  | .float _ => "float"
  | .text _ => "str"
  | .octets _ => "bytes"
  | .day _ => "datetime.date"
  | .moment _ => "datetime.datetime"
  | .list _ => "list"
  | .tuple _ => "tuple"
  | .set _ => "set"
  | .map _ => "dict"
  | .record _ => "types.SimpleNamespace"
  | .outer mapping => if mapping then "dict" else "list"

/-- The name of the kind of a value without the module it belongs to. -/
def shortKindName (value : Datum) : String :=
  String.ofList (Text.afterLast '.' value.kindName.toList)

mutual
/-- The kind of the part of a value that cannot be a key: lists, sets, mappings and records. -/
def unkeyable? : Datum → Option String
  | .list _ => some "list"
  | .set _ => some "set"
  | .map _ => some "dict"
  | .record _ => some "types.SimpleNamespace"
  | .outer mapping => some (if mapping then "dict" else "list")
  | .tuple items => unkeyableItem? items
  | _ => none

/-- The first part of a list of values that cannot be a key. -/
def unkeyableItem? : List Datum → Option String
  | [] => none
  | x :: rest => (unkeyable? x).orElse fun _ => unkeyableItem? rest
end

end Datum

end DesignGauge
