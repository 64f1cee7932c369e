import DesignGauge.Text.Case
import DesignGauge.Yaml.Node

/-!
# Values of YAML

What a node stands for. Scalars are read by their tags; a mapping takes in the mappings that its
merge keys name, behind its own entries in weight. When several parts stand for nothing, the
shallowest decides, and among equals the first.

A collection may hold itself. Down to a level its value is written out as often as it is met; the
values at the level and below are written out once, and where one of them holds itself there is
`Datum.outer`.
-/

namespace DesignGauge.Yaml

open Text

/-! ## Scalars -/

/-- The value of a digit in a base. -/
def digitIn? (base : Nat) (c : Char) : Option Nat :=
  match (Json.hexValue? c).orElse fun _ => digitValue? c with
  | some n => if n < base then some n else none
  | none => none

/-- The mark that may stand in front of the digits of a base. -/
def baseMark? (base : Nat) : Option Char :=
  if base == 2 then some 'b' else if base == 8 then some 'o'
  else if base == 16 then some 'x' else none

/-- Digits without the mark of their base. -/
def dropBaseMark (base : Nat) (digits : List Char) : List Char :=
  match digits with
  | '0' :: c :: rest => if baseMark? base == some c.toLower then rest else digits
  | _ => digits

/-- An integer in a base, with a sign and blanks around it. -/
def integerIn (base : Nat) (text : List Char) : Except Problem Int :=
  let (negative, signed) := Reading.sign (strip text)
  let digits := dropBaseMark base signed
  match digits.mapM (digitIn? base) with
  | some values =>
    if values.isEmpty then
      .error (.fault (.notInteger base (String.ofList text)))
    else if base == 10 && values.length > Reading.digitLimit then
      .error (.fault (.tooManyDigitsRead values.length))
    else
      let n : Nat := values.foldl (base * · + ·) 0
      .ok (if negative then -(n : Int) else n)
  | none => .error (.fault (.notInteger base (String.ofList text)))

/-- A sign of a scalar and the text after it. -/
def signOf (text : List Char) : Except Problem (Bool × List Char) :=
  if text.isEmpty then .error (.fault .emptyText) else .ok (Reading.sign text)

/-- The integer of groups of sixty. -/
def sixtiesInt (groups : List (List Char)) : Except Problem Int := do
  return (← groups.mapM (integerIn 10)).foldl (60 * · + ·) 0

/-- An integer. -/
def intValue (text : List Char) : Except Problem Datum := do
  let (negative, digits) ← signOf (text.filter (· != '_'))
  let magnitude ← match digits with
    | [] => .error (.fault .emptyText)
    | ['0'] => .ok 0
    | '0' :: 'b' :: rest => integerIn 2 rest
    | '0' :: 'x' :: rest => integerIn 16 rest
    | '0' :: _ => integerIn 8 digits
    | _ =>
      if digits.contains ':' then sixtiesInt (digits.splitOn ':')
      else integerIn 10 digits
  return .int (if negative then -magnitude else magnitude)

/-- A double in decimal. -/
def doubleOf (text : List Char) : Except Problem Double :=
  match Reading.ofText? (String.ofList text) with
  | some x => .ok x
  | none => .error (.fault (.noNumber (String.ofList text)))

/-- The double of groups of sixty, the last group first, on top of a sum. -/
def sixtiesDouble (sum : Double) (base : Nat) : List Double → Double
  | [] => sum
  | x :: rest => sixtiesDouble (sum.add (x.mul (Double.ofQuotient base 1))) (base * 60) rest

/-- A double. -/
def floatValue (text : List Char) : Except Problem Datum := do
  let (negative, body) ← signOf (lowerChars (text.filter (· != '_')))
  let magnitude ←
    if body == ".inf".toList then pure (Double.infinite false)
    else if body == ".nan".toList then pure .nan
    else if body.contains ':' then do
      let groups ← (body.splitOn ':').mapM doubleOf
      pure (sixtiesDouble (.zero false) 1 groups.reverse)
    else doubleOf body
  return .float (if negative then magnitude.neg else magnitude)

/-- A truth value. -/
def boolValue (s : String) : Except Problem Datum :=
  match Tag.boolWords.lookup (lower s) with
  | some b => .ok (.bool b)
  | none => .error (.fault (.noEntry (lower s)))

/-- The days of a month. -/
def monthDays (year month : Nat) : Nat :=
  if month == 2 then
    if year % 4 == 0 && (year % 100 != 0 || year % 400 == 0) then 29 else 28
  else if month == 4 || month == 6 || month == 9 || month == 11 then 30
  else 31

/-- A day of the calendar. -/
def dayOf (year month day : Nat) : Except Problem Day :=
  let refuse (detail : String) : Except Problem Day := .error (.fault (.badValue detail))
  if year == 0 then refuse "year 0 is out of range"
  else if month == 0 || month > 12 then refuse "month must be in 1..12"
  else if day == 0 || day > monthDays year month then refuse "day is out of range for month"
  else .ok ⟨year, month, day⟩

/-- The distance of a zone from universal time in seconds. -/
def offsetOf (negative : Bool) (hours minutes : Nat) : Except Problem Int :=
  let seconds : Int := hours * 3600 + minutes * 60
  let offset := if negative then -seconds else seconds
  if seconds < 86400 then .ok offset
  else
    .error (.fault (.badValue ("offset must be a timedelta strictly between "
      ++ "-timedelta(hours=24) and timedelta(hours=24), not " ++ spanLiteral offset ++ ".")))

/-- The microseconds of a fraction: six digits of it. -/
def microseconds (fraction : List Char) : Nat :=
  let digits := fraction.take 6
  Reading.natOf (digits ++ List.replicate (6 - digits.length) '0')

/-- A moment of a day. -/
def momentOf (t : Tag.TimeText) (hour minute second fraction : List Char) :
    Except Problem Datum := do
  let nat := Reading.natOf
  let offset ← match t.zone with
    | none => pure none
    | some (none, _, _) => pure (some 0)
    | some (some sign, hours, minutes) => some <$> offsetOf (sign == '-') (nat hours) (nat minutes)
  let refuse (detail : String) : Except Problem Datum := .error (.fault (.badValue detail))
  let day ← dayOf (nat t.year) (nat t.month) (nat t.day)
  if nat hour > 23 then refuse "hour must be in 0..23"
  else if nat minute > 59 then refuse "minute must be in 0..59"
  else if nat second > 59 then refuse "second must be in 0..59"
  else
    return .moment ⟨day, nat hour, nat minute, nat second, microseconds fraction, offset⟩

/-- A day or a moment. -/
def timeValue (text : List Char) : Except Problem Datum :=
  match Tag.time? (Tag.closed text) with
  | none => .error (.fault (.noOperation "NoneType" "groupdict"))
  | some t => match t.clock with
    | none => do
      return .day (← dayOf (Reading.natOf t.year) (Reading.natOf t.month) (Reading.natOf t.day))
    | some (hour, minute, second, fraction) => momentOf t hour minute second fraction

/-- The value of a letter of base 64. -/
def sextet? (c : Char) : Option Nat :=
  if 'A' ≤ c && c ≤ 'Z' then some (c.toNat - 'A'.toNat)
  else if 'a' ≤ c && c ≤ 'z' then some (c.toNat - 'a'.toNat + 26)
  else if isAsciiDigit c then some (c.toNat - '0'.toNat + 52)
  else if c == '+' then some 62
  else if c == '/' then some 63
  else none

/-- The letters of the current group of four, by the number of bits that are left over. -/
def groupPlace (count : Nat) : Nat :=
  if count == 6 then 1 else if count == 4 then 2 else if count == 2 then 3 else 0

/-- The octets of letters of base 64: the bits that are left over and their number, and the pads
that were seen. Other characters are skipped. -/
def octetsOf64 (acc : Octets) (bits count pads : Nat) : List Char → Option Octets
  | [] => if count == 0 then some acc.reverse else none
  | c :: rest =>
    if c == '=' then
      let place := groupPlace count
      if place ≥ 2 && place + pads + 1 ≥ 4 then some acc.reverse
      else octetsOf64 acc bits count (if place ≥ 2 then pads + 1 else pads) rest
    else match sextet? c with
      | none => octetsOf64 acc bits count pads rest
      | some n =>
        let all := bits * 64 + n
        if count == 0 then octetsOf64 acc n 6 0 rest
        else
          let left := count + 6 - 8
          octetsOf64 ((all / Nat.pow 2 left).toUInt8 :: acc) (all % Nat.pow 2 left) left 0 rest

/-- Octets in base 64. -/
def binaryValue (text : List Char) : Except Problem Datum :=
  if text.any (·.toNat ≥ 128) then malformed "failed to convert base64 data into ascii"
  else match octetsOf64 [] 0 0 0 text with
    | some octets => .ok (.octets octets)
    | none => malformed "failed to decode base64 data"

/-- The value of a scalar text under a tag. -/
def scalarValue (tag : Tag) (s : String) : Except Problem Datum :=
  match tag with
  | .null => .ok .null
  | .bool => boolValue s
  | .int => intValue s.toList
  | .float => floatValue s.toList
  | .time => timeValue s.toList
  | .binary => binaryValue s.toList
  | .text => .ok (.text s)
  | .list => malformed "expected a sequence node"
  | .map | .set => malformed "expected a mapping node"
  | .orderedMap | .pairs => malformed "expected a sequence"
  | .merge | .value | .other _ => malformed "could not determine a constructor for the tag"

/-! ## Collections -/

/-- A node is a merge key. -/
def isMergeKey : Node → Bool
  | .scalar .merge _ => true
  | _ => false

/-- A node with the tag of a value key becomes a text. -/
def plainKey : Node → Node
  | .scalar .value text => .scalar .text text
  | node => node

/-- The node that a reference leads to. -/
def Document.resolve (doc : Document) : Node → Node
  | .again place => (doc.marked.find? fun node => match node with
    | .sequence p _ _ | .mapping p _ _ => p == place
    | _ => false).getD emptyNode
  | node => node

/-- The entries of the mapping at a place with those that its merge keys name in front. Of several
merged mappings in a list, later ones come first. A mapping that is merged into itself brings its
own entries. -/
def merged (doc : Document) (busy : List Nat) (place : Nat) :
    Nat → List (Node × Node) → Except Problem (List (Node × Node))
  | 0, _ => malformed "nested too deeply"
  | fuel + 1, entries => do
    let own := (entries.filter (!isMergeKey ·.1)).map fun (key, value) => (plainKey key, value)
    if busy.contains place then return own
    else
      let from_ (node : Node) (refusal : String) : Except Problem (List (Node × Node)) :=
        match doc.resolve node with
        | .mapping other _ inner => merged doc (place :: busy) other fuel inner
        | _ => malformed refusal
      let taken ← (entries.filter (isMergeKey ·.1)).mapM fun (_, value) =>
        match doc.resolve value with
        | .sequence _ _ items => do
          return (← items.mapM (from_ · "expected a mapping for merging")).reverse.flatten
        | node => from_ node "expected a mapping or list of mappings for merging"
      return taken.flatten ++ own

/-- A problem and the depth at which it stands. -/
abbrev Located := Nat × Problem

/-- All results, or the shallowest problem. -/
def gather {α : Type} : List (Except Located α) → Except Located (List α)
  | [] => .ok []
  | .ok a :: rest => (gather rest).map (a :: ·)
  | .error (depth, problem) :: rest => match gather rest with
    | .error (other, shallower) =>
      if other < depth then .error (other, shallower) else .error (depth, problem)
    | .ok _ => .error (depth, problem)

/-- A problem at a depth. -/
def locatedAt {α : Type} (depth : Nat) : Except Problem α → Except Located α
  | .ok a => .ok a
  | .error problem => .error (depth, problem)

/-- The text that a mapping keeps under its value key. -/
def valueText? (doc : Document) : Nat → Node → Option String
  | 0, _ => none
  | fuel + 1, node => match doc.resolve node with
    | .scalar _ text => some text
    | .mapping _ _ entries =>
      (entries.find? fun entry => match entry.1 with
        | .scalar .value _ => true
        | _ => false).bind fun entry => valueText? doc fuel entry.2
    | _ => none

/-- A mapping under the tag of a scalar stands for the text under its value key. -/
def valueUnder (tag : Tag) (text? : Option String) : Except Problem Datum :=
  match tag, text? with
  | .list, _ => malformed "expected a sequence node"
  | .orderedMap, _ | .pairs, _ => malformed "expected a sequence"
  | .other _, _ | .merge, _ | .value, _ => malformed "could not determine a constructor for the tag"
  | .time, some _ => .error (.fault (.notTextual "list"))
  | tag, some text => scalarValue tag text
  | _, none => malformed "expected a scalar node"

/-- The value of a node at a depth, inside the collections that are open. -/
def construct (doc : Document) (level : Nat) :
    Nat → Nat → List Nat → Node → Except Located Datum
  | 0, depth, _, _ => .error (depth, .malformed "nested too deeply")
  | fuel + 1, depth, open_, node =>
    let inside (place : Nat) : Node → Except Located Datum :=
      construct doc level fuel (depth + 1) (if level ≤ depth then place :: open_ else open_)
    let pairsOf (place : Nat) (entries : List (Node × Node)) :
        Except Located (List (Datum × Datum)) := do
      let entries ← locatedAt (depth + 1) (merged doc [] place doc.size entries)
      gather (entries.map fun (key, value) => do
        let k ← match key with
          | .scalar _ _ => inside place key
          | _ => .error (depth + 1, .malformed "found unhashable key")
        return (k, ← inside place value))
    let singles (place : Nat) (items : List Node) : Except Located Datum := do
      let pairs ← gather (items.map fun item => match doc.resolve item with
        | .mapping _ _ [(key, value)] => do
          return Datum.tuple [← inside place key, ← inside place value]
        | _ => .error (depth + 1, .malformed "expected a mapping of length 1"))
      return .list pairs
    match doc.resolve node with
    | .scalar tag text => locatedAt depth (scalarValue tag text)
    | .sequence place tag items =>
      if open_.contains place then .ok (.outer false)
      else match tag with
        | .list => do return .list (← gather (items.map (inside place)))
        | .orderedMap | .pairs => singles place items
        | .map | .set => locatedAt depth (malformed "expected a mapping node")
        | .other _ | .merge | .value =>
          locatedAt depth (malformed "could not determine a constructor for the tag")
        | _ => locatedAt depth (malformed "expected a scalar node")
    | .mapping place tag entries =>
      if open_.contains place then .ok (.outer true)
      else match tag with
        | .map => do return .map (Datum.mapOf (← pairsOf place entries))
        | .set => do return .set ((Datum.mapOf (← pairsOf place entries)).map Prod.fst)
        | tag => locatedAt depth (valueUnder tag (valueText? doc doc.size node))
    | .again _ => .ok .null

/-- The value that a text denotes; an empty text denotes null. -/
def read (level : Nat) (text : List Char) : Except Problem Datum := do
  match ← readDocument (← tokens text) with
  | none => return .null
  | some doc => match construct doc level (doc.size + level + 2) 0 [] doc.root with
    | .ok value => return value
    | .error (_, problem) => throw problem

end DesignGauge.Yaml
