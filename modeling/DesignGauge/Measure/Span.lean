import DesignGauge.Measure.View

/-!
# Lines

The lines of a class run from its first row to its last. The rows come from the syntax node if it
has some, and from the first class otherwise.
-/

namespace DesignGauge.Measure

/-- A part of a node: an entry of a mapping or an attribute of a record. -/
def partOf (key : String) : Datum → Datum
  | .map entries => (Datum.lookup? key entries).getD .null
  | .record attributes => (attributes.lookup key).getD .null
  | _ => .null

/-- The row of a point: the first coordinate of a tuple, or the part of that name. -/
def rowOf : Datum → Except Fault Datum
  | .tuple [] => .error .emptyPoint
  | .tuple (row :: _) => .ok row
  | point => .ok (partOf "row" point)

/-- The names under which nodes keep their first and last points, in order of preference. -/
def spanKeys : List (String × String) :=
  [("start_position", "end_position"), ("start_point", "end_point"),
    ("startPosition", "endPosition")]

/-- The first pair of names under which a node has both rows. -/
def spanAmong (node : Datum) : List (String × String) → Except Fault (Option (Datum × Datum))
  | [] => .ok none
  | (startKey, stopKey) :: rest => do
    match ← rowOf (partOf startKey node), ← rowOf (partOf stopKey node) with
    | .null, _ => spanAmong node rest
    | _, .null => spanAmong node rest
    | start, stop => return some (start, stop)

/-- The first and last rows of a node. -/
def spanOf (node : Datum) : Except Fault (Option (Datum × Datum)) := spanAmong node spanKeys

/-- The first and last rows of a class. -/
def classSpan (c : ClassDecl) : Option (Datum × Datum) :=
  match c.start, c.stop with
  | some start, some stop => some (.int start.row, .int stop.row)
  | _, _ => none

/-- A number as a double. -/
def toDouble : Number → Except Fault Double
  | .float x => .ok x
  | .int i => match Double.ofInt? i with
    | some x => .ok x
    | none => .error .beyondDouble

/-- The double one. -/
def oneDouble : Double := Double.ofQuotient 1 1

/-- The number of lines from one row to another. -/
def lineCount (start stop : Datum) : Except Fault Number :=
  match stop.number?, start.number? with
  | some (.int b), some (.int a) => .ok (.int (b - a + 1))
  | some b, some a => do
    return .float (((← toDouble b).sub (← toDouble a)).add oneDouble)
  | _, _ => .error (.operands "-" stop.kindName start.kindName)

/-- A number can be written down: an integer has at most 4300 digits. -/
def writable : Number → Except Fault Number
  | .int i =>
    if i.natAbs < Nat.pow 10 Reading.digitLimit then .ok (.int i) else .error .tooManyDigits
  | value => .ok value

/-- The rows that the evidence gives. -/
def spanIn (e : Evidence) : Except Fault (Option (Datum × Datum)) := do
  match ← spanOf e.node with
  | some span => return some span
  | none => return e.view.primary?.bind classSpan

/-- LOC: the lines of the class, 0 if no rows are known. -/
def lines (e : Evidence) : Except Fault Number := do
  match ← spanIn e with
  | some (start, stop) => writable (← lineCount start stop)
  | none => return .int 0

/-- What counting lines tells. -/
def linesTrace (e : Evidence) : List String :=
  match spanIn e with
  | .ok none => ["[LOC] No node or class span available"]
  | _ => []

end DesignGauge.Measure
