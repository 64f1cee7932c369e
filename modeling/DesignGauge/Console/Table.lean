import DesignGauge.Console.Markup
import DesignGauge.Console.Wrap

/-!
# Tables

A table has no rules, only columns with a blank at either side of each. A column is as wide as its
widest line, unless its width is fixed. If that is too wide for the console, the widest columns are
made as wide as the next widest ones until the table fits.
-/

namespace DesignGauge.Console

open Text

/-- The width of the console. -/
def consoleWidth : Nat := 80

/-- A column. -/
structure Column where
  title : String
  justify : Justify := .left
  width : Option Nat := none

/-- A table; its titles may be hidden. -/
structure Table where
  columns : List Column
  titled : Bool := true
  rows : List (List String)

/-- The blanks at the sides of a cell. -/
def padding : Nat := 2

/-- A character that ends a line of text. -/
def isLineEnd (c : Char) : Bool :=
  c == '\n' || (0x1C ≤ c.toNat && c.toNat ≤ 0x1E) || c.toNat == 0x85 || c.toNat == 0x2028
    || c.toNat == 0x2029

/-- The width of the widest line of a text. -/
def widestLine (text : List Char) : Nat :=
  ((text.splitOnP isLineEnd).map cells).foldl max 0

namespace Table

/-- All rows, that of the titles first. -/
def allRows (t : Table) : List (List String) :=
  (if t.titled then [t.columns.map Column.title] else []) ++ t.rows

/-- The width that a column wants. -/
def wanted (t : Table) (index : Nat) (column : Column) : Except Fault Nat :=
  match column.width with
  | some width => .ok (min consoleWidth (width + padding))
  | none => do
    let texts ← t.allRows.mapM fun row => plainText (row.getD index "")
    return min consoleWidth ((texts.map widestLine).foldl max 0 + padding)

/-- A quotient to the nearest integer, a half to the even one. -/
def roundHalfEven (numerator denominator : Nat) : Nat :=
  let quotient := numerator / denominator
  let twice := 2 * (numerator % denominator)
  if twice < denominator || (twice == denominator && quotient % 2 == 0) then quotient
  else quotient + 1

/-- Takes a total away from the marked widths, evenly and at most `limit` from each. `left` is the
number of marked widths to come. -/
def reduce (limit : Nat) : (total left : Nat) → List (Nat × Bool) → List Nat
  | _, _, [] => []
  | total, left, (width, false) :: rest => width :: reduce limit total left rest
  | total, left, (width, true) :: rest =>
    let share := min limit (roundHalfEven total left)
    (width - share) :: reduce limit (total - share) (left - 1) rest

/-- Narrows the widest columns that may be narrowed until the table fits. The fuel bounds the
rounds; each makes the widest columns as wide as the next widest. -/
def collapse (flexible : List Bool) : Nat → List Nat → List Nat
  | 0, widths => widths
  | fuel + 1, widths =>
    let excess := widths.foldr (· + ·) 0 - consoleWidth
    let candidates := ((widths.zip flexible).filter Prod.snd).map Prod.fst
    let widest := candidates.foldl max 0
    let second := (candidates.filter (· != widest)).foldl max 0
    if excess == 0 || widest == second then widths
    else
      let marked := (widths.zip flexible).map fun (w, f) => (w, f && w == widest)
      collapse flexible fuel
        (reduce (min excess (widest - second)) excess (marked.filter Prod.snd).length marked)

/-- The widths of the columns. -/
def widths (t : Table) : Except Fault (List Nat) := do
  let wants ← t.columns.zipIdx.mapM fun (column, index) => t.wanted index column
  return collapse (t.columns.map (·.width.isNone)) (wants.foldr (· + ·) 0) wants

/-- The lines of a cell, with the blanks at its sides. -/
def cellLines (width : Nat) (column : Column) (text : String) :
    Except Fault (List (List Char)) := do
  let lines := wrap (width - padding) column.justify .ellipsis (← plainText text)
  return lines.map fun line => ' ' :: line ++ [' ']

/-- The lines of a row: its cells side by side, each filled up with blanks below. -/
def rowLines (widths : List Nat) (cells : List (List (List Char))) : List (List Char) :=
  let height := (cells.map List.length).foldl max 1
  (List.range height).map fun i =>
    (widths.zip cells).flatMap fun (width, lines) => lines.getD i (blanks width)

/-- The lines of a table. -/
def lines (t : Table) : Except Fault (List (List Char)) := do
  let widths ← t.widths
  let rows ← t.allRows.mapM fun row => do
    let cells ← ((widths.zip t.columns).zip row).mapM fun ((width, column), text) =>
      cellLines width column text
    return rowLines widths cells
  return rows.flatten

end Table

end DesignGauge.Console
