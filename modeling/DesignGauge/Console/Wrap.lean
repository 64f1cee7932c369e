import DesignGauge.Text.Cells
import DesignGauge.Text.Pieces

/-!
# Lines of a given width

A text is broken into lines of a number of terminal cells: at blanks where that is possible, and
within a word only if the word is wider than a line and may be folded. A line that is still too
wide is cut.
-/

namespace DesignGauge.Console

open Text

/-- Where the text of a line stands. -/
inductive Justify where
  | free
  | left
  | centre
  | right
  deriving DecidableEq, Repr

/-- What happens to a word that is wider than a line. -/
inductive Overflow where
  | fold
  | ellipsis
  deriving DecidableEq, Repr

/-- The runs of a text up to the start of the next word. The first one has the blanks in front of
it, and a text of blanks has none. -/
def wordRuns (text : List Char) : List (List Char) :=
  let lead := text.takeWhile isBlank
  let groups := (text.drop lead.length).splitBy fun a b => !(isBlank a && !isBlank b)
  match groups with
  | [] => []
  | first :: rest => (lead ++ first) :: rest

/-- Adds a cluster to pieces, last piece first; starts a piece if there is no cell left for it. The
number is that of the cells taken in the last piece. -/
def chopStep (width : Nat) (acc : List (List Char) × Nat) (cluster : Cluster) :
    List (List Char) × Nat :=
  let (done, used) := acc
  if used + cluster.cells > width then (cluster.chars :: done, cluster.cells)
  else match done with
    | [] => ([cluster.chars], used + cluster.cells)
    | last :: others => ((last ++ cluster.chars) :: others, used + cluster.cells)

/-- Pieces of a word that are as wide as a line allows. -/
def chop (width : Nat) (word : List Char) : List (List Char) :=
  ((clusters word).foldl (chopStep width) ([[]], 0)).1.reverse

/-- The starts of pieces that follow one another. -/
def startsOf (start : Nat) : List (List Char) → List Nat
  | [] => []
  | piece :: rest => start :: startsOf (start + piece.length) rest

/-- The places where lines are broken. `start` is the place of the first word and `used` the number
of cells taken in its line. -/
def breaks (width : Nat) (overflow : Overflow) (start used : Nat) : List (List Char) → List Nat
  | [] => []
  | word :: rest =>
    let next := start + word.length
    let needed := cells (dropRightWhile isBlank word)
    if used + needed ≤ width then breaks width overflow next (used + cells word) rest
    else if width < needed then match overflow with
      | .fold =>
        let pieces := chop width word
        (startsOf start pieces).filter (· != 0)
          ++ breaks width overflow next (cells (pieces.getLastD [])) rest
      | .ellipsis =>
        [start].filter (· != 0) ++ breaks width overflow next (cells word) rest
    else if used != 0 && start != 0 then start :: breaks width overflow next (cells word) rest
    else breaks width overflow next used rest

/-- Cuts a text at places that do not decrease; `from_` is the place of its first character. -/
def cutAt (from_ : Nat) (text : List Char) : List Nat → List (List Char)
  | [] => [text]
  | place :: rest =>
    text.take (place - from_) :: cutAt place (text.drop (place - from_)) rest

/-- Drops blanks at the end of a line that has more characters than cells. -/
def trimEnd (width : Nat) (line : List Char) : List Char :=
  let excess := line.length - width
  let blanks := (takeRightWhile isBlank line).length
  line.take (line.length - min blanks excess)

/-- Blanks. -/
def blanks (n : Nat) : List Char := List.replicate n ' '

/-- The clusters that fit into some number of cells; if one stands on the edge, a blank takes its
place. -/
def cutCells : Nat → List Cluster → List Char
  | _, [] => []
  | total, cluster :: rest =>
    if total == 0 then []
    else if total < cluster.cells then [' ']
    else cluster.chars ++ cutCells (total - cluster.cells) rest

/-- A text in exactly some number of cells. -/
def resize (total : Nat) (text : List Char) : List Char :=
  let size := cells text
  if size ≤ total then text ++ blanks (total - size) else cutCells total (clusters text)

/-- Cuts a line that is too wide. -/
def truncate (width : Nat) (overflow : Overflow) (line : List Char) : List Char :=
  if cells line ≤ width then line
  else match overflow with
    | .fold => resize width line
    | .ellipsis => resize (width - 1) line ++ ['…']

/-- Puts the text of a line in its place. -/
def place (width : Nat) (justify : Justify) (overflow : Overflow) (line : List Char) : List Char :=
  match justify with
  | .free => truncate width overflow line
  | .left =>
    let line := truncate width overflow line
    line ++ blanks (width - cells line)
  | .right =>
    let line := truncate width overflow (dropRightWhile isBlank line)
    blanks (width - cells line) ++ line
  | .centre =>
    let line := truncate width overflow (dropRightWhile isBlank line)
    let line := blanks ((width - cells line) / 2) ++ line
    line ++ blanks (width - cells line)

/-- The width of a tabulation. -/
def tabSize : Nat := 8

/-- The next tabulation stop, or the cell itself if it is one. -/
def tabStop (used : Nat) : Nat := (used + tabSize - 1) / tabSize * tabSize

/-- Puts blanks in place of tabulations between the pieces of a line; `used` is the number of cells
so far. The first blank is measured with the piece in front of it. -/
def joinTabbed (used : Nat) : List (List Char) → List Char
  | [] => []
  | [piece] => piece
  | piece :: rest =>
    let reached := used + cells (piece ++ [' '])
    piece ++ blanks (tabStop reached - reached + 1) ++ joinTabbed (tabStop reached) rest

/-- Replaces tabulations by blanks. -/
def expandTabs (line : List Char) : List Char := joinTabbed 0 (line.splitOn '\t')

/-- The lines of a text. -/
def wrap (width : Nat) (justify : Justify) (overflow : Overflow) (text : List Char) :
    List (List Char) :=
  (text.splitOn '\n').flatMap fun line =>
    let line := expandTabs line
    (cutAt 0 line (breaks width overflow 0 0 (wordRuns line))).map fun piece =>
      place width justify overflow (trimEnd width piece)

end DesignGauge.Console
