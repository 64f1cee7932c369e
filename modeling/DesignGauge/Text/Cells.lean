import DesignGauge.Text.CellTable
import DesignGauge.Text.Surrogate

/-!
# Terminal cells

A character takes no cell (marks, controls, joiners), two cells (East Asian wide and full-width
characters, most pictographs) or one. Neighbours can change that: the character after a joiner
belongs to the one before it, and a selector turns the character before it into a pictograph. Half
of a surrogate pair takes one cell, and so does the character that marks such halves.
`cells` measures a text; `clusters` cuts it into the units that a line must not divide.
-/

namespace DesignGauge.Text

/-- The number of terminal cells of a character that stands alone. -/
def charCells (c : Char) : Nat :=
  if 0x20 ≤ c.toNat && c.toNat < 0x7F then 1
  else if CharClass.has zeroWidthRanges c then 0
  else if CharClass.has wideRanges c then 2
  else 1

/-- The joiner: the next character is drawn with the one before. -/
def joiner : Char := '\u200d'

/-- The selector of the pictograph of the character before. -/
def selector : Char := '\ufe0f'

/-- The cells that a selector adds to the character measured last. -/
def selectorCells : Option Char → Nat
  | some c => if CharClass.has selectableRanges c then 1 else 0
  | none => 0

/-- The cells of a text that follows a character. A joiner hides the next character, and a selector
widens a character once. -/
def cellsAfter : Option Char → List Char → Nat
  | _, [] => 0
  | last, c :: rest =>
    if c == joiner then match rest with
      | [] => 0
      | _ :: others => cellsAfter last others
    else if c == halfMark then match rest with
      | [] => 1
      | d :: others => 1 + cellsAfter (some d) others
    else if c == selector then selectorCells last + cellsAfter none rest
    else if charCells c == 0 then cellsAfter last rest
    else charCells c + cellsAfter (some c) rest

/-- The number of terminal cells of a text. -/
def cells (text : List Char) : Nat := cellsAfter none text

/-! ## Units of a line -/

/-- Characters that are drawn together, and their cells. -/
structure Cluster where
  chars : List Char
  cells : Nat
  deriving DecidableEq, Repr

/-- A cluster with more characters at its end, and more cells. -/
def Cluster.extend (cluster : Cluster) (chars : List Char) (more : Nat) : Cluster :=
  ⟨cluster.chars ++ chars, cluster.cells + more⟩

/-- The clusters of a text that follows a cluster and the character measured last in it. Whatever
takes no cell belongs to the cluster before it. -/
def clustersAfter (current : Cluster) : Option Char → List Char → List Cluster
  | _, [] => [current]
  | last, c :: rest =>
    if c == joiner then match rest with
      | [] => [current.extend [c] 0]
      | d :: others => clustersAfter (current.extend [c, d] 0) last others
    else if c == halfMark then match rest with
      | [] => [current, ⟨[c], 1⟩]
      | d :: others => current :: clustersAfter ⟨[c, d], 1⟩ (some d) others
    else if c == selector then
      let more := selectorCells last
      clustersAfter (current.extend [c] more) (if more == 0 then last else none) rest
    else if charCells c == 0 then clustersAfter (current.extend [c] 0) last rest
    else current :: clustersAfter ⟨[c], charCells c⟩ (some c) rest

/-- The clusters of a text. -/
def clusters : List Char → List Cluster
  | [] => []
  | c :: rest =>
    if c == halfMark then match rest with
      | [] => [⟨[c], 1⟩]
      | d :: others => clustersAfter ⟨[c, d], 1⟩ (some d) others
    else if charCells c == 0 then clustersAfter ⟨[c], 0⟩ none rest
    else clustersAfter ⟨[c], charCells c⟩ (some c) rest

end DesignGauge.Text
