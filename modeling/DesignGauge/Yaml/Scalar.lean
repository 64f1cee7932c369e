import DesignGauge.Json.Reader
import DesignGauge.Yaml.Cursor

/-!
# Scalars of YAML

The five spellings of a scalar: plain, in single or double quotes, literal and folded. Line breaks
inside plain and quoted scalars fold to a space, and so do those of a folded block between lines
that are not indented further.
-/

namespace DesignGauge.Yaml

open Text

/-! ## Quoted scalars -/

/-- The characters that escapes of one letter stand for. -/
def escapes : List (Char × Nat) :=
  [('0', 0), ('a', 7), ('b', 8), ('t', 9), ('\t', 9), ('n', 10), ('v', 11), ('f', 12), ('r', 13),
    ('e', 27), (' ', 32), ('"', 34), ('\\', 92), ('/', 47), ('N', 0x85), ('_', 0xA0),
    ('L', 0x2028), ('P', 0x2029)]

/-- The number of digits of a numeric escape. -/
def escapeWidth? (c : Char) : Option Nat :=
  if c == 'x' then some 2 else if c == 'u' then some 4 else if c == 'U' then some 8 else none

/-- The value of some hexadecimal digits. -/
def hexNumber? (digits : List Char) : Option Nat :=
  (digits.mapM Json.hexValue?).map fun values => values.foldl (16 * · + ·) 0

/-- The characters of a number. -/
def numberedChar (code : Nat) : Except Problem (List Char) :=
  if code > 0x7FFFFFFF then .error (.fault .beyondCharacter)
  else if code > 0x10FFFF then .error (.fault (.badValue "chr() arg not in range(0x110000)"))
  else .ok (spell code)

/-- The breaks between lines of a quoted scalar; the fuel is the length of the text. -/
def quotedBreaks (c : Cursor) : Nat → Except Problem (List Char × Cursor)
  | 0 => .ok ([], c)
  | fuel + 1 =>
    if c.atSeparator then malformed "found unexpected document separator"
    else
      let spaced := c.skipWhile fun x => x == ' ' || x == '\t'
      match spaced.lineBreak with
      | ([], _) => .ok ([], spaced)
      | (first, after) => do
        let (more, last) ← quotedBreaks after fuel
        return (first ++ more, last)

/-- A line break folded with the breaks after it: a single one is a space. -/
def fold (first more : List Char) : List Char :=
  if first != ['\n'] then first ++ more else if more.isEmpty then [' '] else more

/-- Blanks inside a quoted scalar: as they are, unless the line ends. -/
def quotedBlanks (c : Cursor) : Except Problem (List Char × Cursor) :=
  let (blanks, after) := c.takeWhile fun x => x == ' ' || x == '\t'
  match after.peek with
  | none => malformed "found unexpected end of stream"
  | some char =>
    if isBreak char then do
      let (first, next) := after.lineBreak
      let (more, last) ← quotedBreaks next (next.rest.length + 1)
      return (fold first more, last)
    else .ok (blanks, after)

/-- The character or the line breaks that an escape stands for, after the backslash. -/
def escape (c : Cursor) : Except Problem (List Char × Cursor) :=
  match c.peek with
  | none => malformed "found unknown escape character"
  | some char =>
    match escapes.lookup char, escapeWidth? char with
    | some code, _ => .ok ([Char.ofNat code], c.step)
    | none, some width =>
      let digits := c.step.rest.take width
      match hexNumber? digits with
      | some code =>
        if digits.length < width then malformed "expected escape sequence"
        else do return (← numberedChar code, c.step.skip width)
      | none => malformed "expected escape sequence"
    | none, none =>
      if isBreak char then
        let after := c.lineBreak.2
        quotedBreaks after (after.rest.length + 1)
      else malformed "found unknown escape character"

/-- The rest of a quoted scalar, up to and without its closing quote. -/
def quotedRest (quote : Char) (acc : List Char) (c : Cursor) :
    Nat → Except Problem (List Char × Cursor)
  | 0 => malformed "found unexpected end of stream"
  | fuel + 1 =>
    match c.peek with
    | none => malformed "found unexpected end of stream"
    | some char =>
      if char == quote then
        if quote != '"' && c.peek 1 == some quote then
          quotedRest quote (acc ++ [quote]) (c.skip 2) fuel
        else .ok (acc, c.step)
      else if quote == '"' && char == '\\' then do
        let (chars, next) ← escape c.step
        quotedRest quote (acc ++ chars) next fuel
      else if char == ' ' || char == '\t' || isBreak char then do
        let (chars, next) ← quotedBlanks c
        quotedRest quote (acc ++ chars) next fuel
      else
        let (chars, next) := c.takeWhile fun x =>
          x != quote && x != '\\' && x != ' ' && x != '\t' && !isBreak x
        if chars.isEmpty then quotedRest quote (acc ++ [char]) c.step fuel
        else quotedRest quote (acc ++ chars) next fuel

/-- A quoted scalar. -/
def quotedScalar (quote : Char) (c : Cursor) : Except Problem (List Char × Cursor) :=
  quotedRest quote [] c.step (c.rest.length + 1)

/-! ## Plain scalars -/

/-- A character that has a meaning of its own inside flow collections. -/
def isFlowMark (c : Char) : Bool := c == ',' || c == '[' || c == ']' || c == '\x7b' || c == '\x7d'

/-- A plain scalar pauses before this text: at a blank, a value mark, or a flow mark. -/
def pausesPlain (inFlow : Bool) (text : List Char) : Bool :=
  match text with
  | [] => true
  | ':' :: rest =>
    endsWord rest.head? || (inFlow && match rest.head? with
      | some c => isFlowMark c
      | none => false)
  | c :: _ => endsWord (some c) || (inFlow && (isFlowMark c || c == '?'))

/-- The characters up to a pause. -/
def plainRun (inFlow : Bool) : List Char → List Char
  | [] => []
  | c :: rest => if pausesPlain inFlow (c :: rest) then [] else c :: plainRun inFlow rest

/-- The breaks between lines of a plain scalar, nothing if a document ends there. -/
def plainBreaks (c : Cursor) : Nat → Option (List Char) × Cursor
  | 0 => (some [], c)
  | fuel + 1 =>
    let spaced := c.skipSpaces
    match spaced.lineBreak with
    | ([], _) => (some [], spaced)
    | (first, after) =>
      if after.atSeparator then (none, after)
      else match plainBreaks after fuel with
        | (some more, last) => (some (first ++ more), last)
        | (none, last) => (none, last)

/-- What joins two pieces of a plain scalar, the place after it, and whether a line ended. -/
def plainJoint (c : Cursor) : List Char × Cursor × Bool :=
  let (blanks, after) := c.takeWhile (· == ' ')
  match after.lineBreak with
  | ([], _) => (blanks, after, false)
  | (first, next) =>
    if next.atSeparator then ([], next, true)
    else match plainBreaks next (next.rest.length + 1) with
      | (none, last) => ([], last, true)
      | (some more, last) => (fold first more, last, true)

/-- A plain scalar with the place after it. A scalar on several lines lets a key follow. -/
structure Plain where
  value : List Char
  cursor : Cursor
  keyAllowed : Bool

/-- The rest of a plain scalar, after a joint. -/
def plainRest (inFlow : Bool) (indent : Int) (acc joint : List Char) (keyAllowed : Bool)
    (c : Cursor) : Nat → Plain
  | 0 => ⟨acc, c, keyAllowed⟩
  | fuel + 1 =>
    let run := plainRun inFlow c.rest
    if c.startsWith '#' || run.isEmpty then ⟨acc, c, keyAllowed⟩
    else
      let (next, after, broken) := plainJoint (c.skip run.length)
      let value := acc ++ joint ++ run
      if next.isEmpty || after.startsWith '#' || (!inFlow && (after.column : Int) < indent) then
        ⟨value, after, broken⟩
      else plainRest inFlow indent value next broken after fuel

/-- A plain scalar; continuation lines are indented by more than the surrounding block. -/
def plainScalar (inFlow : Bool) (indent : Int) (c : Cursor) : Plain :=
  plainRest inFlow (indent + 1) [] [] false c (c.rest.length + 1)

/-! ## Block scalars -/

/-- What happens to the line breaks at the end of a block. -/
inductive Chomping where
  | clip
  | strip
  | keep
  deriving DecidableEq, Repr

/-- The chomping of a sign. -/
def chomping? : Option Char → Option Chomping
  | some '+' => some .keep
  | some '-' => some .strip
  | _ => none

/-- The value of a digit. -/
def digit? : Option Char → Option Nat
  | some c => if isAsciiDigit c then some (c.toNat - '0'.toNat) else none
  | none => none

/-- The chomping and the indentation that the head of a block names, in either order. -/
def blockHead (c : Cursor) : Except Problem (Chomping × Option Nat × Cursor) := do
  let (chomp, depth, after) := match chomping? c.peek with
    | some chomp => match digit? c.step.peek with
      | some n => (chomp, some n, c.skip 2)
      | none => (chomp, none, c.step)
    | none => match digit? c.peek with
      | some n => match chomping? c.step.peek with
        | some chomp => (chomp, some n, c.skip 2)
        | none => (.clip, some n, c.step)
      | none => (.clip, none, c)
  if depth == some 0 then malformed "expected indentation indicator in the range 1-9"
  else if endsPart after.peek then return (chomp, depth, after)
  else malformed "expected chomping or indentation indicators"

/-- Moves past spaces up to a column. -/
def indentTo (c : Cursor) (column : Nat) : Cursor :=
  c.skip (min (column - c.column) (c.rest.takeWhile (· == ' ')).length)

/-- The line breaks in front of the next line of a block. -/
def blockBreaks (c : Cursor) (column : Nat) : Nat → List Char × Cursor
  | 0 => ([], indentTo c column)
  | fuel + 1 =>
    match (indentTo c column).lineBreak with
    | ([], _) => ([], indentTo c column)
    | (first, after) =>
      let (more, last) := blockBreaks after column fuel
      (first ++ more, last)

/-- The line breaks in front of the first line of a block, and the greatest column that spaces
reach on the way. -/
def blockStart (c : Cursor) (deepest : Nat) : Nat → List Char × Nat × Cursor
  | 0 => ([], deepest, c)
  | fuel + 1 =>
    let spaced := c.skipSpaces
    let reached := if spaced.column > c.column then max deepest spaced.column else deepest
    match spaced.lineBreak with
    | ([], _) => ([], reached, spaced)
    | (first, after) =>
      let (more, depth, last) := blockStart after reached fuel
      (first ++ more, depth, last)

/-- The line starts with a space or a tab. -/
def startsBlank (c : Cursor) : Bool := c.startsWith ' ' || c.startsWith '\t'

/-- The lines of a block: their text, the last line break, and the breaks after it. -/
def blockLines (folded : Bool) (column : Nat) (acc breaks : List Char) (c : Cursor) :
    Nat → List Char × List Char × List Char × Cursor
  | 0 => (acc, [], breaks, c)
  | fuel + 1 =>
    let (line, ended) := c.takeWhile (!isBreak ·)
    let (lineBreak, next) := ended.lineBreak
    let (more, after) := blockBreaks next column (next.rest.length + 1)
    let text := acc ++ breaks ++ line
    if after.column == column && !after.rest.isEmpty then
      if folded && lineBreak == ['\n'] && !startsBlank c && !startsBlank after then
        blockLines folded column (if more.isEmpty then text ++ [' '] else text) more after fuel
      else blockLines folded column (text ++ lineBreak) more after fuel
    else (text, lineBreak, more, after)

/-- A literal or folded block, after its mark. -/
def blockScalar (folded : Bool) (indent : Int) (c : Cursor) :
    Except Problem (List Char × Cursor) := do
  let (chomp, depth, head) ← blockHead c
  let body ← head.endLine
  let least := (max (indent + 1) 1).toNat
  let size := body.rest.length + 1
  let (breaks, column, start) := match depth with
    | none =>
      let (breaks, deepest, start) := blockStart body 0 size
      (breaks, max least deepest, start)
    | some n =>
      let column := least + n - 1
      let (breaks, start) := blockBreaks body column size
      (breaks, column, start)
  let (text, lineBreak, more, after) :=
    if start.column == column && !start.rest.isEmpty then
      blockLines folded column [] breaks start size
    else ([], [], breaks, start)
  return (match chomp with
    | .strip => text
    | .clip => text ++ lineBreak
    | .keep => text ++ lineBreak ++ more, after)

end DesignGauge.Yaml
