import DesignGauge.Yaml.Scalar

/-!
# Tokens of YAML

A text as a list of tokens. Blocks are opened and closed by indentation. The key of a mapping is
recognised only when the colon after it is reached; its token is then put in front of the tokens
that spell it. A place where a key may start is given up at the end of its line, or after 1024
characters.
-/

namespace DesignGauge.Yaml

open Text

/-- A line in front of a document that says how to read it. -/
inductive Directive where
  | version (major minor : Nat)
  | handle (name expansion : String)
  | other
  deriving DecidableEq, Repr

/-- The tokens. -/
inductive Token where
  | directive (d : Directive)
  | documentStart
  | documentEnd
  | blockSequenceStart
  | blockMappingStart
  | blockEnd
  | flowSequenceStart
  | flowSequenceEnd
  | flowMappingStart
  | flowMappingEnd
  | blockEntry
  | flowEntry
  | key
  | value
  | alias (name : String)
  | anchor (name : String)
  /-- A tag: the handle in front, none for a verbatim one, and the rest. -/
  | tag (handle : Option String) (rest : String)
  | scalar (text : String) (plain : Bool)
  deriving DecidableEq, Repr

/-! ## Names -/

/-- A character of a directive, anchor or handle name. -/
def isNameChar (c : Char) : Bool := isAsciiDigit c || isAsciiLetter c || c == '-' || c == '_'

/-- A character of a tag that is not escaped. -/
def isTagChar (c : Char) : Bool :=
  isAsciiDigit c || isAsciiLetter c || "-;/?:@&=+$,_.!~*()[]".toList.contains c || c == apostrophe

/-- The escaped octets at the front of a tag. -/
def tagEscapes (c : Cursor) : Nat → Except Problem (Octets × Cursor)
  | 0 => .ok ([], c)
  | fuel + 1 =>
    if c.startsWith '%' then
      match hexNumber? (c.step.rest.take 2) with
      | some n =>
        if c.step.rest.length < 2 then malformed "expected URI escape sequence"
        else do
          let (more, after) ← tagEscapes (c.skip 3) fuel
          return (n.toUInt8 :: more, after)
      | none => malformed "expected URI escape sequence"
    else .ok ([], c)

/-- The characters of a tag, escapes resolved. -/
def tagText (acc : List Char) (c : Cursor) : Nat → Except Problem (List Char × Cursor)
  | 0 => .ok (acc, c)
  | fuel + 1 =>
    let (run, after) := c.takeWhile isTagChar
    if after.startsWith '%' then do
      let (octets, next) ← tagEscapes after (after.rest.length + 1)
      match Utf8.decode octets with
      | .ok chars => tagText (acc ++ run ++ chars) next fuel
      | .error e => malformed e.message
    else .ok (acc ++ run, after)

/-- A tag, or the part of it after its handle; it must not be empty. -/
def tagRest (c : Cursor) : Except Problem (String × Cursor) := do
  if c.startsWith '%' || (match c.peek with | some x => isTagChar x | none => false) then
    let (text, after) ← tagText [] c (c.rest.length + 1)
    return (String.ofList text, after)
  else malformed "expected URI"

/-- A handle: an exclamation mark, or a name between two of them. -/
def tagHandle (c : Cursor) : Except Problem (String × Cursor) :=
  if !c.startsWith '!' then malformed "expected '!'"
  else if c.peek 1 == some ' ' then .ok ("!", c.step)
  else
    let (name, after) := c.step.takeWhile isNameChar
    if after.startsWith '!' then .ok ("!" ++ String.ofList name ++ "!", after.step)
    else malformed "expected '!'"

/-- A tag token. -/
def tagToken (c : Cursor) : Except Problem (Token × Cursor) := do
  let (token, after) ←
    if c.peek 1 == some '<' then do
      let (text, after) ← tagRest (c.skip 2)
      if after.startsWith '>' then pure (Token.tag none text, after.step)
      else malformed "expected '>'"
    else if endsWord (c.peek 1) then pure (Token.tag none "!", c.step)
    else do
      let word := c.step.rest.takeWhile fun x => !endsPart (some x)
      let (handle, next) ← if word.contains '!' then tagHandle c else pure ("!", c.step)
      let (text, after) ← tagRest next
      pure (Token.tag (some handle) text, after)
  if endsPart after.peek then return (token, after) else malformed "expected ' '"

/-- The name of an anchor or of an alias, after its mark. -/
def anchorName (c : Cursor) : Except Problem (String × Cursor) :=
  let (name, after) := c.takeWhile isNameChar
  if name.isEmpty then malformed "expected alphabetic or numeric character"
  else if endsWord after.peek || (match after.peek with
      | some x => "?:,]\x7d%@".toList.contains x || x.toNat == 0x60
      | none => false) then
    .ok (String.ofList name, after)
  else malformed "expected alphabetic or numeric character"

/-! ## Directives -/

/-- A number of a version. -/
def versionNumber (c : Cursor) : Except Problem (Nat × Cursor) :=
  let (digits, after) := c.takeWhile isAsciiDigit
  if digits.isEmpty then malformed "expected a digit" else .ok (Reading.natOf digits, after)

/-- The two numbers of a version. -/
def versionDirective (c : Cursor) : Except Problem (Directive × Cursor) := do
  let (major, dot) ← versionNumber c.skipSpaces
  if !dot.startsWith '.' then malformed "expected a digit or '.'"
  else
    let (minor, after) ← versionNumber dot.step
    if endsPart after.peek then return (.version major minor, after)
    else malformed "expected a digit or ' '"

/-- A handle and what it stands for. -/
def handleDirective (c : Cursor) : Except Problem (Directive × Cursor) := do
  let (name, spaced) ← tagHandle c.skipSpaces
  if !spaced.startsWith ' ' then malformed "expected ' '"
  else
    let (expansion, after) ← tagRest spaced.skipSpaces
    if endsPart after.peek then return (.handle name expansion, after)
    else malformed "expected ' '"

/-- A directive, after its mark. -/
def directiveToken (c : Cursor) : Except Problem (Token × Cursor) := do
  let (name, after) := c.takeWhile isNameChar
  if name.isEmpty || !endsPart after.peek then
    malformed "expected alphabetic or numeric character"
  else
    let (directive, last) ←
      if name == "YAML".toList then versionDirective after
      else if name == "TAG".toList then handleDirective after
      else pure (.other, after.skipLine)
    return (.directive directive, ← last.endLine)

/-! ## The scan -/

/-- A place where a key may have started: the number of tokens before it, and whether the block
can only go on with a key. -/
structure PossibleKey where
  before : Nat
  isRequired : Bool
  index : Nat
  line : Nat
  column : Nat
  deriving DecidableEq, Repr

/-- The state of a scan; tokens are in reverse order. -/
structure Scan where
  cursor : Cursor
  tokens : List Token := []
  /-- The number of flow collections that are open. -/
  flow : Nat := 0
  /-- The column of the innermost block, -1 outside of all blocks. -/
  indent : Int := -1
  /-- The columns of the blocks around it. -/
  outer : List Int := []
  keyAllowed : Bool := true
  /-- The possible keys by the number of flow collections around them. -/
  keys : List (Nat × PossibleKey) := []

namespace Scan

/-- We are inside a flow collection. -/
def inFlow (s : Scan) : Bool := s.flow != 0

/-- Adds a token. -/
def emit (s : Scan) (t : Token) : Scan := { s with tokens := t :: s.tokens }

/-- Adds a token for some characters. -/
def emitOver (s : Scan) (t : Token) (n : Nat) : Scan :=
  { s with tokens := t :: s.tokens, cursor := s.cursor.skip n }

/-- Puts a token behind the first tokens. -/
def insert (s : Scan) (before : Nat) (t : Token) : Scan :=
  let later := s.tokens.length - before
  { s with tokens := s.tokens.take later ++ t :: s.tokens.drop later }

/-- Gives up possible keys on other lines, or too far behind. -/
def dropStale (s : Scan) : Except Problem Scan :=
  let isStale (k : PossibleKey) : Bool :=
    k.line != s.cursor.line || s.cursor.index - k.index > 1024
  if s.keys.any fun k => isStale k.2 && k.2.isRequired then malformed "could not find expected ':'"
  else .ok { s with keys := s.keys.filter fun k => !isStale k.2 }

/-- Gives up the possible key of the innermost collection. -/
def dropKey (s : Scan) : Except Problem Scan :=
  match s.keys.lookup s.flow with
  | some k =>
    if k.isRequired then malformed "could not find expected ':'"
    else .ok { s with keys := s.keys.filter (·.1 != s.flow) }
  | none => .ok s

/-- Notes that a key may start here. -/
def saveKey (s : Scan) : Except Problem Scan := do
  if s.keyAllowed then
    let isRequired := !s.inFlow && s.indent == s.cursor.column
    let t ← s.dropKey
    return { t with keys := (s.flow,
      ⟨s.tokens.length, isRequired, s.cursor.index, s.cursor.line, s.cursor.column⟩) :: t.keys }
  else return s

/-- Closes the blocks to the right of a column. -/
def unwind (s : Scan) (column : Int) : List Int → Scan
  | [] => s
  | outer :: rest =>
    if !s.inFlow && s.indent > column then
      unwind { s.emit .blockEnd with indent := outer, outer := rest } column rest
    else s

/-- Closes the blocks to the right of a column. -/
def unwindTo (s : Scan) (column : Int) : Scan := s.unwind column s.outer

/-- Opens a block at a column to the right of the innermost one. -/
def opens (s : Scan) (column : Nat) : Bool := s.indent < column

/-- Makes a column that of the innermost block. -/
def indentAt (s : Scan) (column : Nat) : Scan :=
  { s with indent := column, outer := s.indent :: s.outer }

/-- Opens a block here with a token, if it is to the right of the innermost one. -/
def openBlock (s : Scan) (t : Token) : Scan :=
  if s.opens s.cursor.column then (s.indentAt s.cursor.column).emit t else s

/-- Moves to the next token: past spaces, comments and line breaks. Outside of flow collections a
new line lets a key start. -/
def skipBlank (s : Scan) : Nat → Scan
  | 0 => s
  | fuel + 1 =>
    let spaced := s.cursor.skipSpaces
    let bare := if spaced.startsWith '#' then spaced.skipLine else spaced
    match bare.lineBreak with
    | ([], _) => { s with cursor := bare }
    | (_, after) =>
      skipBlank { s with cursor := after, keyAllowed := s.keyAllowed || !s.inFlow } fuel

/-- Ends all blocks before a directive or the mark of a document. -/
def leaveBlocks (s : Scan) : Except Problem Scan := do
  let t ← (s.unwindTo (-1)).dropKey
  return { t with keyAllowed := false }

/-- Opens a flow collection. -/
def openFlow (s : Scan) (t : Token) : Except Problem Scan := do
  let s ← s.saveKey
  return { s.emitOver t 1 with flow := s.flow + 1, keyAllowed := true }

/-- Closes a flow collection. -/
def closeFlow (s : Scan) (t : Token) : Except Problem Scan := do
  let s ← s.dropKey
  if s.flow == 0 then malformed "no flow collection is open"
  else return { s.emitOver t 1 with flow := s.flow - 1, keyAllowed := false }

/-- The mark between the items of a flow collection. -/
def flowEntry (s : Scan) : Except Problem Scan := do
  let s ← s.dropKey
  return { s.emitOver .flowEntry 1 with keyAllowed := true }

/-- The mark of an item of a block sequence. -/
def blockEntry (s : Scan) : Except Problem Scan := do
  if !s.inFlow && !s.keyAllowed then malformed "sequence entries are not allowed here"
  else
    let s ← (if s.inFlow then s else s.openBlock .blockSequenceStart).dropKey
    return { s.emitOver .blockEntry 1 with keyAllowed := true }

/-- The mark of a key. -/
def keyMark (s : Scan) : Except Problem Scan := do
  if !s.inFlow && !s.keyAllowed then malformed "mapping keys are not allowed here"
  else
    let s ← (if s.inFlow then s else s.openBlock .blockMappingStart).dropKey
    return { s.emitOver .key 1 with keyAllowed := !s.inFlow }

/-- The colon after a key that had no mark: the key's token goes in front of it, and so does the
start of its block, if it opens one. -/
def valueOfKey (s : Scan) (k : PossibleKey) : Scan :=
  let s := { s with keys := s.keys.filter (·.1 != s.flow), keyAllowed := false }
  let s := s.insert k.before .key
  let s := if !s.inFlow && s.opens k.column
    then (s.indentAt k.column).insert k.before .blockMappingStart else s
  s.emitOver .value 1

/-- The colon between a key and its value. -/
def valueMark (s : Scan) : Except Problem Scan := do
  match s.keys.lookup s.flow with
  | some k => return s.valueOfKey k
  | none =>
    if !s.inFlow && !s.keyAllowed then malformed "mapping values are not allowed here"
    else
      let s ← (if s.inFlow then s else s.openBlock .blockMappingStart).dropKey
      return { s.emitOver .value 1 with keyAllowed := !s.inFlow }

/-- A token that may be a key or start one. -/
def node (s : Scan) (read : Cursor → Except Problem (Token × Cursor)) : Except Problem Scan := do
  let s ← s.saveKey
  let (token, cursor) ← read s.cursor
  return { s.emit token with cursor, keyAllowed := false }

/-- A plain scalar. -/
def plain (s : Scan) : Except Problem Scan := do
  let s ← s.saveKey
  let p := plainScalar s.inFlow s.indent s.cursor
  return { s.emit (.scalar (String.ofList p.value) true) with
    cursor := p.cursor, keyAllowed := p.keyAllowed }

/-- A scalar in quotes. -/
def quoted (s : Scan) (quote : Char) : Except Problem Scan :=
  s.node fun c => do
    let (text, after) ← quotedScalar quote c
    return (.scalar (String.ofList text) false, after)

/-- A literal or folded block. -/
def block (s : Scan) (folded : Bool) : Except Problem Scan := do
  let s ← s.dropKey
  let (text, cursor) ← blockScalar folded s.indent s.cursor.step
  return { s.emit (.scalar (String.ofList text) false) with cursor, keyAllowed := true }

/-- A character that cannot start a plain scalar. -/
def isMark (c : Char) : Bool :=
  endsWord (some c) || "-?:,[]\x7b\x7d#&*!|>\"%@".toList.contains c || c == apostrophe
    || c.toNat == 0x60

/-- A plain scalar starts here. -/
def startsPlain (s : Scan) (c : Char) : Bool :=
  !isMark c || (!endsWord (s.cursor.peek 1) && (c == '-' || (!s.inFlow && (c == '?' || c == ':'))))

/-- Scans the token that a character starts. -/
def tokenAt (s : Scan) (c : Char) : Except Problem Scan :=
  let alone := endsWord (s.cursor.peek 1)
  let atStart := s.cursor.column == 0
  if c == '%' && atStart then do
    let s ← s.leaveBlocks
    let (token, cursor) ← directiveToken s.cursor.step
    return { s.emit token with cursor }
  else if atStart && s.cursor.hasMark '-' then do
    return (← s.leaveBlocks).emitOver .documentStart 3
  else if atStart && s.cursor.hasMark '.' then do
    return (← s.leaveBlocks).emitOver .documentEnd 3
  else if c == '[' then s.openFlow .flowSequenceStart
  else if c == '\x7b' then s.openFlow .flowMappingStart
  else if c == ']' then s.closeFlow .flowSequenceEnd
  else if c == '\x7d' then s.closeFlow .flowMappingEnd
  else if c == ',' then s.flowEntry
  else if c == '-' && alone then s.blockEntry
  else if c == '?' && (s.inFlow || alone) then s.keyMark
  else if c == ':' && (s.inFlow || alone) then s.valueMark
  else if c == '*' then s.node fun cursor => do
    let (name, after) ← anchorName cursor.step
    return (.alias name, after)
  else if c == '&' then s.node fun cursor => do
    let (name, after) ← anchorName cursor.step
    return (.anchor name, after)
  else if c == '!' then s.node tagToken
  else if c == '|' && !s.inFlow then s.block false
  else if c == '>' && !s.inFlow then s.block true
  else if c == '"' || c == apostrophe then s.quoted c
  else if s.startsPlain c then s.plain
  else malformed "found character that cannot start any token"

/-- Scans to the end. Every token but the ends of blocks takes a character. -/
def run (s : Scan) : Nat → Except Problem (List Token)
  | 0 => malformed "the text does not end"
  | fuel + 1 => do
    let s ← (s.skipBlank (s.cursor.rest.length + 1)).dropStale
    let s := s.unwindTo s.cursor.column
    match s.cursor.peek with
    | none => return (← s.leaveBlocks).tokens.reverse
    | some c => (← s.tokenAt c).run fuel

end Scan

/-- A character that a text may hold. -/
def isAllowed (c : Char) : Bool :=
  let n := c.toNat
  n == 9 || n == 10 || n == 13 || (0x20 ≤ n && n ≤ 0x7E) || n == 0x85 || (0xA0 ≤ n && n ≤ 0xFFFD)
    || 0x10000 ≤ n

/-- The tokens of a text. -/
def tokens (text : List Char) : Except Problem (List Token) :=
  if !text.all isAllowed then malformed "special characters are not allowed"
  else
    let cursor : Cursor := { rest := text }
    let start := if cursor.startsWith byteOrderMark then cursor.step else cursor
    Scan.run { cursor := start } (text.length + 2)

end DesignGauge.Yaml
