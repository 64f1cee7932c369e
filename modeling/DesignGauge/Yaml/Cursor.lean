import DesignGauge.Fault

/-!
# A place in a YAML text

The text that is left, with the index, line and column of its first character.
-/

namespace DesignGauge.Yaml

/-- Why a text denotes no value: it is not well formed, or one of its parts stands for nothing. -/
inductive Problem where
  | malformed (detail : String)
  | fault (fault : Fault)

/-- Refuses a text as malformed. -/
def malformed {α : Type} (detail : String) : Except Problem α := .error (.malformed detail)

/-- The byte order mark. -/
def byteOrderMark : Char := Char.ofNat 0xFEFF

/-- A character that ends a line. -/
def isBreak (c : Char) : Bool :=
  c == '\n' || c == '\r' || c.toNat == 0x85 || c.toNat == 0x2028 || c.toNat == 0x2029

/-- The end of the text or of a line. -/
def endsLine : Option Char → Bool
  | none => true
  | some c => isBreak c

/-- The end of the text or of a line, or a space. -/
def endsPart : Option Char → Bool
  | some ' ' => true
  | c => endsLine c

/-- The end of the text or of a line, a space or a tab. -/
def endsWord : Option Char → Bool
  | some '\t' => true
  | c => endsPart c

/-- The text that is left and the place of its first character. -/
structure Cursor where
  rest : List Char
  index : Nat := 0
  line : Nat := 0
  column : Nat := 0
  deriving DecidableEq, Repr

namespace Cursor

/-- The character some places ahead. -/
def peek (c : Cursor) (ahead : Nat := 0) : Option Char := c.rest[ahead]?

/-- The text starts with a character. -/
def startsWith (c : Cursor) (char : Char) : Bool := c.peek == some char

/-- Moves past one character. -/
def step (c : Cursor) : Cursor :=
  match c.rest with
  | [] => c
  | char :: rest =>
    if isBreak char then ⟨rest, c.index + 1, c.line + 1, 0⟩
    else if char == byteOrderMark then ⟨rest, c.index + 1, c.line, c.column⟩
    else ⟨rest, c.index + 1, c.line, c.column + 1⟩

/-- Moves past some characters. -/
def skip (c : Cursor) : Nat → Cursor
  | 0 => c
  | n + 1 => c.step.skip n

/-- The longest start in a class of characters, and the place after it. -/
def takeWhile (c : Cursor) (p : Char → Bool) : List Char × Cursor :=
  let taken := c.rest.takeWhile p
  (taken, c.skip taken.length)

/-- Moves past the longest start in a class of characters. -/
def skipWhile (c : Cursor) (p : Char → Bool) : Cursor := (c.takeWhile p).2

/-- Moves past spaces. -/
def skipSpaces (c : Cursor) : Cursor := c.skipWhile (· == ' ')

/-- Moves to the end of the line. -/
def skipLine (c : Cursor) : Cursor := c.skipWhile (!isBreak ·)

/-- A line break as the value of a scalar has it, and the place after it; nothing if there is
none here. -/
def lineBreak (c : Cursor) : List Char × Cursor :=
  match c.rest with
  | char :: _ =>
    if isBreak char then
      (if char.toNat == 0x2028 || char.toNat == 0x2029 then [char] else ['\n'], c.step)
    else ([], c)
  | [] => ([], c)

/-- Three equal marks that stand alone. -/
def hasMark (c : Cursor) (mark : Char) : Bool :=
  c.rest.take 3 == [mark, mark, mark] && endsWord (c.peek 3)

/-- The line starts with the mark of a document's start or end. -/
def atSeparator (c : Cursor) : Bool := c.hasMark '-' || c.hasMark '.'

/-- Moves past spaces and a comment, which the end of the line must follow. -/
def endLine (c : Cursor) : Except Problem Cursor :=
  let spaced := c.skipSpaces
  let bare := if spaced.startsWith '#' then spaced.skipLine else spaced
  if endsLine bare.peek then .ok bare.lineBreak.2
  else malformed "expected a comment or a line break"

end Cursor

end DesignGauge.Yaml
