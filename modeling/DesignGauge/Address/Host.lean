import DesignGauge.Address.Label
import DesignGauge.Datum.Literal
import DesignGauge.Fault
import DesignGauge.Number.Reading
import DesignGauge.Text.Case
import DesignGauge.Text.Utf8

/-!
# Hosts

The host of an address is a number in four parts, a number in brackets, or a name. A name is written
with basic characters: as it is, with percent numbers, or label by label if it has others.
-/

namespace DesignGauge

open Text

/-- Why a text is no address. -/
inductive AddressFault where
  | tooLong
  | unprintable (c : Char) (position : Nat)
  | fourParts (host : String)
  | bracketed (host : String)
  | name (host : String)
  | port (text : String)
  | noSlash
  | doubleSlash
  | colon
  deriving DecidableEq, Repr

/-- The wording of a fault. -/
def AddressFault.message : AddressFault → String
  | .tooLong => "URL too long"
  | .unprintable c position =>
    "Invalid non-printable ASCII character in URL, " ++ quoted (String.ofList [c])
      ++ " at position " ++ toString position ++ "."
  | .fourParts host => "Invalid IPv4 address: " ++ quoted host
  | .bracketed host => "Invalid IPv6 address: " ++ quoted host
  | .name host => "Invalid IDNA hostname: " ++ quoted host
  | .port text => "Invalid port: " ++ quoted text
  | .noSlash => "For absolute URLs, path must be empty or begin with '/'"
  | .doubleSlash => "Relative URLs cannot have a path starting with '//'"
  | .colon => "Relative URLs cannot have a path starting with ':'"

/-- Refuses an address. -/
def AddressFault.raise {α : Type} (fault : AddressFault) : Except Fault α :=
  .error (.badAddress fault.message)

namespace Address

/-! ## Percent numbers -/

/-- A digit of base 16. -/
def isHexDigit (c : Char) : Bool :=
  isAsciiDigit c || ('a' ≤ c && c ≤ 'f') || ('A' ≤ c && c ≤ 'F')

/-- A code point as percent numbers. -/
def percentNumbers (code : Nat) : Except Fault (List Char) :=
  if isSurrogate code then .error (.loneSurrogate (String.ofList (spell code)))
  else .ok ((Utf8.encodeCode code).flatMap fun b => '%' :: (hexDigits 2 b.toNat).map Char.toUpper)

/-- Writes the code points that may not stand in a part as percent numbers. Percent numbers that are
there already stay as they are. -/
def escapedCodes (mayStand : Char → Bool) : List Nat → Except Fault (List Char)
  | [] => .ok []
  | code :: rest => do
    let c := Char.ofNat code
    let digits := (rest.take 2).map Char.ofNat
    let numbered := c == '%' && digits.length == 2 && digits.all isHexDigit
    let written ← if numbered || mayStand c then pure [c] else percentNumbers code
    return written ++ (← escapedCodes mayStand rest)

/-- Writes the characters that may not stand in a part as percent numbers. -/
def escaped (mayStand : Char → Bool) (text : List Char) : Except Fault (List Char) :=
  escapedCodes mayStand (codes text)

/-- Characters of the basic range that print. -/
def isVisible (c : Char) : Bool := 0x20 ≤ c.toNat && c.toNat < 0x7F

/-- Visible characters without some. -/
def visibleExcept (others : String) (c : Char) : Bool :=
  isVisible c && !others.toList.contains c

end Address

namespace Host

/-! ## Numbers -/

/-- A number from 0 to 255 without needless zeros. -/
def isPart (text : List Char) : Bool :=
  !text.isEmpty && text.length ≤ 3 && text.all isAsciiDigit
    && (text == ['0'] || text.head? != some '0') && Reading.natOf text ≤ 255

/-- A number in four parts. -/
def isFourParts (text : List Char) : Bool :=
  let parts := text.splitOn '.'
  parts.length == 4 && parts.all isPart

/-- Four runs of digits with one character between two of them, which may be a digit too. A run of
digits between two other characters can be divided again at every second of its digits. -/
def looksDivided (text : List Char) : Bool :=
  let runs := text.splitOnP (!isAsciiDigit ·)
  let further := (runs.map fun run => (run.length - 1) / 2).foldr (· + ·) 0
  runs.length ≤ 4 && !runs.any List.isEmpty && 4 ≤ runs.length + further

/-- One to four digits of base 16. -/
def isGroup (text : List Char) : Bool :=
  !text.isEmpty && text.length ≤ 4 && text.all Address.isHexDigit

/-- The groups of a number, with the number in four parts that may end it as two groups. -/
def groups? (text : List Char) : Option (List (List Char)) :=
  let groups := text.splitOn ':'
  let last := groups.getLastD []
  if groups.length < 3 then none
  else if last.contains '.' then
    if isFourParts last then some (groups.dropLast ++ [['0'], ['0']]) else none
  else some groups

/-- Groups at an end of the number, next to the gap. An empty one may only stand alone. -/
def isEnd (groups : List (List Char)) : Bool :=
  groups == [[]] || groups.all isGroup

/-- How many groups stand at an end. -/
def endSize (groups : List (List Char)) : Nat :=
  if groups == [[]] then 0 else groups.length

/-- A number in eight groups, or in fewer with one gap. -/
def isGroups (text : List Char) : Bool :=
  match groups? text with
  | none => false
  | some groups =>
    let inner := (groups.drop 1).dropLast
    if 9 < groups.length then false
    else match inner.findIdx? List.isEmpty with
      | none => groups.length == 8 && groups.all isGroup
      | some gap =>
        let front := groups.take (gap + 1)
        let back := groups.drop (gap + 2)
        isEnd front && isEnd back && endSize front + endSize back < 8

/-- A number in groups, with the name of a zone after a percent sign if there is one. -/
def isZonedGroups (text : List Char) : Bool :=
  let (number, zone) := cut '%' text
  isGroups number && (!text.contains '%' || (!zone.isEmpty && !zone.contains '%'))

/-! ## Names -/

/-- A text between square brackets. -/
def isBracketed (text : List Char) : Bool :=
  2 ≤ text.length && text.head? == some '[' && text.getLast? == some ']'

/-- Characters that stand in a name as they are. -/
def mayStand : Char → Bool :=
  Address.visibleExcept " #/:<>?@[]^"

/-- A host as it is written. -/
def written (host : List Char) : Except Fault (List Char) :=
  let text := String.ofList host
  if host.isEmpty then .ok []
  else if looksDivided host then
    if isFourParts host then .ok host else (AddressFault.fourParts text).raise
  else if isBracketed host then
    let number := (host.drop 1).dropLast
    if isZonedGroups number then .ok number else (AddressFault.bracketed text).raise
  else if host.all (·.toNat < 128) then Address.escaped mayStand (lowerChars host)
  else match Label.basicName? (lowerChars host) with
    | some name => .ok name
    | none => (AddressFault.name text).raise

end Host

end DesignGauge
