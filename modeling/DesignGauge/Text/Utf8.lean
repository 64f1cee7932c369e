import DesignGauge.Text.Surrogate

/-!
# Octets and characters

UTF-8 reading that refuses at the first octet that rules the text out and says where and why,
its writing side, and the two other Unicode encodings. Octets are natural numbers below 256.
-/

namespace DesignGauge.Text

/-- Octets of a file or of a reply. -/
abbrev Octets := List UInt8

/-- Why a sequence of octets is not a character. -/
inductive Utf8Cause where
  | invalidStart
  | invalidContinuation
  | unexpectedEnd
  deriving DecidableEq, Repr

/-- A refused sequence: its place, its length, its first octet and the cause. -/
structure Utf8Error where
  position : Nat
  length : Nat
  octet : Nat
  cause : Utf8Cause
  deriving DecidableEq, Repr

namespace Utf8

/-- What a first octet promises: the number of continuation octets, the range of the first of
them, and the bits it contributes. -/
structure Lead where
  following : Nat
  least : Nat
  greatest : Nat
  bits : Nat
  deriving DecidableEq, Repr

/-- The promise of a first octet, if it can start a character. -/
def lead? (octet : Nat) : Option Lead :=
  if octet < 0x80 then some ⟨0, 0, 0, octet⟩
  else if octet < 0xC2 then none
  else if octet < 0xE0 then some ⟨1, 0x80, 0xBF, octet - 0xC0⟩
  else if octet < 0xF0 then
    some ⟨2, if octet == 0xE0 then 0xA0 else 0x80, if octet == 0xED then 0x9F else 0xBF,
      octet - 0xE0⟩
  else if octet < 0xF5 then
    some ⟨3, if octet == 0xF0 then 0x90 else 0x80, if octet == 0xF4 then 0x8F else 0xBF,
      octet - 0xF0⟩
  else none

/-- How the continuation octets of one character end. -/
inductive Tail where
  | complete (code : Nat)
  | broken (length : Nat)
  | ended

/-- Reads `n` continuation octets, the first of them in the given range. `taken` counts the
octets of the character read so far. -/
def readTail (code taken : Nat) (least greatest : Nat) : Nat → Octets → Tail
  | 0, _ => .complete code
  | _ + 1, [] => .ended
  | n + 1, b :: rest =>
    if least ≤ b.toNat && b.toNat ≤ greatest then
      readTail (code * 64 + (b.toNat - 0x80)) (taken + 1) 0x80 0xBF n rest
    else .broken taken

/-- The half of a surrogate pair at the front of some octets. -/
def surrogate? : Octets → Option Nat
  | 0xED :: b :: c :: _ =>
    if 0xA0 ≤ b && b < 0xC0 && 0x80 ≤ c && c < 0xC0 then
      some (0xD000 + (b.toNat - 0x80) * 64 + (c.toNat - 0x80))
    else none
  | _ => none

/-- Reads characters from octets: `skip` octets belong to the character just read. The reversed
characters, the place and the octets of a character that the end cuts off are returned. Halves of
surrogate pairs are refused unless they are to be kept. -/
def scan (keep : Bool) (acc : List Char) (position skip : Nat) :
    Octets → Except Utf8Error (List Char × Octets)
  | [] => .ok (acc.reverse, [])
  | b :: rest =>
    match skip with
    | skip + 1 => scan keep acc (position + 1) skip rest
    | 0 =>
      match lead? b.toNat, if keep then surrogate? (b :: rest) else none with
      | _, some half => scan keep ((spell half).reverse ++ acc) (position + 1) 2 rest
      | none, none => .error ⟨position, 1, b.toNat, .invalidStart⟩
      | some lead, none =>
        match readTail lead.bits 1 lead.least lead.greatest lead.following rest with
        | .complete code =>
          scan keep ((spell code).reverse ++ acc) (position + 1) lead.following rest
        | .broken length => .error ⟨position, length, b.toNat, .invalidContinuation⟩
        | .ended => .ok (acc.reverse, b :: rest)

/-- The error of a character that the end of the octets cuts off. -/
def cutOff (position : Nat) (pending : Octets) : Utf8Error :=
  ⟨position, pending.length, (pending.head?.map UInt8.toNat).getD 0, .unexpectedEnd⟩

/-- The characters of a whole sequence of octets, with halves of surrogate pairs kept or not. -/
def decodeWhole (keep : Bool) (octets : Octets) : Except Utf8Error (List Char) := do
  let (text, pending) ← scan keep [] 0 0 octets
  if pending.isEmpty then return text
  else throw (cutOff (octets.length - pending.length) pending)

/-- The characters of a whole sequence of octets. -/
def decode (octets : Octets) : Except Utf8Error (List Char) := decodeWhole false octets

/-- The number of octets that a text file is read in at a time. -/
def blockSize : Nat := 8192

/-- The characters of a text file, read block by block. A place is counted from the start of the
block, with the octets left over from the block before in front of it. -/
def decodeBlocks (fuel : Nat) (pending octets : Octets) : Except Utf8Error (List Char) :=
  match fuel with
  | 0 => .ok []
  | fuel + 1 =>
    if octets.isEmpty then
      if pending.isEmpty then .ok [] else .error (cutOff 0 pending)
    else do
      let (text, left) ← scan false [] 0 0 (pending ++ octets.take blockSize)
      return text ++ (← decodeBlocks fuel left (octets.drop blockSize))

/-- Both two-character and lone carriage returns end a line. -/
def unifyLineEnds : List Char → List Char
  | '\r' :: '\n' :: rest => '\n' :: unifyLineEnds rest
  | '\r' :: rest => '\n' :: unifyLineEnds rest
  | c :: rest => c :: unifyLineEnds rest
  | [] => []

/-- The lines of a text file, with line ends unified. -/
def decodeFile (octets : Octets) : Except Utf8Error (List Char) :=
  (decodeBlocks (octets.length + 2) [] octets).map unifyLineEnds

/-- The octets of a code point. -/
def encodeCode (n : Nat) : Octets :=
  if n < 0x80 then [n.toUInt8]
  else if n < 0x800 then [(0xC0 + n / 64).toUInt8, (0x80 + n % 64).toUInt8]
  else if n < 0x10000 then
    [(0xE0 + n / 4096).toUInt8, (0x80 + n / 64 % 64).toUInt8, (0x80 + n % 64).toUInt8]
  else
    [(0xF0 + n / 262144).toUInt8, (0x80 + n / 4096 % 64).toUInt8, (0x80 + n / 64 % 64).toUInt8,
      (0x80 + n % 64).toUInt8]

/-- The octets of a text. -/
def encode (text : List Char) : Octets :=
  (codes text).flatMap encodeCode

end Utf8

/-- The order of the octets of one unit. -/
inductive ByteOrder where
  | big
  | little
  deriving DecidableEq, Repr

/-- The number that some octets spell. -/
def ByteOrder.value (order : ByteOrder) (octets : Octets) : Nat :=
  let digits := match order with
    | .big => octets
    | .little => octets.reverse
  digits.foldl (fun n b => n * 256 + b.toNat) 0

namespace Utf16

/-- The 16-bit units of an even number of octets. -/
def units (order : ByteOrder) : Octets → Option (List Nat)
  | [] => some []
  | a :: b :: rest => (units order rest).map (order.value [a, b] :: ·)
  | [_] => none

/-- Joins surrogate pairs; a lone surrogate is kept. -/
def join : List Nat → List Char
  | [] => []
  | [u] => spell u
  | u :: v :: rest =>
    if 0xD800 ≤ u && u < 0xDC00 && 0xDC00 ≤ v && v < 0xE000 then
      spell (0x10000 + (u - 0xD800) * 0x400 + (v - 0xDC00)) ++ join rest
    else spell u ++ join (v :: rest)

/-- The characters of UTF-16 octets. -/
def decode? (order : ByteOrder) (octets : Octets) : Option (List Char) :=
  (units order octets).map join

end Utf16

namespace Utf32

/-- The characters of UTF-32 octets; a code beyond the last character is refused. -/
def decode? (order : ByteOrder) : Octets → Option (List Char)
  | [] => some []
  | a :: b :: c :: d :: rest =>
    let code := order.value [a, b, c, d]
    if code < 0x110000 then (decode? order rest).map (spell code ++ ·) else none
  | _ => none

end Utf32

end DesignGauge.Text
