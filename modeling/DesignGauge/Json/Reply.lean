import DesignGauge.Fault
import DesignGauge.Json.Reader

/-!
# JSON in replies

A reply is a run of octets. Which of the Unicode forms it is in shows in its first octets: a mark,
or the zeros that the first character brings. What cannot be read is refused with words that say
why.
-/

namespace DesignGauge.Json

open Text

/-- The Unicode forms of a reply. -/
inductive Form where
  | utf8
  | utf16 (order : ByteOrder)
  | utf32 (order : ByteOrder)
  deriving DecidableEq, Repr

/-- The form of a reply, and the length of its mark. -/
def formOf : Octets → Form × Nat
  | 0 :: 0 :: 0xFE :: 0xFF :: _ => (.utf32 .big, 4)
  | 0xFF :: 0xFE :: 0 :: 0 :: _ => (.utf32 .little, 4)
  | 0xFE :: 0xFF :: _ => (.utf16 .big, 2)
  | 0xFF :: 0xFE :: _ => (.utf16 .little, 2)
  | 0xEF :: 0xBB :: 0xBF :: _ => (.utf8, 3)
  | a :: b :: c :: d :: _ =>
    (if a == 0 then if b == 0 then .utf32 .big else .utf16 .big
    else if b == 0 then if c == 0 && d == 0 then .utf32 .little else .utf16 .little
    else .utf8, 0)
  | [a, b] => (if a == 0 then .utf16 .big else if b == 0 then .utf16 .little else .utf8, 0)
  | _ => (.utf8, 0)

/-- The word of an order of octets. -/
def orderWord : ByteOrder → String
  | .big => "be"
  | .little => "le"

/-- Says that a reply ends within a character. -/
def cutShort (form : String) (position : Nat) (tail : Octets) : String :=
  undecodable form ((tail.map UInt8.toNat).headD 0) position tail.length "truncated data"

/-- Says why groups of four octets are no characters: the first group that is beyond the last
character, or the octets left at the end. -/
def badGroup (order : ByteOrder) (position : Nat) : Octets → String
  | a :: b :: c :: d :: rest =>
    if order.value [a, b, c, d] < 0x110000 then badGroup order (position + 4) rest
    else undecodable ("utf-32-" ++ orderWord order) a.toNat position 4
      "code point not in range(0x110000)"
  | tail => cutShort ("utf-32-" ++ orderWord order) position tail

/-- The characters of a reply. -/
def replyText (octets : Octets) : Except String (List Char) :=
  let (form, mark) := formOf octets
  let rest := octets.drop mark
  match form with
  | .utf8 => match Utf8.decodeWhole true rest with
    | .ok text => .ok text
    | .error e => .error e.message
  | .utf16 order => match Utf16.decode? order rest with
    | some text => .ok text
    | none =>
      let last := octets.length - 1
      .error (cutShort ("utf-16-" ++ orderWord order) last (octets.drop last))
  | .utf32 order => match Utf32.decode? order rest with
    | some text => .ok text
    | none => .error (badGroup order mark rest)

/-- The value of a reply, with the deepest nesting that there is room for. -/
def readReply (depth : Nat) (octets : Octets) : Except Fault Datum := do
  match replyText octets with
  | .error detail => throw (.badValue detail)
  | .ok text => match read (.reply depth) text with
    | .ok value => return value
    | .error ⟨.tooDeep kind, _⟩ => throw (.replyTooDeep kind)
    | .error refusal => throw (.badValue (refusal.message text))

end DesignGauge.Json
