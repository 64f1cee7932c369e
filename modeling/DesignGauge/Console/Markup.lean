import DesignGauge.Console.Emoji
import DesignGauge.Console.Handler
import DesignGauge.Console.Style
import DesignGauge.Fault

/-!
# Markup

A text for the console may hold tags in square brackets: an opening tag names a style, a closing
tag starts with a slash and closes the tag of that style that was opened last, or just the last one
if it names none. A backslash in front of a bracket makes it a plain one. The console has no
colours, so all that is left of the markup is its text; but a closing tag that closes nothing is a
fault.
-/

namespace DesignGauge.Console

open Text

/-- A part of a text with markup: plain characters, or a tag with its place. -/
inductive Part where
  | plain (text : List Char)
  | tag (position : Nat) (text : List Char)
  deriving DecidableEq, Repr

/-- A tag starts with a small letter or one of three signs. -/
def opensTag (c : Char) : Bool := ('a' ≤ c && c ≤ 'z') || c == '#' || c == '/' || c == '@'

/-- The text of a tag up to its closing bracket, if no other bracket is opened before. -/
def tagText? (text : List Char) : Option (List Char) :=
  let inner := text.takeWhile fun c => c != '[' && c != ']'
  match text.drop inner.length with
  | ']' :: _ => some inner
  | _ => none

/-- The backslashes at the front of a text and the tag after them. -/
def tagAt? (text : List Char) : Option (Nat × List Char) :=
  let slashes := (text.takeWhile (· == '\\')).length
  match text.drop slashes with
  | '[' :: c :: rest =>
    if opensTag c then (tagText? (c :: rest)).map (slashes, ·) else none
  | _ => none

/-- The parts that a tag with backslashes in front of it gives: half of the backslashes, and the
tag, which is plain if a backslash is left over. -/
def escapedTag (position slashes : Nat) (tag : List Char) : List Part :=
  [.plain (List.replicate (slashes / 2) '\\'),
    if slashes % 2 == 1 then .plain ('[' :: tag ++ [']']) else .tag (position + slashes) tag]

/-- The parts of a text; `pending` are the plain characters so far, last first. -/
def partsFrom (position : Nat) (pending : List Char) : Nat → List Char → List Part
  | _, [] => [.plain pending.reverse]
  | skip + 1, _ :: rest => partsFrom (position + 1) pending skip rest
  | 0, c :: rest => match tagAt? (c :: rest) with
    | none => partsFrom (position + 1) (c :: pending) 0 rest
    | some (slashes, tag) =>
      .plain pending.reverse :: escapedTag position slashes tag
        ++ partsFrom (position + 1) [] (slashes + tag.length + 1) rest

/-- The parts of a text. -/
def parts (text : List Char) : List Part := partsFrom 0 [] 0 text

/-- Plain characters with `\[` read as a bracket. -/
def unescape : List Char → List Char
  | '\\' :: '[' :: rest => '[' :: unescape rest
  | c :: rest => c :: unescape rest
  | [] => []

/-- The control characters that the console leaves out: bell, backspace, line tabulation, form feed
and return. -/
def isDropped (c : Char) : Bool :=
  c.toNat == 7 || c.toNat == 8 || c.toNat == 11 || c.toNat == 12 || c.toNat == 13

/-- A tag that is open: the canonical name of its style, and what follows an equals sign. -/
structure OpenTag where
  name : String
  parameters : String := ""
  deriving DecidableEq, Repr

/-- Takes the first open tag of a name away. -/
def takeTag? (name : String) : List OpenTag → Option (OpenTag × List OpenTag)
  | [] => none
  | tag :: rest =>
    if tag.name == name then some (tag, rest)
    else (takeTag? name rest).map fun (found, others) => (found, tag :: others)

/-- Closes a tag: the arguments of a handler must be readable. -/
def OpenTag.close (tag : OpenTag) : Except Fault Unit :=
  if tag.name.startsWith "@" && !tag.parameters.isEmpty then Handler.verify tag.parameters
  else .ok ()

/-- The tags that are open after a tag, the one opened last first. -/
def afterTag (position : Nat) (tag : List Char) (tags : List OpenTag) :
    Except Fault (List OpenTag) := do
  let (name, parameters) := cut '=' tag
  match name with
  | '/' :: closed =>
    let closed := strip closed
    let found ← if closed.isEmpty then match tags with
        | [] => throw (.nothingToClose position)
        | last :: rest => pure (last, rest)
      else match takeTag? (← styleName (String.ofList closed)) tags with
        | some found => pure found
        | none => throw (.strayTag ("[" ++ String.ofList tag ++ "]") position)
    found.1.close
    return found.2
  | _ => return ⟨← styleName (String.ofList name), String.ofList parameters⟩ :: tags

/-- The text of parts, given the open tags. -/
def partsText (tags : List OpenTag) : List Part → Except Fault (List Char)
  | [] => .ok []
  | .plain text :: rest => do
    return depicted (unescape text) ++ (← partsText tags rest)
  | .tag position tag :: rest => do partsText (← afterTag position tag tags) rest

/-- A text without the characters that the console leaves out. -/
def sanitized (text : List Char) : List Char := text.filter (!isDropped ·)

/-- The plain text of a text with markup. -/
def plainText (text : String) : Except Fault (List Char) := do
  return sanitized (← partsText [] (parts text.toList))

end DesignGauge.Console
