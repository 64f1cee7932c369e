import DesignGauge.Address.Host

/-!
# Addresses

An address as the parts of a text: how it is reached, who asks, the host and its port, the path, a
query and a fragment. `Address.parse` reads one and writes each part in the characters that may
stand in it; `Address.target` is where a request for it goes.
-/

namespace DesignGauge

open Text

/-- An address, its parts as they are written. -/
structure Address where
  scheme : String := ""
  userinfo : String := ""
  host : String := ""
  port : Option Int := none
  path : String
  query : Option String := none
  fragment : Option String := none
  deriving DecidableEq, Repr

namespace Address

/-! ## Parts of a text -/

/-- A text in parts. A part that is missing is `none` or empty. -/
structure Parts where
  scheme : List Char
  authority : List Char
  path : List Char
  query : Option (List Char)
  fragment : Option (List Char)

/-- Characters of a scheme after its first. -/
def isSchemeChar (c : Char) : Bool :=
  isAsciiLetter c || isAsciiDigit c || c == '+' || c == '.' || c == '-'

/-- The scheme in front of a colon, and the text after it. -/
def splitScheme (text : List Char) : List Char × List Char :=
  let scheme := text.takeWhile isSchemeChar
  match text.drop scheme.length with
  | ':' :: rest => if scheme.head?.all isAsciiLetter then (scheme, rest) else ([], text)
  | _ => ([], text)

/-- The text up to a mark, and the text after the mark if there is one. -/
def splitMark (mark : Char) (text : List Char) : List Char × Option (List Char) :=
  (text.takeWhile (· != mark), if text.contains mark then some (cut mark text).2 else none)

/-- The authority after two slashes, and the text after it. -/
def splitAuthority : List Char → List Char × List Char
  | '/' :: '/' :: rest => rest.span fun c => c != '/' && c != '?' && c != '#'
  | text => ([], text)

/-- Cuts a text into parts. -/
def Parts.of (text : List Char) : Parts :=
  let (scheme, rest) := splitScheme text
  let (authority, rest) := splitAuthority rest
  let (rest, fragment) := splitMark '#' rest
  let (path, query) := splitMark '?' rest
  { scheme, authority, path, query, fragment }

/-- Who asks, the host and the port of an authority. -/
def splitHost (authority : List Char) : List Char × List Char × List Char :=
  let place := afterLast '@' authority
  let userinfo := authority.take (authority.length - place.length - 1)
  let closed := place.reverse.dropWhile (· != ']') |>.reverse
  let host :=
    if place.head? == some '[' && place.contains ']' then closed else place.takeWhile (· != ':')
  let port := place.drop host.length
  (userinfo, host, if port.head? == some ':' then port.drop 1 else port)

/-! ## Written parts -/

/-- The ports that are not written. -/
def usualPort? (scheme : List Char) : Option Int :=
  match String.ofList scheme with
  | "ftp" => some 21
  | "http" | "ws" => some 80
  | "https" | "wss" => some 443
  | _ => none

/-- The port that is written. -/
def readPort (scheme port : List Char) : Except Fault (Option Int) :=
  let text := String.ofList port
  if port.isEmpty then .ok none
  else match Reading.wholeOfText? text with
    | none => (AddressFault.port text).raise
    | some number => .ok (if usualPort? scheme == some number then none else some number)

/-- The parts of a path without those that stay where they are or go up. -/
def withoutSteps (kept : List (List Char)) : List (List Char) → List (List Char)
  | [] => kept
  | part :: rest =>
    if part == ['.'] then withoutSteps kept rest
    else if part == ['.', '.'] then withoutSteps (if kept == [[]] then kept else kept.dropLast) rest
    else withoutSteps (kept ++ [part]) rest

/-- A path with its steps taken. -/
def straight (path : List Char) : List Char :=
  let parts := path.splitOn '/'
  if parts.contains ['.'] || parts.contains ['.', '.'] then
    ['/'].intercalate (withoutSteps [] parts)
  else path

/-- The path of an address that says how it is reached or where has to start with a slash, if there
is one; the path of any other must not look like something else. -/
def checkPath (schemed placed : Bool) (path : List Char) : Except Fault Unit :=
  if placed && path.head?.any (· != '/') then AddressFault.noSlash.raise
  else if schemed || placed then .ok ()
  else if ['/', '/'].isPrefixOf path then AddressFault.doubleSlash.raise
  else if path.head? == some ':' then AddressFault.colon.raise
  else .ok ()

/-- The longest text that is read. -/
def lengthLimit : Nat := 65536

/-- The first character of the basic range that does not print, and its position. -/
def unprintable? (text : List Char) : Option (Char × Nat) :=
  let found := (codes text).zipIdx.find? fun (code, _) => code < 128 && !isVisible (Char.ofNat code)
  found.map fun (code, position) => (Char.ofNat code, position)

/-- Writes a part, if there is one. -/
def escapedPart (mayStand : Char → Bool) :
    Option (List Char) → Except Fault (Option String)
  | none => .ok none
  | some part => do return some (String.ofList (← escaped mayStand part))

/-- Reads an address. -/
def parse (text : String) : Except Fault Address := do
  let chars := text.toList
  if lengthLimit < (codes chars).length then AddressFault.tooLong.raise
  match unprintable? chars with
  | some (c, position) => (AddressFault.unprintable c position).raise
  | none => pure ()
  let parts := Parts.of chars
  let (userinfo, host, port) := splitHost parts.authority
  let userinfo ← escaped (visibleExcept " \"#<>?\x60\x7b\x7d/;=@[\\]^|") userinfo
  let host ← Host.written host
  let port ← readPort parts.scheme port
  let schemed := !parts.scheme.isEmpty
  let placed := !userinfo.isEmpty || !host.isEmpty || port.isSome
  checkPath schemed placed parts.path
  let path := if schemed || placed then straight parts.path else parts.path
  let path ← escaped (visibleExcept " \"#<>?\x60\x7b\x7d") path
  let query ← escapedPart (visibleExcept " \"#<>") parts.query
  let fragment ← escapedPart (visibleExcept " \"<>\x60") parts.fragment
  return {
    scheme := lower (String.ofList parts.scheme), userinfo := String.ofList userinfo
    host := String.ofList host, port, path := String.ofList path, query, fragment }

/-! ## The text of an address -/

/-- A part with a mark in front, if there is one. -/
def marked (mark : String) : Option String → String
  | none => ""
  | some part => mark ++ part

/-- Who asks, the host and the port as one text. -/
def authority (a : Address) : String :=
  (if a.userinfo == "" then "" else a.userinfo ++ "@")
    ++ (if a.host.toList.contains ':' then "[" ++ a.host ++ "]" else a.host)
    ++ marked ":" (a.port.map toString)

/-- The text of an address. -/
def text (a : Address) : String :=
  (if a.scheme == "" then "" else a.scheme ++ ":")
    ++ (if a.authority == "" then "" else "//" ++ a.authority)
    ++ a.path ++ marked "?" a.query ++ marked "#" a.fragment

/-- An address that says how it is reached and where. -/
def isAbsolute (a : Address) : Bool := a.scheme != "" && a.host != ""

/-- Where a request goes: to an absolute address as it is, and else to its path and query from the
root on, at nobody's host. -/
def target (a : Address) : Address :=
  if a.isAbsolute then a
  else { path := String.ofList ('/' :: a.path.toList.dropWhile (· == '/')), query := a.query }

end Address

end DesignGauge
