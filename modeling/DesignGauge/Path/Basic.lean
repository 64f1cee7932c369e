import DesignGauge.Text.Pieces

/-!
# Paths of the file system

A path is a root and the components below it. Empty components and single dots are dropped when a
text is read; two dots are kept.
-/

namespace DesignGauge

open Text

/-- A path: the root marks in front (none for a relative path) and the components. -/
structure Path where
  root : String := ""
  parts : List String := []
  deriving DecidableEq, Repr

namespace Path

/-- The pieces of a text between slashes. -/
def pieces (text : String) : List String :=
  (text.toList.splitOn '/').map String.ofList

/-- Reads a path. Two leading slashes are kept as a root of their own. -/
def ofText (text : String) : Path :=
  let slashes := (text.toList.takeWhile (· == '/')).length
  ⟨if slashes == 0 then "" else if slashes == 2 then "//" else "/",
    (pieces text).filter fun p => !p.isEmpty && p != "."⟩

/-- The text of a path. -/
def text (p : Path) : String :=
  let joined := p.root ++ String.intercalate "/" p.parts
  if joined.isEmpty then "." else joined

/-- The path starts at a root. -/
def isAbsolute (p : Path) : Bool := !p.root.isEmpty

/-- A path seen from another one. -/
def join (p q : Path) : Path :=
  if q.isAbsolute then q else ⟨p.root, p.parts ++ q.parts⟩

/-- A path below another one, given as a text. -/
def below (p : Path) (text : String) : Path := p.join (ofText text)

/-- The last component, empty if there is none. -/
def name (p : Path) : String := p.parts.getLastD ""

/-- The path without its last component. -/
def parent (p : Path) : Path := ⟨p.root, p.parts.dropLast⟩

/-- The place of the last dot of a name, unless it is its first or last character. -/
def splitName (name : List Char) : List Char × List Char :=
  let extension := takeRightWhile (· != '.') name
  let front := name.take (name.length - extension.length - 1)
  if extension.isEmpty || front.isEmpty || extension.length == name.length then (name, [])
  else (front, '.' :: extension)

/-- The extension of the last component with its dot, empty if there is none. -/
def suffix (p : Path) : String := String.ofList (splitName p.name.toList).2

/-- The last component without its extension. -/
def stem (p : Path) : String := String.ofList (splitName p.name.toList).1

/-- The name of a source file: the last component, with both separators. -/
def sourceName (text : String) : Path :=
  ofText (String.ofList (exchange '\\' '/' text.toList))

end Path

end DesignGauge
