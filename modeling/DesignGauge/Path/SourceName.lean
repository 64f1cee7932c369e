import DesignGauge.Text.Case
import DesignGauge.Text.Pieces

/-!
# Names of source files

A source file is known by the last component of its path, whatever the directory and the style
of its separators. A drive letter or a network share in front does not belong to the name. The
stem is the name without its extension, in lower case; it is what files are looked up by.
-/

namespace DesignGauge.SourceName

open Text

/-- The backslash, to which both separators are brought. -/
def separator : Char := '\\'

/-- Both separators brought to one. -/
def unify (path : List Char) : List Char := exchange '/' separator path

/-- What follows a network share: the text from the second separator on. -/
def afterShare (path : List Char) : List Char :=
  ((path.dropWhile (· != separator)).drop 1).dropWhile (· != separator)

/-- The marker of a share in its long spelling, after the two leading separators. -/
def longShare : List Char := ['?', separator, 'U', 'N', 'C', separator]

/-- The path without a drive letter or a network share in front. -/
def dropDrive (path : List Char) : List Char :=
  match path with
  | a :: b :: rest =>
    if a == separator && b == separator then
      if (rest.take 6).map Char.toUpper == longShare then afterShare (rest.drop 6)
      else afterShare rest
    else if b == ':' then rest
    else path
  | _ => path

/-- The last component of a path. -/
def lastComponent (path : List Char) : List Char :=
  afterLast separator (dropDrive (unify path))

/-- A name without its extension: the last dot and what follows it, unless only dots stand in
front of it. -/
def dropExtension (name : List Char) : List Char :=
  let front := (dropRightWhile (· != '.') name).dropLast
  if front.any (· != '.') then front else name

/-- The last component without its extension. -/
def baseName (path : String) : String :=
  String.ofList (dropExtension (lastComponent path.toList))

/-- What a file is looked up by. -/
def stem (path : String) : String := lower (baseName path)

end DesignGauge.SourceName
