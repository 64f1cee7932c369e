import DesignGauge.Component.Basic
import DesignGauge.Path.SourceName

/-!
# The component store

The store holds the components of each analysed file under the path it was put with, in the order
of the puts. A second index leads from the stem of a path to that path, so that a file is found
under any spelling of its directory. Putting a file replaces the entry with the same stem and
moves it to the end.
-/

namespace DesignGauge

/-- Components by path, and paths by stem. -/
structure Store where
  entries : List (String × FileComponents) := []
  stems : List (String × String) := []
  deriving DecidableEq, Repr

namespace Store

/-- The store without entries. -/
def empty : Store := {}

/-- The number of entries. -/
def size (s : Store) : Nat := s.entries.length

/-- The paths, in the order of the puts. -/
def fileNames (s : Store) : List String := s.entries.map Prod.fst

/-- The path that a stem leads to. -/
def pathOf? (s : Store) (stem : String) : Option String := s.stems.lookup stem

/-- The store has an entry for a file. -/
def contains (s : Store) (file : String) : Bool := (s.pathOf? (SourceName.stem file)).isSome

/-- The components of a file, found by its stem. -/
def find? (s : Store) (file : String) : Option FileComponents := do
  let path ← s.pathOf? (SourceName.stem file)
  s.entries.lookup path

/-- Drops the entry of a path. -/
def dropPath (path : String) (entries : List (String × FileComponents)) :
    List (String × FileComponents) :=
  entries.filter (·.1 != path)

/-- Drops a stem from the index. -/
def dropStem (stem : String) (stems : List (String × String)) : List (String × String) :=
  stems.filter (·.1 != stem)

/-- Stores the components of a file in place of any entry with the same stem. -/
def put (s : Store) (path : String) (components : FileComponents) : Store :=
  let stem := SourceName.stem path
  let kept := match s.pathOf? stem with
    | some previous => dropPath previous s.entries
    | none => s.entries
  ⟨kept ++ [(path, components)], dropStem stem s.stems ++ [(stem, path)]⟩

/-- Drops the entry of a file; the flag says whether there was one. -/
def remove (s : Store) (file : String) : Store × Bool :=
  let stem := SourceName.stem file
  match s.pathOf? stem with
  | some path => (⟨dropPath path s.entries, dropStem stem s.stems⟩, true)
  | none => (s, false)

/-- Drops all entries. -/
def clear (_ : Store) : Store := empty

/-- The contents of another store in place of its own. -/
def replaceAll (_ other : Store) : Store := ⟨other.entries, other.stems⟩

/-- A copy that can be read while the store is rewritten. -/
def snapshot (s : Store) : Store := empty.replaceAll s

/-- The classes of all files, in order. -/
def classes (s : Store) : List ClassDecl := s.entries.flatMap fun entry => entry.2.classes

end Store

end DesignGauge
