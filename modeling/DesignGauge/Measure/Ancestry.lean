import DesignGauge.Measure.View

/-!
# Ancestry

Parents are names. A class knows its declared parent; every further ancestor is the parent of the
first known class with the name reached so far. The walk stops at a name that is not known, at a
class without a parent, and where it would come back to a name it has seen.
-/

namespace DesignGauge.Measure

/-- The first known class of a name. -/
def classNamed (known : List ClassDecl) (name : String) : Option ClassDecl :=
  known.find? (·.name == name)

/-- The names reached from a parent on, without those already seen. -/
def climb (known : List ClassDecl) : Nat → List String → Option String → List String
  | fuel + 1, seen, some parent =>
    if parent.isEmpty || seen.contains parent then []
    else parent :: match classNamed known parent with
      | some ancestor => climb known fuel (parent :: seen) ancestor.parent
      | none => []
  | _, _, _ => []

/-- The ancestors of a class, from its parent upwards. Each step but the first starts from the
name of a known class not seen before, so one step more than there are known classes is enough. -/
def ancestors (c : ClassDecl) (known : List ClassDecl) : List String :=
  climb known (known.length + 1) [c.name] c.parent

/-- The first class, if it names a parent. -/
def child? (v : ClassView) : Option ClassDecl := v.primary?.filter ClassDecl.hasParent

/-- The ancestors of the first class among the classes of the file and of the store. -/
def lineage (e : Evidence) : List String :=
  match child? e.view with
  | some c => ancestors c (e.view.classes ++ e.known)
  | none => []

/-- DIT: the number of ancestors. -/
def depth (e : Evidence) : Nat := (lineage e).length

/-- What climbing tells. -/
def depthTrace (e : Evidence) : List String :=
  match child? e.view with
  | some c => ["[DIT] Ancestors of " ++ c.name ++ ": " ++ textListLiteral (lineage e)]
  | none => []

end DesignGauge.Measure
