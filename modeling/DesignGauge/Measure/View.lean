import DesignGauge.Datum.Literal
import DesignGauge.Fault
import DesignGauge.Log
import DesignGauge.Store.Basic

/-!
# What a measure sees

A measure is taken of the classes, methods and fields of one file, whatever groups they came in,
with two pieces of outside evidence: a syntax node that may span the class, and the classes of
the whole store.
-/

namespace DesignGauge

/-- The declarations of one file. -/
structure ClassView where
  classes : List ClassDecl := []
  methods : List MethodDecl := []
  fields : List FieldDecl := []
  deriving DecidableEq, Repr

namespace ClassView

/-- The declarations of all groups, in order. -/
def ofComponents (c : FileComponents) : ClassView := ⟨c.classes, c.methods, c.fields⟩

/-- The first class. -/
def primary? (v : ClassView) : Option ClassDecl := v.classes.head?

/-- The name of the first class. -/
def className? (v : ClassView) : Option String := v.primary?.map ClassDecl.name

/-- There are no declarations. -/
def isEmpty (v : ClassView) : Bool := v.classes.isEmpty && v.methods.isEmpty && v.fields.isEmpty

end ClassView

/-- The declarations of a file of the store; none without a store or without an entry. -/
def viewOf (store : Option Store) (file : String) : ClassView :=
  match store.bind (·.find? file) with
  | some components => .ofComponents components
  | none => {}

/-- The warning that a lookup without success leaves. -/
def lookupLog (store : Option Store) (file : String) : List LogLine :=
  match store with
  | some s =>
    if (s.find? file).isNone then [.warning ("No data found for file name: " ++ file)] else []
  | none => []

/-- What collecting the declarations of a file tells. -/
def viewLog (tag : String) (store : Option Store) (file : String) : List LogLine :=
  lookupLog store file ++ match store.bind (·.find? file) with
    | none => [.debug ("[" ++ tag ++ "] No parsed components found for " ++ file)]
    | some c =>
      [.debug ("[" ++ tag ++ "] Found " ++ toString c.groups.length ++ " class groups in " ++ file
        ++ ": " ++ toString c.classes.length ++ " classes, " ++ toString c.methods.length
        ++ " methods, " ++ toString c.fields.length ++ " fields")]

/-- What a measure is taken of. -/
structure Evidence where
  view : ClassView
  /-- A syntax node that may span the class. -/
  node : Datum := .null
  /-- The classes of the store. -/
  known : List ClassDecl := []

/-- A count as a number. -/
def Number.ofNat (n : Nat) : Number := .int n

end DesignGauge
