import DesignGauge.Measure.View
import DesignGauge.TypeName

/-!
# Foreign data and foreign types

Fields of a foreign type lead to the data of other classes: by direct access and by calls of
their accessors. Declared types couple a class to others: those of its fields, and every type
that its signatures and local variables mention.
-/

namespace DesignGauge.Measure

open Text

/-- The fields with a declared foreign type. -/
def foreignFields (fields : List FieldDecl) (current : Option String) : List FieldDecl :=
  fields.filter fun f => !f.type.isEmpty && TypeName.isForeign f.type current

/-- The type that a name leads to: that of the last foreign field of that name. -/
def ownerOf (fields : List FieldDecl) (name : String) : Option String :=
  (fields.reverse.find? (·.name == name)).map FieldDecl.type

/-- The names of some fields with the types they lead to, in order of first occurrence. -/
def owners (fields : List FieldDecl) : List (String × String) :=
  ((fields.map FieldDecl.name).eraseDups).filterMap fun name =>
    (ownerOf fields name).map (name, ·)

/-- The object and the member of an access. -/
def splitAccess (entry : String) : String × String :=
  let (object, member) := cut '.' entry.toList
  (String.ofList object, String.ofList member)

/-- The type that an access reaches. -/
def reachedBy (fields : List FieldDecl) (entry : String) : Option String :=
  ownerOf fields (splitAccess entry).1

/-- The type that a call reaches, if it calls an accessor. -/
def reachedByCall (fields : List FieldDecl) (call : String) : Option String :=
  let (object, member) := splitAccess call
  if isAccessorName member then ownerOf fields object else none

/-- The types that direct accesses of some methods reach. -/
def providers (fields : List FieldDecl) (methods : List MethodDecl) : List String :=
  (methods.flatMap fun m => m.fieldAccess.filterMap (reachedBy fields)).eraseDups

/-- The types whose data some methods use, by access or by accessor call. -/
def accessed (fields : List FieldDecl) (methods : List MethodDecl) : List String :=
  (methods.flatMap fun m => m.fieldAccess.filterMap (reachedBy fields)
    ++ m.calls.filterMap (reachedByCall fields)).eraseDups

/-- The foreign fields of a file, seen from its first class; none without a class name. -/
def foreignIn (v : ClassView) : List FieldDecl :=
  match v.className? with
  | some name => if name.isEmpty then [] else foreignFields v.fields (some name)
  | none => []

/-- The methods that are neither constructors nor accessors. -/
def working (v : ClassView) : List MethodDecl :=
  v.methods.filter fun m => !(m.isConstructor || m.isAccessor)

/-- FDP: the foreign types whose fields are accessed directly. -/
def dataProviders (v : ClassView) : Nat := (providers (foreignIn v) v.methods).length

/-- ATFD: the foreign types whose data the working methods use. -/
def foreignAccess (v : ClassView) : Nat := (accessed (foreignIn v) (working v)).length

/-- The class has no name. -/
def isNameless (v : ClassView) : Bool :=
  match v.className? with
  | some name => name.isEmpty
  | none => true

/-- What finding foreign fields tells. -/
def foreignTrace (v : ClassView) : List String :=
  (foreignIn v).map fun f => "[COUPLING] Field of foreign type: " ++ f.name ++ " (" ++ f.type ++ ")"

/-- What looking for data providers tells. -/
def dataProvidersTrace (v : ClassView) : List String :=
  if isNameless v then ["[FDP] No class found in current file"]
  else
    foreignTrace v
      ++ (v.methods.flatMap fun m => m.fieldAccess.filterMap fun entry =>
        (reachedBy (foreignIn v) entry).map fun type =>
          "[FDP] Field access to foreign class " ++ type ++ " through " ++ entry)
      ++ ["[FDP] Foreign data providers: "
        ++ textListLiteral (sortTexts (providers (foreignIn v) v.methods))]

/-- What looking for foreign data tells. -/
def foreignAccessTrace (v : ClassView) : List String :=
  if (foreignIn v).isEmpty then []
  else
    foreignTrace v
      ++ (v.methods.filter fun m => m.isConstructor || m.isAccessor).map (fun m =>
        "[ATFD] Skipping " ++ m.name ++ ": constructor or accessor")
      ++ ["[ATFD] Foreign classes accessed: "
        ++ textListLiteral (sortTexts (accessed (foreignIn v) (working v)))]

/-! ## Types of fields -/

/-- The fields up to the first one without a type. -/
def typedFields (v : ClassView) : List FieldDecl := v.fields.takeWhile (!·.type.isEmpty)

/-- A type that counts as an abstraction: neither generic nor of the library. -/
def isAbstraction (type : String) : Bool :=
  (TypeName.splitGeneric type).isNone && !TypeName.isLibrary type

/-- DAC: the distinct abstractions among the types of the fields. -/
def abstractions (v : ClassView) : List String :=
  (((typedFields v).map FieldDecl.type).filter isAbstraction).eraseDups

/-- What one field adds to the trace, given the types counted so far. -/
def abstractionLine (counted : List String) (type : String) : List String :=
  match TypeName.splitGeneric type with
  | some (container, element) =>
    ["[DAC] Skipping generic type " ++ type ++ " (container: " ++ container ++ ", element: "
      ++ element ++ ")"]
  | none =>
    if TypeName.isLibrary type then ["[DAC] Skipped " ++ type ++ " (primitive/library type)"]
    else if counted.contains type then []
    else ["[DAC] Counted " ++ type]

/-- What counting abstractions tells, given the types counted so far. -/
def abstractionsTraceFrom (counted : List String) : List FieldDecl → List String
  | [] => ["[DAC] Types counted: " ++ textListLiteral (sortTexts counted)]
  | f :: rest =>
    if f.type.isEmpty then
      ["[DAC] Field " ++ f.name ++ " has no type, returning current DAC: "
        ++ toString counted.length]
    else
      abstractionLine counted f.type
        ++ abstractionsTraceFrom
          (if isAbstraction f.type && !counted.contains f.type then counted ++ [f.type]
            else counted) rest

/-- What counting abstractions tells. -/
def abstractionsTrace (v : ClassView) : List String := abstractionsTraceFrom [] v.fields

/-! ## Types in signatures -/

/-- The type texts of a method: local variables, parameters and a result that is not void. -/
def signatureTypes (m : MethodDecl) : List String :=
  m.localTypes ++ m.params.map TypeName.ofParameter
    ++ if m.returnType.isEmpty || m.returnType == "void" then [] else [m.returnType]

/-- The type texts of a file. -/
def typeTexts (v : ClassView) : List String :=
  (v.fields.map FieldDecl.type).filter (!·.isEmpty) ++ v.methods.flatMap signatureTypes

/-- CBO: the distinct types mentioned that are neither the class itself nor of the library. -/
def coupled (v : ClassView) : List String :=
  (((typeTexts v).flatMap TypeName.mentioned).filter fun name =>
    v.className? != some name && !TypeName.isLibrary name).eraseDups

/-- What collecting coupled types tells. -/
def coupledTrace (v : ClassView) : List String :=
  ["[CBO] Coupled classes: " ++ textListLiteral (sortTexts (coupled v))]

end DesignGauge.Measure
