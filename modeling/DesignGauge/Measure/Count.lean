import DesignGauge.Measure.View
import DesignGauge.Text.Word

/-!
# Counts of members

Fields and methods, and the public, abstract, protected and accessor ones among them.
-/

namespace DesignGauge.Measure

open Text

/-- NOA: the fields. -/
def attributes (v : ClassView) : Nat := v.fields.length

/-- NOM: the methods, without constructors. -/
def methods (v : ClassView) : Nat := v.methods.countP (!·.isConstructor)

/-- A public field without an accessor. -/
def isExposed (f : FieldDecl) : Bool := f.isPublic && !f.isEncapsulated

/-- The exposed fields. -/
def exposed (v : ClassView) : List FieldDecl := v.fields.filter isExposed

/-- NOPA: the exposed fields. -/
def publicAttributes (v : ClassView) : Nat := (exposed v).length

/-- What counting exposed fields tells. -/
def publicAttributesTrace (v : ClassView) : List String :=
  (exposed v).map fun f => "[NOPA] Public attribute: " ++ f.name

/-- A text mentions being abstract. -/
def saysAbstract (text : String) : Bool := holdsPiece "abstract".toList text.toList

/-- The method is declared abstract, by its flag, a modifier or an annotation. -/
def isAbstractMethod (m : MethodDecl) : Bool :=
  m.isAbstract || saysAbstract m.modifiers || m.annotations.any saysAbstract

/-- NAbsm: the abstract methods. -/
def abstractMethods (v : ClassView) : Nat := v.methods.countP isAbstractMethod

/-- NProtM: the protected methods. -/
def protectedMethods (v : ClassView) : Nat := v.methods.countP MethodDecl.isProtected

/-- NOAM: the accessors. -/
def accessors (v : ClassView) : Nat := v.methods.countP MethodDecl.isAccessor

/-! ## The conventions of Python -/

/-- A name that starts with two underscores. -/
def isMangled (name : String) : Bool := ['_', '_'].isPrefixOf name.toList

/-- A name between two pairs of underscores. -/
def isSpecialName (name : String) : Bool :=
  isMangled name && ['_', '_'].isSuffixOf name.toList && name.length > 4

/-- An annotation that declares a setter: a word between an at sign and the word setter. -/
def declaresSetter (mark : List Char) : Bool :=
  match mark with
  | '@' :: rest =>
    !(rest.takeWhile isWord).isEmpty && rest.dropWhile isWord == ".setter".toList
  | _ => false

/-- The method is an accessor, by its flag or by an annotation. -/
def isPropertyAccessor (m : MethodDecl) : Bool :=
  m.isAccessor || m.annotations.any fun a =>
    let text := strip a.toList
    text == "@property".toList || declaresSetter text

/-- NOA for Python: the fields whose names are not mangled. -/
def openAttributes (v : ClassView) : Nat := v.fields.countP (!isMangled ·.name)

/-- NOM for Python: the methods that are neither constructors nor specially named. -/
def plainMethods (v : ClassView) : Nat :=
  v.methods.countP fun m => !m.isConstructor && !isSpecialName m.name

/-- NOAM for Python: the accessors, those by annotation included. -/
def propertyAccessors (v : ClassView) : Nat := v.methods.countP isPropertyAccessor

end DesignGauge.Measure
