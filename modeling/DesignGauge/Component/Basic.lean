import DesignGauge.Text.Case
import DesignGauge.Text.Pieces

/-!
# Components of a source file

What an extractor found in one source file: groups of class, method and field declarations. A
field is encapsulated when it is not public and one of the methods beside it is its getter or
setter.
-/

namespace DesignGauge

open Text

/-- A place in a source file, counted from zero. -/
structure Position where
  row : Int := 0
  column : Int := 0
  deriving DecidableEq, Repr

/-- Declared visibility. -/
inductive Access where
  | isPublic
  | isPrivate
  | isProtected
  deriving DecidableEq, Repr

/-- All visibilities. -/
def Access.all : List Access := [.isPublic, .isPrivate, .isProtected]

/-- The word of a visibility. -/
def Access.word : Access → String
  | .isPublic => "public"
  | .isPrivate => "private"
  | .isProtected => "protected"

/-- A class or interface. -/
structure ClassDecl where
  name : String := "Unknown"
  interfaces : List String := []
  isAbstract : Bool := false
  isFinal : Bool := false
  isInterface : Bool := false
  access : Access := .isPublic
  modifiers : List String := []
  annotations : List String := []
  start : Option Position := none
  stop : Option Position := none
  parent : Option String := none
  isNested : Bool := false
  genericParams : Option String := none
  hasConstructor : Bool := false
  nestedNames : List String := []
  deriving DecidableEq, Repr

/-- The class names a parent. -/
def ClassDecl.hasParent (c : ClassDecl) : Bool :=
  match c.parent with
  | some name => !name.isEmpty
  | none => false

/-- A method or constructor. `usedNames` are the names its variable declarators introduce,
`bodyTags` the kinds of its statements in depth-first order. -/
structure MethodDecl where
  name : String := "Unknown"
  modifiers : String := "public"
  params : List String := []
  returnType : String := "No_Type"
  isConstructor : Bool := false
  isAccessor : Bool := false
  isOverridden : Bool := false
  isAbstract : Bool := false
  usedNames : List String := []
  annotations : List String := []
  throws : List String := []
  bodyTags : List String := []
  localTypes : List String := []
  calls : List String := []
  fieldAccess : List String := []
  parent : Option ClassDecl := none
  start : Option Position := none
  stop : Option Position := none
  deriving DecidableEq, Repr

namespace MethodDecl

/-- The method is public. -/
def isPublic (m : MethodDecl) : Bool := m.modifiers == "public"

/-- The method is protected. -/
def isProtected (m : MethodDecl) : Bool := m.modifiers == "protected"

end MethodDecl

/-- A field. -/
structure FieldDecl where
  name : String := "Unnamed"
  type : String := ""
  modifiers : String := "public"
  isEncapsulated : Bool := false
  start : Option Position := none
  stop : Option Position := none
  deriving DecidableEq, Repr

/-- A modifier says public, in any letter case. -/
def saysPublic (modifiers : String) : Bool := lower modifiers == "public"

/-- The field is public. -/
def FieldDecl.isPublic (f : FieldDecl) : Bool := saysPublic f.modifiers

/-- The name starts as getters and setters do. -/
def isAccessorName (name : String) : Bool :=
  ["get", "Get", "set", "Set"].any fun start => start.toList.isPrefixOf name.toList

/-- The name with its first letter in upper case. -/
def capitalized : List Char → List Char
  | [] => []
  | c :: rest => upperChar c ++ rest

/-- Some method has the getter or setter name of the field inside its own name. -/
def hasGetterOrSetter (fieldName : String) (methods : List MethodDecl) : Bool :=
  !fieldName.isEmpty && methods.any fun m =>
    holdsPiece ("get".toList ++ capitalized fieldName.toList) m.name.toList
      || holdsPiece ("set".toList ++ capitalized fieldName.toList) m.name.toList

/-- A field is encapsulated when it is not public and has a getter or setter. -/
def isEncapsulatedField (fieldName modifiers : String) (methods : List MethodDecl) : Bool :=
  !saysPublic modifiers && hasGetterOrSetter fieldName methods

/-- The field with its flag computed from the methods beside it. -/
def FieldDecl.encapsulatedBy (methods : List MethodDecl) (f : FieldDecl) : FieldDecl :=
  { f with isEncapsulated := isEncapsulatedField f.name f.modifiers methods }

/-- What was extracted from one source file, or from a part of it. -/
structure DeclGroup where
  fileName : String := ""
  name : String := "Unknown"
  classes : List ClassDecl := []
  methods : List MethodDecl := []
  fields : List FieldDecl := []
  deriving DecidableEq, Repr

/-- The groups of one source file. -/
structure FileComponents where
  groups : List DeclGroup := []
  deriving DecidableEq, Repr

namespace FileComponents

/-- The first file name that a group records. -/
def fileName? (c : FileComponents) : Option String :=
  (c.groups.find? (!·.fileName.isEmpty)).map DeclGroup.fileName

/-- The classes of all groups. -/
def classes (c : FileComponents) : List ClassDecl := c.groups.flatMap DeclGroup.classes

/-- The methods of all groups. -/
def methods (c : FileComponents) : List MethodDecl := c.groups.flatMap DeclGroup.methods

/-- The fields of all groups. -/
def fields (c : FileComponents) : List FieldDecl := c.groups.flatMap DeclGroup.fields

end FileComponents

end DesignGauge
