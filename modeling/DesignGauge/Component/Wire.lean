import DesignGauge.Component.Basic
import DesignGauge.Wire.Checked

/-!
# Components as data values

For every declaration a reader and a writer. Readers accept two spellings of a key, the compound
one first, and ignore keys that they do not know; writers give each key in its first spelling.
-/

namespace DesignGauge

open Wire

/-- The entries of a mapping. -/
abbrev Entries := List (Datum × Datum)

/-- A list of texts, null standing for none. -/
def textList : Datum → Checked (List String) := listOrNull text

/-- Texts as a data value. -/
def ofTexts (texts : List String) : Datum := .list (texts.map .text)

/-- A value that may be absent as a data value. -/
def ofOption {α : Type} (write : α → Datum) : Option α → Datum
  | some a => write a
  | none => .null

namespace Position

/-- Reads a position. -/
def read : Datum → Checked Position :=
  record fun es => Position.mk
    <$> member es ["row"] 0 whole
    <*> member es ["column"] 0 whole

/-- Writes a position. -/
def write (p : Position) : Datum :=
  .ofFields [("row", .int p.row), ("column", .int p.column)]

end Position

/-- A visibility is one of its words. -/
def Access.read : Datum → Checked Access
  | .text s => match Access.all.find? (·.word == s) with
    | some access => .fits access
    | none => .misfit .notAChoice
  | _ => .misfit .notAChoice

namespace ClassDecl

/-- Reads a class. -/
def read : Datum → Checked ClassDecl :=
  record fun es => ClassDecl.mk
    <$> member es ["name"] "Unknown" text
    <*> member es ["implementedInterfaces", "implemented_interfaces"] [] textList
    <*> member es ["isAbstract", "is_abstract"] false flag
    <*> member es ["isFinal", "is_final"] false flag
    <*> member es ["isInterface", "is_interface"] false flag
    <*> member es ["accessLevel", "AccessLevel", "access_level"] .isPublic Access.read
    <*> member es ["modifiers"] [] textList
    <*> member es ["annotations"] [] textList
    <*> member es ["startPosition", "start_position"] none (nullable Position.read)
    <*> member es ["endPosition", "end_position"] none (nullable Position.read)
    <*> member es ["parent"] none (nullable text)
    <*> member es ["isNested", "is_nested"] false flag
    <*> member es ["genericParams", "generic_params"] none (nullable text)
    <*> member es ["hasConstructor", "has_constructor"] false flag
    <*> member es ["nestedClassNames", "nested_class_names"] [] textList

/-- Writes a class. -/
def write (c : ClassDecl) : Datum :=
  .ofFields [
    ("name", .text c.name),
    ("implementedInterfaces", ofTexts c.interfaces),
    ("isAbstract", .bool c.isAbstract),
    ("isFinal", .bool c.isFinal),
    ("isInterface", .bool c.isInterface),
    ("accessLevel", .text c.access.word),
    ("modifiers", ofTexts c.modifiers),
    ("annotations", ofTexts c.annotations),
    ("startPosition", ofOption Position.write c.start),
    ("endPosition", ofOption Position.write c.stop),
    ("parent", ofOption .text c.parent),
    ("isNested", .bool c.isNested),
    ("genericParams", ofOption .text c.genericParams),
    ("hasConstructor", .bool c.hasConstructor),
    ("nestedClassNames", ofTexts c.nestedNames)]

end ClassDecl

/-- The first visibility word among some modifiers, public if there is none. A modifier that
cannot be looked up ends the search. -/
def firstAccess : List Datum → Checked String
  | [] => .fits Access.isPublic.word
  | modifier :: rest => match modifier.unkeyable? with
    | some kind => .unkeyable kind
    | none => match modifier with
      | .text s => if Access.all.any (·.word == s) then .fits s else firstAccess rest
      | _ => firstAccess rest

/-- The modifiers of a method: a text, or a list that is reduced to its visibility. -/
def methodModifiers : Datum → Checked String
  | .null => .fits Access.isPublic.word
  | .list xs => firstAccess xs
  | .tuple xs => firstAccess xs
  | value => text value

namespace MethodDecl

/-- Reads a method. -/
def read : Datum → Checked MethodDecl :=
  record fun es => MethodDecl.mk
    <$> member es ["name"] "Unknown" text
    <*> member es ["modifiers"] "public" methodModifiers
    <*> member es ["params"] [] textList
    <*> member es ["returnType", "return_type"] "No_Type" text
    <*> member es ["isConstructor", "is_constructor"] false flag
    <*> member es ["isAccessor", "is_accessor"] false flag
    <*> member es ["isOverridden", "is_overridden"] false flag
    <*> member es ["isAbstract", "is_abstract"] false flag
    <*> member es ["fieldsUsed", "fields_used"] [] textList
    <*> member es ["annotations"] [] textList
    <*> member es ["throwsClause", "throws_clause"] [] textList
    <*> member es ["methodBody", "method_body"] [] textList
    <*> member es ["localVariables", "local_variables"] [] textList
    <*> member es ["methodCalls", "method_calls"] [] textList
    <*> member es ["fieldAccess", "field_access"] [] textList
    <*> member es ["parent"] none (nullable ClassDecl.read)
    <*> member es ["startPosition", "start_position"] none (nullable Position.read)
    <*> member es ["endPosition", "end_position"] none (nullable Position.read)

/-- Writes a method. -/
def write (m : MethodDecl) : Datum :=
  .ofFields [
    ("name", .text m.name),
    ("modifiers", .text m.modifiers),
    ("params", ofTexts m.params),
    ("returnType", .text m.returnType),
    ("isConstructor", .bool m.isConstructor),
    ("isAccessor", .bool m.isAccessor),
    ("isOverridden", .bool m.isOverridden),
    ("isAbstract", .bool m.isAbstract),
    ("fieldsUsed", ofTexts m.usedNames),
    ("annotations", ofTexts m.annotations),
    ("throwsClause", ofTexts m.throws),
    ("methodBody", ofTexts m.bodyTags),
    ("localVariables", ofTexts m.localTypes),
    ("methodCalls", ofTexts m.calls),
    ("fieldAccess", ofTexts m.fieldAccess),
    ("parent", ofOption ClassDecl.write m.parent),
    ("startPosition", ofOption Position.write m.start),
    ("endPosition", ofOption Position.write m.stop)]

end MethodDecl

namespace FieldDecl

/-- Reads a field. -/
def read : Datum → Checked FieldDecl :=
  record fun es => FieldDecl.mk
    <$> member es ["name"] "Unnamed" text
    <*> member es ["type"] "" textOrNull
    <*> member es ["modifiers"] "public" textOrNull
    <*> member es ["isEncapsulated", "is_encapsulated"] false flag
    <*> member es ["startPosition", "start_position"] none (nullable Position.read)
    <*> member es ["endPosition", "end_position"] none (nullable Position.read)

/-- Writes a field. -/
def write (f : FieldDecl) : Datum :=
  .ofFields [
    ("name", .text f.name),
    ("type", .text f.type),
    ("modifiers", .text f.modifiers),
    ("isEncapsulated", .bool f.isEncapsulated),
    ("startPosition", ofOption Position.write f.start),
    ("endPosition", ofOption Position.write f.stop)]

end FieldDecl

namespace DeclGroup

/-- A group whose fields carry the flags that its methods give them. -/
def make (fileName name : String) (classes : List ClassDecl) (methods : List MethodDecl)
    (fields : List FieldDecl) : DeclGroup :=
  ⟨fileName, name, classes, methods, fields.map (FieldDecl.encapsulatedBy methods)⟩

/-- Reads a group; the flags of its fields are computed, whatever the value says. -/
def read : Datum → Checked DeclGroup :=
  record fun es => DeclGroup.make
    <$> member es ["fileName", "file_name"] "" text
    <*> member es ["name"] "Unknown" text
    <*> member es ["classes"] [] (list ClassDecl.read)
    <*> member es ["methods"] [] (list MethodDecl.read)
    <*> member es ["fields"] [] (list FieldDecl.read)

/-- Writes a group. -/
def write (g : DeclGroup) : Datum :=
  .ofFields [
    ("fileName", .text g.fileName),
    ("name", .text g.name),
    ("classes", .list (g.classes.map ClassDecl.write)),
    ("methods", .list (g.methods.map MethodDecl.write)),
    ("fields", .list (g.fields.map FieldDecl.write))]

end DeclGroup

namespace FileComponents

/-- Reads the components of a file. -/
def read : Datum → Checked FileComponents :=
  record fun es => FileComponents.mk <$> member es ["classes"] [] (list DeclGroup.read)

/-- Writes the components of a file. -/
def write (c : FileComponents) : Datum :=
  .ofFields [("classes", .list (c.groups.map DeclGroup.write))]

end FileComponents

end DesignGauge
