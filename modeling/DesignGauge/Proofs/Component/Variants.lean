import DesignGauge.Proofs.Wire.Variants

/-!
# Spellings and order of the keys of components

Every part of a component has a name of words joined by underscores, and is read under the compound
spelling of that name as well as under the name itself; only the visibility of a class has three
spellings. A component and its variants are read alike, whatever the order of their keys and
whatever other keys they have.

Results:
1. `agree_firstAccess`: the search for a visibility does not look into its modifiers.
2. `Position.respects_read`, `ClassDecl.respects_read`, `MethodDecl.respects_read`,
   `FieldDecl.respects_read`, `DeclGroup.respects_read`, `FileComponents.respects_read`: each reader
   reads variants alike.
3. `read_variant`: all of them together.
-/

namespace DesignGauge

open Wire

/-! ## Spellings -/

/-- Words joined by underscores written as one: each but the first gets a capital instead. -/
def compoundChars : List Char → List Char
  | '_' :: c :: rest => c.toUpper :: compoundChars rest
  | c :: rest => c :: compoundChars rest
  | [] => []

/-- The compound spelling of a name. -/
def compound (name : String) : String := String.ofList (compoundChars name.toList)

/-- A part with the spellings of its name: the compound one and the name itself. -/
def named (name : String) (shape : Shape) : List String × Shape :=
  ([compound name, name].eraseDups, shape)

/-- What is read from a position. -/
def Position.shape : Shape := .record [named "row" .plain, named "column" .plain]

/-- What is read from a class. -/
def ClassDecl.shape : Shape := .record [
  named "name" .plain,
  named "implemented_interfaces" .plain,
  named "is_abstract" .plain,
  named "is_final" .plain,
  named "is_interface" .plain,
  (["accessLevel", "AccessLevel", "access_level"], .plain),
  named "modifiers" .plain,
  named "annotations" .plain,
  named "start_position" Position.shape,
  named "end_position" Position.shape,
  named "parent" .plain,
  named "is_nested" .plain,
  named "generic_params" .plain,
  named "has_constructor" .plain,
  named "nested_class_names" .plain]

/-- What is read from a method. -/
def MethodDecl.shape : Shape := .record [
  named "name" .plain,
  named "modifiers" .plain,
  named "params" .plain,
  named "return_type" .plain,
  named "is_constructor" .plain,
  named "is_accessor" .plain,
  named "is_overridden" .plain,
  named "is_abstract" .plain,
  named "fields_used" .plain,
  named "annotations" .plain,
  named "throws_clause" .plain,
  named "method_body" .plain,
  named "local_variables" .plain,
  named "method_calls" .plain,
  named "field_access" .plain,
  named "parent" ClassDecl.shape,
  named "start_position" Position.shape,
  named "end_position" Position.shape]

/-- What is read from a field. -/
def FieldDecl.shape : Shape := .record [
  named "name" .plain,
  named "type" .plain,
  named "modifiers" .plain,
  named "is_encapsulated" .plain,
  named "start_position" Position.shape,
  named "end_position" Position.shape]

/-- What is read from a group. -/
def DeclGroup.shape : Shape := .record [
  named "file_name" .plain,
  named "name" .plain,
  named "classes" (.list ClassDecl.shape),
  named "methods" (.list MethodDecl.shape),
  named "fields" (.list FieldDecl.shape)]

/-- What is read from the components of a file. -/
def FileComponents.shape : Shape := .record [named "classes" (.list DeclGroup.shape)]

/-! ## Modifiers -/

theorem unkeyableItem?_append (front back : List Datum) :
    Datum.unkeyableItem? (front ++ back) =
      (Datum.unkeyableItem? front).or (Datum.unkeyableItem? back) := by
  induction front with
  | nil => rfl
  | cons first front ih =>
    rw [List.cons_append, Datum.unkeyableItem?, Datum.unkeyableItem?, ih]
    cases first.unkeyable? <;> rfl

theorem unkeyable?_of_variant {shape : Shape} {value value' : Datum}
    (variant : Variant shape value value') : value.unkeyable? = value'.unkeyable? := by
  induction variant with
  | refl _ => rfl
  | trans _ _ first second => exact first.trans second
  | tupleItem _ ih =>
    rw [Datum.unkeyable?, Datum.unkeyable?, unkeyableItem?_append, unkeyableItem?_append,
      Datum.unkeyableItem?, Datum.unkeyableItem?, ih]
  | _ => rfl

theorem agree_firstAccess {shape shape' : Shape} {items items' : List Datum}
    (variants : List.Forall₂ (Variant shape) items items') :
    Agree shape' (firstAccess items) (firstAccess items') := by
  induction variants with
  | nil => exact .fits _
  | @cons value value' _ _ variant _ ih =>
    unfold firstAccess
    rw [unkeyable?_of_variant variant]
    cases value'.unkeyable? with
    | some kind => exact .unkeyable kind
    | none =>
      cases variant.view with
      | single _ =>
        cases value with
        | text s =>
          simp only
          split
          · exact .fits s
          · exact ih
        | _ => exact ih
      | _ => exact ih

theorem respects_methodModifiers {shape : Shape} : Respects shape methodModifiers := by
  intro value value' variant
  cases variant.view with
  | single single =>
    cases value with
    | null => exact .fits _
    | text s => exact .fits s
    | list _ => cases single
    | tuple _ => cases single
    | _ => exact .misfit .textType
  | map _ => exact .misfit .textType
  | list variants => exact agree_firstAccess variants
  | tuple variants => exact agree_firstAccess variants

/-! ## Records -/

theorem Position.respects_read : Respects shape read :=
  respects_record fun _ _ matching =>
    ((matching.member 0 rfl isScalar_whole.respects).map Position.mk).seq
      (matching.member 1 rfl isScalar_whole.respects)

theorem Access.isScalar_read : IsScalar read where
  whole value := by
    unfold read
    split
    · split
      · exact .inl ⟨_, rfl⟩
      · exact .inr ⟨_, rfl⟩
    · exact .inr ⟨_, rfl⟩
  refuses := by
    refine ⟨.notAChoice, fun value inside => ?_⟩
    cases value with
    | map _ => rfl
    | list _ => rfl
    | tuple _ => rfl
    | _ => cases inside

theorem respects_position : Respects Position.shape (nullable Position.read) :=
  respects_nullable Position.respects_read

theorem ClassDecl.respects_read : Respects shape read := by
  refine respects_record fun _ _ matching => ?_
  exact (matching.member 0 rfl isScalar_text.respects).map ClassDecl.mk
    |>.seq (matching.member 1 rfl respects_textList)
    |>.seq (matching.member 2 rfl isScalar_flag.respects)
    |>.seq (matching.member 3 rfl isScalar_flag.respects)
    |>.seq (matching.member 4 rfl isScalar_flag.respects)
    |>.seq (matching.member 5 rfl Access.isScalar_read.respects)
    |>.seq (matching.member 6 rfl respects_textList)
    |>.seq (matching.member 7 rfl respects_textList)
    |>.seq (matching.member 8 rfl respects_position)
    |>.seq (matching.member 9 rfl respects_position)
    |>.seq (matching.member 10 rfl (respects_nullable isScalar_text.respects))
    |>.seq (matching.member 11 rfl isScalar_flag.respects)
    |>.seq (matching.member 12 rfl (respects_nullable isScalar_text.respects))
    |>.seq (matching.member 13 rfl isScalar_flag.respects)
    |>.seq (matching.member 14 rfl respects_textList)

theorem MethodDecl.respects_read : Respects shape read := by
  refine respects_record fun _ _ matching => ?_
  exact (matching.member 0 rfl isScalar_text.respects).map MethodDecl.mk
    |>.seq (matching.member 1 rfl respects_methodModifiers)
    |>.seq (matching.member 2 rfl respects_textList)
    |>.seq (matching.member 3 rfl isScalar_text.respects)
    |>.seq (matching.member 4 rfl isScalar_flag.respects)
    |>.seq (matching.member 5 rfl isScalar_flag.respects)
    |>.seq (matching.member 6 rfl isScalar_flag.respects)
    |>.seq (matching.member 7 rfl isScalar_flag.respects)
    |>.seq (matching.member 8 rfl respects_textList)
    |>.seq (matching.member 9 rfl respects_textList)
    |>.seq (matching.member 10 rfl respects_textList)
    |>.seq (matching.member 11 rfl respects_textList)
    |>.seq (matching.member 12 rfl respects_textList)
    |>.seq (matching.member 13 rfl respects_textList)
    |>.seq (matching.member 14 rfl respects_textList)
    |>.seq (matching.member 15 rfl (respects_nullable ClassDecl.respects_read))
    |>.seq (matching.member 16 rfl respects_position)
    |>.seq (matching.member 17 rfl respects_position)

theorem FieldDecl.respects_read : Respects shape read := by
  refine respects_record fun _ _ matching => ?_
  exact (matching.member 0 rfl isScalar_text.respects).map FieldDecl.mk
    |>.seq (matching.member 1 rfl isScalar_textOrNull.respects)
    |>.seq (matching.member 2 rfl isScalar_textOrNull.respects)
    |>.seq (matching.member 3 rfl isScalar_flag.respects)
    |>.seq (matching.member 4 rfl respects_position)
    |>.seq (matching.member 5 rfl respects_position)

/-- The flags of the fields are computed from parts that have been read, in whatever order. -/
theorem DeclGroup.respects_read : Respects shape read := by
  refine respects_record fun _ _ matching => ?_
  exact (matching.member 0 rfl isScalar_text.respects).map DeclGroup.make
    |>.seq (matching.member 1 rfl isScalar_text.respects)
    |>.seq (matching.member 2 rfl (respects_list ClassDecl.respects_read))
    |>.seq (matching.member 3 rfl (respects_list MethodDecl.respects_read))
    |>.seq (matching.member 4 rfl (respects_list FieldDecl.respects_read))

theorem FileComponents.respects_read : Respects shape read :=
  respects_record fun _ _ matching =>
    (matching.member 0 rfl (respects_list DeclGroup.respects_read)).map FileComponents.mk

/-! ## All records -/

/-- The kinds of records that components are made of. -/
inductive RecordKind where
  | position
  | classDecl
  | methodDecl
  | fieldDecl
  | declGroup
  | fileComponents

namespace RecordKind

/-- The records of a kind. -/
def Record : RecordKind → Type
  | .position => Position
  | .classDecl => ClassDecl
  | .methodDecl => MethodDecl
  | .fieldDecl => FieldDecl
  | .declGroup => DeclGroup
  | .fileComponents => FileComponents

/-- What is read from a record of a kind. -/
def shape : RecordKind → Shape
  | .position => Position.shape
  | .classDecl => ClassDecl.shape
  | .methodDecl => MethodDecl.shape
  | .fieldDecl => FieldDecl.shape
  | .declGroup => DeclGroup.shape
  | .fileComponents => FileComponents.shape

/-- Reads a record of a kind. -/
def read : (kind : RecordKind) → Datum → Checked kind.Record
  | .position => Position.read
  | .classDecl => ClassDecl.read
  | .methodDecl => MethodDecl.read
  | .fieldDecl => FieldDecl.read
  | .declGroup => DeclGroup.read
  | .fileComponents => FileComponents.read

end RecordKind

/-- A record and its variants have the same outcome: they are read as the same record, or with
issues of the same kinds at the same parts, or both are broken off. -/
theorem read_variant (kind : RecordKind) {value value' : Datum}
    (variant : Variant kind.shape value value') :
    Agree kind.shape (kind.read value) (kind.read value') := by
  cases kind with
  | position => exact Position.respects_read variant
  | classDecl => exact ClassDecl.respects_read variant
  | methodDecl => exact MethodDecl.respects_read variant
  | fieldDecl => exact FieldDecl.respects_read variant
  | declGroup => exact DeclGroup.respects_read variant
  | fileComponents => exact FileComponents.respects_read variant

/-- A class in the underscore spelling. -/
def lampClass : Datum :=
  .map [(.text "name", .text "Lamp"), (.text "is_abstract", .text "yes"),
    (.text "access_level", .text "private")]

/-- The same class in other spellings and another order, with a key that names no part and a
visibility that is overruled. -/
def lampClassVaried : Datum :=
  .map [(.text "access_level", .text "public"), (.text "colour", .text "red"),
    (.text "AccessLevel", .text "private"), (.text "isAbstract", .text "yes"),
    (.text "name", .text "Lamp")]

/-- The components of a file with one class. -/
def fileOfClass (decl : Datum) : Datum :=
  .map [(.text "classes", .list [.map [(.text "classes", .list [decl])]])]

theorem variant_lampClass : Variant ClassDecl.shape lampClass lampClassVaried := by
  have unread : ∀ part ∈ ClassDecl.shape.parts, "colour" ∉ part.1 := by decide
  have flagSpelled : Variant ClassDecl.shape lampClass _ :=
    @Variant.respell _ [_] [_] "is_abstract" "isAbstract" _ (by decide) (by decide)
  have accessSpelled := flagSpelled.trans
    (@Variant.respell _ [_, _] [] "access_level" "AccessLevel" _ (by decide) (by decide))
  have extended := accessSpelled.trans (@Variant.extend _ _ (.text "colour") (.text "red")
    fun part member name spelling same => unread part member (Datum.text.inj same ▸ spelling))
  have overruled := extended.trans
    (@Variant.overrule _ _ "access_level" (.text "public") (by decide))
  exact overruled.trans (.reorder (by decide) (List.reverse_perm _).symm)

theorem variant_fileOfClass {decl decl' : Datum} (variant : Variant ClassDecl.shape decl decl') :
    Variant FileComponents.shape (fileOfClass decl) (fileOfClass decl') := by
  have group : Variant DeclGroup.shape (.map [(.text "classes", .list [decl])])
      (.map [(.text "classes", .list [decl'])]) := by
    refine @Variant.value _ [] [] _ _ _ ?_
    rintro part member ⟨name, spelling, ⟨⟩⟩
    have only : part ∈ DeclGroup.shape.parts.filter fun part => "classes" ∈ part.1 :=
      List.mem_filter.mpr ⟨member, decide_eq_true spelling⟩
    obtain rfl := List.mem_singleton.mp only
    exact @Variant.item _ [] [] _ _ variant
  refine @Variant.value _ [] [] _ _ _ fun part member _ => ?_
  obtain rfl := List.mem_singleton.mp member
  exact @Variant.item _ [] [] _ _ group

theorem read_lampClass :
    (Variant RecordKind.fileComponents.shape (fileOfClass lampClass) (fileOfClass lampClassVaried) ∧
      Agree FileComponents.shape (FileComponents.read (fileOfClass lampClass))
        (FileComponents.read (fileOfClass lampClassVaried))) ∧
    FileComponents.read (fileOfClass lampClassVaried) = .fits ⟨[⟨"", "Unknown",
      [{ name := "Lamp", isAbstract := true, access := .isPrivate }], [], []⟩]⟩ :=
  have variant := variant_fileOfClass variant_lampClass
  ⟨⟨variant, read_variant .fileComponents variant⟩, rfl⟩

end DesignGauge
