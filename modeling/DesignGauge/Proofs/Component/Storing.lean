import DesignGauge.Component.Wire
import DesignGauge.Proofs.Json.RoundTrip
import DesignGauge.Proofs.Wire.RoundTrip

/-!
# Components in a file

The components of a source file are written to a tree that a JSON file holds exactly, when the rows
and columns of all their positions have 64 bits and their texts hold no half of a surrogate pair.
What such a file holds then reads back to the components, as far as they were read from a value
before.

Results:
1. `FileComponents.positions`, `FileComponents.texts`: every place and every text that is recorded.
2. `FileComponents.Storable.nested_write`: the tree of components that a file can hold.
3. `FileComponents.Storable.exists_file`: they are written to octets that read back.
-/

namespace DesignGauge

open Text Json

/-! ## What is recorded -/

/-- An integer of 64 bits, signed or unsigned. -/
def isWord (i : Int) : Bool := -signedBound ≤ i && i < unsignedBound

/-- Row and column have 64 bits. -/
def Position.isWord (p : Position) : Bool := DesignGauge.isWord p.row && DesignGauge.isWord p.column

namespace ClassDecl

/-- The places of a class. -/
def positions (c : ClassDecl) : List Position := c.start.toList ++ c.stop.toList

/-- The texts of a class. -/
def texts (c : ClassDecl) : List String :=
  c.name :: c.interfaces ++ c.modifiers ++ c.annotations ++ c.parent.toList
    ++ c.genericParams.toList ++ c.nestedNames

end ClassDecl

namespace MethodDecl

/-- The places of a method, with those of the class it names. -/
def positions (m : MethodDecl) : List Position :=
  m.parent.toList.flatMap ClassDecl.positions ++ m.start.toList ++ m.stop.toList

/-- The texts of a method, with those of the class it names. -/
def texts (m : MethodDecl) : List String :=
  m.name :: m.modifiers :: m.returnType :: m.params ++ m.usedNames ++ m.annotations ++ m.throws
    ++ m.bodyTags ++ m.localTypes ++ m.calls ++ m.fieldAccess
    ++ m.parent.toList.flatMap ClassDecl.texts

end MethodDecl

namespace FieldDecl

/-- The places of a field. -/
def positions (f : FieldDecl) : List Position := f.start.toList ++ f.stop.toList

/-- The texts of a field. -/
def texts (f : FieldDecl) : List String := [f.name, f.type, f.modifiers]

end FieldDecl

namespace DeclGroup

/-- The places of a group. -/
def positions (g : DeclGroup) : List Position :=
  g.classes.flatMap ClassDecl.positions ++ g.methods.flatMap MethodDecl.positions
    ++ g.fields.flatMap FieldDecl.positions

/-- The texts of a group. -/
def texts (g : DeclGroup) : List String :=
  g.fileName :: g.name :: g.classes.flatMap ClassDecl.texts ++ g.methods.flatMap MethodDecl.texts
    ++ g.fields.flatMap FieldDecl.texts

end DeclGroup

namespace FileComponents

/-- The places of all declarations. -/
def positions (c : FileComponents) : List Position := c.groups.flatMap DeclGroup.positions

/-- The texts of all declarations. -/
def texts (c : FileComponents) : List String := c.groups.flatMap DeclGroup.texts

end FileComponents

/-! ## Trees of records -/

section Parts

variable {levels : Nat}

theorem exact_int {i : Int} (word : isWord i = true) : Exact (.int i) := by
  rwa [isWord, Bool.and_eq_true, decide_eq_true_eq, decide_eq_true_eq] at word

theorem nested_text {s : String} (whole : isWhole s = true) : Nested Exact levels (.text s) :=
  .leaf whole

theorem nested_bool (b : Bool) : Nested Exact levels (.bool b) := .leaf trivial

theorem nested_ofTexts {texts : List String} (whole : ∀ s ∈ texts, isWhole s = true) :
    Nested Exact (levels + 1) (ofTexts texts) := by
  refine .list fun item member => ?_
  obtain ⟨s, present, rfl⟩ := List.mem_map.mp member
  exact nested_text (whole s present)

theorem nested_ofOption {α : Type} {write : α → Datum} {value : Option α}
    (inner : ∀ a ∈ value, Nested Exact levels (write a)) :
    Nested Exact levels (ofOption write value) := by
  cases value with
  | none => exact .leaf trivial
  | some a => exact inner a rfl

theorem nested_list {α : Type} {write : α → Datum} {items : List α}
    (inner : ∀ a ∈ items, Nested Exact levels (write a)) :
    Nested Exact (levels + 1) (.list (items.map write)) := by
  refine .list fun item member => ?_
  obtain ⟨a, present, rfl⟩ := List.mem_map.mp member
  exact inner a present

/-- A record is an object; that its keys are distinct and whole is seen from them alone. -/
theorem nested_record {fields : List (String × Datum)}
    (keys : (fields.map Prod.fst).Nodup ∧ (fields.map Prod.fst).all isWhole = true)
    (values : ∀ field ∈ fields, Nested Exact levels field.2) :
    Nested Exact (levels + 1) (.ofFields fields) := by
  refine .fields keys.1 (fun field member => ?_) values
  exact List.all_eq_true.mp keys.2 field.1 (List.mem_map_of_mem member)

end Parts

theorem Position.nested_write {levels : Nat} {p : Position} (word : p.isWord = true) :
    Nested Exact (levels + 1) p.write := by
  obtain ⟨row, column⟩ := Bool.and_eq_true_iff.mp word
  refine nested_record (by simp only [List.map_cons, List.map_nil]; decide) ?_
  simp only [List.forall_mem_cons, List.not_mem_nil, false_implies, implies_true, and_true]
  exact ⟨.leaf (exact_int row), .leaf (exact_int column)⟩

theorem Access.isWhole_word (a : Access) : isWhole a.word = true := by
  cases a <;> decide

namespace ClassDecl

theorem nested_write {c : ClassDecl} (words : ∀ p ∈ c.positions, p.isWord = true)
    (whole : ∀ s ∈ c.texts, isWhole s = true) : Nested Exact 2 c.write := by
  simp only [positions, List.forall_mem_append, Option.mem_toList] at words
  simp only [texts, List.forall_mem_append, List.forall_mem_cons, List.cons_append,
    Option.mem_toList] at whole
  obtain ⟨start, stop⟩ := words
  obtain ⟨name, ⟨⟨⟨⟨interfaces, modifiers⟩, annotations⟩, parent⟩, genericParams⟩, nestedNames⟩ :=
    whole
  refine nested_record (by simp only [List.map_cons, List.map_nil]; decide) ?_
  simp only [List.forall_mem_cons, List.not_mem_nil, false_implies, implies_true, and_true]
  exact ⟨nested_text name, nested_ofTexts interfaces, nested_bool _, nested_bool _, nested_bool _,
    nested_text c.access.isWhole_word, nested_ofTexts modifiers, nested_ofTexts annotations,
    nested_ofOption fun p here => p.nested_write (start p here),
    nested_ofOption fun p here => p.nested_write (stop p here),
    nested_ofOption fun s here => nested_text (parent s here), nested_bool _,
    nested_ofOption fun s here => nested_text (genericParams s here), nested_bool _,
    nested_ofTexts nestedNames⟩

end ClassDecl

theorem MethodDecl.nested_write {m : MethodDecl} (words : ∀ p ∈ m.positions, p.isWord = true)
    (whole : ∀ s ∈ m.texts, isWhole s = true) : Nested Exact 3 m.write := by
  simp only [positions, List.forall_mem_append, Option.mem_toList, List.forall_mem_flatMap] at words
  simp only [texts, List.forall_mem_append, List.forall_mem_cons, List.cons_append,
    Option.mem_toList, List.forall_mem_flatMap] at whole
  obtain ⟨⟨parentWords, start⟩, stop⟩ := words
  obtain ⟨name, modifiers, returnType, ⟨⟨⟨⟨⟨⟨⟨params, usedNames⟩, annotations⟩, throws⟩, bodyTags⟩,
    localTypes⟩, calls⟩, fieldAccess⟩, parentTexts⟩ := whole
  refine nested_record (by simp only [List.map_cons, List.map_nil]; decide) ?_
  simp only [List.forall_mem_cons, List.not_mem_nil, false_implies, implies_true, and_true]
  exact ⟨nested_text name, nested_text modifiers, nested_ofTexts params, nested_text returnType,
    nested_bool _, nested_bool _, nested_bool _, nested_bool _, nested_ofTexts usedNames,
    nested_ofTexts annotations, nested_ofTexts throws, nested_ofTexts bodyTags,
    nested_ofTexts localTypes, nested_ofTexts calls, nested_ofTexts fieldAccess,
    nested_ofOption fun c here => c.nested_write (parentWords c here) (parentTexts c here),
    nested_ofOption fun p here => p.nested_write (start p here),
    nested_ofOption fun p here => p.nested_write (stop p here)⟩

theorem FieldDecl.nested_write {f : FieldDecl} (words : ∀ p ∈ f.positions, p.isWord = true)
    (whole : ∀ s ∈ f.texts, isWhole s = true) : Nested Exact 2 f.write := by
  simp only [positions, List.forall_mem_append, Option.mem_toList] at words
  simp only [texts, List.forall_mem_cons, List.not_mem_nil, false_implies, implies_true,
    and_true] at whole
  obtain ⟨start, stop⟩ := words
  obtain ⟨name, type, modifiers⟩ := whole
  refine nested_record (by simp only [List.map_cons, List.map_nil]; decide) ?_
  simp only [List.forall_mem_cons, List.not_mem_nil, false_implies, implies_true, and_true]
  exact ⟨nested_text name, nested_text type, nested_text modifiers, nested_bool _,
    nested_ofOption fun p here => p.nested_write (start p here),
    nested_ofOption fun p here => p.nested_write (stop p here)⟩

theorem DeclGroup.nested_write {g : DeclGroup} (words : ∀ p ∈ g.positions, p.isWord = true)
    (whole : ∀ s ∈ g.texts, isWhole s = true) : Nested Exact 5 g.write := by
  simp only [positions, List.forall_mem_append, List.forall_mem_flatMap] at words
  simp only [texts, List.forall_mem_append, List.forall_mem_cons, List.cons_append,
    List.forall_mem_flatMap] at whole
  obtain ⟨⟨classWords, methodWords⟩, fieldWords⟩ := words
  obtain ⟨fileName, name, ⟨classTexts, methodTexts⟩, fieldTexts⟩ := whole
  refine nested_record (by simp only [List.map_cons, List.map_nil]; decide) ?_
  simp only [List.forall_mem_cons, List.not_mem_nil, false_implies, implies_true, and_true]
  -- methods are the deepest, since they name a class
  exact ⟨nested_text fileName, nested_text name,
    nested_list fun c here =>
      (c.nested_write (classWords c here) (classTexts c here)).mono (by decide),
    nested_list fun m here => m.nested_write (methodWords m here) (methodTexts m here),
    nested_list fun f here =>
      (f.nested_write (fieldWords f here) (fieldTexts f here)).mono (by decide)⟩

namespace FileComponents

/-- Components whose numbers and texts a file can hold. -/
structure Storable (c : FileComponents) : Prop where
  words : ∀ p ∈ c.positions, p.isWord = true
  whole : ∀ s ∈ c.texts, isWhole s = true

theorem Storable.nested_write {c : FileComponents} (storable : c.Storable) :
    Nested Exact 7 c.write := by
  obtain ⟨words, whole⟩ := storable
  simp only [positions, List.forall_mem_flatMap] at words
  simp only [texts, List.forall_mem_flatMap] at whole
  refine nested_record (by simp only [List.map_cons, List.map_nil]; decide) ?_
  simp only [List.forall_mem_cons, List.not_mem_nil, false_implies, implies_true, and_true]
  exact nested_list fun g member => g.nested_write (words g member) (whole g member)

/-- Storable components that were read from some value are written to octets that read back. -/
theorem Storable.exists_file {c : FileComponents} (storable : c.Storable)
    (validated : ∃ value, read value = .fits c) :
    ∃ octets, fileOctets c.write = .ok octets ∧
      contentOf (stripOctets octets) = .value c.write ∧ read c.write = .fits c := by
  obtain ⟨value, fits⟩ := validated
  obtain ⟨octets, written, content⟩ := exists_content (storable.nested_write.mono (by decide))
  exact ⟨octets, written, content, read_write_of_flagged (flagged_of_read fits)⟩

end FileComponents

end DesignGauge
