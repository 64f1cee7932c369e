import DesignGauge.Proofs.Wire.Lookup
import DesignGauge.Report.Basic

/-!
# Records read from their written form

Readers admit several spellings of a record: two spellings of a key, null for an empty list, a list
of modifiers for a visibility, numbers and flags as texts. Writers give one spelling of each record,
and the reader gets the record back from it. The only record that a reader computes a part of is the
group, whose fields carry the flags that its methods give them.

Results:
1. `member_written`, `required_written`: a part is read from what was written under its first
   spelling.
2. `Position.read_write`, `ClassDecl.read_write`, `MethodDecl.read_write`, `FieldDecl.read_write`,
   `MetricEntry.read_write`, `Report.read_write`: every record is read back from its written form.
3. `DeclGroup.read_write_iff`, `FileComponents.read_write_iff`: groups are read back exactly when
   the flags of their fields are those that their methods give, and so is all that was ever read.
4. `records_roundTrip`: whatever was read is read again from its written form.
-/

namespace DesignGauge

open Wire

namespace Wire

variable {α β : Type}

/-! ## Readings that fit -/

namespace Checked

@[simp]
theorem map_fits (f : α → β) (a : α) : f <$> Checked.fits a = Checked.fits (f a) := rfl

@[simp]
theorem fits_seq (f : α → β) (c : Checked α) : Checked.fits f <*> c = f <$> c := rfl

@[simp]
theorem under_fits (step : Step) (a : α) : (Checked.fits a).under step = .fits a := rfl

theorem map_eq_fits_iff {f : α → β} {c : Checked α} {b : β} :
    f <$> c = .fits b ↔ ∃ a, c = .fits a ∧ f a = b := by
  cases c with
  | fits a => simp
  | issues all => exact ⟨nofun, nofun⟩
  | unkeyable kind => exact ⟨nofun, nofun⟩

theorem seq_eq_fits_iff {f : Checked (α → β)} {c : Checked α} {b : β} :
    f <*> c = .fits b ↔ ∃ g a, f = .fits g ∧ c = .fits a ∧ g a = b := by
  cases f with
  | fits g => simp [map_eq_fits_iff]
  | issues all => cases c <;> exact ⟨nofun, nofun⟩
  | unkeyable kind => exact ⟨nofun, nofun⟩

theorem under_eq_fits_iff {step : Step} {c : Checked α} {a : α} :
    c.under step = .fits a ↔ c = .fits a := by
  cases c with
  | fits b => rfl
  | issues all => exact ⟨nofun, nofun⟩
  | unkeyable kind => rfl

end Checked

theorem record_eq_fits_iff {read : Entries → Checked α} {value : Datum} {a : α} :
    record read value = .fits a ↔ ∃ entries, value = .map entries ∧ read entries = .fits a := by
  cases value <;> simp [record, Checked.misfit]

/-- The items of a list that fits were each read from an item. -/
theorem read_of_mem_itemsFrom {read : Datum → Checked α} {index : Nat} {values : List Datum}
    {items : List α} (fits : itemsFrom read index values = .fits items) {a : α}
    (member : a ∈ items) : ∃ value ∈ values, read value = .fits a := by
  induction values generalizing index items with
  | nil =>
    cases fits
    exact absurd member List.not_mem_nil
  | cons value rest ih =>
    rw [itemsFrom, Checked.seq_eq_fits_iff] at fits
    obtain ⟨_, later, first, fitsLater, rfl⟩ := fits
    obtain ⟨head, fitsHead, rfl⟩ := Checked.map_eq_fits_iff.mp first
    rcases List.mem_cons.mp member with rfl | member
    · exact ⟨value, List.mem_cons_self, Checked.under_eq_fits_iff.mp fitsHead⟩
    · obtain ⟨item, present, fits⟩ := ih fitsLater member
      exact ⟨item, List.mem_cons_of_mem _ present, fits⟩

theorem read_of_mem_list {read : Datum → Checked α} {value : Datum} {items : List α}
    (fits : list read value = .fits items) {a : α} (member : a ∈ items) :
    ∃ values, (value = .list values ∨ value = .tuple values) ∧
      ∃ item ∈ values, read item = .fits a := by
  cases value with
  | list values => exact ⟨values, .inl rfl, read_of_mem_itemsFrom fits member⟩
  | tuple values => exact ⟨values, .inr rfl, read_of_mem_itemsFrom fits member⟩
  | _ => exact absurd fits nofun

/-- A part that fits was read from the value of an entry, unless it is absent. -/
theorem read_of_member {entries : Entries} {spellings : List String} {absent : α}
    {read : Datum → Checked α} {a : α} (fits : member entries spellings absent read = .fits a) :
    a = absent ∨ ∃ entry ∈ entries, read entry.2 = .fits a := by
  unfold member at fits
  split at fits
  · next name value spelled =>
    obtain ⟨_, entry, present, same⟩ := mem_of_spelled? spelled
    exact .inr ⟨entry, present, same ▸ Checked.under_eq_fits_iff.mp fits⟩
  · cases fits
    exact .inl rfl

/-- The entries of a mapping with text keys. -/
def written (fields : List (String × Datum)) : Entries :=
  fields.map fun field => (.text field.1, field.2)

theorem record_ofFields (read : Entries → Checked α) (fields : List (String × Datum)) :
    record read (.ofFields fields) = read (written fields) := rfl

theorem lookup?_written (name : String) (fields : List (String × Datum)) :
    Datum.lookup? name (written fields) = fields.lookup name := by
  induction fields with
  | nil => rfl
  | cons field rest ih =>
    obtain ⟨key, value⟩ := field
    unfold Datum.lookup? written at ih ⊢
    rw [List.map_cons, List.find?_cons, List.lookup_cons]
    by_cases same : key = name
    · subst same
      simp
    · have other : (name == key) = false := beq_eq_false_iff_ne.mpr (Ne.symm same)
      have differs : (key == name) = false := beq_eq_false_iff_ne.mpr same
      simp only [other, differs]
      exact ih

/-- A part is read from what was written under its first spelling. -/
theorem member_written (fields : List (String × Datum)) (name : String) (more : List String)
    (absent : α) (read : Datum → Checked α) :
    member (written fields) (name :: more) absent read =
      match fields.lookup name with
      | some value => (read value).under (.member name)
      | none => member (written fields) more absent read := by
  simp only [member, spelled?, lookup?_written]
  cases fields.lookup name <;> rfl

/-- So is a part that must be there. -/
theorem required_written (fields : List (String × Datum)) (name : String) (more : List String)
    (read : Datum → Checked α) {value : Datum} (found : fields.lookup name = some value) :
    required (written fields) (name :: more) read = (read value).under (.member name) := by
  simp only [required, spelled?, lookup?_written, found]

/-- A list of written items is read as what the items are read as. -/
theorem itemsFrom_map {β : Type} {read : Datum → Checked β} {write : α → Datum} {back : α → β}
    {items : List α} (each : ∀ a ∈ items, read (write a) = .fits (back a)) (index : Nat) :
    itemsFrom read index (items.map write) = .fits (items.map back) := by
  induction items generalizing index with
  | nil => rfl
  | cons a rest ih =>
    have later := ih (fun b member => each b (List.mem_cons_of_mem a member)) (index + 1)
    simp [itemsFrom, each a List.mem_cons_self, later]

/-- A list is read back when its items are. -/
theorem list_map {read : Datum → Checked α} {write : α → Datum} {items : List α}
    (each : ∀ a ∈ items, read (write a) = .fits a) :
    list read (.list (items.map write)) = .fits items := by
  have back : itemsFrom read 0 (items.map write) = .fits (items.map id) := itemsFrom_map each 0
  rwa [List.map_id] at back

/-- A value that may be absent is read back, unless it is written as null. -/
theorem nullable_ofOption {read : Datum → Checked α} {write : α → Datum}
    (each : ∀ a, read (write a) = .fits a) (marked : ∀ a, write a ≠ .null) (value : Option α) :
    nullable read (ofOption write value) = .fits value := by
  cases value with
  | none => rfl
  | some a =>
    have given : nullable read (write a) = some <$> read (write a) := by
      unfold nullable
      split
      · next null => exact absurd null (marked a)
      · rfl
    rw [ofOption, given, each, Checked.map_fits]

@[simp]
theorem textList_ofTexts (texts : List String) : textList (ofTexts texts) = .fits texts :=
  @list_map String text .text texts fun _ _ => rfl

@[simp]
theorem nullable_text (value : Option String) :
    nullable text (ofOption .text value) = .fits value :=
  @nullable_ofOption String text .text (fun _ => rfl) (fun _ => nofun) value

@[simp]
theorem number_ofNumber (value : Number) : number (.ofNumber value) = .fits value := by
  cases value <;> rfl

end Wire

/-! ## Declarations -/

@[simp]
theorem Position.read_write (p : Position) : read (write p) = .fits p := by
  simp [read, write, record_ofFields, member_written, List.lookup_cons, whole]

@[simp]
theorem Position.nullable_write (p : Option Position) :
    nullable read (ofOption write p) = .fits p :=
  nullable_ofOption read_write (fun _ => nofun) p

@[simp]
theorem Access.read_word (a : Access) : read (.text a.word) = .fits a := by
  cases a <;> rfl

@[simp]
theorem ClassDecl.read_write (c : ClassDecl) : read (write c) = .fits c := by
  simp [read, write, record_ofFields, member_written, List.lookup_cons, text, flag]

@[simp]
theorem ClassDecl.nullable_write (c : Option ClassDecl) :
    nullable read (ofOption write c) = .fits c :=
  nullable_ofOption read_write (fun _ => nofun) c

@[simp]
theorem MethodDecl.read_write (m : MethodDecl) : read (write m) = .fits m := by
  simp [read, write, record_ofFields, member_written, List.lookup_cons, text, flag,
    methodModifiers]

@[simp]
theorem FieldDecl.read_write (f : FieldDecl) : read (write f) = .fits f := by
  simp [read, write, record_ofFields, member_written, List.lookup_cons, text, flag, textOrNull]

/-! ## Groups and their flags -/

namespace DeclGroup

/-- The fields carry the flags that the methods beside them give. -/
def Flagged (g : DeclGroup) : Prop :=
  g.fields.map (FieldDecl.encapsulatedBy g.methods) = g.fields

instance (g : DeclGroup) : Decidable g.Flagged :=
  inferInstanceAs (Decidable (g.fields.map (FieldDecl.encapsulatedBy g.methods) = g.fields))

theorem flagged_make (fileName name : String) (classes : List ClassDecl)
    (methods : List MethodDecl) (fields : List FieldDecl) :
    (make fileName name classes methods fields).Flagged := by
  simp only [Flagged, make, List.map_map]
  rfl

/-- Whatever the value says, the group read from it carries computed flags. -/
theorem flagged_of_read {value : Datum} {g : DeclGroup} (fits : read value = .fits g) :
    g.Flagged := by
  obtain ⟨entries, _, parts⟩ := record_eq_fits_iff.mp fits
  obtain ⟨_, fields, first₄, _, rfl⟩ := Checked.seq_eq_fits_iff.mp parts
  obtain ⟨_, methods, first₃, _, rfl⟩ := Checked.seq_eq_fits_iff.mp first₄
  obtain ⟨_, classes, first₂, _, rfl⟩ := Checked.seq_eq_fits_iff.mp first₃
  obtain ⟨_, name, first₁, _, rfl⟩ := Checked.seq_eq_fits_iff.mp first₂
  obtain ⟨fileName, _, rfl⟩ := Checked.map_eq_fits_iff.mp first₁
  exact flagged_make fileName name classes methods fields

/-- A written group is read with its flags computed anew. -/
theorem read_write (g : DeclGroup) :
    read (write g) = .fits (make g.fileName g.name g.classes g.methods g.fields) := by
  have classes : list ClassDecl.read (.list (g.classes.map ClassDecl.write)) = .fits g.classes :=
    list_map fun c _ => c.read_write
  have methods : list MethodDecl.read (.list (g.methods.map MethodDecl.write)) = .fits g.methods :=
    list_map fun m _ => m.read_write
  have fields : list FieldDecl.read (.list (g.fields.map FieldDecl.write)) = .fits g.fields :=
    list_map fun f _ => f.read_write
  simp [read, write, record_ofFields, member_written, List.lookup_cons, text, classes, methods,
    fields]

/-- A group is read back exactly when its flags are computed. -/
theorem read_write_iff (g : DeclGroup) : read (write g) = .fits g ↔ g.Flagged := by
  rw [read_write, Checked.fits.injEq]
  obtain ⟨fileName, name, classes, methods, fields⟩ := g
  simp [make, Flagged]

end DeclGroup

namespace FileComponents

/-- The fields of all groups carry the flags that the methods beside them give. -/
def Flagged (c : FileComponents) : Prop := ∀ g ∈ c.groups, g.Flagged

instance (c : FileComponents) : Decidable c.Flagged :=
  inferInstanceAs (Decidable (∀ g ∈ c.groups, g.Flagged))

theorem flagged_of_read {value : Datum} {c : FileComponents} (fits : read value = .fits c) :
    c.Flagged := by
  obtain ⟨entries, _, parts⟩ := record_eq_fits_iff.mp fits
  obtain ⟨groups, fitGroups, rfl⟩ := Checked.map_eq_fits_iff.mp parts
  intro g present
  rcases read_of_member fitGroups with rfl | ⟨entry, _, fitsList⟩
  · exact absurd present List.not_mem_nil
  · obtain ⟨_, _, _, _, fit⟩ := read_of_mem_list fitsList present
    exact DeclGroup.flagged_of_read fit

theorem read_write_of_flagged {c : FileComponents} (flagged : c.Flagged) :
    read (write c) = .fits c := by
  have groups := list_map fun g present => (DeclGroup.read_write_iff g).mpr (flagged g present)
  simp [read, write, record_ofFields, member_written, groups]

/-- The components of a file are read back exactly when all flags are computed. -/
theorem read_write_iff (c : FileComponents) : read (write c) = .fits c ↔ c.Flagged :=
  ⟨flagged_of_read, read_write_of_flagged⟩

end FileComponents

/-! ## Reports -/

theorem MetricEntry.read_write (e : MetricEntry) : read (write e) = .fits e := by
  rw [read, write, record_ofFields, required_written _ _ _ _ rfl, required_written _ _ _ _ rfl]
  simp [Wire.text]

theorem Report.read_write (r : Report) : read (write r) = .fits r := by
  have metrics :
      list MetricEntry.read (.list (r.metrics.map MetricEntry.write)) = .fits r.metrics :=
    list_map fun e _ => e.read_write
  rw [read, write, record_ofFields, required_written _ _ _ _ rfl]
  simp [member_written, List.lookup_cons, Wire.text, metrics]

/-! ## What was read is read again -/

namespace Wire

/-- What a reader makes of any value it makes again of the written form of that; so writing what was
read gives a form that stays as it is when it is read and written once more. -/
structure RoundTrips {α : Type} (read : Datum → Checked α) (write : α → Datum) : Prop where
  read_again : ∀ value a, read value = .fits a → read (write a) = .fits a
  write_again : ∀ value form, write <$> read value = .fits form → write <$> read form = .fits form

theorem roundTrips_of_read_again {α : Type} {read : Datum → Checked α} {write : α → Datum}
    (again : ∀ value a, read value = .fits a → read (write a) = .fits a) :
    RoundTrips read write := by
  refine ⟨again, fun value form given => ?_⟩
  obtain ⟨a, fits, rfl⟩ := Checked.map_eq_fits_iff.mp given
  rw [again value a fits, Checked.map_fits]

theorem roundTrips_of_read_write {α : Type} {read : Datum → Checked α} {write : α → Datum}
    (back : ∀ a, read (write a) = .fits a) : RoundTrips read write :=
  roundTrips_of_read_again fun _ a _ => back a

end Wire

/-- All eight records of the wire format round-trip: what any value is read as is read again, equal
in every part, from its written form. -/
theorem records_roundTrip :
    RoundTrips Position.read Position.write ∧
    RoundTrips ClassDecl.read ClassDecl.write ∧
    RoundTrips MethodDecl.read MethodDecl.write ∧
    RoundTrips FieldDecl.read FieldDecl.write ∧
    RoundTrips DeclGroup.read DeclGroup.write ∧
    RoundTrips FileComponents.read FileComponents.write ∧
    RoundTrips MetricEntry.read MetricEntry.write ∧
    RoundTrips Report.read Report.write := by
  refine ⟨roundTrips_of_read_write Position.read_write,
    roundTrips_of_read_write ClassDecl.read_write, roundTrips_of_read_write MethodDecl.read_write,
    roundTrips_of_read_write FieldDecl.read_write, roundTrips_of_read_again ?_,
    roundTrips_of_read_again ?_, roundTrips_of_read_write MetricEntry.read_write,
    roundTrips_of_read_write Report.read_write⟩
  · intro value g fits
    exact (DeclGroup.read_write_iff g).mpr (DeclGroup.flagged_of_read fits)
  · intro value c fits
    exact FileComponents.read_write_of_flagged (FileComponents.flagged_of_read fits)

/-- Components in mixed spellings: both styles of keys, null for a list, modifiers as a list,
numbers as a text and a flag, an unknown key, and a flag that its methods contradict. -/
def mixedValue : Datum :=
  .ofFields [("classes", .list [.ofFields [
    ("file_name", .text "src/Account.java"),
    ("methods", .list [.ofFields [
      ("name", .text "getBalance"),
      ("modifiers", .list [.text "static", .text "protected"]),
      ("params", .null),
      ("is_accessor", .text "Yes")]]),
    ("fields", .list [.ofFields [
      ("name", .text "balance"),
      ("modifiers", .text "private"),
      ("is_encapsulated", .int 0),
      ("startPosition", .ofFields [("row", .text " 3.0 "), ("column", .bool true)])]]),
    ("colour", .text "red")]])]

/-- The components that `mixedValue` is read as. -/
def mixedComponents : FileComponents where
  groups := [{
    fileName := "src/Account.java"
    methods := [{ name := "getBalance", modifiers := "protected", isAccessor := true }]
    fields := [{
      name := "balance"
      modifiers := "private"
      isEncapsulated := true
      start := some ⟨3, 1⟩ }] }]

/-- The mixed components are read from their written form as well, with the computed flag. -/
theorem mixedComponents_roundTrip :
    FileComponents.read mixedValue = .fits mixedComponents ∧
    FileComponents.read mixedComponents.write = .fits mixedComponents := by
  have fits : FileComponents.read mixedValue = .fits mixedComponents := rfl
  exact ⟨fits, records_roundTrip.2.2.2.2.2.1.read_again mixedValue mixedComponents fits⟩

end DesignGauge
