import DesignGauge.Proofs.Report.Persistence
import DesignGauge.Proofs.Text.Utf8
import DesignGauge.Proofs.Yaml.Nodes
import DesignGauge.Threshold.File

/-!
# Threshold files are read back

A configuration that was saved is loaded as it was, each threshold with its kind: integers of as
many digits as are read, and all doubles that are numbers, infinite ones and those that are written
with an exponent among them.

Results:
1. `ofDatum_toDatum`: a configuration is read from its own mapping.
2. `load_of_text`: what a file holds that was written by `save`.
3. `save_of_accepts`: when a configuration is saved.
4. `loaded_as_saved`: saving and loading.
-/

namespace DesignGauge.Thresholds

open Text Yaml

/-! ## Mappings of thresholds -/

theorem isNumeric_ofNumber (v : Number) : isNumeric (.ofNumber v) = true := by
  cases v with
  | int i => rfl
  | float x => rfl

theorem number?_ofNumber (v : Number) : (Datum.ofNumber v).number? = some v := by
  cases v with
  | int i => rfl
  | float x => rfl

/-- The entries of a section. -/
def fieldEntries (fields : List (String × Number)) : List (Datum × Datum) :=
  fields.map fun field => (.text field.1, .ofNumber field.2)

theorem sectionDatum_eq (fields : List (String × Number)) :
    sectionDatum fields = .map (fieldEntries fields) := by
  rw [sectionDatum, Datum.ofFields, List.map_map]
  rfl

theorem checkNumbers_fields (part : String) (fields : List (String × Number)) :
    checkNumbers part (fieldEntries fields) = .ok () := by
  induction fields with
  | nil => rfl
  | cons field fields ih =>
    rw [fieldEntries, List.map_cons, checkNumbers, if_pos (isNumeric_ofNumber field.2)]
    exact ih

theorem checkKnown_fields (title : String) {known : List String}
    {fields : List (String × Number)} (names : ∀ field ∈ fields, field.1 ∈ known) :
    checkKnown title known (fieldEntries fields) = .ok () := by
  induction fields with
  | nil => rfl
  | cons field fields ih =>
    rw [List.forall_mem_cons] at names
    rw [fieldEntries, List.map_cons, checkKnown, if_pos (List.contains_iff_mem.mpr names.1)]
    exact ih names.2

theorem checkNames_fields (title : String) {known : List String} {fields : List (String × Number)}
    (names : fields.map Prod.fst = known) :
    checkNames title known (fieldEntries fields) = .ok () := by
  rw [checkNames, if_pos]
  · refine checkKnown_fields title fun field member => ?_
    rw [← names]
    exact List.mem_map_of_mem member
  · rw [fieldEntries, List.all_map]
    exact List.all_eq_true.mpr fun field _ => rfl

/-- A threshold is found under its name. -/
theorem numberAt_of_mem {fields : List (String × Number)} (distinct : (fields.map Prod.fst).Nodup)
    {key : String} {v : Number} (member : (key, v) ∈ fields) (absent : Number) :
    numberAt (fieldEntries fields) key absent = v := by
  induction fields with
  | nil => exact nomatch member
  | cons field fields ih =>
    obtain ⟨name, w⟩ := field
    rw [List.map_cons, List.nodup_cons] at distinct
    rcases List.mem_cons.mp member with same | later
    · obtain ⟨rfl, rfl⟩ := Prod.mk.inj same
      simp [numberAt, fieldEntries, Datum.lookup?, number?_ofNumber]
    · have other : name ≠ key := by
        rintro rfl
        exact distinct.1 (List.mem_map.mpr ⟨_, later, rfl⟩)
      have skipped : numberAt (fieldEntries ((name, w) :: fields)) key absent =
          numberAt (fieldEntries fields) key absent := by
        simp [numberAt, fieldEntries, Datum.lookup?, other]
      rw [skipped]
      exact ih distinct.2 later

/-! The names of the thresholds do not depend on their values. -/

theorem smells_names (t : SmellThresholds) :
    (t.fields.map Prod.fst).Nodup ∧ ∀ name ∈ t.fields.map Prod.fst, isName name = true := by
  have names : t.fields.map Prod.fst = ({} : SmellThresholds).fields.map Prod.fst := rfl
  rw [names]
  decide +kernel

theorem highlight_names (t : HighlightThresholds) :
    (t.fields.map Prod.fst).Nodup ∧ ∀ name ∈ t.fields.map Prod.fst, isName name = true := by
  have names : t.fields.map Prod.fst = ({} : HighlightThresholds).fields.map Prod.fst := rfl
  rw [names]
  decide +kernel

theorem smells_ofEntries (t : SmellThresholds) :
    SmellThresholds.ofEntries (fieldEntries t.fields) = t := by
  have distinct := (smells_names t).1
  obtain ⟨_, _, _, _, _, _, _, _, _, _, _, _, _⟩ := t
  simp only [SmellThresholds.ofEntries]
  congr 1 <;> exact numberAt_of_mem distinct (by simp [SmellThresholds.fields]) _

theorem highlight_ofEntries (t : HighlightThresholds) :
    HighlightThresholds.ofEntries (fieldEntries t.fields) = t := by
  have distinct := (highlight_names t).1
  obtain ⟨_, _, _⟩ := t
  simp only [HighlightThresholds.ofEntries]
  congr 1 <;> exact numberAt_of_mem distinct (by simp [HighlightThresholds.fields]) _

/-- A configuration is read from its own mapping. -/
theorem ofDatum_toDatum (t : Thresholds) : ofDatum t.toDatum = .ok t := by
  have smells : sectionOf [(.text "smells", sectionDatum t.smells.fields),
      (.text "highlight", sectionDatum t.highlight.fields)] "smells" =
      .map (fieldEntries t.smells.fields) := by
    rw [← sectionDatum_eq]
    rfl
  have highlight : sectionOf [(.text "smells", sectionDatum t.smells.fields),
      (.text "highlight", sectionDatum t.highlight.fields)] "highlight" =
      .map (fieldEntries t.highlight.fields) := by
    rw [← sectionDatum_eq]
    rfl
  rw [toDatum, Datum.ofFields, List.map_cons, List.map_cons, List.map_nil, ofDatum, smells,
    highlight, checkSection, checkSection, checkNumbers_fields, checkNumbers_fields]
  have known : t.smells.fields.map Prod.fst = ({} : SmellThresholds).fields.map Prod.fst := rfl
  have knownToo : t.highlight.fields.map Prod.fst =
      ({} : HighlightThresholds).fields.map Prod.fst := rfl
  simp only [bind, Except.bind, pure, Except.pure, checkNames_fields _ known,
    checkNames_fields _ knownToo, smells_ofEntries, highlight_ofEntries]

/-! ## Files of thresholds -/

/-- The sections of a configuration. -/
def sections (t : Thresholds) : List (String × List (String × Number)) :=
  [("smells", t.smells.fields), ("highlight", t.highlight.fields)]

theorem isSection {t : Thresholds}
    (repeatable : ∀ part ∈ t.sections, ∀ field ∈ part.2, isRepeatable field.2 = true) :
    ∀ part ∈ t.sections, IsSection part := by
  have names : ∀ part ∈ t.sections, isName part.1 = true ∧ part.2 ≠ [] ∧
      (part.2.map Prod.fst).Nodup ∧ ∀ name ∈ part.2.map Prod.fst, isName name = true := by
    simp only [sections, List.forall_mem_cons]
    exact ⟨⟨by decide +kernel, nofun, smells_names t.smells⟩,
      ⟨by decide +kernel, nofun, highlight_names t.highlight⟩, nofun⟩
  intro part member
  obtain ⟨named, some, distinct, fields⟩ := names part member
  refine ⟨named, some, ?_, ?_, distinct⟩
  · exact fun field inside => fields field.1 (List.mem_map_of_mem inside)
  · exact fun field inside => isWritten_of_repeatable (repeatable part member field inside)

/-- What a file holds that a configuration was written to. -/
theorem load_of_text {t : Thresholds}
    (repeatable : ∀ part ∈ t.sections, ∀ field ∈ part.2, isRepeatable field.2 = true)
    {disk : Disk} {path : Path} (read : disk.read path = .ok (Utf8.encode t.text.toList)) :
    load disk path = .ok t := by
  have sections := isSection repeatable
  have text : t.text.toList = sectionChars t.sections := toList_sectionsText t.sections
  have chars : ∀ c ∈ t.text.toList, c.toNat < 0x80 ∧ c ≠ '\r' := by
    rw [text]
    exact fun c member => basic_of_lineChar (lineChar_sections sections c member)
  have decoded := Utf8.decodeFile_encode (fun c member => (chars c member).1)
    fun c member => (chars c member).2
  have value : Yaml.read 2 t.text.toList = .ok t.toDatum :=
    read_sections nofun sections (show ["smells", "highlight"].Nodup by decide) repeatable
  have held (unreadable : OsFault → ConfigFault) (malformed : String → ConfigFault) :
      configuration 2 disk path unreadable malformed = .ok t.toDatum := by
    rw [configuration, read]
    simp only [decoded, value]
    rfl
  rw [load, Report.present_of_read read]
  show (configuration 2 disk path _ _ >>= ofDatum) = _
  rw [held]
  exact ofDatum_toDatum t

theorem isWritable_of_repeatable {v : Number} (repeatable : isRepeatable v = true) :
    (Datum.ofNumber v).isWritable = true := by
  cases v with
  | int i =>
    have short : (digitChars i.natAbs).length ≤ Reading.digitLimit := of_decide_eq_true repeatable
    have value := (allDigits_digitChars i.natAbs).natOf_lt_pow short
    rw [Reading.natOf_digitChars] at value
    rw [Datum.ofNumber, Datum.isWritable, decide_eq_true_eq]
    exact value
  | float x => rfl

/-- A configuration without overlong integers is saved wherever a file can be written. -/
theorem save_of_accepts {t : Thresholds} (writable : t.isWritable = true) {disk : Disk}
    {path : Path} (named : path.parts ≠ []) (ordinary : path.name ≠ "..")
    (accepts : disk.Accepts path.parent path) : (save disk t path).2 = .ok () := by
  obtain ⟨made, location, folders, located, notFolder, room⟩ := accepts
  have child : path = Disk.childPath path.parent path.name := by
    rw [Disk.childPath, Path.parent, Path.name, List.getLastD_eq_getLast?,
      List.getLast?_eq_some_getLast named, Option.getD_some, List.dropLast_append_getLast named]
  have opened : made.openAt path = .ok location := by
    rw [child] at located ⊢
    exact Disk.openAt_of_locate ordinary located notFolder
  have same := Disk.outages_makeFolders disk path.parent
  rw [folders] at same
  rw [← same] at room
  rw [save, folders]
  simp only [writable, if_true, Disk.write_of_openAt opened room]

theorem load_of_saved {t : Thresholds}
    (repeatable : ∀ part ∈ t.sections, ∀ field ∈ part.2, isRepeatable field.2 = true)
    {disk : Disk} {path : Path} (saved : (save disk t path).2 = .ok ()) :
    load (save disk t path).1 path = .ok t := by
  unfold save at saved ⊢
  split at saved
  · exact nomatch saved
  · next made _ =>
    split at saved
    · next writable =>
      rw [if_pos writable]
      rcases written : made.write path (Utf8.encode t.text.toList) with ⟨changed, fault | _⟩
      · rw [written] at saved
        exact nomatch saved
      · obtain ⟨location, opened, rfl⟩ := Disk.write_eq_ok written
        exact load_of_text repeatable (Disk.read_withFile opened _)
    · split at saved
      · exact nomatch saved
      · exact nomatch saved

/-- A configuration of integers that are not too long and of doubles that are numbers is saved
wherever a file can be written, and once saved it is loaded as it was, each threshold with its
kind. -/
theorem loaded_as_saved {t : Thresholds}
    (repeatable : ∀ field ∈ t.smells.fields ++ t.highlight.fields, isRepeatable field.2 = true)
    (disk : Disk) (path : Path) :
    (path.parts ≠ [] → path.name ≠ ".." → disk.Accepts path.parent path →
      (save disk t path).2 = .ok ()) ∧
    ((save disk t path).2 = .ok () → load (save disk t path).1 path = .ok t) := by
  have parts : ∀ part ∈ t.sections, ∀ field ∈ part.2, isRepeatable field.2 = true := by
    have both := List.forall_mem_append.mp repeatable
    simp only [sections, List.forall_mem_cons]
    exact ⟨both.1, both.2, nofun⟩
  have writable : t.isWritable = true :=
    List.all_eq_true.mpr fun field member => isWritable_of_repeatable (repeatable field member)
  exact ⟨save_of_accepts writable, load_of_saved parts⟩

/-- An integer of as many digits as are read, infinite doubles, negative zero, the least double, and
one that is written with an exponent although it is whole. -/
def farthest : Thresholds where
  smells := {
    brainLoc := .int (-10 ^ 4299)
    godTcc := .float (.infinite true)
    dataWoc := .float (.infinite false)
    splitTcc := .float (.zero true)
    splitWoc := .float (Double.ofDecimal false 5 (-324)) }
  highlight := { godWmc := .float (Double.ofDecimal true 1 22) }

theorem farthest_loaded :
    (∀ field ∈ farthest.smells.fields ++ farthest.highlight.fields,
      isRepeatable field.2 = true) ∧
    Disk.Accepts { nodes := [] } ⟨"", ["o"]⟩ ⟨"", ["o", "t.yaml"]⟩ ∧
    (save { nodes := [] } farthest ⟨"", ["o", "t.yaml"]⟩).2 = .ok () ∧
    load (save { nodes := [] } farthest ⟨"", ["o", "t.yaml"]⟩).1 ⟨"", ["o", "t.yaml"]⟩ =
      .ok farthest := by
  have repeatable : ∀ field ∈ farthest.smells.fields ++ farthest.highlight.fields,
      isRepeatable field.2 = true := by decide +kernel
  have accepts : Disk.Accepts { nodes := [] } ⟨"", ["o"]⟩ ⟨"", ["o", "t.yaml"]⟩ :=
    ⟨_, ["o", "t.yaml"], rfl, rfl, fun time => nofun, rfl⟩
  have kept := loaded_as_saved repeatable { nodes := [] } ⟨"", ["o", "t.yaml"]⟩
  have saved := kept.1 nofun (by decide) accepts
  exact ⟨repeatable, accepts, saved, kept.2 saved⟩

end DesignGauge.Thresholds
