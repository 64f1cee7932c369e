import DesignGauge.Proofs.Report.Loading
import DesignGauge.Proofs.Report.Saving
import DesignGauge.Proofs.Store.Saving

/-!
# What a report file keeps

A report is saved and loaded without loss, or it is clear that something was lost. Integers beyond
64 bits have no place in a file: saving such a report fails, and no file is touched. A double that
is not finite is written as null, and null is no metric value, so that the file is no report when it
is loaded. All else comes back as it was, each value with its kind.

Texts must not hold half of a surrogate pair, and the file system must accept the name of the file.

Results:
1. `fileOctets_stored`: what is not finite is written as null.
2. `read_stored_not_fits`: a report with such a value is not read from its file.
3. `save_of_accepts`: when a report is saved.
4. `kept_or_refused`: how saving and loading end, for every report.
-/

namespace DesignGauge

open Text Json Wire

/-! ## Writing a file -/

namespace Disk

/-- A file can be written in a folder: the folder is there or can be made, the path of the file
leads to a place where no folder stands, and the device has room there. -/
def Accepts (disk : Disk) (folder path : Path) : Prop :=
  ∃ made location, disk.makeFolders folder = (made, .ok ()) ∧ made.locate path = .ok location ∧
    (∀ time, made.node? location ≠ some (.folder time)) ∧ disk.outages.lookup location = none

theorem entered_of_locate {disk : Disk} {folder : Path} {name : String} {location : Location}
    (located : disk.locate (childPath folder name) = .ok location) :
    ∃ parent, disk.enter parent name = .ok location := by
  have walked := walk_of_locate located
  rw [show (childPath folder name).parts = folder.parts ++ [name] from rfl, walk_concat] at walked
  obtain ⟨parent, _, entered⟩ := bind_eq_ok_iff.mp walked
  exact ⟨parent, entered⟩

/-- A name that is too long leads nowhere. -/
theorem size_of_locate {disk : Disk} {folder : Path} {name : String} {location : Location}
    (ordinary : name ≠ "..") (located : disk.locate (childPath folder name) = .ok location) :
    octetCount name ≤ nameLimit := by
  obtain ⟨parent, entered⟩ := entered_of_locate located
  unfold enter at entered
  split at entered
  · exact nomatch entered
  · exact nomatch entered
  · rw [if_neg (by simpa using ordinary)] at entered
    split at entered
    · exact nomatch entered
    · next fits => exact Nat.le_of_not_lt fits

/-- A file can be opened where a path leads, unless a folder stands there. -/
theorem openAt_of_locate {disk : Disk} {folder : Path} {name : String} {location : Location}
    (ordinary : name ≠ "..") (located : disk.locate (childPath folder name) = .ok location)
    (notFolder : ∀ time, disk.node? location ≠ some (.folder time)) :
    disk.openAt (childPath folder name) = .ok location := by
  obtain ⟨parent, entered⟩ := entered_of_locate located
  have child := enter_child ordinary entered
  have above : ∃ node, disk.node? location.dropLast = some node := by
    rw [child, List.dropLast_concat]
    unfold enter at entered
    split at entered
    · exact nomatch entered
    · exact nomatch entered
    · next time found => exact ⟨_, found⟩
  obtain ⟨node, there⟩ := above
  unfold openAt
  rw [located]
  simp only [bind, Except.bind, there]
  rfl

end Disk

/-! ## What a file holds of a value -/

/-- An integer of 64 bits, or a double. -/
def Number.isStorable : Number → Bool
  | .int i => isWord i
  | .float _ => true

/-- A value as a file keeps it: what is not finite becomes null. -/
def MetricEntry.stored (e : MetricEntry) : Datum :=
  .ofFields [("name", .text e.name),
    ("value", if e.value.isFinite then .ofNumber e.value else .null)]

namespace Report

/-- A report as a file keeps it. -/
def stored (r : Report) : Datum :=
  .ofFields [("fullPath", .text r.fullPath), ("folderName", .text r.folderName),
    ("metrics", .list (r.metrics.map MetricEntry.stored))]

/-- The texts of a report. -/
def texts (r : Report) : List String :=
  r.fullPath :: r.folderName :: r.metrics.map MetricEntry.name

theorem write_value (depth : Nat) (value : Number) :
    Json.write .file depth (if value.isFinite then .ofNumber value else .null) =
      Json.write .file depth (.ofNumber value) := by
  cases value with
  | int i => rfl
  | float x =>
    cases x with
    | finite x => rfl
    | infinite negative => rfl
    | nan => rfl

theorem write_entry (depth : Nat) (e : MetricEntry) :
    Json.write .file depth e.stored = Json.write .file depth e.write := by
  unfold MetricEntry.stored MetricEntry.write
  simp only [Datum.ofFields, List.map_cons, List.map_nil, Json.write, writeMembers, write_value]

theorem writeItems_entries (depth : Nat) (entries : List MetricEntry) :
    writeItems .file depth (entries.map MetricEntry.stored) =
      writeItems .file depth (entries.map MetricEntry.write) := by
  induction entries with
  | nil => rfl
  | cons e rest ih => rw [List.map_cons, List.map_cons, writeItems, writeItems, write_entry, ih]

/-- What is not finite is written as null. -/
theorem fileOctets_stored (r : Report) : fileOctets r.stored = fileOctets r.write := by
  have texts : fileText r.stored = fileText r.write := by
    unfold fileText Report.stored Report.write
    simp only [Datum.ofFields, List.map_cons, List.map_nil, Json.write, writeMembers,
      writeItems_entries]
  rw [fileOctets, fileOctets, texts]

theorem nested_stored {r : Report} (whole : ∀ s ∈ r.texts, isWhole s = true)
    (storable : ∀ e ∈ r.metrics, e.value.isStorable = true) : Nested Exact 3 r.stored := by
  simp only [texts, List.forall_mem_cons, List.forall_mem_map] at whole
  obtain ⟨path, folder, names⟩ := whole
  refine nested_record (by simp only [List.map_cons, List.map_nil]; decide) ?_
  simp only [List.forall_mem_cons, List.not_mem_nil, false_implies, implies_true, and_true]
  refine ⟨nested_text path, nested_text folder, nested_list fun e member => ?_⟩
  refine nested_record (by simp only [List.map_cons, List.map_nil]; decide) ?_
  simp only [List.forall_mem_cons, List.not_mem_nil, false_implies, implies_true, and_true]
  refine ⟨nested_text (names e member), .leaf ?_⟩
  have word := storable e member
  cases value : e.value with
  | int i =>
    rw [value] at word
    exact exact_int word
  | float x =>
    cases x with
    | finite x => exact rfl
    | infinite negative => trivial
    | nan => trivial

/-! ## Null is no metric value -/

/-- Of a list that fits every item fits. -/
theorem fits_of_mem_itemsFrom {α : Type} {read : Datum → Checked α} {index : Nat}
    {values : List Datum} {items : List α} (fits : itemsFrom read index values = .fits items)
    {value : Datum} (member : value ∈ values) : ∃ a, read value = .fits a := by
  induction values generalizing index items with
  | nil => exact absurd member List.not_mem_nil
  | cons first rest ih =>
    rw [itemsFrom, Checked.seq_eq_fits_iff] at fits
    obtain ⟨_, later, here, fitsLater, rfl⟩ := fits
    obtain ⟨head, fitsHead, rfl⟩ := Checked.map_eq_fits_iff.mp here
    rcases List.mem_cons.mp member with rfl | member
    · exact ⟨head, Checked.under_eq_fits_iff.mp fitsHead⟩
    · exact ih fitsLater member

theorem entry_not_fits {e : MetricEntry} (notFinite : e.value.isFinite = false)
    (read : MetricEntry) : MetricEntry.read e.stored ≠ .fits read := by
  intro fits
  rw [MetricEntry.stored, notFinite, if_neg Bool.false_ne_true, MetricEntry.read, record_ofFields,
    Checked.seq_eq_fits_iff] at fits
  obtain ⟨_, value, _, fitsValue, _⟩ := fits
  rw [required_written _ _ _ _ rfl, Checked.under_eq_fits_iff] at fitsValue
  cases fitsValue

/-- A report with a value that is not finite is not read from its file. -/
theorem read_stored_not_fits {r : Report} {e : MetricEntry} (member : e ∈ r.metrics)
    (notFinite : e.value.isFinite = false) (read : Report) : Report.read r.stored ≠ .fits read := by
  intro fits
  rw [stored, Report.read, record_ofFields, Checked.seq_eq_fits_iff] at fits
  obtain ⟨_, metrics, _, fitsMetrics, _⟩ := fits
  rw [member_written] at fitsMetrics
  have items := Checked.under_eq_fits_iff.mp fitsMetrics
  obtain ⟨entry, fitsEntry⟩ := fits_of_mem_itemsFrom items (List.mem_map_of_mem member)
  exact entry_not_fits notFinite entry fitsEntry

/-! ## Saving and loading -/

/-- When a report is saved, and what its file holds then. -/
theorem save_of_accepts {disk : Disk} {r : Report} {folder : Path}
    (whole : ∀ s ∈ r.texts, isWhole s = true)
    (accepts : disk.Accepts folder (pathIn folder r.fullPath))
    (storable : ∀ e ∈ r.metrics, e.value.isStorable = true) :
    (r.save disk folder).result = .ok (pathIn folder r.fullPath) ∧
    (r.save disk folder).disk.present (pathIn folder r.fullPath) = .ok true ∧
    contentAt (r.save disk folder).disk (pathIn folder r.fullPath) = .ok (.value r.stored) := by
  obtain ⟨octets, tree, holds⟩ :=
    exists_content ((nested_stored whole storable).mono (show 3 ≤ 1024 by decide))
  have tree' : fileOctets r.write = .ok octets := (fileOctets_stored r).symm.trans tree
  obtain ⟨made, location, folders, located, notFolder, room⟩ := accepts
  have child : pathIn folder r.fullPath = Disk.childPath folder (fileNameOf r.fullPath) :=
    below_fileNameOf folder r.fullPath
  have opened : made.openAt (pathIn folder r.fullPath) = .ok location := by
    rw [child] at located ⊢
    exact Disk.openAt_of_locate (Store.fileNameOf_ordinary r.fullPath) located notFolder
  have room' : made.outages.lookup location = none := by
    have same := Disk.outages_makeFolders disk folder
    rw [folders] at same
    rw [same, room]
  have written := Disk.write_of_openAt opened room' octets
  have saved : (r.save disk folder).result = .ok (pathIn folder r.fullPath) ∧
      (r.save disk folder).disk = made.withFile location octets := by
    unfold save
    simp only [folders, tree', written]
    exact ⟨trivial, trivial⟩
  have read := Disk.read_withFile opened octets
  rw [saved.2]
  refine ⟨saved.1, present_of_read read, ?_⟩
  rw [contentAt_of_read read]
  exact congrArg Except.ok holds

/-- A file that holds no report gives none when it is loaded. -/
theorem load_of_not_fits {disk : Disk} {path : Path} {value : Datum}
    (there : disk.present path = .ok true)
    (holds : contentAt disk path = .ok (.value value)) (whole : first? value = some value)
    (other : ∀ read, Report.read value ≠ .fits read) : (load disk path).1 = .ok none := by
  unfold load
  rw [there]
  simp only [holds, whole]
  split
  · next report fits => exact absurd fits (other report)
  · rfl
  · next broken =>
    have safe := read_safe value
    rw [broken] at safe
    exact nomatch safe

/-- A report with an integer beyond 64 bits is not saved, and no file is touched. -/
theorem save_refused {disk : Disk} {r : Report} {folder : Path} {e : MetricEntry}
    (member : e ∈ r.metrics) (beyond : e.value.isStorable = false) :
    (∃ fault, (r.save disk folder).result = .error fault) ∧
    ∀ location, (r.save disk folder).disk.fileAt? location = disk.fileAt? location := by
  rcases save_cases disk r folder with ⟨fault, failed, left⟩ | ⟨octets, _, tree, _⟩
  · refine ⟨⟨fault, failed⟩, fun location => ?_⟩
    rw [left]
    exact (Disk.changedAt_makeFolders disk folder).files location id
  · cases value : e.value with
    | int i =>
      rw [value, Number.isStorable, isWord, Bool.and_eq_false_iff, decide_eq_false_iff_not,
        decide_eq_false_iff_not] at beyond
      have range := inRange_of_fileOctets tree member value
      rcases beyond with low | high
      · exact absurd range.1 low
      · exact absurd range.2 high
    | float x =>
      rw [value] at beyond
      cases beyond

/-- How saving and loading end. Integers of 64 bits and finite doubles come back, each with its
kind; an integer beyond 64 bits is refused before any file is touched; a value that is not finite
leaves a file that is no report. -/
theorem kept_or_refused (disk : Disk) (r : Report) (folder : Path) :
    let target := pathIn folder r.fullPath
    let saved := r.save disk folder
    ((∀ s ∈ r.texts, isWhole s = true) → disk.Accepts folder target →
      (∀ e ∈ r.metrics, e.value.isStorable = true) →
        saved.result = .ok target ∧ saved.disk.present target = .ok true ∧
        ((∀ e ∈ r.metrics, e.value.isFinite = true) →
          load saved.disk target = (.ok (some r), [])) ∧
        ((∃ e ∈ r.metrics, e.value.isFinite = false) →
          (load saved.disk target).1 = .ok none)) ∧
    ((∃ e ∈ r.metrics, e.value.isStorable = false) →
      (∃ fault, saved.result = .error fault) ∧
      ∀ location, saved.disk.fileAt? location = disk.fileAt? location) := by
  refine ⟨fun whole accepts storable => ?_, fun ⟨e, member, beyond⟩ => save_refused member beyond⟩
  obtain ⟨done, there, holds⟩ := save_of_accepts whole accepts storable
  refine ⟨done, there, fun finite => load_of_save finite done, ?_⟩
  rintro ⟨e, member, notFinite⟩
  exact load_of_not_fits there holds rfl (read_stored_not_fits member notFinite)

/-- Integers at both ends of their range, a double that looks like an integer, negative zero, and a
name that stands twice. -/
def outermost : Report :=
  ⟨"p/Edge.java", "p", [⟨"LOC", .int (-signedBound)⟩, ⟨"LOC", .int (unsignedBound - 1)⟩,
    ⟨"WOC", .float (.finite ⟨false, 2 ^ 52, -52, by decide⟩)⟩, ⟨"", .float (.zero true)⟩]⟩

theorem outermost_kept :
    (∀ s ∈ outermost.texts, isWhole s = true) ∧
    Disk.Accepts { nodes := [] } ⟨"", ["o"]⟩ (pathIn ⟨"", ["o"]⟩ outermost.fullPath) ∧
    load (outermost.save { nodes := [] } ⟨"", ["o"]⟩).disk ⟨"", ["o", "Edge.json"]⟩ =
      (.ok (some outermost), []) := by
  have whole : ∀ s ∈ outermost.texts, isWhole s = true := by decide +kernel
  have accepts : Disk.Accepts { nodes := [] } ⟨"", ["o"]⟩
      (pathIn ⟨"", ["o"]⟩ outermost.fullPath) :=
    ⟨_, ["o", "Edge.json"], rfl, rfl, fun time => nofun, rfl⟩
  have storable : ∀ e ∈ outermost.metrics, e.value.isStorable = true := by decide +kernel
  have finite : ∀ e ∈ outermost.metrics, e.value.isFinite = true := by decide +kernel
  have kept := (kept_or_refused { nodes := [] } outermost ⟨"", ["o"]⟩).1 whole accepts storable
  exact ⟨whole, accepts, kept.2.2.1 finite⟩

/-- The file of a report that was saved has a name that the file system admits. -/
theorem size_of_save {disk : Disk} {r : Report} {folder path : Path}
    (saved : (r.save disk folder).result = .ok path) :
    Disk.octetCount (fileNameOf r.fullPath) ≤ Disk.nameLimit := by
  obtain ⟨same, octets, _, read⟩ := save_eq_ok saved
  have child : path = Disk.childPath folder (fileNameOf r.fullPath) :=
    same.trans (below_fileNameOf folder r.fullPath)
  obtain ⟨node, looked, _⟩ := bind_eq_ok_iff.mp read
  obtain ⟨location, located, _⟩ := bind_eq_ok_iff.mp looked
  rw [child] at located
  exact Disk.size_of_locate (Store.fileNameOf_ordinary r.fullPath) located

/-- A folder is not enough: a file system refuses the name of some files, and half of a surrogate
pair has no place in a file. -/
theorem unnameable_not_saved :
    let disk : Disk := { nodes := [(["o"], .folder 0)] }
    let overlong : Report := ⟨String.ofList (List.replicate 300 'b'), "", []⟩
    let halved : Report := ⟨"A", "", [⟨String.ofList (spell 0xD800), .int 1⟩]⟩
    disk.isFolder ⟨"", ["o"]⟩ = true ∧
    (∀ e ∈ halved.metrics, e.value.isStorable = true ∧ e.value.isFinite = true) ∧
    (∀ path, (overlong.save disk ⟨"", ["o"]⟩).result ≠ .ok path) ∧
    ∀ path, (halved.save disk ⟨"", ["o"]⟩).result ≠ .ok path := by
  refine ⟨by decide +kernel, by decide +kernel, fun path saved => ?_, fun path saved => ?_⟩
  · have base : SourceName.dropExtension (SourceName.lastComponent (List.replicate 300 'b')) =
        List.replicate 300 'b' := by decide +kernel
    have admitted := size_of_save saved
    -- The octets are counted over characters: the text itself is slow to take apart.
    rw [Disk.octetCount, toList_fileNameOf, SourceName.baseName, String.toList_ofList,
      String.toList_ofList, base] at admitted
    exact absurd admitted (by decide +kernel)
  · have failed : (Report.save { nodes := [(["o"], .folder 0)] }
        ⟨"A", "", [⟨String.ofList (spell 0xD800), .int 1⟩]⟩ ⟨"", ["o"]⟩).result.isOk = false := by
      decide +kernel
    rw [saved] at failed
    cases failed

end Report

end DesignGauge
