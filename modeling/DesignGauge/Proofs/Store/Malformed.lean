import DesignGauge.Proofs.Store.Loading
import DesignGauge.Proofs.Wire.Blocking

/-!
# Malformed component files

A component file that is empty, holds no JSON or holds a value of another shape is skipped: loading
a folder gives the same with all such files deleted. A load is ended by a file whose value breaks
off its own reading.

Results:
1. `passes_iff`: loading gets past a file that can be read unless its value is obstructed.
2. `load_withoutMalformed`: deleting the malformed files of a folder changes neither the store nor
   the count that a load gives.
3. `malformed_skipped`: when a load returns, what it counts, and that malformed files make no
   difference to it.
-/

namespace DesignGauge.Store

open Json

/-- A file is empty, holds no JSON, or holds a value that does not fit. -/
def isMalformed (disk : Disk) (path : Path) : Bool :=
  match contentAt disk path with
  | .ok .empty => true
  | .ok (.malformed _) => true
  | .ok (.value datum) => match FileComponents.read datum with
    | .issues _ => true
    | _ => false
  | _ => false

/-! ## One file -/

/-- A malformed file is skipped. -/
theorem loadFile_of_isMalformed {disk : Disk} {path : Path}
    (malformed : isMalformed disk path = true) : (loadFile disk path).1 = .ok none := by
  unfold isMalformed at malformed
  unfold loadFile
  split at malformed
  · next content => rw [content]
  · next content => rw [content]
  · next datum content =>
    rw [content]
    split at malformed
    · next issues => simp only [issues]
    · exact absurd malformed Bool.noConfusion
  · exact absurd malformed Bool.noConfusion

/-- Loading gets past a file exactly when what it holds can be told and does not break off its own
reading. -/
theorem passes_iff (disk : Disk) (path : Path) :
    passes disk path = true ↔
      ∃ content, contentAt disk path = .ok content ∧
        ∀ datum, content = .value datum → ¬ Obstructed datum := by
  unfold passes loadFile
  cases contentAt disk path with
  | error fault => simp [Except.isOk, Except.toBool]
  | ok content =>
    cases content with
    | value datum =>
      -- only here the reading of the value decides; it ends the loading when it is broken off
      simp only [Except.ok.injEq, exists_eq_left', Content.value.injEq, forall_eq',
        ← FileComponents.read_blocks_iff]
      cases FileComponents.read datum with
      | fits components => simp [Except.isOk, Except.toBool]
      | issues all => simp [Except.isOk, Except.toBool, Wire.Checked.blocks]
      | unkeyable kind => simp [Except.isOk, Except.toBool, Wire.Checked.blocks]
    | _ => simp [Except.isOk, Except.toBool]

/-- A malformed file is a file. -/
theorem look_of_isMalformed {disk : Disk} {path : Path}
    (malformed : isMalformed disk path = true) :
    ∃ octets time, disk.look path = .ok (.file octets time) := by
  unfold isMalformed contentAt Disk.read at malformed
  cases looked : disk.look path with
  | error fault => cases fault <;> simp [looked, bind, Except.bind] at malformed
  | ok node =>
    cases node with
    | file octets time => exact ⟨octets, time, rfl⟩
    | folder time =>
      simp [looked, bind, Except.bind, Disk.refusal, throw, throwThe, MonadExceptOf.throw]
        at malformed

/-! ## A folder without its malformed files -/

/-- A name is that of a malformed component file of a folder. -/
def isGone (disk : Disk) (folder : Path) (name : String) : Bool :=
  ".json".toList.isSuffixOf name.toList && isMalformed disk (Disk.childPath folder name)

/-- The disk without the malformed component files of a folder. -/
def withoutMalformed (disk : Disk) (folder : Path) : Disk :=
  match disk.locate folder with
  | .ok parent => disk.withoutChildren parent (isGone disk folder)
  | .error _ => disk

theorem ordinary_of_suffix {name : String}
    (suffix : ".json".toList.isSuffixOf name.toList = true) : name ≠ ".." := by
  rintro rfl
  exact absurd suffix (by decide)

theorem onlyFiles_isGone {disk : Disk} {folder : Path} {parent : Location}
    (located : disk.locate folder = .ok parent) :
    disk.OnlyFiles parent (isGone disk folder) := by
  intro name gone
  obtain ⟨suffix, malformed⟩ := Bool.and_eq_true_iff.mp gone
  obtain ⟨octets, time, looked⟩ := look_of_isMalformed malformed
  refine ⟨octets, time, ?_⟩
  unfold Disk.look at looked
  cases found : disk.locate (Disk.childPath folder name) with
  | error fault => simp [found, bind, Except.bind] at looked
  | ok location =>
    have place := Disk.location_of_childPath located (ordinary_of_suffix suffix) found
    simp only [found, bind, Except.bind] at looked
    rw [← place]
    cases node : disk.node? location with
    | none => simp [node, throw, throwThe, MonadExceptOf.throw] at looked
    | some file =>
      simp only [node] at looked
      cases looked
      rfl

section Deletion

variable {disk : Disk} {folder : Path} {parent : Location}

theorem componentFiles_withoutMalformed (located : disk.locate folder = .ok parent) :
    componentFiles (disk.withoutChildren parent (isGone disk folder)) folder =
      (componentFiles disk folder).filter fun path => !isGone disk folder path.name :=
  Disk.listing_withoutChildren (onlyFiles_isGone located) located ".json"

/-- What is not deleted is loaded as before. -/
theorem loadFile_withoutMalformed (located : disk.locate folder = .ok parent) {path : Path}
    (kept : path ∈ (componentFiles disk folder).filter fun path => !isGone disk folder path.name) :
    loadFile (disk.withoutChildren parent (isGone disk folder)) path = loadFile disk path := by
  obtain ⟨listed, stays⟩ := List.mem_filter.mp kept
  obtain ⟨name, rfl, suffix⟩ := Disk.childPath_of_mem_listing listed
  rw [Disk.childPath_name, Bool.not_eq_true'] at stays
  have looked := Disk.look_withoutChildren (onlyFiles_isGone located) located stays
    (ordinary_of_suffix suffix)
  unfold loadFile contentAt Disk.read
  rw [looked]

/-- What is deleted was skipped. -/
theorem loadFile_of_isGone {path : Path} (listed : path ∈ componentFiles disk folder)
    (gone : (!isGone disk folder path.name) = false) : (loadFile disk path).1 = .ok none := by
  obtain ⟨name, rfl, _⟩ := Disk.childPath_of_mem_listing listed
  rw [Disk.childPath_name, Bool.not_eq_false'] at gone
  exact loadFile_of_isMalformed (Bool.and_eq_true_iff.mp gone).2

end Deletion

/-- Deleting the malformed files changes neither the store nor the result of a load. -/
theorem load_withoutMalformed (disk : Disk) (s : Store) (folder : Path) :
    (s.load (withoutMalformed disk folder) folder).store = (s.load disk folder).store ∧
    (s.load (withoutMalformed disk folder) folder).result = (s.load disk folder).result := by
  unfold withoutMalformed
  cases located : disk.locate folder with
  | error fault => exact ⟨rfl, rfl⟩
  | ok parent =>
    have same : (disk.withoutChildren parent (isGone disk folder)).present folder =
        disk.present folder := by
      unfold Disk.present
      rw [Disk.look_folder_withoutChildren (onlyFiles_isGone located) located]
    by_cases there : disk.present folder = .ok true
    · -- fewer files, which are read alike, and the files left out were skipped
      have smaller := load_of_present (same.trans there) s
      have whole := load_of_present there s
      have skipped := loadFiles_filter (fun path => !isGone disk folder path.name)
        (fun path listed => loadFile_of_isGone listed) s 0
      rw [componentFiles_withoutMalformed located,
        loadFiles_congr fun path kept => loadFile_withoutMalformed located kept] at smaller
      exact ⟨smaller.1.trans (skipped.1.trans whole.1.symm),
        smaller.2.trans (skipped.2.trans whole.2.symm)⟩
    · have smaller := load_of_absent (fun present => there (same.symm.trans present)) s
      have whole := load_of_absent there s
      rw [same] at smaller
      exact ⟨smaller.1.trans whole.1.symm, smaller.2.trans whole.2.symm⟩

/-- A load returns if and only if its folder can be looked up and every component file either can be
read or is refused by the file system, and holds no obstructed value; it then gives the number of
files that were put. Malformed files make no difference: with all of them deleted, the store and
the result are the same. -/
theorem malformed_skipped (disk : Disk) (s : Store) (folder : Path) :
    ((∃ n, (s.load disk folder).result = .ok n) ↔
      (∃ there, disk.present folder = .ok there) ∧
      ∀ path ∈ componentFiles disk folder,
        ∃ content, contentAt disk path = .ok content ∧
          ∀ datum, content = .value datum → ¬ Obstructed datum) ∧
    (∀ n, (s.load disk folder).result = .ok n →
      n = (entriesOf disk (componentFiles disk folder)).length) ∧
    (∀ path, isMalformed disk path = true → (loadFile disk path).1 = .ok none) ∧
    (s.load (withoutMalformed disk folder) folder).store = (s.load disk folder).store ∧
    (s.load (withoutMalformed disk folder) folder).result = (s.load disk folder).result := by
  refine ⟨?_, fun n => load_count, fun path => loadFile_of_isMalformed,
    load_withoutMalformed disk s folder⟩
  rw [load_returns_iff]
  simp only [passes_iff]

/-- A list among the modifiers of a method ends the load, although the other file gives an entry. -/
theorem jammedDisk_load_fails :
    (∀ n, (empty.load jammedDisk ⟨"", ["d"]⟩).result ≠ .ok n) ∧
    (entriesOf jammedDisk (componentFiles jammedDisk ⟨"", ["d"]⟩)).length = 1 := by
  have ends : passes jammedDisk ⟨"", ["d", "a.json"]⟩ = false := by decide +kernel
  constructor
  · intro n returned
    obtain ⟨_, all⟩ := (load_returns_iff jammedDisk empty ⟨"", ["d"]⟩).mp ⟨n, returned⟩
    rw [componentFiles_jammedDisk] at all
    rw [all _ List.mem_cons_self] at ends
    exact absurd ends Bool.noConfusion
  · rw [componentFiles_jammedDisk]
    decide +kernel

end DesignGauge.Store
