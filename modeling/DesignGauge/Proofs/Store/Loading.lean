import DesignGauge.Proofs.Folder
import DesignGauge.Store.Archive
import Mathlib.Data.List.TakeWhile

/-!
# What loading a folder does

Loading goes through the component files of a folder in the order of their names. It gets past a
file that gives components, which are put, and past one that is skipped; any other file ends it.

Results:
1. `load_store`: the store after a load is the one that the entries of the files passed give, put
   one after another.
2. `load_returns_iff`, `load_count`: a load returns exactly when it gets past every file, and then
   gives the number of entries put.
3. `loadFiles_filter`, `loadFiles_congr`: files that are skipped can be left out of the list, and
   two disks that agree on the files of the list are loaded alike.
-/

namespace DesignGauge.Store

/-- Puts some entries one after another. -/
def putAll (s : Store) (entries : List (String × FileComponents)) : Store :=
  entries.foldl (fun s entry => s.put entry.1 entry.2) s

/-- The entry that a component file gives, if it gives one. -/
def entryOf? (disk : Disk) (path : Path) : Option (String × FileComponents) :=
  match (loadFile disk path).1 with
  | .ok (some components) => some (keyFor path components, components)
  | _ => none

/-- Loading gets past a file. -/
def passes (disk : Disk) (path : Path) : Bool := (loadFile disk path).1.isOk

/-- The entries of some files. -/
def entriesOf (disk : Disk) (paths : List Path) : List (String × FileComponents) :=
  paths.filterMap (entryOf? disk)

/-- The files in front of the first one that ends the loading. -/
def passed (disk : Disk) (paths : List Path) : List Path := paths.takeWhile (passes disk)

/-! ## One file -/

/-- A file ends the loading, is skipped, or gives an entry. -/
theorem loadFile_cases (disk : Disk) (path : Path) :
    (∃ fault, (loadFile disk path).1 = .error fault ∧ passes disk path = false) ∨
    ((loadFile disk path).1 = .ok none ∧ passes disk path = true ∧ entryOf? disk path = none) ∨
    ∃ components, (loadFile disk path).1 = .ok (some components) ∧ passes disk path = true ∧
      entryOf? disk path = some (keyFor path components, components) := by
  unfold passes entryOf?
  rcases (loadFile disk path).1 with fault | found
  · exact .inl ⟨fault, rfl, rfl⟩
  · cases found with
    | none => exact .inr (.inl ⟨rfl, rfl, rfl⟩)
    | some components => exact .inr (.inr ⟨components, rfl, rfl, rfl⟩)

theorem loadFiles_of_error {disk : Disk} {path : Path} {fault : Fault}
    (ended : (loadFile disk path).1 = .error fault) (s : Store) (n : Nat) (rest : List Path) :
    (loadFiles disk s n (path :: rest)).store = s ∧
    (loadFiles disk s n (path :: rest)).result = .error fault := by
  rcases hf : loadFile disk path with ⟨found, lines⟩
  rw [hf] at ended
  subst ended
  simp [loadFiles, hf]

theorem loadFiles_of_skip {disk : Disk} {path : Path}
    (skipped : (loadFile disk path).1 = .ok none) (s : Store) (n : Nat) (rest : List Path) :
    (loadFiles disk s n (path :: rest)).store = (loadFiles disk s n rest).store ∧
    (loadFiles disk s n (path :: rest)).result = (loadFiles disk s n rest).result := by
  rcases hf : loadFile disk path with ⟨found, lines⟩
  rw [hf] at skipped
  subst skipped
  simp [loadFiles, hf]

theorem loadFiles_of_entry {disk : Disk} {path : Path} {components : FileComponents}
    (given : (loadFile disk path).1 = .ok (some components)) (s : Store) (n : Nat)
    (rest : List Path) :
    (loadFiles disk s n (path :: rest)).store =
      (loadFiles disk (s.put (keyFor path components) components) (n + 1) rest).store ∧
    (loadFiles disk s n (path :: rest)).result =
      (loadFiles disk (s.put (keyFor path components) components) (n + 1) rest).result := by
  rcases hf : loadFile disk path with ⟨found, lines⟩
  rw [hf] at given
  subst given
  simp [loadFiles, hf]

/-! ## Some files -/

/-- The store holds what the files passed give, put in order. -/
theorem loadFiles_store (disk : Disk) (s : Store) (n : Nat) (paths : List Path) :
    (loadFiles disk s n paths).store = s.putAll (entriesOf disk (passed disk paths)) := by
  induction paths generalizing s n with
  | nil => rfl
  | cons path rest ih =>
    rcases loadFile_cases disk path with ⟨_, ended, hp⟩ | ⟨skipped, hp, he⟩ | ⟨_, given, hp, he⟩
    · rw [(loadFiles_of_error ended s n rest).1]
      simp [passed, hp, entriesOf, putAll]
    · rw [(loadFiles_of_skip skipped s n rest).1, ih]
      simp [passed, hp, entriesOf, he]
    · rw [(loadFiles_of_entry given s n rest).1, ih]
      simp [passed, hp, entriesOf, he, putAll]

/-- Going through some files returns exactly when none of them ends it. -/
theorem loadFiles_returns_iff (disk : Disk) (s : Store) (n : Nat) (paths : List Path) :
    (∃ m, (loadFiles disk s n paths).result = .ok m) ↔ ∀ path ∈ paths, passes disk path = true := by
  induction paths generalizing s n with
  | nil => simp [loadFiles]
  | cons path rest ih =>
    rcases loadFile_cases disk path with ⟨_, ended, hp⟩ | ⟨skipped, hp, _⟩ | ⟨_, given, hp, _⟩
    · rw [(loadFiles_of_error ended s n rest).2]
      simp [hp]
    · rw [(loadFiles_of_skip skipped s n rest).2, ih]
      simp [hp]
    · rw [(loadFiles_of_entry given s n rest).2, ih]
      simp [hp]

/-- Going through files that do not end it counts their entries. -/
theorem loadFiles_result_of_passes {disk : Disk} {paths : List Path}
    (all : ∀ path ∈ paths, passes disk path = true) (s : Store) (n : Nat) :
    (loadFiles disk s n paths).result = .ok (n + (entriesOf disk paths).length) := by
  induction paths generalizing s n with
  | nil => rfl
  | cons path rest ih =>
    have hrest : ∀ path ∈ rest, passes disk path = true :=
      fun p hp => all p (List.mem_cons_of_mem path hp)
    rcases loadFile_cases disk path with ⟨_, _, hp⟩ | ⟨skipped, _, he⟩ | ⟨_, given, _, he⟩
    · rw [all path List.mem_cons_self] at hp
      exact absurd hp Bool.noConfusion
    · rw [(loadFiles_of_skip skipped s n rest).2, ih hrest]
      simp [entriesOf, he]
    · rw [(loadFiles_of_entry given s n rest).2, ih hrest]
      simp [entriesOf, he, Nat.add_assoc, Nat.add_comm 1]

theorem passed_of_passes {disk : Disk} {paths : List Path}
    (all : ∀ path ∈ paths, passes disk path = true) : passed disk paths = paths :=
  List.takeWhile_eq_self_iff.mpr all

/-- Files that are skipped make no difference. -/
theorem loadFiles_filter {disk : Disk} (keep : Path → Bool) {paths : List Path}
    (skipped : ∀ path ∈ paths, keep path = false → (loadFile disk path).1 = .ok none)
    (s : Store) (n : Nat) :
    (loadFiles disk s n (paths.filter keep)).store = (loadFiles disk s n paths).store ∧
    (loadFiles disk s n (paths.filter keep)).result = (loadFiles disk s n paths).result := by
  induction paths generalizing s n with
  | nil => exact ⟨rfl, rfl⟩
  | cons path rest ih =>
    have ih' := ih fun p hp => skipped p (List.mem_cons_of_mem path hp)
    cases hk : keep path with
    | false =>
      have hs := loadFiles_of_skip (skipped path List.mem_cons_self hk) s n rest
      rw [List.filter_cons_of_neg (by simp [hk]), hs.1, hs.2]
      exact ih' s n
    | true =>
      rw [List.filter_cons_of_pos hk]
      rcases loadFile_cases disk path with ⟨_, ended, _⟩ | ⟨none, _, _⟩ | ⟨c, given, _, _⟩
      · have h₁ := loadFiles_of_error ended s n (rest.filter keep)
        have h₂ := loadFiles_of_error ended s n rest
        exact ⟨h₁.1.trans h₂.1.symm, h₁.2.trans h₂.2.symm⟩
      · have h₁ := loadFiles_of_skip none s n (rest.filter keep)
        have h₂ := loadFiles_of_skip none s n rest
        exact ⟨h₁.1.trans ((ih' s n).1.trans h₂.1.symm), h₁.2.trans ((ih' s n).2.trans h₂.2.symm)⟩
      · have h₁ := loadFiles_of_entry given s n (rest.filter keep)
        have h₂ := loadFiles_of_entry given s n rest
        have h₃ := ih' (s.put (keyFor path c) c) (n + 1)
        exact ⟨h₁.1.trans (h₃.1.trans h₂.1.symm), h₁.2.trans (h₃.2.trans h₂.2.symm)⟩

/-- Disks with the same files are loaded alike. -/
theorem loadFiles_congr {disk disk' : Disk} {paths : List Path}
    (same : ∀ path ∈ paths, loadFile disk' path = loadFile disk path) (s : Store) (n : Nat) :
    loadFiles disk' s n paths = loadFiles disk s n paths := by
  induction paths generalizing s n with
  | nil => rfl
  | cons path rest ih =>
    have ih' := ih fun p hp => same p (List.mem_cons_of_mem path hp)
    simp only [loadFiles, same path List.mem_cons_self, ih']

/-! ## A folder -/

theorem isFolder_of_present_ne {disk : Disk} {folder : Path}
    (absent : disk.present folder ≠ .ok true) : disk.isFolder folder = false := by
  unfold Disk.present at absent
  unfold Disk.isFolder
  cases hl : disk.look folder with
  | ok node => simp [hl] at absent
  | error fault => rfl

/-- A folder that is not there has no component files. -/
theorem componentFiles_of_present_ne {disk : Disk} {folder : Path}
    (absent : disk.present folder ≠ .ok true) : componentFiles disk folder = [] := by
  simp [componentFiles, Disk.listing, isFolder_of_present_ne absent]

/-- A folder whose names are in order has its component files in that order. -/
theorem componentFiles_of_sorted {disk : Disk} {folder : Path} {location : Location}
    {names : List String} (located : disk.locate folder = .ok location)
    (isFolder : disk.isFolder folder = true) (children : disk.childNames location ".json" = names)
    (sorted : names.Pairwise (· ≤ ·)) :
    componentFiles disk folder = names.map (Disk.childPath folder) := by
  have inOrder : Text.sortTexts names = names := by
    refine List.mergeSort_of_pairwise (sorted.imp fun le => ?_)
    rw [decide_eq_false (String.not_lt.mpr le), Bool.not_false]
  rw [componentFiles, Disk.listing_of_folder located isFolder, children, inOrder]

/-- Loading a folder that is there goes through its component files. -/
theorem load_of_present {disk : Disk} {folder : Path} (there : disk.present folder = .ok true)
    (s : Store) :
    (s.load disk folder).store = (loadFiles disk s 0 (componentFiles disk folder)).store ∧
    (s.load disk folder).result = (loadFiles disk s 0 (componentFiles disk folder)).result := by
  unfold load
  rw [there]
  cases hr : (loadFiles disk s 0 (componentFiles disk folder)).result with
  | ok n => simp [hr]
  | error fault => simp [hr]

/-- Loading a folder that is not there puts nothing; it returns unless the lookup is refused. -/
theorem load_of_absent {disk : Disk} {folder : Path} (absent : disk.present folder ≠ .ok true)
    (s : Store) :
    (s.load disk folder).store = s ∧
    (s.load disk folder).result = (disk.present folder).map fun _ => 0 := by
  unfold load
  split
  · next fault refused => exact ⟨rfl, by rw [refused]; rfl⟩
  · next missing => exact ⟨rfl, by rw [missing]; rfl⟩
  · next there => exact absurd there absent

/-- The store after a load is the one that the entries of the files passed give. -/
theorem load_store (disk : Disk) (s : Store) (folder : Path) :
    (s.load disk folder).store =
      s.putAll (entriesOf disk (passed disk (componentFiles disk folder))) := by
  by_cases hp : disk.present folder = .ok true
  · rw [(load_of_present hp s).1, loadFiles_store]
  · rw [(load_of_absent hp s).1, componentFiles_of_present_ne hp]
    rfl

/-- A load returns exactly when the folder can be looked up and none of its component files ends
the loading. -/
theorem load_returns_iff (disk : Disk) (s : Store) (folder : Path) :
    (∃ n, (s.load disk folder).result = .ok n) ↔
      (∃ there, disk.present folder = .ok there) ∧
      ∀ path ∈ componentFiles disk folder, passes disk path = true := by
  by_cases hp : disk.present folder = .ok true
  · rw [(load_of_present hp s).2, loadFiles_returns_iff]
    exact ⟨fun h => ⟨⟨true, hp⟩, h⟩, fun h => h.2⟩
  · rw [(load_of_absent hp s).2, componentFiles_of_present_ne hp]
    cases disk.present folder with
    | error fault => simp [Except.map]
    | ok there => simp [Except.map]

/-- A load that returns gives the number of entries of all component files. -/
theorem load_count {disk : Disk} {folder : Path} {s : Store} {n : Nat}
    (returned : (s.load disk folder).result = .ok n) :
    n = (entriesOf disk (componentFiles disk folder)).length := by
  obtain ⟨⟨there, looked⟩, all⟩ := (load_returns_iff disk s folder).mp ⟨n, returned⟩
  by_cases hp : disk.present folder = .ok true
  · rw [(load_of_present hp s).2, loadFiles_result_of_passes all s 0] at returned
    cases returned
    exact Nat.zero_add _
  · rw [(load_of_absent hp s).2, looked] at returned
    cases returned
    rw [componentFiles_of_present_ne hp]
    rfl

/-! ## A folder with a file that ends the loading -/

/-- A folder in which a method of the first file has a list among its modifiers, and the second
file can be loaded. -/
def jammedDisk : Disk where
  nodes := [
    (["d"], .folder 0),
    (["d", "a.json"], .file (Text.Utf8.encode
      "\x7b\"classes\": [\x7b\"methods\": [\x7b\"modifiers\": [[]]\x7d]\x7d]\x7d".toList) 0),
    (["d", "b.json"], .file (Text.Utf8.encode
      "\x7b\"classes\": [\x7b\"fileName\": \"B.java\"\x7d]\x7d".toList) 0)]

theorem componentFiles_jammedDisk :
    componentFiles jammedDisk ⟨"", ["d"]⟩ = [⟨"", ["d", "a.json"]⟩, ⟨"", ["d", "b.json"]⟩] := by
  have names : jammedDisk.childNames ["d"] ".json" = ["a.json", "b.json"] := by decide +kernel
  exact componentFiles_of_sorted rfl (by decide +kernel) names (by decide)

end DesignGauge.Store
