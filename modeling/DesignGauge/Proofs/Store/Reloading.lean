import DesignGauge.Proofs.Store.Saving

/-!
# Loading what was saved

A store whose entries are kept under the file that their own components record is saved into an
empty folder and loaded again without a loss. Only the order of its entries becomes that of the
files.

Results:
1. `saveEntries_returns`: when entries can be saved into a folder.
2. `childNames_saveEntries`: the names in the folder afterwards.
3. `Indexed.entries_putAll`: entries of new and distinct stems are put behind the others.
4. `load_save`: a store that is saved and loaded has the same entries and answers every lookup
   alike.
-/

namespace DesignGauge.Store

open Text

/-! ## Saving into a folder -/

section Returning

variable {folder : Path} {parent : Location}

theorem fileNameOf_ne_root (path : String) : fileNameOf path ≠ "/" := by
  intro root
  have suffix := suffix_fileNameOf path
  rw [root] at suffix
  exact absurd suffix (by decide)

/-- An entry is written into the folder. -/
theorem saveEntry_of_free {disk : Disk} (located : disk.locate folder = .ok parent) {path : String}
    {components : FileComponents} {octets : Octets}
    (tree : Json.fileOctets components.write = .ok octets)
    (accepted : disk.Takes (fileOf folder path))
    (free : ∀ time, disk.node? (parent ++ [fileNameOf path]) ≠ some (.folder time)) :
    saveEntry disk (fileOf folder path) components =
      (disk.withFile (parent ++ [fileNameOf path]) octets, .ok ()) := by
  obtain ⟨location, leads, room⟩ := accepted
  rw [fileOf_eq] at leads ⊢
  have opened := Disk.openAt_childPath located (fileNameOf_ordinary path) leads free
  rw [Disk.location_of_childPath located (fileNameOf_ordinary path) leads] at room
  unfold saveEntry
  rw [tree]
  exact Disk.write_of_openAt opened room octets

/-- An entry that was saved is a file of the folder. -/
theorem saveEntry_eq_withFile {disk changed : Disk} (located : disk.locate folder = .ok parent)
    {path : String} {components : FileComponents}
    (saved : saveEntry disk (fileOf folder path) components = (changed, .ok ())) :
    Disk.KeepsFolders disk changed ∧
      ∃ octets, changed = disk.withFile (parent ++ [fileNameOf path]) octets := by
  obtain ⟨octets, location, _, opened, rfl⟩ := saveEntry_eq_ok saved
  obtain ⟨leads, notFolder⟩ := Disk.openAt_eq_ok opened
  rw [fileOf_eq] at leads
  refine ⟨Disk.keepsFolders_withFile notFolder octets, octets, ?_⟩
  rw [Disk.location_of_childPath located (fileNameOf_ordinary path) leads]

/-- Entries are saved when each has a JSON text, its path leads to a place with room and no folder
is there. -/
theorem saveEntries_returns {disk : Disk} (located : disk.locate folder = .ok parent)
    {entries : List (String × FileComponents)}
    (trees : ∀ entry ∈ entries, ∃ octets, Json.fileOctets entry.2.write = .ok octets)
    (accepted : ∀ entry ∈ entries, disk.Takes (fileOf folder entry.1))
    (free : ∀ entry ∈ entries, ∀ time,
      disk.node? (parent ++ [fileNameOf entry.1]) ≠ some (.folder time)) :
    ∃ paths, (saveEntries folder disk entries).result = .ok paths := by
  induction entries generalizing disk with
  | nil => exact ⟨[], rfl⟩
  | cons entry entries ih =>
    obtain ⟨octets, tree⟩ := trees entry List.mem_cons_self
    have saved := saveEntry_of_free located tree (accepted entry List.mem_cons_self)
      (free entry List.mem_cons_self)
    have keeps := (saveEntry_eq_withFile located saved).1
    obtain ⟨path, components⟩ := entry
    -- the folder stays where it is, and what was written is no folder
    obtain ⟨paths, returned⟩ := ih (keeps.locate located)
      (fun other member => trees other (List.mem_cons_of_mem _ member))
      (fun other member => by
        obtain ⟨location, leads, room⟩ := accepted other (List.mem_cons_of_mem _ member)
        exact ⟨location, keeps.locate leads, room⟩)
      (fun other member time => by
        rw [Disk.node?_withFile (Disk.isBase_child parent (fileNameOf_ne_root path))]
        split
        · exact nofun
        · exact free other (List.mem_cons_of_mem _ member) time)
    refine ⟨fileOf folder path :: paths, ?_⟩
    rw [(saveEntries_cons folder saved entries).2, returned]
    rfl

/-- The names in a folder after entries were saved there. -/
theorem childNames_saveEntries {disk : Disk} (located : disk.locate folder = .ok parent)
    {entries : List (String × FileComponents)} {paths : List Path}
    (returned : (saveEntries folder disk entries).result = .ok paths)
    (distinct : ((entries.map Prod.fst).map fileNameOf).Nodup)
    (fresh : ∀ entry ∈ entries, fileNameOf entry.1 ∉ disk.childNames parent ".json") :
    (saveEntries folder disk entries).disk.childNames parent ".json" =
      disk.childNames parent ".json" ++ (entries.map Prod.fst).map fileNameOf := by
  induction entries generalizing disk paths with
  | nil => exact (List.append_nil _).symm
  | cons entry entries ih =>
    obtain ⟨path, components⟩ := entry
    rw [List.map_cons, List.map_cons, List.nodup_cons] at distinct
    obtain ⟨changed, others, saved, rest, _⟩ := saveEntries_cons_returned folder returned
    obtain ⟨keeps, octets, rfl⟩ := saveEntry_eq_withFile located saved
    have absent := fresh _ List.mem_cons_self
    have names : (disk.withFile (parent ++ [fileNameOf path]) octets).childNames parent ".json" =
        disk.childNames parent ".json" ++ [fileNameOf path] := by
      rw [Disk.childNames_withFile disk parent (suffix_fileNameOf path), List.filter_eq_self.mpr]
      intro name member
      exact bne_iff_ne.mpr fun same => absent (same ▸ member)
    rw [(saveEntries_cons folder saved entries).1, ih (keeps.locate located) rest distinct.2, names,
      List.append_assoc]
    · rfl
    · intro other member listed
      rw [names, List.mem_append, List.mem_singleton] at listed
      rcases listed with listed | same
      · exact fresh other (List.mem_cons_of_mem _ member) listed
      · exact distinct.1 (same ▸ List.mem_map_of_mem (List.mem_map_of_mem member))

end Returning

/-! ## Putting entries of distinct stems -/

/-- Entries whose stems are new and distinct are put behind those that are there. -/
theorem Indexed.entries_putAll {s : Store} (indexed : Indexed s)
    {entries : List (String × FileComponents)}
    (distinct : ((s.entries ++ entries).map fun entry => SourceName.stem entry.1).Nodup) :
    (s.putAll entries).entries = s.entries ++ entries := by
  induction entries generalizing s with
  | nil => exact (List.append_nil _).symm
  | cons entry entries ih =>
    have here : (s.put entry.1 entry.2).entries = s.entries ++ [entry] := by
      rw [indexed.entries_put, others, List.filter_eq_self.mpr]
      intro other member
      rw [List.map_append, List.nodup_append] at distinct
      exact bne_iff_ne.mpr
        (distinct.2.2 _ (List.mem_map_of_mem member) _ (List.mem_map_of_mem List.mem_cons_self))
    have rest := ih (indexed.put entry.1 entry.2) (by rwa [here, List.append_assoc])
    rw [here, List.append_assoc] at rest
    exact rest

/-- Indexed stores with the same entries in any order answer every lookup alike. -/
theorem Indexed.find?_of_perm {s t : Store} (hs : Indexed s) (ht : Indexed t)
    (rearranged : s.entries.Perm t.entries) (file : String) : s.find? file = t.find? file := by
  refine Option.ext fun components => ?_
  rw [hs.find?_eq_some_iff, ht.find?_eq_some_iff]
  simp only [rearranged.mem_iff]

/-! ## Loading the files -/

theorem present_of_isFolder {disk : Disk} {folder : Path} (isFolder : disk.isFolder folder = true) :
    disk.present folder = .ok true := by
  unfold Disk.isFolder at isFolder
  unfold Disk.present
  split at isFolder
  · next looked => rw [looked]
  · exact nomatch isFolder

/-- A file that holds components is loaded and gives them under the file that they record. -/
theorem loadFile_of_read {disk : Disk} {path : Path} {octets : Octets} {components : FileComponents}
    (read : disk.read path = .ok octets)
    (holds : Json.contentOf (Json.stripOctets octets) = .value components.write)
    (fits : FileComponents.read components.write = .fits components) {name : String}
    (recorded : components.fileName? = some name) :
    passes disk path = true ∧ entryOf? disk path = some (name, components) := by
  have loaded : loadFile disk path = (.ok (some components), []) := by
    unfold loadFile
    rw [Json.contentAt_of_read read, holds]
    simp only [fits]
  unfold passes entryOf? keyFor
  rw [loaded]
  simp only [recorded, Option.getD_some, and_true]
  rfl

/-- A file that is listed for the name of an entry is the file of that entry. -/
theorem exists_entry_of_listed {folder path : Path} {entries : List (String × FileComponents)}
    (listed : path ∈ (sortTexts ((entries.map Prod.fst).map fileNameOf)).map
      (Disk.childPath folder)) :
    ∃ entry ∈ entries, path = fileOf folder entry.1 := by
  obtain ⟨name, member, rfl⟩ := List.mem_map.mp listed
  obtain ⟨source, present, rfl⟩ := List.mem_map.mp ((sortTexts_perm _).mem_iff.mp member)
  obtain ⟨entry, here, rfl⟩ := List.mem_map.mp present
  exact ⟨entry, here, (fileOf_eq folder entry.1).symm⟩

/-- Files that give one entry each, listed by name, give these entries in the order of the names. -/
theorem entriesOf_sorted {disk : Disk} {folder : Path} {entries : List (String × FileComponents)}
    (given : ∀ entry ∈ entries, entryOf? disk (fileOf folder entry.1) = some entry)
    {files : List Path} (listed : files = (sortTexts ((entries.map Prod.fst).map fileNameOf)).map
      (Disk.childPath folder)) :
    (entriesOf disk files).Perm entries ∧
      ((entriesOf disk files).map Prod.fst).map fileNameOf =
        sortTexts ((entries.map Prod.fst).map fileNameOf) := by
  have rearranged := sortTexts_perm ((entries.map Prod.fst).map fileNameOf)
  rw [listed, entriesOf, List.filterMap_map]
  constructor
  · refine (rearranged.filterMap _).trans (List.Perm.of_eq ?_)
    rw [List.map_map, List.filterMap_map]
    refine (List.filterMap_congr fun entry member => ?_).trans List.filterMap_some
    simp only [Function.comp_apply, ← fileOf_eq, given entry member]
  · rw [List.map_map, List.map_filterMap]
    refine (List.filterMap_congr fun name member => ?_).trans List.filterMap_some
    obtain ⟨path, listed, rfl⟩ := List.mem_map.mp (rearranged.mem_iff.mp member)
    obtain ⟨entry, here, rfl⟩ := List.mem_map.mp listed
    simp only [Function.comp_apply, ← fileOf_eq, given entry here, Option.map_some]

/-- Component files that give some entries of distinct stems are loaded as a store of these
entries. -/
theorem load_empty {disk : Disk} {folder : Path} (there : disk.present folder = .ok true)
    (passing : ∀ path ∈ componentFiles disk folder, passes disk path = true)
    (distinct : ((entriesOf disk (componentFiles disk folder)).map fun entry =>
      SourceName.stem entry.1).Nodup) :
    (empty.load disk folder).store.entries = entriesOf disk (componentFiles disk folder) ∧
    (empty.load disk folder).result =
      .ok (entriesOf disk (componentFiles disk folder)).length := by
  rw [load_store, passed_of_passes passing, (load_of_present there empty).2,
    loadFiles_result_of_passes passing, Nat.zero_add]
  exact ⟨indexed_empty.entries_putAll distinct, rfl⟩

/-! ## Saving and loading -/

/-- A folder that is there need not be made for a save. -/
theorem save_of_isFolder {disk : Disk} {folder : Path} (isFolder : disk.isFolder folder = true)
    (s : Store) : s.save disk folder = saveEntries folder disk s.entries := by
  unfold save
  rw [Disk.makeFolders_of_isFolder isFolder]

section Void

variable {disk : Disk} {folder : Path} {entries : List (String × FileComponents)}
  (isFolder : disk.isFolder folder = true) (void : disk.listing folder "" = [])
include isFolder void

/-- Into an empty folder, entries are saved that have JSON texts and files that the disk takes. -/
theorem saveEntries_returns_of_void
    (trees : ∀ entry ∈ entries, ∃ octets, Json.fileOctets entry.2.write = .ok octets)
    (accepted : ∀ entry ∈ entries, disk.Takes (fileOf folder entry.1)) :
    ∃ paths, (saveEntries folder disk entries).result = .ok paths := by
  obtain ⟨parent, located⟩ := Disk.locate_of_isFolder isFolder
  refine saveEntries_returns located trees accepted fun entry _ time found => ?_
  have listed := Disk.mem_childNames_of_node? found (fileNameOf_ne_root entry.1)
    (suffix_fileNameOf entry.1)
  rw [Disk.childNames_of_listing located isFolder void] at listed
  exact absurd listed List.not_mem_nil

/-- The component files of a folder that was empty before entries were saved there. -/
theorem componentFiles_saveEntries {paths : List Path}
    (returned : (saveEntries folder disk entries).result = .ok paths)
    (distinct : ((entries.map Prod.fst).map fileNameOf).Nodup) :
    componentFiles (saveEntries folder disk entries).disk folder =
      (sortTexts ((entries.map Prod.fst).map fileNameOf)).map (Disk.childPath folder) := by
  obtain ⟨parent, located⟩ := Disk.locate_of_isFolder isFolder
  have keeps := (changedAt_saveEntries folder disk entries).folders
  have names := Disk.childNames_of_listing located isFolder void ".json"
  have fresh : ∀ entry ∈ entries, fileNameOf entry.1 ∉ disk.childNames parent ".json" := by
    intro entry _
    rw [names]
    exact List.not_mem_nil
  rw [componentFiles, Disk.listing_of_folder (keeps.locate located) (keeps.isFolder isFolder),
    childNames_saveEntries located returned distinct fresh, names, List.nil_append]

end Void

/-- After a save that returns, the file of an entry is loaded as that entry. -/
theorem entryOf?_saveEntries {disk : Disk} {folder : Path}
    {entries : List (String × FileComponents)} {paths : List Path}
    (returned : (saveEntries folder disk entries).result = .ok paths)
    (distinct : ((entries.map Prod.fst).map fileNameOf).Nodup)
    {entry : String × FileComponents} (member : entry ∈ entries)
    (recorded : entry.2.fileName? = some entry.1)
    (validated : ∃ value, FileComponents.read value = .fits entry.2) (storable : entry.2.Storable) :
    passes (saveEntries folder disk entries).disk (fileOf folder entry.1) = true ∧
      entryOf? (saveEntries folder disk entries).disk (fileOf folder entry.1) = some entry := by
  obtain ⟨octets, tree, holds, fits⟩ := storable.exists_file validated
  obtain ⟨written, tree', read⟩ := read_of_saveEntries folder returned distinct entry member
  obtain rfl : octets = written := Except.ok.inj (tree.symm.trans tree')
  exact loadFile_of_read read holds fits recorded

/-- Saving a store into an empty folder and loading the folder loses nothing. The components of each
entry are those that some value is read as, and they record the file that the entry is kept under;
rows and columns have 64 bits, and no text holds half a surrogate pair. Saving returns where the
file system takes the files. Whenever it does, loading returns, the entries are the same up to their
order, which is that of the files, and every lookup has the same answer. -/
theorem load_save {disk : Disk} {s : Store} {folder : Path} (reached : Reached s)
    (recorded : ∀ entry ∈ s.entries, entry.2.fileName? = some entry.1)
    (validated : ∀ entry ∈ s.entries, ∃ value, FileComponents.read value = .fits entry.2)
    (storable : ∀ entry ∈ s.entries, entry.2.Storable)
    (isFolder : disk.isFolder folder = true) (void : disk.listing folder "" = []) :
    let saved := s.save disk folder
    let loaded := empty.load saved.disk folder
    ((∀ path ∈ s.fileNames, disk.Takes (fileOf folder path)) →
      saved.result = .ok (s.fileNames.map (fileOf folder))) ∧
    ∀ paths, saved.result = .ok paths →
      loaded.result = .ok s.size ∧
      loaded.store.entries.Perm s.entries ∧
      loaded.store.fileNames.map fileNameOf = sortTexts (s.fileNames.map fileNameOf) ∧
      ∀ file, loaded.store.find? file = s.find? file := by
  rw [save_of_isFolder isFolder]
  intro saved loaded
  have indexed := reached.indexed
  have distinct : ((s.entries.map Prod.fst).map fileNameOf).Nodup := indexed.fileNames_apart
  refine ⟨fun accepted => ?_, fun paths returned => ?_⟩
  · obtain ⟨paths, returned⟩ : ∃ paths, saved.result = .ok paths := by
      refine saveEntries_returns_of_void isFolder void (fun entry member => ?_)
        (fun entry member => accepted entry.1 (List.mem_map_of_mem member))
      obtain ⟨octets, tree, _⟩ := (storable entry member).exists_file (validated entry member)
      exact ⟨octets, tree⟩
    rw [returned, saveEntries_result folder returned]
    rfl
  have given (entry) (member : entry ∈ s.entries) :=
    entryOf?_saveEntries returned distinct member (recorded entry member) (validated entry member)
      (storable entry member)
  -- the component files are those of the entries, so that loading gets past each of them
  have files := componentFiles_saveEntries isFolder void returned distinct
  have passing : ∀ path ∈ componentFiles saved.disk folder, passes saved.disk path = true := by
    rw [files]
    intro path listed
    obtain ⟨entry, member, same⟩ := exists_entry_of_listed listed
    rw [same]
    exact (given entry member).1
  have there : saved.disk.present folder = .ok true :=
    present_of_isFolder ((changedAt_saveEntries folder disk s.entries).folders.isFolder isFolder)
  obtain ⟨rearranged, sorted⟩ :=
    entriesOf_sorted (fun entry member => (given entry member).2) files
  obtain ⟨entries, result⟩ := load_empty there passing
    ((rearranged.map _).nodup_iff.mpr indexed.stems_nodup)
  refine ⟨?_, ?_, ?_, ?_⟩
  · rw [size, ← rearranged.length_eq]
    exact result
  · rw [← entries] at rearranged
    exact rearranged
  · rw [← entries] at sorted
    exact sorted
  · rw [← entries] at rearranged
    exact (Reached.load saved.disk folder .empty).indexed.find?_of_perm indexed rearranged

/-- Components with the least and the greatest place. -/
def outlyingComponents : FileComponents where
  groups := [{
    fileName := "lib\\Zoo.py"
    classes := [{
      name := "Zoo"
      start := some ⟨-signedBound, -signedBound⟩
      stop := some ⟨unsignedBound - 1, unsignedBound - 1⟩ }] }]

/-- A store whose files come in the other order. -/
def outlyingStore : Store :=
  (empty.put "lib\\Zoo.py" outlyingComponents).put "src/Account.java" mixedComponents

/-- The store is saved into a folder and loaded again, and its entries are found as before. -/
theorem outlyingStore_reloaded :
    let saved := outlyingStore.save { nodes := [(["out"], .folder 0)] } ⟨"", ["out"]⟩
    let loaded := empty.load saved.disk ⟨"", ["out"]⟩
    saved.result = .ok [⟨"", ["out", "Zoo.json"]⟩, ⟨"", ["out", "Account.json"]⟩] ∧
    loaded.result = .ok 2 ∧ loaded.store.entries.Perm outlyingStore.entries ∧
    loaded.store.find? "ZOO" = some outlyingComponents := by
  have entries : outlyingStore.entries =
      [("lib\\Zoo.py", outlyingComponents), ("src/Account.java", mixedComponents)] := by
    decide +kernel
  obtain ⟨returns, kept⟩ := @load_save { nodes := [(["out"], .folder 0)] }
    outlyingStore ⟨"", ["out"]⟩ (.put _ _ (.put _ _ .empty))
    (by rw [entries]; decide +kernel)
    (by
      rw [entries]
      intro entry member
      refine ⟨entry.2.write, ?_⟩
      rcases List.mem_pair.mp member with rfl | rfl
      · rfl
      · rfl)
    (by
      rw [entries]
      intro entry member
      rcases List.mem_pair.mp member with rfl | rfl
      · exact ⟨by decide +kernel, by decide +kernel⟩
      · exact ⟨by decide +kernel, by decide +kernel⟩)
    (by decide +kernel) (by decide +kernel)
  have saved := returns (by
    rw [fileNames, entries]
    intro path member
    rcases List.mem_pair.mp member with rfl | rfl
    · exact ⟨["out", "Zoo.json"], rfl, rfl⟩
    · exact ⟨["out", "Account.json"], rfl, rfl⟩)
  obtain ⟨loaded, same, _, answers⟩ := kept _ saved
  refine ⟨?_, loaded, same, ?_⟩
  · have files : outlyingStore.fileNames.map (fileOf ⟨"", ["out"]⟩) =
        [⟨"", ["out", "Zoo.json"]⟩, ⟨"", ["out", "Account.json"]⟩] := by decide +kernel
    rw [saved, files]
  · rw [answers]
    decide +kernel

end DesignGauge.Store
