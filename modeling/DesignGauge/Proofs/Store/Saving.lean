import DesignGauge.Proofs.Component.Storing
import DesignGauge.Proofs.Disk.Writing
import DesignGauge.Proofs.Path.BaseName
import DesignGauge.Proofs.Store.Index
import DesignGauge.Report.Archive

/-!
# Saving a store

Each entry is saved to a file of its own, a child of the folder that is named after the base name of
its path. The names differ even in lower case, since the store keeps one entry for each stem. No
other file changes.

Results:
1. `changedAt_save`: only the files of the entries change, whether or not the save returns.
2. `read_of_saveEntries`: after a save that returns, each of them holds its entry.
3. `saved_apart`: the files of the entries are children of the folder, distinct, and all that
   changes.
-/

namespace DesignGauge.Store

open Text

/-! ## The files of the entries -/

theorem fileOf_eq (folder : Path) (path : String) :
    fileOf folder path = Disk.childPath folder (fileNameOf path) :=
  below_fileNameOf folder path

theorem fileNameOf_ordinary (path : String) : fileNameOf path ≠ ".." := by
  intro dots
  have suffix := suffix_fileNameOf path
  rw [dots] at suffix
  exact absurd suffix (by decide)

/-- A location that the file of a path leads to ends in its name. -/
theorem getLast?_of_locate {disk : Disk} {folder : Path} {path : String} {location : Location}
    (located : disk.locate (fileOf folder path) = .ok location) :
    location.getLast? = some (fileNameOf path) := by
  rw [fileOf_eq] at located
  have walked := Disk.walk_of_locate located
  have parts : (Disk.childPath folder (fileNameOf path)).parts =
    folder.parts ++ [fileNameOf path] := rfl
  rw [parts, Disk.walk_concat] at walked
  obtain ⟨parent, _, entered⟩ := bind_eq_ok_iff.mp walked
  rw [Disk.enter_child (fileNameOf_ordinary path) entered, List.getLast?_concat]

/-- Saving an entry writes at most its file. -/
theorem wrote_saveEntry (disk : Disk) (target : Path) (components : FileComponents) :
    Disk.Wrote target disk (saveEntry disk target components).1 := by
  unfold saveEntry
  split
  · exact .inl rfl
  · next octets _ => exact Disk.wrote_write disk target octets

theorem saveEntry_eq_ok {disk changed : Disk} {target : Path} {components : FileComponents}
    (saved : saveEntry disk target components = (changed, .ok ())) :
    ∃ octets location, Json.fileOctets components.write = .ok octets ∧
      disk.openAt target = .ok location ∧ changed = disk.withFile location octets := by
  unfold saveEntry at saved
  split at saved
  · cases saved
  · next octets tree =>
    obtain ⟨location, opened, left⟩ := Disk.write_eq_ok saved
    exact ⟨octets, location, tree, opened, left⟩

/-! ## What changes -/

section Changes

variable (folder : Path)

/-- Saving some entries changes their files only. -/
theorem changedAt_saveEntries (disk : Disk) (entries : List (String × FileComponents)) :
    Disk.ChangedAt (fun place => ∃ entry ∈ entries,
      (saveEntries folder disk entries).disk.locate (fileOf folder entry.1) = .ok place)
      disk (saveEntries folder disk entries).disk := by
  induction entries generalizing disk with
  | nil => exact .refl disk
  | cons entry entries ih =>
    obtain ⟨path, components⟩ := entry
    unfold saveEntries
    simp only
    have first := (wrote_saveEntry disk (fileOf folder path) components).changedAt
    split
    · next changed fault saved =>
      rw [saved] at first
      exact first.mono fun place here => ⟨_, List.mem_cons_self, here⟩
    · next changed saved =>
      rw [saved] at first
      have others := ih changed
      refine (first.mono fun place here => ?_).trans (others.mono fun place here => ?_)
      · exact ⟨_, List.mem_cons_self, others.folders.locate here⟩
      · obtain ⟨entry, member, leads⟩ := here
        exact ⟨entry, List.mem_cons_of_mem _ member, leads⟩

/-- Saving a store changes the files of its entries only. -/
theorem changedAt_save (disk : Disk) (s : Store) :
    Disk.ChangedAt (fun place => ∃ path ∈ s.fileNames,
      (s.save disk folder).disk.locate (fileOf folder path) = .ok place)
      disk (s.save disk folder).disk := by
  have folders := Disk.changedAt_makeFolders disk folder
  unfold save
  split
  · next made fault same =>
    rw [same] at folders
    exact folders.mono fun _ none => none.elim
  · next made same =>
    rw [same] at folders
    refine (folders.mono fun _ none => none.elim).trans
      ((changedAt_saveEntries folder made s.entries).mono fun place here => ?_)
    obtain ⟨entry, member, leads⟩ := here
    exact ⟨entry.1, List.mem_map_of_mem member, leads⟩

/-- Entries are saved when the first is and then the others. -/
theorem saveEntries_cons {disk changed : Disk} {path : String} {components : FileComponents}
    (saved : saveEntry disk (fileOf folder path) components = (changed, .ok ()))
    (entries : List (String × FileComponents)) :
    (saveEntries folder disk ((path, components) :: entries)).disk =
      (saveEntries folder changed entries).disk ∧
    (saveEntries folder disk ((path, components) :: entries)).result =
      (saveEntries folder changed entries).result.map (fileOf folder path :: ·) := by
  rw [saveEntries.eq_def folder disk ((path, components) :: entries)]
  simp only [saved, and_self]

/-- A save of entries that returns has saved the first and then the others. -/
theorem saveEntries_cons_returned {disk : Disk} {path : String} {components : FileComponents}
    {entries : List (String × FileComponents)} {paths : List Path}
    (returned : (saveEntries folder disk ((path, components) :: entries)).result = .ok paths) :
    ∃ changed others, saveEntry disk (fileOf folder path) components = (changed, .ok ()) ∧
      (saveEntries folder changed entries).result = .ok others ∧
      paths = fileOf folder path :: others := by
  rcases saved : saveEntry disk (fileOf folder path) components with ⟨changed, fault | _⟩
  · unfold saveEntries at returned
    simp only [saved] at returned
    exact nomatch returned
  · rw [(saveEntries_cons folder saved entries).2] at returned
    cases rest : (saveEntries folder changed entries).result with
    | error fault => rw [rest] at returned; exact nomatch returned
    | ok others =>
      rw [rest] at returned
      exact ⟨changed, others, rfl, rest, (Except.ok.inj returned).symm⟩

/-- A save that returns gives the files of the entries, in their order. -/
theorem saveEntries_result {disk : Disk} {entries : List (String × FileComponents)}
    {paths : List Path} (returned : (saveEntries folder disk entries).result = .ok paths) :
    paths = (entries.map Prod.fst).map (fileOf folder) := by
  induction entries generalizing disk paths with
  | nil => exact (Except.ok.inj returned).symm
  | cons entry entries ih =>
    obtain ⟨changed, others, _, rest, rfl⟩ := saveEntries_cons_returned folder returned
    rw [ih rest]
    rfl

/-- A save that returns has made the folder and saved the entries into it. -/
theorem save_of_returned {disk : Disk} {s : Store} {paths : List Path}
    (returned : (s.save disk folder).result = .ok paths) :
    ∃ made, s.save disk folder = saveEntries folder made s.entries := by
  unfold save at returned ⊢
  split at returned
  · exact nomatch returned
  · next made same => exact ⟨made, rfl⟩

/-- After a save that returns, the file of each entry holds it: a later entry has another file. -/
theorem read_of_saveEntries {disk : Disk} {entries : List (String × FileComponents)}
    {paths : List Path} (returned : (saveEntries folder disk entries).result = .ok paths)
    (distinct : ((entries.map Prod.fst).map fileNameOf).Nodup) :
    ∀ entry ∈ entries, ∃ octets, Json.fileOctets entry.2.write = .ok octets ∧
      (saveEntries folder disk entries).disk.read (fileOf folder entry.1) = .ok octets := by
  induction entries generalizing disk paths with
  | nil => exact nofun
  | cons entry entries ih =>
    obtain ⟨path, components⟩ := entry
    rw [List.map_cons, List.map_cons, List.nodup_cons] at distinct
    obtain ⟨changed, others, saved, rest, _⟩ := saveEntries_cons_returned folder returned
    rw [(saveEntries_cons folder saved entries).1]
    intro entry member
    rcases List.mem_cons.mp member with rfl | member
    · obtain ⟨octets, location, tree, opened, rfl⟩ := saveEntry_eq_ok saved
      refine ⟨octets, tree, ?_⟩
      have later := changedAt_saveEntries folder (disk.withFile location octets) entries
      have now := Disk.read_withFile opened octets
      obtain ⟨located, notFolder⟩ := Disk.openAt_eq_ok opened
      have here : (disk.withFile location octets).locate (fileOf folder path) = .ok location :=
        (Disk.keepsFolders_withFile notFolder octets).locate located
      rw [Disk.read_eq_ok_iff here] at now
      rw [Disk.read_eq_ok_iff (later.folders.locate here), later.files location, now]
      rintro ⟨other, member, leads⟩
      have name : fileNameOf other.1 = fileNameOf path :=
        Option.some.inj ((getLast?_of_locate leads).symm.trans (getLast?_of_locate here))
      exact distinct.1 (name ▸ List.mem_map_of_mem (List.mem_map_of_mem member))
    · exact ih rest distinct.2 entry member

end Changes

/-! ## Entries do not meet -/

theorem Indexed.stems_apart {s : Store} (indexed : Indexed s) :
    (s.fileNames.map SourceName.stem).Nodup := by
  rw [fileNames, List.map_map]
  exact indexed.stems_nodup

theorem Indexed.fileNames_apart {s : Store} (indexed : Indexed s) :
    (s.fileNames.map fileNameOf).Nodup := by
  refine (List.nodup_map_iff_inj_on indexed.fileNames_nodup).mpr fun a memberA b memberB same => ?_
  refine List.inj_on_of_nodup_map indexed.stems_apart memberA memberB ?_
  rw [SourceName.stem, SourceName.stem, fileNameOf_inj same]

theorem Indexed.files_apart {s : Store} (indexed : Indexed s) (folder : Path) :
    (s.fileNames.map (fileOf folder)).Nodup := by
  have names := indexed.fileNames_apart
  refine (List.nodup_map_iff_inj_on indexed.fileNames_nodup).mpr fun a memberA b memberB same => ?_
  rw [fileOf_eq, fileOf_eq] at same
  exact List.inj_on_of_nodup_map names memberA memberB (childPath_inj same)

/-- A base name holds neither separator, so the file that a report or an entry is saved to is a
child of the folder, named after the base name. The files of the entries of a store are distinct,
and so are their base names in lower case. Saving a store changes no other file, and after a save
that returns, each file holds the entry it was written for. -/
theorem saved_apart :
    (∀ path, '/' ∉ (SourceName.baseName path).toList ∧ '\\' ∉ (SourceName.baseName path).toList) ∧
    (∀ (folder : Path) (path : String),
      Report.pathIn folder path =
        ⟨folder.root, folder.parts ++ [SourceName.baseName path ++ ".json"]⟩ ∧
      fileOf folder path = Report.pathIn folder path) ∧
    ∀ s : Store, Reached s → ∀ (disk : Disk) (folder : Path),
      (s.fileNames.map (fileOf folder)).Nodup ∧
      (s.fileNames.map fun path => lower (SourceName.baseName path)).Nodup ∧
      (∀ place, (∀ path ∈ s.fileNames,
          (s.save disk folder).disk.locate (fileOf folder path) ≠ .ok place) →
        (s.save disk folder).disk.fileAt? place = disk.fileAt? place) ∧
      ∀ paths, (s.save disk folder).result = .ok paths →
        paths = s.fileNames.map (fileOf folder) ∧
        ∀ entry ∈ s.entries, ∃ octets, Json.fileOctets entry.2.write = .ok octets ∧
          (s.save disk folder).disk.read (fileOf folder entry.1) = .ok octets := by
  refine ⟨fun path => ?_, fun folder path => ?_, fun s reached disk folder => ?_⟩
  · exact ⟨SourceName.slash_not_mem_baseName path, SourceName.backslash_not_mem_baseName path⟩
  · exact ⟨below_fileNameOf folder path, rfl⟩
  have indexed := reached.indexed
  refine ⟨indexed.files_apart folder, indexed.stems_apart, fun place other => ?_,
    fun paths returned => ?_⟩
  · refine (changedAt_save folder disk s).files place ?_
    rintro ⟨path, member, leads⟩
    exact other path member leads
  · obtain ⟨made, saved⟩ := save_of_returned folder returned
    rw [saved] at returned ⊢
    exact ⟨saveEntries_result folder returned,
      read_of_saveEntries folder returned indexed.fileNames_apart⟩

/-- A store of paths with a parent folder, a network share or a drive in front, where one path was
put over another of the same stem. -/
def strayStore : Store :=
  (((empty.put "..\\..\\x.java" {}).put "\\\\srv\\lib\\Z.c" {}).put "C:X.py" {}).put "/lib/.." {}

/-- The three entries are saved to three files of the folder, although it is not there yet. -/
theorem strayStore_apart :
    Reached strayStore ∧
    (strayStore.save {} ⟨"", ["out"]⟩).result =
      .ok [⟨"", ["out", "Z.json"]⟩, ⟨"", ["out", "X.json"]⟩, ⟨"", ["out", "...json"]⟩] ∧
    (strayStore.fileNames.map (fileOf ⟨"", ["out"]⟩)).Nodup := by
  have reached : Reached strayStore := .put _ _ (.put _ _ (.put _ _ (.put _ _ .empty)))
  have files : strayStore.fileNames.map (fileOf ⟨"", ["out"]⟩) =
      [⟨"", ["out", "Z.json"]⟩, ⟨"", ["out", "X.json"]⟩, ⟨"", ["out", "...json"]⟩] := by
    decide +kernel
  have returns : (strayStore.save {} ⟨"", ["out"]⟩).result.isOk = true := by decide +kernel
  obtain ⟨_, _, saved⟩ := saved_apart
  obtain ⟨apart, _, _, written⟩ := saved strayStore reached {} ⟨"", ["out"]⟩
  refine ⟨reached, ?_, apart⟩
  cases returned : (strayStore.save {} ⟨"", ["out"]⟩).result with
  | error fault =>
    rw [returned] at returns
    exact nomatch returns
  | ok paths => rw [(written paths returned).1, files]

end DesignGauge.Store
