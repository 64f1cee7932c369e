import DesignGauge.Proofs.Folder

/-!
# What writing changes

Writing a file changes the one location that its path leads to, whether or not the device gives up,
and making folders changes no file. Neither loses a folder, so that every path that led somewhere
leads there afterwards.

Results:
1. `write_cases`, `write_eq_ok`: what a disk is after a file was written.
2. `read_of_write`: the file that was written is read back.
3. `ChangedAt`: files may differ at some locations only; `Wrote.changedAt`, `changedAt_makeFolders`.
4. `openAt_childPath`: when a file in a folder can be opened.
5. `childNames_withFile`: the names in a folder after a file was written into it.
-/

namespace DesignGauge.Disk

open Text

variable {disk changed : Disk}

/-! ## Setting a node -/

theorem node?_setNode {location : Location} (other : isBase location = false) (node : DiskNode)
    (place : Location) :
    (disk.setNode location node).node? place =
      if place = location then some node else disk.node? place := by
  unfold node? setNode
  by_cases base : isBase place = true
  · have apart : place ≠ location := by
      rintro rfl
      rw [base] at other
      exact nomatch other
    rw [if_pos base, if_pos base, if_neg apart]
  · rw [if_neg base, if_neg base]
    simp only [List.lookup_append, lookup_filter_keys (fun place => place != location)]
    by_cases same : place = location
    · rw [if_neg (by simpa using same), if_pos same, same]
      simp
    · rw [if_pos (by simpa using same), if_neg same]
      simp [List.lookup_cons, beq_eq_false_iff_ne.mpr same]

/-- A location without a folder is not a base. -/
theorem isBase_of_not_folder {location : Location}
    (notFolder : ∀ time, disk.node? location ≠ some (.folder time)) : isBase location = false := by
  cases base : isBase location with
  | false => rfl
  | true => exact absurd (by rw [node?, if_pos base]) (notFolder 0)

/-! ## Writing a file -/

theorem node?_withFile {location : Location} (other : isBase location = false) (octets : Octets)
    (place : Location) :
    (disk.withFile location octets).node? place =
      if place = location then some (.file octets disk.clock) else disk.node? place :=
  node?_setNode other _ place

/-- A file can be opened at a location that its path leads to and where no folder is. -/
theorem openAt_eq_ok {path : Path} {location : Location}
    (opened : disk.openAt path = .ok location) :
    disk.locate path = .ok location ∧
      ∀ time, disk.node? location ≠ some (.folder time) := by
  unfold openAt at opened
  cases located : disk.locate path with
  | error fault =>
    rw [located] at opened
    exact nomatch opened
  | ok place =>
    rw [located] at opened
    simp only [bind, Except.bind] at opened
    split at opened
    · exact nomatch opened
    · next notFolder =>
      split at opened
      · exact nomatch opened
      · cases opened
        exact ⟨rfl, notFolder⟩

/-- The disk is as it was, or the file that a path leads to holds something else. -/
def Wrote (path : Path) (disk changed : Disk) : Prop :=
  changed = disk ∨ ∃ location octets, disk.openAt path = .ok location ∧
    changed = disk.withFile location octets

/-- Writing a file is refused, or ends with the file holding what the device took: all of it, or a
front part if the device gives up. -/
theorem write_cases (disk : Disk) (path : Path) (octets : Octets) :
    (∃ fault, disk.openAt path = .error fault ∧
      disk.write path octets = (disk, .error fault)) ∨
    ∃ location, disk.openAt path = .ok location ∧
      (disk.outages.lookup location = none ∧
        disk.write path octets = (disk.withFile location octets, .ok ()) ∨
      ∃ outage, disk.outages.lookup location = some outage ∧
        disk.write path octets = (disk.withFile location (octets.take outage.taken),
          .error (.os ⟨outage.cause, none⟩))) := by
  unfold write
  cases opened : disk.openAt path with
  | error fault => exact .inl ⟨fault, rfl, rfl⟩
  | ok location =>
    refine .inr ⟨location, rfl, ?_⟩
    cases found : disk.outages.lookup location with
    | none => exact .inl ⟨rfl, by simp only [found]⟩
    | some outage => exact .inr ⟨outage, rfl, by simp only [found]⟩

theorem wrote_write (disk : Disk) (path : Path) (octets : Octets) :
    Wrote path disk (disk.write path octets).1 := by
  rcases write_cases disk path octets with
    ⟨fault, _, refused⟩ | ⟨location, opened, ⟨_, whole⟩ | ⟨outage, _, part⟩⟩
  · exact .inl (congrArg Prod.fst refused)
  · exact .inr ⟨location, octets, opened, congrArg Prod.fst whole⟩
  · exact .inr ⟨location, _, opened, congrArg Prod.fst part⟩

/-- What a disk is after a file was written. -/
theorem write_eq_ok {path : Path} {octets : Octets}
    (written : disk.write path octets = (changed, .ok ())) :
    ∃ location, disk.openAt path = .ok location ∧ changed = disk.withFile location octets := by
  rcases write_cases disk path octets with
    ⟨fault, _, refused⟩ | ⟨location, opened, ⟨_, whole⟩ | ⟨outage, _, part⟩⟩
  · cases refused.symm.trans written
  · exact ⟨location, opened, (congrArg Prod.fst (whole.symm.trans written)).symm⟩
  · cases part.symm.trans written

/-- A path leads to a place where the device has room. -/
def Takes (disk : Disk) (path : Path) : Prop :=
  ∃ location, disk.locate path = .ok location ∧ disk.outages.lookup location = none

/-- A file that can be opened is written where the device does not give up. -/
theorem write_of_openAt {path : Path} {location : Location}
    (opened : disk.openAt path = .ok location) (room : disk.outages.lookup location = none)
    (octets : Octets) : disk.write path octets = (disk.withFile location octets, .ok ()) := by
  unfold write
  simp only [opened, room]

theorem keepsFolders_withFile {location : Location}
    (notFolder : ∀ time, disk.node? location ≠ some (.folder time)) (octets : Octets) :
    KeepsFolders disk (disk.withFile location octets) := by
  intro place time found
  refine ⟨time, ?_⟩
  rw [node?_withFile (isBase_of_not_folder notFolder), if_neg, found]
  rintro rfl
  exact notFolder time found

theorem Wrote.keepsFolders {path : Path} (wrote : Wrote path disk changed) :
    KeepsFolders disk changed := by
  rcases wrote with rfl | ⟨location, octets, opened, rfl⟩
  · exact fun _ time found => ⟨time, found⟩
  · exact keepsFolders_withFile (openAt_eq_ok opened).2 octets

/-- What a file was made to hold is read back. -/
theorem read_withFile {path : Path} {location : Location} (opened : disk.openAt path = .ok location)
    (octets : Octets) : (disk.withFile location octets).read path = .ok octets := by
  obtain ⟨located, notFolder⟩ := openAt_eq_ok opened
  unfold read look
  rw [(keepsFolders_withFile notFolder octets).locate located]
  simp only [bind, Except.bind, node?_withFile (isBase_of_not_folder notFolder), if_pos]
  rfl

/-! ## What changes -/

/-- The octets of the file at a location. -/
def fileAt? (disk : Disk) (location : Location) : Option Octets :=
  match disk.node? location with
  | some (.file octets _) => some octets
  | _ => none

/-- A file at a location is what the paths that lead there read. -/
theorem read_eq_ok_iff {path : Path} {location : Location}
    (located : disk.locate path = .ok location) {octets : Octets} :
    disk.read path = .ok octets ↔ disk.fileAt? location = some octets := by
  unfold read look fileAt?
  rw [located]
  simp only [bind, Except.bind]
  cases disk.node? location with
  | none => exact ⟨nofun, nofun⟩
  | some node =>
    cases node with
    | file content time =>
      constructor
      · intro same
        exact congrArg some (Except.ok.inj same)
      · intro same
        exact congrArg Except.ok (Option.some.inj same)
    | folder time => exact ⟨nofun, nofun⟩

/-- Files may differ at some locations only, and no folder is lost. -/
structure ChangedAt (places : Location → Prop) (disk changed : Disk) : Prop where
  folders : KeepsFolders disk changed
  files : ∀ location, ¬ places location → changed.fileAt? location = disk.fileAt? location

namespace ChangedAt

variable {places more : Location → Prop}

theorem refl (disk : Disk) : ChangedAt places disk disk :=
  ⟨fun _ time found => ⟨time, found⟩, fun _ _ => rfl⟩

theorem trans {last : Disk} (first : ChangedAt places disk changed)
    (second : ChangedAt places changed last) : ChangedAt places disk last where
  folders location time found := by
    obtain ⟨later, stays⟩ := first.folders location time found
    exact second.folders location later stays
  files location other := (second.files location other).trans (first.files location other)

theorem mono (change : ChangedAt places disk changed)
    (wider : ∀ location, places location → more location) : ChangedAt more disk changed :=
  ⟨change.folders, fun location other => change.files location fun here => other (wider _ here)⟩

end ChangedAt

/-- Writing a file changes at most what its path leads to. -/
theorem Wrote.changedAt {path : Path} (wrote : Wrote path disk changed) :
    ChangedAt (fun place => changed.locate path = .ok place) disk changed := by
  refine ⟨wrote.keepsFolders, fun place other => ?_⟩
  rcases wrote with rfl | ⟨location, octets, opened, rfl⟩
  · rfl
  · obtain ⟨located, notFolder⟩ := openAt_eq_ok opened
    have apart : place ≠ location := by
      rintro rfl
      exact other ((keepsFolders_withFile notFolder octets).locate located)
    unfold fileAt?
    rw [node?_withFile (isBase_of_not_folder notFolder), if_neg apart]

/-- What a disk is after a folder was made. -/
theorem makeFolder_eq_ok {path : Path} (made : disk.makeFolder path = .ok changed) :
    ∃ location, disk.locate path = .ok location ∧ disk.node? location = none ∧
      changed.outages = disk.outages ∧ ∀ place, changed.node? place =
        if place = location then some (.folder disk.clock) else disk.node? place := by
  unfold makeFolder at made
  cases located : disk.locate path with
  | error fault =>
    rw [located] at made
    exact nomatch made
  | ok location =>
    refine ⟨location, rfl, ?_⟩
    rw [located] at made
    simp only [bind, Except.bind] at made
    split at made
    · exact nomatch made
    · next absent =>
      rw [Option.not_isSome_iff_eq_none] at absent
      obtain rfl := Except.ok.inj made
      have other : isBase location = false :=
        isBase_of_not_folder fun time found => nomatch absent.symm.trans found
      exact ⟨absent, rfl, node?_setNode other _⟩

theorem changedAt_makeFolder {path : Path} (made : disk.makeFolder path = .ok changed) :
    ChangedAt (fun _ => False) disk changed := by
  obtain ⟨location, _, absent, _, nodes⟩ := makeFolder_eq_ok made
  constructor
  · intro place time found
    refine ⟨time, ?_⟩
    rw [nodes, if_neg, found]
    rintro rfl
    exact nomatch absent.symm.trans found
  · intro place _
    unfold fileAt?
    rw [nodes]
    by_cases same : place = location
    · rw [if_pos same, same, absent]
    · rw [if_neg same]

/-- What holds of a disk before and after one folder was made holds before and after all those on
the way to a path were, also when the last of them cannot be made. -/
theorem makeFolders_rel {R : Path → Disk → Disk → Prop} (refl : ∀ path disk, R path disk disk)
    (one : ∀ {path disk changed}, disk.makeFolder path = .ok changed → R path disk changed)
    (up : ∀ {path disk changed}, R path.parent disk changed → R path disk changed)
    (trans : ∀ {path disk changed last}, R path disk changed → R path changed last →
      R path disk last) (disk : Disk) (path : Path) : R path disk (disk.makeFolders path).1 := by
  unfold makeFolders
  generalize path.parts.length = fuel
  induction fuel generalizing path with
  | zero =>
    unfold makeFoldersFrom
    split
    · next made => exact one made
    · exact refl path disk
  | succ fuel ih =>
    unfold makeFoldersFrom
    split
    · next made => exact one made
    · have above := up (ih path.parent)
      split
      · next changed fault same => rw [same] at above; exact above
      · next changed same =>
        rw [same] at above
        split
        · next made => exact trans above (one made)
        · exact above
    · exact refl path disk

/-- Making folders changes no file. -/
theorem changedAt_makeFolders (disk : Disk) (path : Path) :
    ChangedAt (fun _ => False) disk (disk.makeFolders path).1 :=
  makeFolders_rel (R := fun _ => ChangedAt fun _ => False) (fun _ disk => .refl disk)
    changedAt_makeFolder id .trans disk path

/-- Making folders leaves the device as it is. -/
theorem outages_makeFolders (disk : Disk) (path : Path) :
    (disk.makeFolders path).1.outages = disk.outages :=
  makeFolders_rel (R := fun _ disk changed => changed.outages = disk.outages) (fun _ _ => rfl)
    (fun made => (makeFolder_eq_ok made).choose_spec.2.2.1) id
    (fun first second => second.trans first) disk path

/-- A folder that is there need not be made. -/
theorem makeFolders_of_isFolder {path : Path} (isFolder : disk.isFolder path = true) :
    disk.makeFolders path = (disk, .ok ()) := by
  have occupied : disk.makeFolder path = .error (refusal path .occupied) := by
    obtain ⟨location, located⟩ := locate_of_isFolder isFolder
    unfold Disk.isFolder look at isFolder
    rw [located] at isFolder
    simp only [bind, Except.bind] at isFolder
    unfold makeFolder
    rw [located]
    simp only [bind, Except.bind]
    cases found : disk.node? location with
    | none => rw [found] at isFolder; exact nomatch isFolder
    | some node => rfl
  unfold makeFolders
  cases path.parts.length with
  | zero => rw [makeFoldersFrom, occupied]; simp only [isFolder, if_true]
  | succ fuel => rw [makeFoldersFrom, occupied]; simp only [refusal, isFolder, if_true]

/-! ## Files of a folder -/

section Children

variable {folder : Path} {parent : Location} (located : disk.locate folder = .ok parent)
include located

/-- A file can be opened when its path leads somewhere and there is no folder. -/
theorem openAt_childPath {name : String} (ordinary : name ≠ "..") {location : Location}
    (accepted : disk.locate (childPath folder name) = .ok location)
    (notFolder : ∀ time, disk.node? (parent ++ [name]) ≠ some (.folder time)) :
    disk.openAt (childPath folder name) = .ok (parent ++ [name]) := by
  obtain rfl := location_of_childPath located ordinary accepted
  obtain ⟨node, there⟩ : ∃ node, disk.node? parent = some node := by
    have walked := walk_of_locate accepted
    have start : (childPath folder name).isAbsolute = folder.isAbsolute := rfl
    have parts : (childPath folder name).parts = folder.parts ++ [name] := rfl
    rw [start, parts, walk_concat, walk_of_locate located] at walked
    cases found : disk.node? parent with
    | some node => exact ⟨node, rfl⟩
    | none =>
      rw [Except.bind, enter, found] at walked
      exact nomatch walked
  unfold openAt
  rw [accepted]
  simp only [bind, Except.bind, List.dropLast_concat, there]
  rfl

end Children

theorem isBase_child (parent : Location) {name : String} (ordinary : name ≠ "/") :
    isBase (parent ++ [name]) = false := by
  unfold isBase
  rw [Bool.or_eq_false_iff, beq_eq_false_iff_ne, beq_eq_false_iff_ne]
  refine ⟨List.concat_ne_nil name parent, fun same => ordinary ?_⟩
  have last := congrArg List.getLast? same
  rw [List.getLast?_concat] at last
  exact Option.some.inj last

/-- A node in a folder has its name there. -/
theorem mem_childNames_of_node? {parent : Location} {name extension : String} {node : DiskNode}
    (found : disk.node? (parent ++ [name]) = some node) (ordinary : name ≠ "/")
    (suffix : extension.toList.isSuffixOf name.toList = true) :
    name ∈ disk.childNames parent extension := by
  rw [node?, isBase_child parent ordinary, if_neg Bool.false_ne_true] at found
  refine List.mem_filter.mpr ⟨List.mem_filterMap.mpr ⟨parent ++ [name], ?_, ?_⟩, suffix⟩
  · by_contra missing
    have none : disk.nodes.lookup (parent ++ [name]) = none := by
      rw [List.lookup_eq_none_iff]
      intro entry member
      rw [bne_iff_ne]
      intro same
      exact missing (same ▸ List.mem_map_of_mem member)
    rw [none] at found
    cases found
  · exact childName?_eq_some_iff.mpr rfl

/-- A folder whose listing is empty has no nodes. -/
theorem childNames_of_listing {folder : Path} {parent : Location}
    (located : disk.locate folder = .ok parent) (isFolder : disk.isFolder folder = true)
    (void : disk.listing folder "" = []) (extension : String) :
    disk.childNames parent extension = [] := by
  rw [listing_of_folder located isFolder, List.map_eq_nil_iff] at void
  have all : disk.childNames parent "" = [] := by
    have rearranged := sortTexts_perm (disk.childNames parent "")
    rw [void] at rearranged
    exact rearranged.nil_eq.symm
  unfold childNames at all ⊢
  rw [List.filter_eq_nil_iff] at all ⊢
  intro name member
  exact absurd (List.isSuffixOf_iff_suffix.mpr List.nil_suffix) (all name member)

theorem keeps_eq (parent place : Location) (name : String) :
    keeps parent (· == name) place = (place != parent ++ [name]) := by
  unfold keeps
  cases child : childName? parent place with
  | none =>
    rw [eq_comm, bne_iff_ne]
    intro same
    rw [childName?_eq_some_iff.mpr same] at child
    exact nomatch child
  | some other =>
    rw [childName?_eq_some_iff.mp child, bne, Bool.not_inj_iff, Bool.eq_iff_iff, beq_iff_eq,
      beq_iff_eq, List.append_cancel_left_eq, List.singleton_inj]

/-- The names in a folder after a file was written into it. -/
theorem childNames_withFile (disk : Disk) (parent : Location) {name extension : String}
    (suffix : extension.toList.isSuffixOf name.toList = true) (octets : Octets) :
    (disk.withFile (parent ++ [name]) octets).childNames parent extension =
      (disk.childNames parent extension).filter (· != name) ++ [name] := by
  have others := @childNames_withoutChildren disk parent (· == name) extension
  have nodes : (disk.withFile (parent ++ [name]) octets).nodes =
      (disk.withoutChildren parent (· == name)).nodes ++
        [(parent ++ [name], .file octets disk.clock)] := by
    simp only [withFile, setNode, withoutChildren, keeps_eq]
  have last : childName? parent (parent ++ [name]) = some name := childName?_eq_some_iff.mpr rfl
  unfold childNames at others ⊢
  rw [nodes, List.map_append, List.filterMap_append, List.filter_append, others]
  congr 1
  simp [last, suffix]

end DesignGauge.Disk
