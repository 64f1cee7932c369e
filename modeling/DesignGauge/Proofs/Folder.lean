import DesignGauge.Disk
import Mathlib.Data.List.Sort

/-!
# The files of a folder

The listing of a folder is in the order of the names. Files can be deleted from a folder without
any effect on the others: the paths that lead through folders lead to the same places, the listing
loses just the names deleted, and every other file is read as before.

Results:
1. `listing_sorted`: the listing is sorted by name.
2. `KeepsFolders.locate`: on a disk that keeps all folders, paths lead to the same places.
3. `listing_withoutChildren`: the listing after files of the folder were deleted.
4. `look_withoutChildren`: what the path of a child leads to after other files were deleted.
-/

namespace DesignGauge

open Text

/-! ## Sorted texts -/

theorem sortTexts_perm (texts : List String) : (sortTexts texts).Perm texts :=
  List.mergeSort_perm texts _

theorem sortTexts_sorted (texts : List String) : (sortTexts texts).Pairwise (· ≤ ·) := by
  have sorted : (sortTexts texts).Pairwise fun a b => (!decide (b < a)) = true := by
    apply List.pairwise_mergeSort
    · intro a b c hab hbc
      simp only [Bool.not_eq_true', decide_eq_false_iff_not, String.not_lt] at hab hbc ⊢
      exact String.le_trans hab hbc
    · intro a b
      simp only [Bool.or_eq_true, Bool.not_eq_true', decide_eq_false_iff_not, String.not_lt]
      exact String.le_total a b
  refine sorted.imp fun hab => ?_
  rw [Bool.not_eq_true', decide_eq_false_iff_not, String.not_lt] at hab
  exact hab

/-- A sorted list is the only one among its rearrangements. -/
theorem eq_of_sorted_perm {xs ys : List String} (hx : xs.Pairwise (· ≤ ·))
    (hy : ys.Pairwise (· ≤ ·)) (rearranged : xs.Perm ys) : xs = ys :=
  rearranged.eq_of_pairwise (fun _ _ _ _ hab hba => String.le_antisymm hab hba) hx hy

/-- Texts can be left out before or after sorting. -/
theorem sortTexts_filter (keep : String → Bool) (texts : List String) :
    sortTexts (texts.filter keep) = (sortTexts texts).filter keep := by
  refine eq_of_sorted_perm (sortTexts_sorted _) ((sortTexts_sorted texts).filter keep) ?_
  exact (sortTexts_perm _).trans ((sortTexts_perm texts).filter keep).symm

namespace Disk

/-! ## Children of a folder -/

/-- The path of a child of a folder. -/
def childPath (folder : Path) (name : String) : Path := ⟨folder.root, folder.parts ++ [name]⟩

@[simp]
theorem childPath_name (folder : Path) (name : String) : (childPath folder name).name = name := by
  simp [childPath, Path.name]

/-- The names of the nodes in a folder that have an extension. -/
def childNames (disk : Disk) (parent : Location) (extension : String) : List String :=
  ((disk.nodes.map Prod.fst).filterMap (childName? parent)).filter fun name =>
    extension.toList.isSuffixOf name.toList

/-- The listing of a folder leads through its names in order. -/
theorem listing_of_folder {disk : Disk} {folder : Path} {parent : Location}
    (located : disk.locate folder = .ok parent) (isFolder : disk.isFolder folder = true)
    (extension : String) :
    disk.listing folder extension =
      (sortTexts (disk.childNames parent extension)).map (childPath folder) := by
  unfold listing
  rw [if_pos isFolder, located]
  rfl

theorem listing_of_not_folder {disk : Disk} {folder : Path} (other : disk.isFolder folder = false)
    (extension : String) : disk.listing folder extension = [] := by
  unfold listing
  rw [if_neg (by simp [other])]

/-- A folder has a location. -/
theorem locate_of_isFolder {disk : Disk} {folder : Path} (isFolder : disk.isFolder folder = true) :
    ∃ parent, disk.locate folder = .ok parent := by
  unfold Disk.isFolder look at isFolder
  cases located : disk.locate folder with
  | ok parent => exact ⟨parent, rfl⟩
  | error fault => simp [located, bind, Except.bind] at isFolder

/-- What is listed is a child with the extension. -/
theorem childPath_of_mem_listing {disk : Disk} {folder path : Path} {extension : String}
    (listed : path ∈ disk.listing folder extension) :
    ∃ name, path = childPath folder name ∧
      extension.toList.isSuffixOf name.toList = true := by
  cases isFolder : disk.isFolder folder with
  | false =>
    rw [listing_of_not_folder isFolder] at listed
    exact absurd listed List.not_mem_nil
  | true =>
    obtain ⟨parent, located⟩ := locate_of_isFolder isFolder
    rw [listing_of_folder located isFolder] at listed
    obtain ⟨name, member, rfl⟩ := List.mem_map.mp listed
    have suffix := (List.mem_filter.mp ((sortTexts_perm _).mem_iff.mp member)).2
    exact ⟨name, rfl, suffix⟩

theorem childName?_eq_some_iff {parent location : Location} {name : String} :
    childName? parent location = some name ↔ location = parent ++ [name] := by
  unfold childName?
  constructor
  · intro h
    split at h
    · next hc =>
      simp only [Bool.and_eq_true, beq_iff_eq, bne_iff_ne] at hc
      obtain ⟨front, last⟩ := List.getLast?_eq_some_iff.mp h
      rw [last, List.dropLast_concat] at hc
      rw [last, hc.1]
    · exact absurd h nofun
  · rintro rfl
    simp

section Children

variable {disk : Disk} {parent : Location}

theorem walk_concat (location : Location) (names : List String) (name : String) :
    disk.walk location (names ++ [name]) =
      (disk.walk location names).bind fun last => disk.enter last name := by
  induction names generalizing location with
  | nil =>
    simp only [List.nil_append, walk, Except.bind]
    cases disk.enter location name <;> rfl
  | cons head rest ih =>
    simp only [List.cons_append, walk, bind, Except.bind]
    cases disk.enter location head with
    | error cause => rfl
    | ok next => exact ih next

theorem walk_of_locate {path : Path} {location : Location}
    (located : disk.locate path = .ok location) :
    disk.walk (if path.isAbsolute then ["/"] else []) path.parts = .ok location := by
  unfold locate at located
  split at located
  · exact absurd located nofun
  · split at located
    · exact absurd located nofun
    · split at located
      · exact absurd located nofun
      · split at located
        · next last walked =>
          cases located
          exact walked
        · exact absurd located nofun

theorem enter_child {next : Location} {name : String} (ordinary : name ≠ "..")
    (entered : disk.enter parent name = .ok next) : next = parent ++ [name] := by
  unfold enter at entered
  split at entered
  · exact absurd entered nofun
  · exact absurd entered nofun
  · rw [if_neg (by simpa using ordinary)] at entered
    split at entered
    · exact absurd entered nofun
    · cases entered
      rfl

theorem location_of_childPath {folder : Path} (located : disk.locate folder = .ok parent)
    {name : String} (ordinary : name ≠ "..") {location : Location}
    (found : disk.locate (childPath folder name) = .ok location) : location = parent ++ [name] := by
  have walked := walk_of_locate found
  have start : (childPath folder name).isAbsolute = folder.isAbsolute := rfl
  have parts : (childPath folder name).parts = folder.parts ++ [name] := rfl
  rw [start, parts, walk_concat, walk_of_locate located] at walked
  exact enter_child ordinary walked

end Children

/-! ## Folders that stay -/

/-- Every folder of a disk is a folder of another one. -/
def KeepsFolders (disk changed : Disk) : Prop :=
  ∀ location time, disk.node? location = some (.folder time) →
    ∃ later, changed.node? location = some (.folder later)

namespace KeepsFolders

variable {disk changed : Disk} (keeps : KeepsFolders disk changed)
include keeps

/-- A component is entered as before, since that takes a folder. -/
theorem enter {location next : Location} {name : String}
    (entered : disk.enter location name = .ok next) : changed.enter location name = .ok next := by
  unfold Disk.enter at entered ⊢
  cases found : disk.node? location with
  | none => rw [found] at entered; exact absurd entered nofun
  | some node =>
    cases node with
    | file octets time => rw [found] at entered; exact absurd entered nofun
    | folder time =>
      obtain ⟨later, stays⟩ := keeps location time found
      rw [stays]
      rw [found] at entered
      exact entered

/-- A walk through folders leads to the same place. -/
theorem walk {names : List String} {location last : Location}
    (walked : disk.walk location names = .ok last) : changed.walk location names = .ok last := by
  induction names generalizing location with
  | nil => exact walked
  | cons name rest ih =>
    rw [Disk.walk] at walked ⊢
    cases entered : disk.enter location name with
    | error cause => rw [entered] at walked; exact absurd walked nofun
    | ok next =>
      rw [entered] at walked
      rw [keeps.enter entered]
      exact ih walked

theorem locate {path : Path} {location : Location} (located : disk.locate path = .ok location) :
    changed.locate path = .ok location := by
  unfold Disk.locate at located ⊢
  split at located
  · exact absurd located nofun
  · next named =>
    rw [if_neg named]
    split at located
    · exact absurd located nofun
    · next noNull =>
      rw [if_neg noNull]
      split at located
      · exact absurd located nofun
      · next short =>
        rw [if_neg short]
        split at located
        · next last walked =>
          rw [keeps.walk walked]
          exact located
        · exact absurd located nofun

theorem isFolder {path : Path} (isFolder : disk.isFolder path = true) :
    changed.isFolder path = true := by
  obtain ⟨location, located⟩ := locate_of_isFolder isFolder
  unfold Disk.isFolder look at isFolder ⊢
  rw [located] at isFolder
  rw [keeps.locate located]
  simp only [bind, Except.bind] at isFolder ⊢
  cases found : disk.node? location with
  | none => rw [found] at isFolder; exact nomatch isFolder
  | some node =>
    cases node with
    | file octets time => rw [found] at isFolder; exact nomatch isFolder
    | folder time =>
      obtain ⟨later, stays⟩ := keeps location time found
      rw [stays]
      rfl

end KeepsFolders

/-! ## Deleting files of a folder -/

/-- A location is not that of a child that is to go. -/
def keeps (parent : Location) (gone : String → Bool) (location : Location) : Bool :=
  match childName? parent location with
  | some name => !gone name
  | none => true

/-- The disk without some children of a location. -/
def withoutChildren (disk : Disk) (parent : Location) (gone : String → Bool) : Disk :=
  { disk with nodes := disk.nodes.filter fun node => keeps parent gone node.1 }

theorem keeps_child (parent : Location) (gone : String → Bool) (name : String) :
    keeps parent gone (parent ++ [name]) = !gone name := by
  unfold keeps
  rw [childName?_eq_some_iff.mpr rfl]

/-- In a list of pairs thinned out by key, a key that stays leads where it led. -/
theorem lookup_filter_keys {α β : Type} [BEq α] [LawfulBEq α] (keep : α → Bool) (k : α)
    (l : List (α × β)) :
    (l.filter fun p => keep p.1).lookup k = if keep k then l.lookup k else none := by
  induction l with
  | nil => simp
  | cons head rest ih =>
    obtain ⟨k', b⟩ := head
    by_cases hk : k = k'
    · subst hk
      cases hkeep : keep k with
      | false =>
        rw [List.filter_cons_of_neg (by simp [hkeep]), ih, hkeep]
        simp
      | true =>
        rw [List.filter_cons_of_pos (by simp [hkeep])]
        simp
    · have hb : (k == k') = false := beq_eq_false_iff_ne.mpr hk
      cases hkeep : keep k' with
      | false => rw [List.filter_cons_of_neg (by simp [hkeep]), ih, List.lookup_cons, hb]
      | true =>
        rw [List.filter_cons_of_pos (by simp [hkeep]), List.lookup_cons, hb, List.lookup_cons, hb,
          ih]

section Deletion

variable {disk : Disk} {parent : Location} {gone : String → Bool}

theorem node?_withoutChildren_of_keeps {location : Location}
    (kept : keeps parent gone location = true) :
    (disk.withoutChildren parent gone).node? location = disk.node? location := by
  simp only [node?, withoutChildren, lookup_filter_keys, kept, if_true]

theorem keeps_parent : keeps parent gone parent = true := by
  unfold keeps
  cases hc : childName? parent parent with
  | none => rfl
  | some name =>
    have longer := congrArg List.length (childName?_eq_some_iff.mp hc)
    simp at longer

theorem enter_parent (name : String) :
    (disk.withoutChildren parent gone).enter parent name = disk.enter parent name := by
  unfold enter
  rw [node?_withoutChildren_of_keeps keeps_parent]

theorem childNames_withoutChildren (extension : String) :
    (disk.withoutChildren parent gone).childNames parent extension =
      (disk.childNames parent extension).filter fun name => !gone name := by
  unfold childNames withoutChildren
  -- the extension plays no part; node by node, a child goes from both sides or from none
  rw [List.filter_comm]
  congr 1
  induction disk.nodes with
  | nil => rfl
  | cons node rest ih =>
    cases hc : childName? parent node.1 with
    | none =>
      have kept : keeps parent gone node.1 = true := by simp [keeps, hc]
      simp [kept, hc, ih]
    | some name =>
      have kept : keeps parent gone node.1 = !gone name := by simp [keeps, hc]
      cases hg : gone name <;> simp [kept, hc, ih, hg]

/-- Only files are deleted. -/
def OnlyFiles (disk : Disk) (parent : Location) (gone : String → Bool) : Prop :=
  ∀ name, gone name = true → ∃ octets time, disk.node? (parent ++ [name]) = some (.file octets time)

variable (files : OnlyFiles disk parent gone)
include files

/-- A folder stays. -/
theorem keeps_of_folder {location : Location} {time : Int}
    (found : disk.node? location = some (.folder time)) : keeps parent gone location = true := by
  unfold keeps
  cases hc : childName? parent location with
  | none => rfl
  | some name =>
    rw [childName?_eq_some_iff.mp hc] at found
    cases hg : gone name with
    | false => simp [hg]
    | true =>
      obtain ⟨_, _, file⟩ := files name hg
      rw [file] at found
      exact absurd found nofun

theorem keepsFolders_withoutChildren : KeepsFolders disk (disk.withoutChildren parent gone) := by
  intro location time found
  exact ⟨time, (node?_withoutChildren_of_keeps (keeps_of_folder files found)).trans found⟩

theorem locate_withoutChildren {path : Path} {location : Location}
    (located : disk.locate path = .ok location) :
    (disk.withoutChildren parent gone).locate path = .ok location :=
  (keepsFolders_withoutChildren files).locate located

/-- The folder itself stays as it is. -/
theorem look_folder_withoutChildren {folder : Path} (located : disk.locate folder = .ok parent) :
    (disk.withoutChildren parent gone).look folder = disk.look folder := by
  unfold look
  rw [located, locate_withoutChildren files located]
  simp only [bind, Except.bind, node?_withoutChildren_of_keeps keeps_parent]

theorem isFolder_withoutChildren {folder : Path} (located : disk.locate folder = .ok parent) :
    (disk.withoutChildren parent gone).isFolder folder = disk.isFolder folder := by
  unfold isFolder
  rw [look_folder_withoutChildren files located]

/-- The listing loses just the names deleted. -/
theorem listing_withoutChildren {folder : Path} (located : disk.locate folder = .ok parent)
    (extension : String) :
    (disk.withoutChildren parent gone).listing folder extension =
      (disk.listing folder extension).filter fun path => !gone path.name := by
  have same := isFolder_withoutChildren files located
  cases isFolder : disk.isFolder folder with
  | false =>
    rw [listing_of_not_folder isFolder, listing_of_not_folder (same.trans isFolder)]
    rfl
  | true =>
    have names : (fun path : Path => !gone path.name) ∘ childPath folder = fun name => !gone name :=
      funext fun name => by simp only [Function.comp, childPath_name]
    rw [listing_of_folder located isFolder, List.filter_map, names, ← sortTexts_filter,
      ← childNames_withoutChildren]
    exact listing_of_folder (locate_withoutChildren files located) (same.trans isFolder) extension

/-- The path of a child leads where it led. -/
theorem locate_childPath_withoutChildren {folder : Path}
    (located : disk.locate folder = .ok parent) (name : String) :
    (disk.withoutChildren parent gone).locate (childPath folder name) =
      disk.locate (childPath folder name) := by
  have walked := walk_of_locate located
  have walked' := (keepsFolders_withoutChildren files).walk walked
  have start : (childPath folder name).isAbsolute = folder.isAbsolute := rfl
  have parts : (childPath folder name).parts = folder.parts ++ [name] := rfl
  unfold locate
  rw [start, parts, walk_concat, walk_concat, walked, walked']
  simp only [Except.bind, enter_parent]

/-- What the path of a child leads to, unless the child was deleted. -/
theorem look_withoutChildren {folder : Path} (located : disk.locate folder = .ok parent)
    {name : String} (stays : gone name = false) (ordinary : name ≠ "..") :
    (disk.withoutChildren parent gone).look (childPath folder name) =
      disk.look (childPath folder name) := by
  unfold look
  rw [locate_childPath_withoutChildren files located]
  cases found : disk.locate (childPath folder name) with
  | error fault => rfl
  | ok location =>
    have kept : keeps parent gone location = true := by
      rw [location_of_childPath located ordinary found, keeps_child, stays]
      rfl
    simp only [bind, Except.bind, node?_withoutChildren_of_keeps kept]

end Deletion

end Disk

end DesignGauge
