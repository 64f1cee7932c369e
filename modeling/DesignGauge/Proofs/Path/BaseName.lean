import DesignGauge.Path.SourceName
import DesignGauge.Proofs.Folder

/-!
# Base names are single components

The base name of a path holds neither separator, whatever the path is: drives, shares and
directories are cut off in front of it, and an extension behind it. A file that is named after a
base name is therefore a direct child of the folder it is put into.

Results:
1. `slash_not_mem_baseName`, `backslash_not_mem_baseName`: a base name holds no separator.
2. `below_eq_childPath`: what is below a folder under a name without a slash is a child of it.
3. `below_fileNameOf`: the file that is named after a source; `fileNameOf_inj`: it tells the base
   name.
-/

namespace DesignGauge

open Text

namespace SourceName

/-! ## What is cut off -/

theorem afterShare_suffix (path : List Char) : afterShare path <:+ path :=
  (List.dropWhile_suffix _).trans ((List.drop_suffix _ _).trans (List.dropWhile_suffix _))

theorem dropDrive_suffix (path : List Char) : dropDrive path <:+ path := by
  unfold dropDrive
  split
  · next a b rest =>
    have tail : rest <:+ a :: b :: rest := ⟨[a, b], rfl⟩
    split
    · split
      · exact (afterShare_suffix _).trans ((List.drop_suffix _ _).trans tail)
      · exact (afterShare_suffix _).trans tail
    · split
      · exact tail
      · exact List.suffix_rfl
  · exact List.suffix_rfl

theorem mem_afterLast {separator c : Char} {text : List Char}
    (member : c ∈ afterLast separator text) : c ∈ text ∧ c ≠ separator := by
  have taken : c ∈ text.reverse.takeWhile (· != separator) := List.mem_reverse.mp member
  constructor
  · exact List.mem_reverse.mp ((List.takeWhile_prefix _).subset taken)
  · exact bne_iff_ne.mp (List.all_eq_true.mp List.all_takeWhile c taken)

theorem dropExtension_subset (name : List Char) : dropExtension name ⊆ name := by
  unfold dropExtension
  simp only
  split
  · intro c member
    have kept : c ∈ (name.reverse.dropWhile (· != '.')).reverse :=
      (List.dropLast_sublist _).subset member
    exact List.mem_reverse.mp ((List.dropWhile_suffix _).subset (List.mem_reverse.mp kept))
  · exact List.Subset.refl name

theorem slash_not_mem_unify (path : List Char) : '/' ∉ unify path := by
  intro member
  obtain ⟨c, _, same⟩ := List.mem_map.mp member
  split at same
  · exact absurd same (by decide)
  · next other => exact other (beq_iff_eq.mpr same)

/-! ## Base names -/

/-- The characters of a base name stand in the path with its separators unified, behind the last of
them. -/
theorem mem_baseName {path : String} {c : Char} (member : c ∈ (baseName path).toList) :
    c ∈ unify path.toList ∧ c ≠ separator := by
  rw [baseName, String.toList_ofList] at member
  obtain ⟨inside, other⟩ := mem_afterLast (dropExtension_subset _ member)
  exact ⟨(dropDrive_suffix _).subset inside, other⟩

theorem slash_not_mem_baseName (path : String) : '/' ∉ (baseName path).toList :=
  fun member => slash_not_mem_unify path.toList (mem_baseName member).1

theorem backslash_not_mem_baseName (path : String) : '\\' ∉ (baseName path).toList :=
  fun member => (mem_baseName member).2 rfl

end SourceName

/-! ## Files in a folder -/

theorem below_eq_childPath (folder : Path) {name : String} (plain : '/' ∉ name.toList)
    (some : name ≠ "") (other : name ≠ ".") : folder.below name = Disk.childPath folder name := by
  have pieces : Path.pieces name = [name] := by
    rw [Path.pieces, List.splitOn_eq_singleton plain]
    simp
  have noRoot : name.toList.takeWhile (· == '/') = [] := by
    cases chars : name.toList with
    | nil => rfl
    | cons c rest =>
      rw [chars, List.mem_cons, not_or] at plain
      exact List.takeWhile_cons_of_neg (by simpa using Ne.symm plain.1)
  have relative : Path.ofText name = ⟨"", [name]⟩ := by
    rw [Path.ofText, pieces, noRoot]
    simp [some, other]
  rw [Path.below, relative]
  rfl

/-- The name of the file of a source. -/
def fileNameOf (path : String) : String := SourceName.baseName path ++ ".json"

theorem toList_fileNameOf (path : String) :
    (fileNameOf path).toList = (SourceName.baseName path).toList ++ ".json".toList :=
  String.toList_append

theorem suffix_fileNameOf (path : String) :
    ".json".toList.isSuffixOf (fileNameOf path).toList = true := by
  rw [List.isSuffixOf_iff_suffix, toList_fileNameOf]
  exact List.suffix_append _ _

theorem slash_not_mem_fileNameOf (path : String) : '/' ∉ (fileNameOf path).toList := by
  rw [toList_fileNameOf, List.mem_append, not_or]
  exact ⟨SourceName.slash_not_mem_baseName path, by decide⟩

/-- The file of a source is a child of the folder. -/
theorem below_fileNameOf (folder : Path) (path : String) :
    folder.below (fileNameOf path) = Disk.childPath folder (fileNameOf path) := by
  have suffix := suffix_fileNameOf path
  refine below_eq_childPath folder (slash_not_mem_fileNameOf path) ?_ ?_
  · intro none
    rw [none] at suffix
    exact absurd suffix (by decide)
  · intro dot
    rw [dot] at suffix
    exact absurd suffix (by decide)

/-- The file of a source tells its base name. -/
theorem fileNameOf_inj {a b : String} (same : fileNameOf a = fileNameOf b) :
    SourceName.baseName a = SourceName.baseName b := by
  have lists := congrArg String.toList same
  rw [toList_fileNameOf, toList_fileNameOf] at lists
  exact String.toList_injective (List.append_cancel_right lists)

theorem childPath_inj {folder : Path} {a b : String}
    (same : Disk.childPath folder a = Disk.childPath folder b) : a = b := by
  rw [← Disk.childPath_name folder a, same, Disk.childPath_name]

end DesignGauge
