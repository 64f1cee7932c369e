import DesignGauge.Proofs.Disk.Writing

/-!
# What making folders changes

Making a folder, and first those missing above it, changes nothing but that new folders stand on the
way to its path. That holds also when the last of them cannot be made.

Results:
1. `Path.LeadsTo`: the paths on the way to a path.
2. `KeptOrMade`: a location is as it was, or a new folder on the way to a path.
3. `keptOrMade_makeFolders`: every location is that after folders were made.
-/

namespace DesignGauge

/-- A path is another one, or one of those above it. -/
def Path.LeadsTo (above path : Path) : Prop := above.root = path.root ∧ above.parts <+: path.parts

theorem Path.LeadsTo.refl (path : Path) : path.LeadsTo path := ⟨rfl, List.prefix_rfl⟩

theorem Path.LeadsTo.of_parent {above path : Path} (leads : above.LeadsTo path.parent) :
    above.LeadsTo path := by
  obtain ⟨root, parts⟩ := leads
  exact ⟨root, parts.trans (List.dropLast_prefix path.parts)⟩

namespace Disk

open Text

variable {disk changed last : Disk} {path : Path}

/-- What stands at a location is what stood there; or nothing stood there, and it is now a folder on
the way to a path. -/
def KeptOrMade (path : Path) (disk changed : Disk) (location : Location) : Prop :=
  changed.node? location = disk.node? location ∨
  (disk.node? location = none ∧ (∃ time, changed.node? location = some (.folder time)) ∧
    ∃ above, above.LeadsTo path ∧ changed.locate above = .ok location)

/-- No folder is lost where every location is kept or made. -/
theorem keepsFolders_of_keptOrMade (kept : ∀ location, KeptOrMade path disk changed location) :
    KeepsFolders disk changed := by
  intro location time found
  rcases kept location with same | ⟨absent, _⟩
  · exact ⟨time, same.trans found⟩
  · rw [absent] at found
    exact nomatch found

theorem KeptOrMade.of_parent {location : Location}
    (kept : KeptOrMade path.parent disk changed location) :
    KeptOrMade path disk changed location := by
  rcases kept with same | ⟨absent, made, above, leads, located⟩
  · exact .inl same
  · exact .inr ⟨absent, made, above, leads.of_parent, located⟩

/-- Folders made in two steps. -/
theorem KeptOrMade.trans {location : Location} (first : KeptOrMade path disk changed location)
    (second : ∀ location, KeptOrMade path changed last location) :
    KeptOrMade path disk last location := by
  rcases second location with same | ⟨absent, made, way⟩
  · rcases first with same' | ⟨absent, ⟨time, made⟩, above, leads, located⟩
    · exact .inl (same.trans same')
    · exact .inr ⟨absent, ⟨time, same.trans made⟩, above, leads,
        (keepsFolders_of_keptOrMade second).locate located⟩
  · rcases first with same' | ⟨_, ⟨time, made'⟩, _⟩
    · exact .inr ⟨same'.symm.trans absent, made, way⟩
    · rw [made'] at absent
      exact nomatch absent

theorem keptOrMade_makeFolder (made : disk.makeFolder path = .ok changed) (location : Location) :
    KeptOrMade path disk changed location := by
  obtain ⟨place, located, absent, _, nodes⟩ := makeFolder_eq_ok made
  by_cases here : location = place
  · subst here
    have stays := (changedAt_makeFolder made).folders.locate located
    exact .inr ⟨absent, ⟨disk.clock, by rw [nodes, if_pos rfl]⟩, path, .refl path, stays⟩
  · exact .inl (by rw [nodes, if_neg here])

/-- Whether it succeeds or not, making folders makes them on the way to the path. -/
theorem keptOrMade_makeFolders (disk : Disk) (path : Path) (location : Location) :
    KeptOrMade path disk (disk.makeFolders path).1 location :=
  makeFolders_rel (R := fun path disk changed => ∀ location, KeptOrMade path disk changed location)
    (fun _ _ _ => .inl rfl) keptOrMade_makeFolder (fun above location => (above location).of_parent)
    (fun first second location => (first location).trans second) disk path location

/-- Folders are made, then a file is put at a location: no other one is changed. -/
theorem keptOrMade_withFile {place other : Location}
    (kept : ∀ location, KeptOrMade path disk changed location)
    (notFolder : ∀ time, changed.node? place ≠ some (.folder time)) (octets : Octets)
    (apart : other ≠ place) : KeptOrMade path disk (changed.withFile place octets) other := by
  have same : (changed.withFile place octets).node? other = changed.node? other := by
    rw [node?_withFile (isBase_of_not_folder notFolder), if_neg apart]
  rcases kept other with same' | ⟨absent, ⟨time, made⟩, above, leads, way⟩
  · exact .inl (same.trans same')
  · exact .inr ⟨absent, ⟨time, same.trans made⟩, above, leads,
      (keepsFolders_withFile notFolder octets).locate way⟩

end Disk

end DesignGauge
