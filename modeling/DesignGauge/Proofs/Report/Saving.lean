import DesignGauge.Proofs.Disk.Writing
import DesignGauge.Proofs.Json.RoundTrip
import DesignGauge.Proofs.Wire.RoundTrip
import DesignGauge.Report.Archive

/-!
# Reports that were saved

The values of a report come back from it when their names are distinct. A report of finite values
that was saved is loaded again; whether its integers and texts have a place in a file is seen when
it is saved.

Results:
1. `values_ofValues`: values of distinct names are those of their report.
2. `inRange_of_fileOctets`: the integers of a report that can be written.
   `save_cases`, `save_eq_ok`: how saving ends, and what a report that was saved leaves on the disk.
3. `load_of_save`: a report of finite values that was saved is loaded.
-/

namespace DesignGauge.Report

open Text Json

/-! ## Values by name -/

theorem setValue_of_new {name : String} {values : List (String × Number)}
    (new : name ∉ values.map Prod.fst) (value : Number) :
    setValue name value values = values ++ [(name, value)] := by
  induction values with
  | nil => rfl
  | cons entry values ih =>
    rw [List.map_cons, List.mem_cons, not_or] at new
    rw [setValue, if_neg (by simpa using Ne.symm new.1), ih new.2, List.cons_append]

theorem keys_setValue_of_mem {name : String} {values : List (String × Number)}
    (member : name ∈ values.map Prod.fst) (value : Number) :
    (setValue name value values).map Prod.fst = values.map Prod.fst := by
  induction values with
  | nil => exact absurd member List.not_mem_nil
  | cons entry values ih =>
    rw [setValue]
    split
    · rfl
    · next other =>
      rw [List.map_cons, List.mem_cons] at member
      have rest := member.resolve_left fun same => other (by simp [same])
      rw [List.map_cons, ih rest, List.map_cons]

/-- Setting a value keeps the names distinct. -/
theorem nodup_setValue (name : String) (value : Number) {values : List (String × Number)}
    (distinct : (values.map Prod.fst).Nodup) :
    ((setValue name value values).map Prod.fst).Nodup := by
  by_cases member : name ∈ values.map Prod.fst
  · rwa [keys_setValue_of_mem member]
  · rw [setValue_of_new member, List.map_append]
    exact List.Nodup.append distinct (List.nodup_singleton _) (by simpa using member)

/-- What is set is what was there or the new value. -/
theorem mem_setValue {name : String} {value : Number} {values : List (String × Number)}
    {entry : String × Number} (member : entry ∈ setValue name value values) :
    entry.2 = value ∨ entry ∈ values := by
  induction values with
  | nil => exact .inl (List.mem_singleton.mp member ▸ rfl)
  | cons first values ih =>
    rw [setValue] at member
    split at member
    · rcases List.mem_cons.mp member with rfl | member
      · exact .inl rfl
      · exact .inr (List.mem_cons_of_mem _ member)
    · rcases List.mem_cons.mp member with rfl | member
      · exact .inr List.mem_cons_self
      · exact (ih member).imp_right (List.mem_cons_of_mem _)

/-- Values of new and distinct names are set one after another behind those that are there. -/
theorem foldl_setValue {front values : List (String × Number)}
    (distinct : ((front ++ values).map Prod.fst).Nodup) :
    (values.map fun v => (⟨v.1, v.2⟩ : MetricEntry)).foldl
      (fun acc e => setValue e.name e.value acc) front = front ++ values := by
  induction values generalizing front with
  | nil => exact (List.append_nil front).symm
  | cons entry values ih =>
    have new : entry.1 ∉ front.map Prod.fst := by
      rw [List.map_append, List.map_cons, List.nodup_middle, List.nodup_cons] at distinct
      exact fun member => distinct.1 (List.mem_append_left _ member)
    rw [List.map_cons, List.foldl_cons, setValue_of_new new, ih, List.append_assoc]
    · rfl
    · rwa [List.append_assoc]

/-- Values of distinct names are those of their report. -/
theorem values_ofValues (path : String) {values : List (String × Number)}
    (distinct : (values.map Prod.fst).Nodup) : (ofValues path values).values = values :=
  foldl_setValue distinct

/-! ## The tree of a report -/

theorem nested_entry {levels : Nat} {e : MetricEntry} (finite : e.value.isFinite = true) :
    Nested Plain (levels + 1) e.write := by
  refine .fields (by simp only [List.map_cons, List.map_nil]; decide) (fun _ _ => trivial) ?_
  simp only [List.forall_mem_cons, List.not_mem_nil, false_implies, implies_true, and_true]
  refine ⟨.leaf trivial, .leaf ?_⟩
  cases value : e.value with
  | int i => trivial
  | float x =>
    rw [value] at finite
    exact finite

/-- A report of finite values is a tree of scalars that have JSON texts. -/
theorem nested_write {r : Report} (finite : ∀ e ∈ r.metrics, e.value.isFinite = true) :
    Nested Plain 3 r.write := by
  refine .fields (by simp only [List.map_cons, List.map_nil]; decide) (fun _ _ => trivial) ?_
  simp only [List.forall_mem_cons, List.not_mem_nil, false_implies, implies_true, and_true]
  refine ⟨.leaf trivial, .leaf trivial, .list fun item member => ?_⟩
  obtain ⟨e, present, rfl⟩ := List.mem_map.mp member
  exact nested_entry (finite e present)

/-- A report that can be written has integers of 64 bits only, whatever its doubles are. -/
theorem inRange_of_fileOctets {r : Report} {octets : Octets}
    (written : fileOctets r.write = .ok octets) {e : MetricEntry} (member : e ∈ r.metrics) {i : Int}
    (whole : e.value = .int i) : -signedBound ≤ i ∧ i < unsignedBound := by
  obtain ⟨text, tree⟩ := exists_write_of_fileOctets written
  obtain ⟨_, members, _⟩ := bind_eq_ok_iff.mp tree
  obtain ⟨_, _, items⟩ := write_of_writeMembers members ("metrics", _)
    (List.mem_cons_of_mem _ (List.mem_cons_of_mem _ List.mem_cons_self))
  obtain ⟨_, entries, _⟩ := bind_eq_ok_iff.mp items
  obtain ⟨_, entry⟩ := write_of_writeItems entries e.write (List.mem_map_of_mem member)
  obtain ⟨_, parts, _⟩ := bind_eq_ok_iff.mp entry
  obtain ⟨_, _, value⟩ := write_of_writeMembers parts ("value", _)
    (List.mem_cons_of_mem _ List.mem_cons_self)
  rw [whole] at value
  have plain : Plain (.int i) := trivial
  exact exact_of_plain plain value

/-! ## Saving and loading -/

/-- Folders are made in any case. Then saving fails and leaves it at that; or the file of the report
is opened, and holds the report or, if the device gives up, a front part of it. -/
theorem save_cases (disk : Disk) (r : Report) (folder : Path) :
    (∃ fault, (r.save disk folder).result = .error fault ∧
      (r.save disk folder).disk = (disk.makeFolders folder).1) ∨
    ∃ octets location, fileOctets r.write = .ok octets ∧
      (disk.makeFolders folder).1.openAt (pathIn folder r.fullPath) = .ok location ∧
      ((r.save disk folder).result = .ok (pathIn folder r.fullPath) ∧
        (r.save disk folder).disk = (disk.makeFolders folder).1.withFile location octets ∨
      ∃ outage, disk.outages.lookup location = some outage ∧
        (r.save disk folder).result =
          .error (.save (.report (pathIn folder r.fullPath).text ⟨outage.cause, none⟩)) ∧
        (r.save disk folder).disk =
          (disk.makeFolders folder).1.withFile location (octets.take outage.taken)) := by
  have outages := Disk.outages_makeFolders disk folder
  unfold save
  simp only
  split
  · next same => exact .inl ⟨_, rfl, by rw [same]⟩
  · next made same =>
    rw [same] at outages
    rw [same]
    cases tree : fileOctets r.write with
    | error fault => exact .inl ⟨fault, rfl, rfl⟩
    | ok octets =>
      dsimp only
      rcases Disk.write_cases made (pathIn folder r.fullPath) octets with
        ⟨fault, _, refused⟩ | ⟨location, opened, ⟨_, whole⟩ | ⟨outage, found, part⟩⟩
      · rw [refused]
        exact .inl ⟨_, rfl, rfl⟩
      · rw [whole]
        exact .inr ⟨octets, location, rfl, opened, .inl ⟨rfl, rfl⟩⟩
      · rw [outages] at found
        rw [part]
        exact .inr ⟨octets, location, rfl, opened, .inr ⟨outage, found, rfl, rfl⟩⟩

/-- What a report that was saved leaves on the disk. -/
theorem save_eq_ok {disk : Disk} {r : Report} {folder path : Path}
    (saved : (r.save disk folder).result = .ok path) :
    path = pathIn folder r.fullPath ∧ ∃ octets, fileOctets r.write = .ok octets ∧
      (r.save disk folder).disk.read path = .ok octets := by
  rcases save_cases disk r folder with ⟨fault, failed, _⟩ |
    ⟨octets, location, tree, opened, ⟨done, left⟩ | ⟨outage, _, failed, _⟩⟩
  · rw [failed] at saved
    exact nomatch saved
  · obtain rfl := Except.ok.inj (done.symm.trans saved)
    rw [left]
    exact ⟨rfl, octets, tree, Disk.read_withFile opened octets⟩
  · rw [failed] at saved
    exact nomatch saved

theorem present_of_read {disk : Disk} {path : Path} {octets : Octets}
    (read : disk.read path = .ok octets) : disk.present path = .ok true := by
  obtain ⟨node, looked, _⟩ := bind_eq_ok_iff.mp read
  unfold Disk.present
  rw [looked]

/-- A report of finite values that was saved is loaded. -/
theorem load_of_save {disk : Disk} {r : Report} {folder path : Path}
    (finite : ∀ e ∈ r.metrics, e.value.isFinite = true)
    (saved : (r.save disk folder).result = .ok path) :
    load (r.save disk folder).disk path = (.ok (some r), []) := by
  obtain ⟨_, octets, tree, read⟩ := save_eq_ok saved
  have holds : contentOf (stripOctets octets) = .value r.write :=
    content_of_fileOctets (nested_write finite) (by decide) tree
  have whole : first? r.write = some r.write := rfl
  unfold load
  rw [present_of_read read]
  simp only [contentAt_of_read read, holds, whole, Report.read_write]

end DesignGauge.Report
