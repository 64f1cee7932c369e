import DesignGauge.Proofs.Analysis.Agreement
import DesignGauge.Proofs.Disk.Making
import DesignGauge.Proofs.Smell.Readings

/-!
# What a pass leaves behind

A pass writes its report before it classifies the values. What can be written can be classified, so
that a pass which has written its report returns. A pass that fails has at most made folders, unless
the device gives up on the file of its report; one that returns has written that one file.

Results:
1. `classify_returns`: values whose integers have 64 bits are classified.
2. `reportOn_cases`: reporting fails before the write, returns with the report written, or fails
   where the device gives up.
3. `Service.analyze_atomic`: what a pass leaves behind, however it ends.
-/

namespace DesignGauge

/-! ## What can be written can be classified -/

/-- Values whose integers have 64 bits. -/
def InRange (values : List (String × Number)) : Prop :=
  ∀ entry ∈ values, ∀ i, entry.2 = .int i → -signedBound ≤ i ∧ i < unsignedBound

theorem InRange.convertible {values : List (String × Number)} (inRange : InRange values) :
    Readings.Convertible (values.map fun v => (v.1, .ofNumber v.2)) := by
  intro entry member i whole
  obtain ⟨⟨name, number⟩, present, rfl⟩ := List.mem_map.mp member
  cases number with
  | float x => cases whole
  | int j =>
    obtain rfl : j = i := Datum.int.inj whole
    obtain ⟨low, high⟩ := inRange (name, .int j) present j rfl
    have few : j.natAbs < 2 ^ 64 := by
      unfold signedBound at low
      unfold unsignedBound at high
      omega
    exact few.trans_le (by decide +kernel)

theorem classify_returns {values : List (String × Number)} (inRange : InRange values)
    (thresholds : Thresholds) :
    ∃ c, classify thresholds (values.map fun v => (v.1, .ofNumber v.2)) = .ok c :=
  ⟨_, classify_of_convertible thresholds fun metric _ => inRange.convertible.not_overflows metric⟩

/-- A report that was saved holds values that can be classified. -/
theorem inRange_of_save {disk : Disk} {file : String} {values : List (String × Number)}
    {folder path : Path}
    (saved : ((Report.ofValues file values).save disk folder).result = .ok path) :
    InRange values := by
  obtain ⟨_, octets, tree, _⟩ := Report.save_eq_ok saved
  intro entry member i whole
  exact Report.inRange_of_fileOctets tree (List.mem_map_of_mem member) whole

/-! ## Reporting -/

variable {thresholds : Thresholds} {disk : Disk} {file : String} {language : Language}
  {values : List (String × Number)}

theorem reportOn_of_none :
    (reportOn thresholds none disk file language values).disk = disk := by
  unfold reportOn saveReport
  simp only
  split
  · rfl
  · rfl

/-- Once the report is saved, reporting returns. -/
theorem reportOn_of_save {folder path : Path}
    (saved : ((Report.ofValues file values).save disk folder).result = .ok path) :
    (∃ a, (reportOn thresholds (some folder) disk file language values).result = .ok a) ∧
    (reportOn thresholds (some folder) disk file language values).disk =
      ((Report.ofValues file values).save disk folder).disk := by
  obtain ⟨c, classified⟩ := classify_returns (inRange_of_save saved) thresholds
  unfold reportOn saveReport
  simp only [saved, Except.map, classified]
  exact ⟨⟨_, rfl⟩, trivial⟩

/-- Reporting fails before the report is written, returns with the report written, or fails where
the device gives up on its file. -/
theorem reportOn_cases (folder : Path) :
    (∃ fault, (reportOn thresholds (some folder) disk file language values).result = .error fault ∧
      (reportOn thresholds (some folder) disk file language values).disk =
        (disk.makeFolders folder).1) ∨
    ∃ octets location, Json.fileOctets (Report.ofValues file values).write = .ok octets ∧
      (disk.makeFolders folder).1.openAt (Report.pathIn folder file) = .ok location ∧
      ((∃ a, (reportOn thresholds (some folder) disk file language values).result = .ok a ∧
        (reportOn thresholds (some folder) disk file language values).disk =
          (disk.makeFolders folder).1.withFile location octets) ∨
      ∃ outage, disk.outages.lookup location = some outage ∧
        (reportOn thresholds (some folder) disk file language values).result =
          .error (.save (.report (Report.pathIn folder file).text ⟨outage.cause, none⟩)) ∧
        (reportOn thresholds (some folder) disk file language values).disk =
          (disk.makeFolders folder).1.withFile location (octets.take outage.taken)) := by
  have failing : ∀ fault, ((Report.ofValues file values).save disk folder).result = .error fault →
      (reportOn thresholds (some folder) disk file language values).result = .error fault ∧
      (reportOn thresholds (some folder) disk file language values).disk =
        ((Report.ofValues file values).save disk folder).disk := by
    intro fault failed
    unfold reportOn saveReport
    simp only [failed, Except.map, and_self]
  rcases Report.save_cases disk (.ofValues file values) folder with ⟨fault, failed, made⟩ |
    ⟨octets, location, tree, opened, ⟨saved, written⟩ | ⟨outage, found, failed, part⟩⟩
  · obtain ⟨result, left⟩ := failing fault failed
    exact .inl ⟨fault, result, left.trans made⟩
  · obtain ⟨⟨a, done⟩, left⟩ := @reportOn_of_save thresholds disk file language values _ _ saved
    exact .inr ⟨octets, location, tree, opened, .inl ⟨a, done, left.trans written⟩⟩
  · obtain ⟨result, left⟩ := failing _ failed
    exact .inr ⟨octets, location, tree, opened, .inr ⟨outage, found, result, left.trans part⟩⟩

/-- The file named after a source holds some octets, where no folder was. No other location differs
but that folders were made on the way. -/
def LeavesFile (folder : Path) (file : String) (octets : Text.Octets) (disk changed : Disk)
    (location : Location) : Prop :=
  changed.locate (Report.pathIn folder file) = .ok location ∧
    changed.fileAt? location = some octets ∧
    (∀ time, disk.node? location ≠ some (.folder time)) ∧
    ∀ other, other ≠ location → Disk.KeptOrMade folder disk changed other

/-- A report stands in the file named after its source, and nothing else differs. -/
def LeavesReport (folder : Path) (file : String) (report : Report) (disk changed : Disk) : Prop :=
  ∃ octets location, Json.fileOctets report.write = .ok octets ∧
    LeavesFile folder file octets disk changed location

/-- The device gave up on the file named after a source: a fault says so, the file holds a front
part of a report, and nothing else differs. -/
def LeavesPart (folder : Path) (file : String) (fault : Fault) (disk changed : Disk) : Prop :=
  ∃ values octets location outage,
    Json.fileOctets (Report.ofValues file values).write = .ok octets ∧
    disk.outages.lookup location = some outage ∧
    fault = .save (.report (Report.pathIn folder file).text ⟨outage.cause, none⟩) ∧
    LeavesFile folder file (octets.take outage.taken) disk changed location

/-- Putting the file of a report into folders just made changes nothing else. -/
theorem leavesFile_of_openAt {folder : Path} {location : Location}
    (opened : (disk.makeFolders folder).1.openAt (Report.pathIn folder file) = .ok location)
    (octets : Text.Octets) : LeavesFile folder file octets disk
      ((disk.makeFolders folder).1.withFile location octets) location := by
  have made := Disk.keptOrMade_makeFolders disk folder
  obtain ⟨found, notFolder⟩ := Disk.openAt_eq_ok opened
  have located := (Disk.keepsFolders_withFile notFolder octets).locate found
  refine ⟨located, ?_, ?_, ?_⟩
  · exact (Disk.read_eq_ok_iff located).mp (Disk.read_withFile opened octets)
  · intro time folderHere
    obtain ⟨later, stays⟩ := Disk.keepsFolders_of_keptOrMade made location time folderHere
    exact notFolder later stays
  · intro other apart
    exact Disk.keptOrMade_withFile made notFolder octets apart

/-- Reporting that fails leaves at most new folders, unless the device gives up on the file. -/
theorem reportOn_failed {place : Option Path} {fault : Fault}
    (failed : (reportOn thresholds place disk file language values).result = .error fault) :
    (reportOn thresholds place disk file language values).disk = disk ∨
    ∃ folder, place = some folder ∧
      ((reportOn thresholds place disk file language values).disk = (disk.makeFolders folder).1 ∨
      LeavesPart folder file fault disk
        (reportOn thresholds place disk file language values).disk) := by
  cases place with
  | none => exact .inl reportOn_of_none
  | some folder =>
    refine .inr ⟨folder, rfl, ?_⟩
    rcases @reportOn_cases thresholds disk file language values folder with ⟨_, _, made⟩ |
      ⟨octets, location, tree, opened, ⟨a, done, _⟩ | ⟨outage, found, result, part⟩⟩
    · exact .inl made
    · rw [done] at failed
      exact nomatch failed
    · right
      rw [part]
      exact ⟨values, octets, location, outage, tree, found,
        Except.error.inj (failed.symm.trans result), leavesFile_of_openAt opened _⟩

/-- Reporting that returns leaves the report in its file, if there is a folder for it. -/
theorem reportOn_done {folder : Path} {a : FileAnalysis}
    (done : (reportOn thresholds (some folder) disk file language values).result = .ok a) :
    LeavesReport folder file a.report disk
      (reportOn thresholds (some folder) disk file language values).disk := by
  rcases @reportOn_cases thresholds disk file language values folder with ⟨fault, failed, _⟩ |
    ⟨octets, location, tree, opened, ⟨a', done', left⟩ | ⟨outage, _, failed, _⟩⟩
  · rw [failed] at done
    exact nomatch done
  · rw [(reportOn_eq_ok done).1, left]
    exact ⟨octets, location, tree, leavesFile_of_openAt opened octets⟩
  · rw [failed] at done
    exact nomatch done

namespace Service

/-! ## A pass -/

/-- A pass changes nothing of the service but the slot. -/
theorem analyze_service (s : Service) (disk : Disk) (order : Order) :
    ∃ slot, (s.analyze disk order).service = { s with slot } := by
  unfold analyze hold Slot.acquire
  cases locked : s.slot.locked with
  | true => exact ⟨s.slot, rfl⟩
  | false => exact ⟨{}, rfl⟩

/-- However a pass ends, the service keeps all but its slot. A pass that fails leaves the disk as it
was, or with no other change than the folders made on the way to the results folder, this one
included; only where the device gives up on the file of the report, that file holds a part of it.
A pass that returns has written its report to the file named after the source, and changed no other
file, if it was to save it and there is a results folder; otherwise the disk is as it was. Once a
report is written, nothing fails any more. -/
theorem analyze_atomic (s : Service) (disk : Disk) (order : Order) :
    (∃ slot, (s.analyze disk order).service = { s with slot }) ∧
    (∀ fault, (s.analyze disk order).result = .error fault →
      (s.analyze disk order).disk = disk ∨
      ∃ folder, order.save = true ∧ s.resultsDir = some folder ∧
        ((s.analyze disk order).disk = (disk.makeFolders folder).1 ∧
          (∀ location, Disk.KeptOrMade folder disk (s.analyze disk order).disk location) ∨
        LeavesPart folder order.file fault disk (s.analyze disk order).disk)) ∧
    (∀ a, (s.analyze disk order).result = .ok a →
      (order.save = false ∨ s.resultsDir = none →
        a.reportPath = none ∧ (s.analyze disk order).disk = disk) ∧
      (∀ folder, order.save = true → s.resultsDir = some folder →
        a.reportPath = some (Report.pathIn folder order.file) ∧
        LeavesReport folder order.file a.report disk (s.analyze disk order).disk)) ∧
    ∀ folder language values path,
      ((Report.ofValues order.file values).save disk folder).result = .ok path →
      ∃ a,
        (reportOn s.thresholds (some folder) disk order.file language values).result = .ok a := by
  refine ⟨s.analyze_service disk order, ?_, ?_, ?_⟩
  · intro fault failed
    rcases s.analyze_cases disk order with ⟨_, _, same⟩ | ⟨result, disks⟩
    · exact .inl same
    · rcases analyse_cases s.store s.thresholds s.resultsDir disk order with
        ⟨_, _, same⟩ | ⟨language, metrics, values, _, result', disks'⟩
      · exact .inl (disks.trans same)
      · rw [result, result'] at failed
        rw [disks, disks']
        rcases reportOn_failed failed with same | ⟨folder, place, left⟩
        · exact .inl same
        · obtain ⟨saves, results⟩ := Option.ite_none_right_eq_some.mp place
          refine .inr ⟨folder, saves, results, left.imp_left fun made => ⟨made, ?_⟩⟩
          rw [made]
          exact Disk.keptOrMade_makeFolders disk folder
  · intro a done
    obtain ⟨analysed, disks⟩ := analyze_eq_ok done
    obtain ⟨language, metrics, values, _, reported, disks'⟩ := analyse_eq_ok analysed
    have named := (reportOn_eq_ok reported).2.2.1
    rw [disks, disks']
    constructor
    · intro unsaved
      have place : (if order.save then s.resultsDir else none) = none := by
        rcases unsaved with off | none
        · rw [off, if_neg Bool.false_ne_true]
        · rw [none, ite_self]
      rw [place] at named ⊢
      exact ⟨named, reportOn_of_none⟩
    · intro folder saves results
      rw [if_pos saves, results] at reported named ⊢
      exact ⟨named, reportOn_done reported⟩
  · intro folder language values path saved
    exact (reportOn_of_save saved).1

/-- Failing leaves a trace: the results folder itself is made for a report that cannot be written,
and the report of an earlier pass is lost where the device has no room for the next one. -/
theorem failed_pass_leaves_trace :
    let service : Service := { store := .empty, resultsDir := some ⟨"", ["out"]⟩ }
    let order (lines : Int) : Order := {
      file := "Ledger.java"
      metrics := ["loc"]
      node := .record [("start_point", .tuple [.int 0]), ("end_point", .tuple [.int lines])] }
    let full : Disk := {
      nodes := [(["out"], .folder 0), (["out", "Ledger.json"], .file [0x7b, 0x7d] 0)]
      outages := [(["out", "Ledger.json"], ⟨0, .noSpace⟩)] }
    ((service.analyze {} (order unsignedBound)).result.isOk = false ∧
      (service.analyze {} (order unsignedBound)).disk.isFolder ⟨"", ["out"]⟩ = true) ∧
    (service.analyze full (order 1)).result.isOk = false ∧
    full.fileAt? ["out", "Ledger.json"] = some [0x7b, 0x7d] ∧
    (service.analyze full (order 1)).disk.fileAt? ["out", "Ledger.json"] = some [] := by
  decide +kernel

end Service

end DesignGauge
