import DesignGauge.Json.File
import DesignGauge.Log
import DesignGauge.Report.Basic

/-!
# Reports on disk

Each report is a file named after its source file. A report file that is missing, empty, malformed
or of another shape is read as no report, with a line that says so.
-/

namespace DesignGauge.Report

/-- The result of saving a report: the disk as it is then, and the file written. -/
structure Saving where
  disk : Disk
  result : Except Fault Path
  log : List LogLine

/-- A refusal of the file system as a failure to save. -/
def saveFault (target : Path) : Fault → Fault
  | .os os => .save (.report target.text os)
  | fault => fault

/-- Writes a report into a folder. -/
def save (disk : Disk) (report : Report) (folder : Path) : Saving :=
  let target := pathIn folder report.fullPath
  match disk.makeFolders folder with
  | (made, .error fault) => ⟨made, .error (saveFault target fault), []⟩
  | (made, .ok ()) => match Json.fileOctets report.write with
    | .error fault => ⟨made, .error fault, []⟩
    | .ok octets => match made.write target octets with
      | (changed, .error fault) => ⟨changed, .error (saveFault target fault), []⟩
      | (changed, .ok ()) =>
        ⟨changed, .ok target, [.debug ("Saved metrics report: " ++ target.text)]⟩

/-- The report that a data value holds: itself, or the first item of a list. -/
def first? : Datum → Option Datum
  | .list [] => none
  | .list (datum :: _) => some datum
  | datum => some datum

/-- What a report file tells, and its report if it has one. -/
def load (disk : Disk) (path : Path) : Except Fault (Option Report) × List LogLine :=
  match disk.present path with
  | .error fault => (.error fault, [])
  | .ok false => (.ok none, [.error ("Metrics file not found: " ++ path.text)])
  | .ok true => match Json.contentAt disk path with
    | .error fault => (.error fault, [])
    | .ok (.unreadable os) =>
      (.ok none, [.warning ("Cannot read metrics file " ++ path.text ++ ": " ++ os.message)])
    | .ok .empty => (.ok none, [.warning ("The metrics file is empty: " ++ path.text)])
    | .ok (.malformed detail) =>
      (.ok none, [⟨.warning, "Error parsing metrics file " ++ path.text, detail⟩])
    | .ok (.value datum) => match first? datum with
      | none => (.ok none, [.warning ("The metrics file holds no reports: " ++ path.text)])
      | some datum => match Report.read datum with
        | .fits report => (.ok (some report), [])
        | .issues is =>
          (.ok none, [.warning ("Invalid metrics report in " ++ path.text ++ ": "
            ++ toString is.length ++ " errors")])
        | .unkeyable kind => (.error (.unkeyable kind), [])

/-- Loads some report files one after another, leaving out those without a report. -/
def loadFiles (disk : Disk) : List Path → Except Fault (List (Path × Report)) × List LogLine
  | [] => (.ok [], [])
  | path :: rest => match load disk path with
    | (.error fault, lines) => (.error fault, lines)
    | (.ok found, lines) =>
      let (more, moreLines) := loadFiles disk rest
      (more.map fun reports => (found.map (path, ·)).toList ++ reports, lines ++ moreLines)

/-- The report files of a folder, sorted by name. -/
def filesIn (disk : Disk) (folder : Path) : List Path := disk.listing folder ".json"

/-- Loads all reports of a folder. -/
def loadAll (disk : Disk) (folder : Path) :
    Except Fault (List (Path × Report)) × List LogLine :=
  match disk.present folder with
  | .error fault => (.error fault, [])
  | .ok false => (.ok [], [.error ("Results directory not found: " ++ folder.text)])
  | .ok true => loadFiles disk (filesIn disk folder)

/-- The time of the last change of a file. -/
def timeOf (disk : Disk) (path : Path) : Int :=
  match disk.look path with
  | .ok node => node.time
  | .error _ => 0

/-- Of two files the one changed later, the first if they were changed at the same time. -/
def later (disk : Disk) (a b : Path) : Path :=
  if timeOf disk a < timeOf disk b then b else a

/-- The report file that was changed last. -/
def latest (disk : Disk) (folder : Path) : Except Fault (Option Path) × List LogLine :=
  match disk.present folder with
  | .error fault => (.error fault, [])
  | .ok false => (.ok none, [])
  | .ok true => match filesIn disk folder with
    | [] => (.ok none, [.info "No metrics files found in the results directory."])
    | path :: rest => (.ok (some (rest.foldl (later disk) path)), [])

end DesignGauge.Report
