import DesignGauge.Component.Wire
import DesignGauge.Json.Writer
import DesignGauge.Path.Basic
import DesignGauge.Path.SourceName

/-!
# Metrics reports

The metric values of one source file, with its path and name. A report file is named after the
source file.
-/

namespace DesignGauge

open Wire

/-- A metric value with its name. -/
structure MetricEntry where
  name : String
  value : Number
  deriving DecidableEq, Repr

/-- The metrics of one source file. -/
structure Report where
  fullPath : String
  folderName : String := ""
  metrics : List MetricEntry := []
  deriving DecidableEq, Repr

namespace MetricEntry

/-- Reads a metric value. -/
def read : Datum → Checked MetricEntry :=
  record fun es => MetricEntry.mk <$> required es ["name"] text <*> required es ["value"] number

/-- Writes a metric value. -/
def write (e : MetricEntry) : Datum :=
  .ofFields [("name", .text e.name), ("value", .ofNumber e.value)]

end MetricEntry

namespace Report

/-- Reads a report. -/
def read : Datum → Checked Report :=
  record fun es => Report.mk
    <$> required es ["fullPath", "full_path"] text
    <*> member es ["folderName", "folder_name"] "" text
    <*> member es ["metrics"] [] (list MetricEntry.read)

/-- Writes a report. -/
def write (r : Report) : Datum :=
  .ofFields [("fullPath", .text r.fullPath), ("folderName", .text r.folderName),
    ("metrics", .list (r.metrics.map MetricEntry.write))]

/-- The report of named values. -/
def ofValues (path : String) (values : List (String × Number)) : Report :=
  ⟨path, (Path.sourceName path).name, values.map fun v => ⟨v.1, v.2⟩⟩

/-- The name of the source file with its extension. -/
def fileName (r : Report) : String := (Path.sourceName r.fullPath).name

/-- Sets the value of a name: in place when the name is there, at the end otherwise. -/
def setValue (name : String) (value : Number) :
    List (String × Number) → List (String × Number)
  | [] => [(name, value)]
  | (n, v) :: rest =>
    if n == name then (n, value) :: rest else (n, v) :: setValue name value rest

/-- The values by name: a repeated name keeps its first place and its last value. -/
def values (r : Report) : List (String × Number) :=
  r.metrics.foldl (fun acc e => setValue e.name e.value acc) []

/-- The text of a report file. -/
def text (r : Report) : Except Json.WriteRefusal String := Json.fileText r.write

/-- The report file of a source file in a directory. -/
def pathIn (directory : Path) (sourcePath : String) : Path :=
  directory.below (SourceName.baseName sourcePath ++ ".json")

end Report

end DesignGauge
