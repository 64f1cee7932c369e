import DesignGauge.Disk
import DesignGauge.Threshold.Basic
import DesignGauge.Yaml.Value
import DesignGauge.Yaml.Writer

/-!
# Threshold files

A configuration is kept in a YAML file; without a file the defaults hold.
-/

namespace DesignGauge

open Text

/-- What a configuration file denotes; an empty value is an empty mapping. Values at the level are
those that messages show. `unreadable` and `malformed` give the faults. -/
def configuration (level : Nat) (disk : Disk) (path : Path) (unreadable : OsFault → ConfigFault)
    (malformed : String → ConfigFault) : Except Fault Datum :=
  match disk.read path with
  | .error (.os os) => .error (.config (unreadable os))
  | .error fault => .error fault
  | .ok octets => match Utf8.decodeFile octets with
    | .error e => .error (.notUtf8 e)
    | .ok text => match Yaml.read level text with
      | .error (.malformed detail) => .error (.config (malformed detail))
      | .error (.fault fault) => .error fault
      | .ok value => .ok (if value.isVoid then .map [] else value)

namespace Thresholds

/-- Loads a configuration. -/
def load (disk : Disk) (path : Path) : Except Fault Thresholds := do
  if ← disk.present path then
    ofDatum (← configuration 2 disk path (.thresholdsUnreadable path.text)
      (.thresholdsMalformed path.text))
  else return {}

/-- The text of a configuration file. -/
def text (t : Thresholds) : String :=
  Yaml.sectionsText [("smells", t.smells.fields), ("highlight", t.highlight.fields)]

/-- A configuration can be written: no integer in it has more than 4300 digits. -/
def isWritable (t : Thresholds) : Bool :=
  (t.smells.fields ++ t.highlight.fields).all fun field => (Datum.ofNumber field.2).isWritable

/-- Saves a configuration. The file is open by the time that it turns out whether the configuration
can be written. -/
def save (disk : Disk) (t : Thresholds) (path : Path) : Disk × Except Fault Unit :=
  match disk.makeFolders path.parent with
  | (made, .error fault) => (made, .error fault)
  | (made, .ok ()) =>
    if t.isWritable then made.write path (Utf8.encode t.text.toList)
    else match made.clear path with
      | (cleared, .ok ()) => (cleared, .error .tooManyDigits)
      | (same, .error fault) => (same, .error fault)

end Thresholds

end DesignGauge
