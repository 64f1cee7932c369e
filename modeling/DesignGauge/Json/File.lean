import DesignGauge.Disk
import DesignGauge.Json.Reader
import DesignGauge.Json.Writer

/-!
# JSON files

What a file that should hold a JSON value turns out to be.
-/

namespace DesignGauge.Json

open Text

/-- The content of a file. -/
inductive Content where
  | unreadable (fault : OsFault)
  | empty
  | malformed (detail : String)
  | value (datum : Datum)

/-- A blank of the basic range: tab, line feed, line tabulation, form feed, return or space. -/
def isBlankOctet (b : UInt8) : Bool := b == 32 || (9 ≤ b && b ≤ 13)

/-- Octets without blanks at either end. -/
def stripOctets (octets : Octets) : Octets :=
  ((octets.dropWhile isBlankOctet).reverse.dropWhile isBlankOctet).reverse

/-- What octets without blanks at their ends hold. -/
def contentOf (octets : Octets) : Content :=
  if octets.isEmpty then .empty
  else match Utf8.decode octets with
    | .error e => .malformed e.message
    | .ok text => match read .file text with
      | .error r => .malformed (r.message text)
      | .ok datum => .value datum

/-- What a file holds. -/
def contentAt (disk : Disk) (path : Path) : Except Fault Content :=
  match disk.read path with
  | .ok octets => .ok (contentOf (stripOctets octets))
  | .error (.os fault) => .ok (.unreadable fault)
  | .error fault => .error fault

/-- Why a value cannot be written, as a fault. -/
def WriteRefusal.fault : WriteRefusal → Fault
  | .integerRange => .beyondWord
  | .tooManyDigits => .tooManyDigits
  | .notFinite => .badValue "Out of range float values are not JSON compliant"
  | .loneSurrogate => .brokenPair
  | .notName kind => .notName kind
  | .notJson kind => .noJson kind

/-- The octets of a value in a file. -/
def fileOctets (value : Datum) : Except Fault Octets :=
  match fileText value with
  | .ok text => .ok (Utf8.encode text.toList)
  | .error refusal => .error refusal.fault

end DesignGauge.Json
