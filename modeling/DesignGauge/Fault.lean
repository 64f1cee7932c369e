import DesignGauge.Datum.Literal
import DesignGauge.Wire.Checked

/-!
# Faults

Everything that can end an operation without a result, as causes. The wording of each cause is in
one place, `Fault.message`; the facts that go with it are in `Fault.context`. The tool's own
faults are told from those that a value or the file system brings in by `Fault.isOwn`.
-/

namespace DesignGauge

open Text

/-- Why the file system refuses. -/
inductive OsCause where
  | absent
  | occupied
  | notDirectory
  | isDirectory
  | nameTooLong
  | fileTooLarge
  | noSpace
  | deviceFailure
  deriving DecidableEq, Repr

namespace OsCause

/-- The number of a cause. -/
def number : OsCause → Nat
  | .absent => 2
  | .occupied => 17
  | .notDirectory => 20
  | .isDirectory => 21
  | .nameTooLong => 36
  | .fileTooLarge => 27
  | .noSpace => 28
  | .deviceFailure => 5

/-- The wording of a cause. -/
def message : OsCause → String
  | .absent => "No such file or directory"
  | .occupied => "File exists"
  | .notDirectory => "Not a directory"
  | .isDirectory => "Is a directory"
  | .nameTooLong => "File name too long"
  | .fileTooLarge => "File too large"
  | .noSpace => "No space left on device"
  | .deviceFailure => "Input/output error"

end OsCause

/-- A refusal of the file system, with the path as it was given. A file that is open already is
not named. -/
structure OsFault where
  cause : OsCause
  path : Option String
  deriving DecidableEq, Repr

/-- The wording of a refusal. -/
def OsFault.message (f : OsFault) : String :=
  let place := match f.path with
    | some path => ": " ++ quoted path
    | none => ""
  "[Errno " ++ toString f.cause.number ++ "] " ++ f.cause.message ++ place

/-- Says that octets from a position on are no text in some form; `octet` is the first of them. -/
def undecodable (form : String) (octet position length : Nat) (cause : String) : String :=
  let place :=
    if length == 1 then
      "byte 0x" ++ String.ofList (hexDigits 2 octet) ++ " in position " ++ toString position
    else
      "bytes in position " ++ toString position ++ "-" ++ toString (position + length - 1)
  "'" ++ form ++ "' codec can't decode " ++ place ++ ": " ++ cause

/-- Why octets are no text, in words. -/
def Text.Utf8Error.message (e : Utf8Error) : String :=
  let cause := match e.cause with
    | .invalidStart => "invalid start byte"
    | .invalidContinuation => "invalid continuation byte"
    | .unexpectedEnd => "unexpected end of data"
  undecodable "utf-8" e.octet e.position e.length cause

/-- Says where a text has code points that some form cannot hold. -/
def unencodable (form cause : String) (outside : Nat → Bool) (text : List Char) : String :=
  let position := ((codes text).takeWhile (!outside ·)).length
  let run := ((codes text).drop position).takeWhile outside
  let place := match run with
    | [code] =>
      "character '" ++ String.ofList (numbered code) ++ "' in position " ++ toString position
    | _ =>
      "characters in position " ++ toString position ++ "-"
        ++ toString (position + run.length - 1)
  "'" ++ form ++ "' codec can't encode " ++ place ++ ": " ++ cause

/-- Says where a text leaves the basic range. -/
def asciiRefusal (text : List Char) : String :=
  unencodable "ascii" "ordinal not in range(128)" (128 ≤ ·) text

/-- Says where a text has halves of pairs. -/
def surrogateRefusal (text : List Char) : String :=
  unencodable "utf-8" "surrogates not allowed" isSurrogate text

/-- What was to be saved. -/
inductive SaveFault where
  | components (directory : String) (os : OsFault)
  | report (path : String) (os : OsFault)
  deriving DecidableEq, Repr

/-- What is wrong with a configuration. -/
inductive ConfigFault where
  | thresholdsUnreadable (path : String) (os : OsFault)
  | thresholdsMalformed (path detail : String)
  | thresholdsNotMapping
  | sectionNotMapping (part : String)
  | thresholdNotNumber (part : String) (key value : Datum)
  | thresholdNames (detail : String)
  | settingsUnreadable (path : String) (os : OsFault)
  | settingsMalformed (path detail : String)
  | settingsNotMapping
  | unknownSettings (keys : List Datum)
  | badTimeout (value : Datum)

/-- Why the prediction service gave no answer. -/
inductive PredictionFault where
  | timedOut (seconds : Datum)
  | status (code : Int)
  | failed (detail : String)
  | notJson
  deriving Repr

/-- Why an operation ends without a result. -/
inductive Fault where
  /-- A configuration is wrong. -/
  | config (cause : ConfigFault)
  /-- Something could not be saved. -/
  | save (cause : SaveFault)
  /-- No measures for a language. -/
  | unknownLanguage (language : String)
  /-- No such metric. -/
  | unknownMetric (metric : String)
  /-- Another analysis holds the slot. -/
  | busy (running : Option String) (requested : String)
  /-- The prediction service failed. -/
  | prediction (cause : PredictionFault)
  /-- Parts of a value do not fit its record. -/
  | misfits (issues : List Wire.Issue)
  /-- A value that cannot be a key was used as one. -/
  | unkeyable (kind : String)
  /-- Two values have no difference or sum. -/
  | operands (operation left right : String)
  /-- Two values have no order. -/
  | unordered (left right : String)
  /-- A point without coordinates. -/
  | emptyPoint
  /-- A text that is empty where a character is needed. -/
  | emptyText
  /-- A word that has no entry. -/
  | noEntry (word : String)
  /-- An integer beyond the range of doubles. -/
  | beyondDouble
  /-- A quotient of integers beyond the range of doubles. -/
  | quotientBeyondDouble
  /-- A text that spells no number. -/
  | noNumber (text : String)
  /-- A value that is no number. -/
  | notReal (kind : String)
  /-- An integer beyond 64 bits in a file. -/
  | beyondWord
  /-- An integer with too many digits to be written. -/
  | tooManyDigits
  /-- An integer with too many digits to be read. -/
  | tooManyDigitsRead (count : Nat)
  /-- A text that spells no integer in a base. -/
  | notInteger (base : Nat) (text : String)
  /-- A text with half of a surrogate pair in a file. -/
  | brokenPair
  /-- A value of a kind that has no JSON text. -/
  | noJson (kind : String)
  /-- A key of a kind that has no JSON text. -/
  | notName (kind : String)
  /-- A word that names no language. -/
  | notLanguage (word : Datum)
  /-- A word that names no metric. -/
  | notMetric (word : Datum)
  /-- A value that names no path. -/
  | notPath (kind : String)
  /-- Octets where a path is needed. -/
  | octetPath
  /-- A path with a null character. -/
  | nullInPath
  /-- An item of a list of texts that is no text. -/
  | notText (index : Nat) (kind : String)
  /-- A value where a text is searched. -/
  | notTextual (kind : String)
  /-- An operation that a value does not have. -/
  | noOperation (kind operation : String)
  /-- The file system refuses. -/
  | os (fault : OsFault)
  /-- Octets that are no text. -/
  | notUtf8 (error : Utf8Error)
  /-- A part of a document that cannot be turned into a value. -/
  | badValue (detail : String)
  /-- A free slot was released. -/
  | releaseFree
  /-- A closing tag that closes nothing. -/
  | strayTag (tag : String) (position : Nat)
  /-- A closing tag without a name when no tag is open. -/
  | nothingToClose (position : Nat)
  /-- Arguments of a handler in a tag that have no form. -/
  | handlerForm (arguments parameters detail : String)
  /-- Arguments of a handler in a tag that are no literals. -/
  | handlerContent (parameters detail : String)
  /-- A number that is far beyond every character. -/
  | beyondCharacter
  /-- A reply that is nested too deeply, by the kind of the value that is too deep. -/
  | replyTooDeep (kind : String)
  /-- An address that is none. -/
  | badAddress (detail : String)
  /-- An address that does not say how it is reached. -/
  | relativeAddress (address : String)
  /-- A text beyond the basic range where only that is allowed. -/
  | notAscii (text : String)
  /-- A text with half of a surrogate pair where octets are needed. -/
  | loneSurrogate (text : String)
  /-- A value that a request cannot show. -/
  | badHeader (kind : String)
  /-- A value that a table cannot show. -/
  | notRenderable (kind : String)

/-- The name of the variable that holds the key of the prediction service. -/
def keyVariable : String := "DESIGN_SMELLS_API_KEY"

/-- The wording of a configuration fault. -/
def ConfigFault.message : ConfigFault → String
  | .thresholdsUnreadable path os => "Cannot read threshold file " ++ path ++ ": " ++ os.message
  | .thresholdsMalformed path detail => "Invalid threshold file " ++ path ++ ": " ++ detail
  | .thresholdsNotMapping => "Threshold configuration must be a mapping"
  | .sectionNotMapping part => "Threshold section '" ++ part ++ "' must be a mapping"
  | .thresholdNotNumber part key value =>
    "Threshold " ++ part ++ "." ++ key.display ++ " must be a number, got " ++ value.literal
  | .thresholdNames detail => "Invalid threshold configuration: " ++ detail
  | .settingsUnreadable path os => "Cannot read settings file " ++ path ++ ": " ++ os.message
  | .settingsMalformed path detail => "Invalid settings file " ++ path ++ ": " ++ detail
  | .settingsNotMapping => "Settings must be a mapping"
  | .unknownSettings keys =>
    "Unknown settings: " ++ String.intercalate ", " (keys.map Datum.display)
  | .badTimeout value => "Invalid timeout " ++ value.literal ++ ": expected a number of seconds"

/-- The wording of a prediction fault. -/
def PredictionFault.message : PredictionFault → String
  | .timedOut seconds => "Prediction request timed out after " ++ seconds.display ++ " seconds"
  | .status code =>
    if code == 401 || code == 403 then
      "Prediction service rejected the API key. Please check " ++ keyVariable ++ "."
    else if code == 429 then "Prediction service rate limit exceeded."
    else "Prediction service error (HTTP " ++ toString code ++ ")"
  | .failed detail => "Prediction request failed: " ++ detail
  | .notJson => "Prediction response is not valid JSON"

/-- The wording of a save fault. -/
def SaveFault.message : SaveFault → String
  | .components directory os =>
    "Failed to save parsed components to " ++ directory ++ ": " ++ os.message
  | .report path os => "Failed to save metrics report to " ++ path ++ ": " ++ os.message

/-- Says that two values have no order. Days and moments are compared by rules of their own. -/
def unorderedWording (left right : String) : String :=
  let isTime (kind : String) : Bool := kind == "datetime.date" || kind == "datetime.datetime"
  if isTime left && isTime right then
    if left == right then "can't compare offset-naive and offset-aware datetimes"
    else "can't compare datetime.datetime to datetime.date"
  else "'<' not supported between instances of '" ++ left ++ "' and '" ++ right ++ "'"

namespace Fault

/-- The wording of a fault. -/
def message : Fault → String
  | .config cause => cause.message
  | .save cause => cause.message
  | .unknownLanguage language => "No calculators for language: " ++ language
  | .unknownMetric metric => "Unknown metric: " ++ metric
  | .busy _ _ => "Analysis is already running. Please wait..."
  | .prediction cause => cause.message
  | .misfits issues => toString issues.length ++ " validation errors"
  | .unkeyable kind => "unhashable type: '" ++ kind ++ "'"
  | .operands operation left right =>
    "unsupported operand type(s) for " ++ operation ++ ": '" ++ left ++ "' and '" ++ right ++ "'"
  | .unordered left right => unorderedWording left right
  | .emptyPoint => "tuple index out of range"
  | .emptyText => "string index out of range"
  | .noEntry word => quoted word
  | .beyondDouble => "int too large to convert to float"
  | .quotientBeyondDouble => "integer division result too large for a float"
  | .noNumber text => "could not convert string to float: " ++ quoted text
  | .notReal kind => "float() argument must be a string or a real number, not '" ++ kind ++ "'"
  | .beyondWord => "Integer exceeds 64-bit range"
  | .tooManyDigits =>
    "Exceeds the limit (4300 digits) for integer string conversion; "
      ++ "use sys.set_int_max_str_digits() to increase the limit"
  | .tooManyDigitsRead count =>
    "Exceeds the limit (4300 digits) for integer string conversion: value has " ++ toString count
      ++ " digits; use sys.set_int_max_str_digits() to increase the limit"
  | .notInteger base text =>
    "invalid literal for int() with base " ++ toString base ++ ": " ++ quoted text
  | .brokenPair => "str is not valid UTF-8: surrogates not allowed"
  | .noJson kind => "Object of type " ++ kind ++ " is not JSON serializable"
  | .notName kind => "keys must be str, int, float, bool or None, not " ++ kind
  | .notLanguage word => word.literal ++ " is not a valid Language"
  | .notMetric word => word.literal ++ " is not a valid MetricName"
  | .notPath kind => "expected str, bytes or os.PathLike object, not " ++ kind
  | .octetPath =>
    "argument should be a str object or an os.PathLike object returning str, not <class 'bytes'>"
  | .nullInPath => "embedded null byte"
  | .notText index kind =>
    "sequence item " ++ toString index ++ ": expected str instance, " ++ kind ++ " found"
  | .notTextual kind => "expected string or bytes-like object, got '" ++ kind ++ "'"
  | .noOperation kind operation =>
    "'" ++ kind ++ "' object has no attribute '" ++ operation ++ "'"
  | .os fault => fault.message
  | .notUtf8 error => error.message
  | .badValue detail => detail
  | .releaseFree => "release unlocked lock"
  | .strayTag tag position =>
    "closing tag '" ++ tag ++ "' at position " ++ toString position
      ++ " doesn't match any open tag"
  | .nothingToClose position =>
    "closing tag '[/]' at position " ++ toString position ++ " has nothing to close"
  | .handlerForm arguments parameters detail =>
    "error parsing " ++ quoted arguments ++ " in " ++ quoted parameters ++ "; " ++ detail
  | .handlerContent parameters detail =>
    "error parsing " ++ quoted parameters ++ "; " ++ detail
  | .beyondCharacter => "Python int too large to convert to C int"
  | .replyTooDeep kind =>
    "maximum recursion depth exceeded while decoding a JSON " ++ kind ++ " from a unicode string"
  | .badAddress detail => detail
  | .relativeAddress address => "unknown url type: " ++ quoted address
  | .notAscii text => asciiRefusal text.toList
  | .loneSurrogate text => surrogateRefusal text.toList
  | .badHeader kind => "Header value must be str or bytes, not <class '" ++ kind ++ "'>"
  | .notRenderable kind =>
    "unable to render " ++ kind ++ "; a string or other renderable object is required"

/-- The facts that go with one of the tool's own faults. -/
def context : Fault → List (String × Datum)
  | .config (.thresholdNotNumber part key _) =>
    [("key", .text (part ++ "." ++ key.display))]
  | .config (.unknownSettings keys) => [("unknown", .list keys)]
  | .config (.badTimeout value) => [("timeout", value)]
  | .save (.components directory _) => [("directory", .text directory)]
  | .save (.report path _) => [("path", .text path)]
  | .busy running requested =>
    [("running", match running with | some r => .text r | none => .null),
      ("requested", .text requested)]
  | .prediction (.status code) => [("status", .int code)]
  | _ => []

/-- The tool's own faults, as opposed to those of values and of the file system. -/
def isOwn : Fault → Bool
  | .config _ | .save _ | .unknownLanguage _ | .unknownMetric _ | .busy _ _ | .prediction _ => true
  | _ => false

end Fault

/-- The result of a reading as a result that may fail. -/
def Wire.Checked.toExcept {α : Type} : Wire.Checked α → Except Fault α
  | .fits a => .ok a
  | .issues is => .error (.misfits is)
  | .unkeyable kind => .error (.unkeyable kind)

end DesignGauge
