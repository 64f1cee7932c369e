import DesignGauge.Threshold.File

/-!
# Settings

Where components, reports and thresholds of a project are kept, and how the prediction service is
reached. Settings come from a mapping, which gives some of the six, and from the environment, which
overrides it. The address and the key of the service may be values of any kind until they are used.
-/

namespace DesignGauge

open Text

/-- The settings of a project. -/
structure Settings where
  componentsDir : Path
  resultsDir : Path
  thresholdsPath : Path
  predictionUrl : Datum := .null
  apiKey : Datum := .null
  timeout : Double := Double.ofQuotient 30 1

/-- Variables and their values. -/
abbrev Environment := List (String × String)

/-- The variables that override settings. -/
def urlVariable : String := "DESIGN_SMELLS_PREDICTION_URL"

@[inherit_doc urlVariable]
def resultsVariable : String := "DESIGN_SMELLS_RESULTS_DIR"

@[inherit_doc urlVariable]
def componentsVariable : String := "DESIGN_SMELLS_COMPONENTS_DIR"

/-- The value of a variable, if it is set and not empty. -/
def Environment.given? (env : Environment) (name : String) : Option String :=
  (env.lookup name).filter (!·.isEmpty)

/-- The folder of a project that holds its data. -/
def dataDir (root : Path) : Path := root.below ".design-smells"

/-- The settings file of a project. -/
def settingsFile (root : Path) : Path := (dataDir root).below "settings.yaml"

namespace Settings

/-- The defaults of a project. -/
def defaults (root : Path) : Settings where
  componentsDir := (dataDir root).below "components"
  resultsDir := (dataDir root).below "results"
  thresholdsPath := (dataDir root).below "thresholds.yaml"

/-- Settings with those that the environment overrides. -/
def withEnvironment (env : Environment) (s : Settings) : Settings where
  componentsDir := ((env.given? componentsVariable).map Path.ofText).getD s.componentsDir
  resultsDir := ((env.given? resultsVariable).map Path.ofText).getD s.resultsDir
  thresholdsPath := s.thresholdsPath
  predictionUrl := ((env.given? urlVariable).map Datum.text).getD s.predictionUrl
  apiKey := ((env.given? keyVariable).map Datum.text).getD s.apiKey
  timeout := s.timeout

/-- The settings that a mapping may give. -/
def names : List String :=
  ["components_dir", "results_dir", "thresholds_path", "prediction_url", "api_key", "timeout"]

/-- The keys of a mapping that are no settings. -/
def unknownKeys (entries : List (Datum × Datum)) : List Datum :=
  (entries.map Prod.fst).filter fun key => match key with
    | .text name => !names.contains name
    | _ => true

/-- A key comes before another one, if the two have an order. -/
def precedes? (a b : Datum) : Option Bool :=
  match a, b with
  | .text x, .text y => some (x < y)
  | .octets x, .octets y => some (x < y)
  | .day x, .day y => some (x.number < y.number)
  | .moment x, .moment y => if x.isComparable y then some (x.instant < y.instant) else none
  | _, _ => match a.number?, b.number? with
    | some x, some y => some (x.lt y)
    | _, _ => none

/-- Puts a key in its place among sorted ones. -/
def insertKey (key : Datum) : List Datum → Except Fault (List Datum)
  | [] => .ok [key]
  | other :: rest => match precedes? key other with
    | some true => .ok (key :: other :: rest)
    | some false => do return other :: (← insertKey key rest)
    | none => .error (.unordered key.kindName other.kindName)

/-- Keys in order. -/
def sortKeys (keys : List Datum) : Except Fault (List Datum) :=
  keys.foldlM (fun sorted key => insertKey key sorted) []

/-- The first of some keys that is no text. -/
def firstNonText? (index : Nat) : List Datum → Option (Nat × Datum)
  | [] => none
  | .text _ :: rest => firstNonText? (index + 1) rest
  | key :: _ => some (index, key)

/-- Refuses keys that are no settings. -/
def checkKeys (entries : List (Datum × Datum)) : Except Fault Unit := do
  let unknown := unknownKeys entries
  if unknown.isEmpty then return ()
  else
    let sorted ← sortKeys unknown
    match firstNonText? 0 sorted with
    | some (index, key) => throw (.notText index key.kindName)
    | none => throw (.config (.unknownSettings sorted))

/-- Refuses a timeout. The refusal shows the value, which must be fit to be written. -/
def refuseTimeout (value : Datum) : Fault :=
  if value.isWritable then .config (.badTimeout value) else .tooManyDigits

/-- The timeout of a mapping. -/
def timeoutOf (entries : List (Datum × Datum)) : Except Fault Double :=
  match Datum.lookup? "timeout" entries with
  | none => .ok (Double.ofQuotient 30 1)
  | some value =>
    let spelled (found : Option Double) : Except Fault Double :=
      match found with
      | some x => .ok x
      | none => .error (refuseTimeout value)
    match value with
    | .text s => spelled (Reading.ofText? s)
    | .octets s => spelled (Reading.ofOctets? s)
    | _ => match value.number? with
      | some (.float x) => .ok x
      | some (.int i) => match Double.ofInt? i with
        | some x => .ok x
        | none => .error .beyondDouble
      | none => .error (refuseTimeout value)

/-- A path of a mapping, seen from the project; what counts as absent keeps the default. -/
def pathOf (entries : List (Datum × Datum)) (root : Path) (name : String) (absent : Path) :
    Except Fault Path :=
  match Datum.lookup? name entries with
  | none => .ok absent
  | some value =>
    if value.isVoid then .ok absent
    else match value with
      | .text s => .ok (root.below s)
      | .octets _ => .error .octetPath
      | other => .error (.notPath other.shortKindName)

/-- The settings that a value gives. -/
def ofDatum (root : Path) : Datum → Except Fault Settings
  | .map entries => do
    checkKeys entries
    let timeout ← timeoutOf entries
    let d := defaults root
    return {
      componentsDir := ← pathOf entries root "components_dir" d.componentsDir
      resultsDir := ← pathOf entries root "results_dir" d.resultsDir
      thresholdsPath := ← pathOf entries root "thresholds_path" d.thresholdsPath
      predictionUrl := (Datum.lookup? "prediction_url" entries).getD .null
      apiKey := (Datum.lookup? "api_key" entries).getD .null
      timeout }
  | _ => .error (.config .settingsNotMapping)

/-- The settings of a project without a file. -/
def forProject (env : Environment) (root : Path) : Settings :=
  (defaults root).withEnvironment env

/-- The settings of a file, or those of the project if there is none. -/
def load (disk : Disk) (env : Environment) (path root : Path) : Except Fault Settings := do
  if ← disk.present path then
    let value ← configuration 1 disk path (.settingsUnreadable path.text)
      (.settingsMalformed path.text)
    return (← ofDatum root value).withEnvironment env
  else return forProject env root

end Settings

end DesignGauge
