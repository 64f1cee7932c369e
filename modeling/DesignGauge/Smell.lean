import DesignGauge.Log
import DesignGauge.Measure.Catalogue
import DesignGauge.Threshold.Basic

/-!
# Design smells

Four verdicts on a class. They come from comparing metric values with thresholds, or from the
answer of a prediction service. A verdict that needs a value which is missing is negative.
-/

namespace DesignGauge

/-- The design smells. -/
inductive Smell where
  | brainClass
  | godClass
  | dataClass
  | splitClass
  deriving DecidableEq, Repr

namespace Smell

/-- All smells. -/
def all : List Smell := [.brainClass, .godClass, .dataClass, .splitClass]

/-- The name of a smell. -/
def name : Smell → String
  | .brainClass => "Brain Class"
  | .godClass => "God Class"
  | .dataClass => "Data Class"
  | .splitClass => "Schizophrenic Class"

/-- The labels under which the prediction service reports a smell; of two, the last decides. -/
def labels : Smell → List String
  | .splitClass => ["Schizofrenic Class", "Schizophrenic Class"]
  | smell => [smell.name]

end Smell

/-- One verdict for each smell. -/
structure SmellFlags where
  brainClass : Bool := false
  godClass : Bool := false
  dataClass : Bool := false
  splitClass : Bool := false
  deriving DecidableEq, Repr

namespace SmellFlags

/-- The verdict on a smell. -/
def has (f : SmellFlags) : Smell → Bool
  | .brainClass => f.brainClass
  | .godClass => f.godClass
  | .dataClass => f.dataClass
  | .splitClass => f.splitClass

/-- The smells that are there. -/
def detected (f : SmellFlags) : List Smell := Smell.all.filter f.has

/-- Some smell is there. -/
def hasSmells (f : SmellFlags) : Bool := !f.detected.isEmpty

/-- The verdict that a prediction gives on a smell. -/
def predicted (entries : List (Datum × Datum)) (smell : Smell) : Bool :=
  match (smell.labels.filterMap (Datum.lookup? · entries)).getLast? with
  | some value => !value.isVoid
  | none => false

/-- The verdicts of one prediction. -/
def ofPrediction (entries : List (Datum × Datum)) : SmellFlags :=
  ⟨predicted entries .brainClass, predicted entries .godClass, predicted entries .dataClass,
    predicted entries .splitClass⟩

/-- The last prediction of an answer. -/
def lastPrediction? : Datum → Option Datum
  | .map entries => match Datum.lookup? "predictions" entries with
    | some (.list predictions) => predictions.getLast?
    | _ => none
  | _ => none

/-- The verdicts of an answer: those of its last prediction, if that is a mapping. -/
def ofAnswer? (answer : Datum) : Option SmellFlags :=
  match lastPrediction? answer with
  | some (.map entries) => some (ofPrediction entries)
  | _ => none

/-- What reading an answer tells. -/
def answerLog (answer : Datum) : List LogLine :=
  match lastPrediction? answer with
  | some (.map _) => []
  | some entry => [.warning ("Unexpected prediction entry: " ++ entry.literal)]
  | none => []

end SmellFlags

/-! ## Verdicts from metric values -/

/-- Metric values by name. -/
abbrev Readings := List (String × Datum)

/-- The value of a metric as a double, if it has one that can be read as such. -/
def Readings.double? (readings : Readings) (metric : Metric) : Except Fault (Option Double) :=
  match readings.lookup metric.name with
  | none => .ok none
  | some (.text s) => .ok (Reading.ofText? s)
  | some (.octets s) => .ok (Reading.ofOctets? s)
  | some value => match value.number? with
    | some (.float x) => .ok (some x)
    | some (.int i) => match Double.ofInt? i with
      | some x => .ok (some x)
      | none => .error .beyondDouble
    | none => .ok none

/-- The values of the metrics that verdicts are about. -/
structure Profile where
  loc : Option Double := none
  wmc : Option Double := none
  tcc : Option Double := none
  atfd : Option Double := none
  woc : Option Double := none
  nopa : Option Double := none
  noam : Option Double := none
  nom : Option Double := none
  deriving DecidableEq, Repr

/-- The profile of some readings. -/
def Readings.profile (readings : Readings) : Except Fault Profile := do
  return {
    loc := ← readings.double? .loc
    wmc := ← readings.double? .wmc
    tcc := ← readings.double? .tcc
    atfd := ← readings.double? .atfd
    woc := ← readings.double? .woc
    nopa := ← readings.double? .nopa
    noam := ← readings.double? .noam
    nom := ← readings.double? .nom }

/-- A double is above a threshold. -/
def Double.above (x : Double) (t : Number) : Bool := t.lt (.float x)

/-- A double is at a threshold or above. -/
def Double.atLeast (x : Double) (t : Number) : Bool := t.le (.float x)

/-- A double is below a threshold. -/
def Double.below (x : Double) (t : Number) : Bool := Number.lt (.float x) t

namespace Profile

/-- Long and complex. -/
def isBrainClass (p : Profile) (t : SmellThresholds) : Bool :=
  match p.loc, p.wmc with
  | some loc, some wmc => loc.above t.brainLoc && wmc.above t.brainWmc
  | _, _ => false

/-- Very complex, not cohesive, and using foreign data. -/
def isGodClass (p : Profile) (t : SmellThresholds) : Bool :=
  match p.wmc, p.tcc, p.atfd with
  | some wmc, some tcc, some atfd =>
    wmc.atLeast t.godWmc && tcc.below t.godTcc && atfd.above t.godAtfd
  | _, _, _ => false

/-- Mostly access to data: some public data and little behaviour, or much and not complex. -/
def isDataClass (p : Profile) (t : SmellThresholds) : Bool :=
  match p.woc, p.nopa, p.noam, p.wmc with
  | some woc, some nopa, some noam, some wmc =>
    let publicData := nopa.add noam
    woc.below t.dataWoc
      && ((publicData.above t.dataPublicLow && wmc.below t.dataWmcLow)
        || (publicData.above t.dataPublicHigh && wmc.below t.dataWmcHigh))
  | _, _, _, _ => false

/-- Many methods in separate groups. -/
def isSplitClass (p : Profile) (t : SmellThresholds) : Bool :=
  match p.nom, p.tcc, p.woc with
  | some nom, some tcc, some woc =>
    nom.atLeast t.splitNom && tcc.below t.splitTcc && woc.atLeast t.splitWoc
  | _, _, _ => false

/-- All four verdicts. -/
def flags (p : Profile) (t : SmellThresholds) : SmellFlags :=
  ⟨p.isBrainClass t, p.isGodClass t, p.isDataClass t, p.isSplitClass t⟩

/-- The complexity alone is past its highlight threshold. -/
def isHeavy (p : Profile) (h : HighlightThresholds) : Bool :=
  match p.wmc with
  | some wmc => wmc.atLeast h.godWmc
  | none => false

/-- Length and complexity are both past their highlight thresholds. -/
def isLongAndHeavy (p : Profile) (h : HighlightThresholds) : Bool :=
  match p.loc, p.wmc with
  | some loc, some wmc => loc.above h.brainLoc && wmc.above h.brainWmc
  | _, _ => false

/-- A highlighted value. -/
def highlight (metric : Metric) (value : Option Double) : List (Metric × Double) :=
  match value with
  | some x => [(metric, x)]
  | none => []

/-- The values past their highlight thresholds. -/
def highlighted (p : Profile) (h : HighlightThresholds) : List (Metric × Double) :=
  match p.isHeavy h, p.isLongAndHeavy h with
  | true, true => highlight .wmc p.wmc ++ highlight .loc p.loc
  | true, false => highlight .wmc p.wmc
  | false, true => highlight .loc p.loc ++ highlight .wmc p.wmc
  | false, false => []

end Profile

/-- Verdicts and highlighted values. -/
structure Classification where
  flags : SmellFlags
  highlighted : List (Metric × Double)
  deriving DecidableEq, Repr

/-- Classifies metric values. -/
def classify (t : Thresholds) (readings : Readings) : Except Fault Classification := do
  let profile ← readings.profile
  return ⟨profile.flags t.smells, profile.highlighted t.highlight⟩

/-- What classifying tells. -/
def Classification.log (c : Classification) : List LogLine :=
  [.debug ("Local smell flags: " ++ textListLiteral (c.flags.detected.map Smell.name))]

end DesignGauge
