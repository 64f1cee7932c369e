import DesignGauge.Measure.Foreign
import DesignGauge.Measure.PublicFace
import DesignGauge.Measure.Sharing
import DesignGauge.Measure.Span
import DesignGauge.Measure.Weight

/-!
# The catalogue of measures

Each language has its measures, in the order in which they are taken by default. A measure names
its metric and gives its value and what taking it tells.
-/

namespace DesignGauge

open Text

/-- The languages that have measures. -/
inductive Language where
  | java
  | python
  deriving DecidableEq, Repr

/-- The word of a language. -/
def Language.word : Language → String
  | .java => "java"
  | .python => "python"

/-- All languages. -/
def Language.all : List Language := [.java, .python]

/-- The language of an exact word. -/
def Language.ofWord? (s : String) : Option Language := Language.all.find? (·.word == s)

/-- The language of a word in any letter case. -/
def Language.parse? (s : String) : Option Language := Language.ofWord? (lower s)

/-- The metrics. -/
inductive Metric where
  | loc | wmc | woc | tcc | dac | fdp | nas | noam | dit | noa | nom | nopa | nabsm | nprotm | amw
  | cbo | pnas | atfd | cc
  deriving DecidableEq, Repr

namespace Metric

/-- The name of a metric. -/
def name : Metric → String
  | .loc => "LOC"
  | .wmc => "WMC"
  | .woc => "WOC"
  | .tcc => "TCC"
  | .dac => "DAC"
  | .fdp => "FDP"
  | .nas => "NAS"
  | .noam => "NOAM"
  | .dit => "DIT"
  | .noa => "NOA"
  | .nom => "NOM"
  | .nopa => "NOPA"
  | .nabsm => "NAbsm"
  | .nprotm => "NProtM"
  | .amw => "AMW"
  | .cbo => "CBO"
  | .pnas => "PNAS"
  | .atfd => "ATFD"
  | .cc => "CC"

/-- All metrics. -/
def all : List Metric :=
  [.loc, .wmc, .woc, .tcc, .dac, .fdp, .nas, .noam, .dit, .noa, .nom, .nopa, .nabsm, .nprotm, .amw,
    .cbo, .pnas, .atfd, .cc]

/-- The metric of an exact name. -/
def ofName? (s : String) : Option Metric := all.find? (·.name == s)

/-- The metric of a name in any letter case. -/
def parse? (s : String) : Option Metric := all.find? fun m => lower m.name == lower s

end Metric

/-- How a metric is taken. -/
structure Measure where
  metric : Metric
  value : Evidence → Except Fault Number
  trace : Evidence → List String := fun _ => []

namespace Measure

/-- A measure that counts something of the view. -/
def counting (metric : Metric) (count : ClassView → Nat)
    (trace : ClassView → List String := fun _ => []) : Measure :=
  ⟨metric, fun e => .ok (.ofNat (count e.view)), fun e => trace e.view⟩

/-- A measure that computes a number from the view. -/
def rating (metric : Metric) (rate : ClassView → Number)
    (trace : ClassView → List String := fun _ => []) : Measure :=
  ⟨metric, fun e => .ok (rate e.view), fun e => trace e.view⟩

/-- The measures for Java. -/
def java : List Measure := [
  ⟨.loc, lines, linesTrace⟩,
  ⟨.amw, fun e => meanWeight e.view, fun e => concreteTrace e.view⟩,
  counting .cbo (fun v => (coupled v).length) coupledTrace,
  counting .fdp dataProviders dataProvidersTrace,
  counting .dac (fun v => (abstractions v).length) abstractionsTrace,
  counting .wmc weightedMethods weightedMethodsTrace,
  rating .woc classWeight classWeightTrace,
  counting .noa attributes,
  counting .nom methods,
  counting .noam accessors,
  counting .nopa publicAttributes publicAttributesTrace,
  counting .nabsm abstractMethods,
  counting .nprotm protectedMethods,
  counting .nas addedServiceCount (addedServicesTrace "NAS"),
  rating .pnas addedShare (addedServicesTrace "PNAS"),
  rating .tcc tightCohesion tightCohesionTrace,
  ⟨.dit, fun e => .ok (.ofNat (depth e)), depthTrace⟩,
  counting .atfd foreignAccess foreignAccessTrace]

/-- The measures for Python. -/
def python : List Measure := [
  ⟨.loc, lines, linesTrace⟩,
  counting .cc cyclomatic cyclomaticTrace,
  counting .noa openAttributes,
  counting .nom plainMethods,
  counting .noam propertyAccessors]

/-- The measures of a language, in default order. -/
def ofLanguage : Language → List Measure
  | .java => java
  | .python => python

/-- The measure of a metric in a language. -/
def find? (metric : Metric) (language : Language) : Option Measure :=
  (ofLanguage language).find? (·.metric == metric)

/-- What taking a measure of a file sees. -/
def evidence (node : Datum) (store : Option Store) (file : String) : Evidence :=
  ⟨viewOf store file, node, (store.map Store.classes).getD []⟩

/-- Takes a measure of a file. -/
def take (m : Measure) (node : Datum) (store : Option Store) (file : String) :
    Except Fault Number :=
  m.value (evidence node store file)

/-- What taking a measure of a file tells. -/
def log (m : Measure) (node : Datum) (store : Option Store) (file : String) : List LogLine :=
  let tag := m.metric.name
  [.debug ("[" ++ tag ++ "] Starting calculation for " ++ file)]
    ++ viewLog tag store file
    ++ (m.trace (evidence node store file)).map .debug
    ++ match m.take node store file with
      | .ok value =>
        [.debug ("[" ++ tag ++ "] Final " ++ tag ++ " value for " ++ file ++ ": " ++ value.text)]
      | .error _ => []

/-- A measure named by two words, in any letter case, and what looking for it tells. -/
def parse (metricName language : String) : Option (Measure × Language) × List LogLine :=
  match Language.parse? language with
  | none => (none, [.warning ("No calculators for language: " ++ language)])
  | some lang => match Metric.parse? metricName with
    | none => (none, [.warning ("Unknown metric: " ++ metricName)])
    | some metric => match find? metric lang with
      | some m => (some (m, lang), [])
      | none =>
        (none, [.debug ("Metric " ++ metric.name ++ " is not available for " ++ lang.word)])

end Measure

/-- The metrics of a language, in default order. -/
def metricsOf (language : Language) : List Metric := (Measure.ofLanguage language).map (·.metric)

end DesignGauge
