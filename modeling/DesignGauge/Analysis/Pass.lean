import DesignGauge.Analysis.Choice
import DesignGauge.Report.Archive
import DesignGauge.Smell

/-!
# An analysis pass

A pass takes the measures of a file one after another, makes a report of the values, saves it if
that is wanted, and classifies the values.
-/

namespace DesignGauge

/-- What is to be analysed: a file, the language and the metrics if they are not to be chosen for
it, the syntax node of its class, and whether the report is to be saved. -/
structure Order where
  file : String
  language : Option String := none
  metrics : List String := []
  node : Datum := .null
  save : Bool := true

/-- The outcome of a pass. -/
structure FileAnalysis where
  file : String
  language : Language
  report : Report
  localFlags : SmellFlags
  highlighted : List (Metric × Double)
  predicted : Option SmellFlags := none
  reportPath : Option Path := none

namespace FileAnalysis

/-- The verdicts of the service; no prediction counts as no smells. -/
def remoteFlags (a : FileAnalysis) : SmellFlags := a.predicted.getD {}

/-- The verdicts of the service if there are any, otherwise those of the thresholds. -/
def flags (a : FileAnalysis) : SmellFlags := a.predicted.getD a.localFlags

end FileAnalysis

/-- Takes the measures of some metrics in order; a metric that the language has no measure for is
left out. -/
def takeEach (store : Store) (file : String) (language : Language) (node : Datum)
    (values : List (String × Number)) :
    List Metric → Except Fault (List (String × Number)) × List LogLine
  | [] => (.ok values, [])
  | metric :: rest => match Measure.find? metric language with
    | none =>
      let (result, lines) := takeEach store file language node values rest
      (result, .debug ("Skipping " ++ metric.name ++ ": not available for " ++ language.word)
        :: lines)
    | some measure =>
      let told := measure.log node (some store) file
      match measure.take node (some store) file with
      | .error fault => (.error fault, told)
      | .ok value =>
        let (result, lines) :=
          takeEach store file language node (Report.setValue metric.name value values) rest
        (result, told ++ lines)

/-- The values of some metrics of a file, or of all metrics of its language if none are named. They
are all taken of the store as it is at the start. -/
def metricValues (store : Store) (file : String) (language : Language) (metrics : List Metric)
    (node : Datum) : Except Fault (List (String × Number)) × List LogLine :=
  takeEach store.snapshot file language node []
    (if metrics.isEmpty then metricsOf language else metrics)

/-- The result of a pass: the disk as it is then, and the analysis. -/
structure Analysing where
  disk : Disk
  result : Except Fault FileAnalysis
  log : List LogLine := []

/-- Saves a report if there is a folder for it. -/
def saveReport (disk : Disk) (report : Report) :
    Option Path → Disk × Except Fault (Option Path) × List LogLine
  | none => (disk, .ok none, [])
  | some folder =>
    let saving := report.save disk folder
    (saving.disk, saving.result.map some, saving.log)

/-- Reports on the values of a file and classifies them. -/
def reportOn (thresholds : Thresholds) (folder : Option Path) (disk : Disk) (file : String)
    (language : Language) (values : List (String × Number)) : Analysing :=
  let report := Report.ofValues file values
  match saveReport disk report folder with
  | (disk, .error fault, lines) => ⟨disk, .error fault, lines⟩
  | (disk, .ok path, lines) =>
    match classify thresholds (values.map fun v => (v.1, .ofNumber v.2)) with
    | .error fault => ⟨disk, .error fault, lines⟩
    | .ok c =>
      ⟨disk, .ok {
        file, language, report
        localFlags := c.flags
        highlighted := c.highlighted
        reportPath := path }, lines ++ c.log⟩

/-- Analyses a file; reports go to the folder if there is one. -/
def analyse (store : Store) (thresholds : Thresholds) (folder : Option Path) (disk : Disk)
    (order : Order) : Analysing :=
  match chooseLanguage order.file order.language with
  | .error fault => { disk, result := .error fault }
  | .ok language => match chooseMetrics language order.metrics with
    | .error fault => { disk, result := .error fault }
    | .ok metrics =>
      let opening := LogLine.info ("Analyzing " ++ language.word ++ " file: " ++ order.file)
      match metricValues store order.file language metrics order.node with
      | (.error fault, lines) => ⟨disk, .error fault, opening :: lines⟩
      | (.ok values, lines) =>
        let folder := if order.save then folder else none
        let pass := reportOn thresholds folder disk order.file language values
        { pass with log := opening :: lines ++ pass.log }

end DesignGauge
