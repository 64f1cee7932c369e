import DesignGauge.Cli.Arguments
import DesignGauge.Cli.Shell

/-!
# The commands

Each command reads the settings of the project, does its work and shows the result, for readers or
as JSON.
-/

namespace DesignGauge.Cli

open Shell Text

/-- The settings of the project. -/
def settings (s : Surroundings) : Shell Settings := do
  take (Settings.load (← disk) s.env (settingsFile s.root) s.root)

/-- Verdicts as JSON. -/
def flagsDatum (flags : SmellFlags) : Datum :=
  .ofFields (Smell.all.map fun smell => (smell.name, .bool (flags.has smell)))

/-- Highlighted values as JSON. -/
def highlightedDatum (values : List (Metric × Double)) : Datum :=
  .ofFields (values.map fun (metric, value) => (metric.name, .float value))

/-- The names of highlighted metrics. -/
def highlightedNames (values : List (Metric × Double)) : List String :=
  values.map fun (metric, _) => metric.name

/-! ## Analysing files -/

/-- The metrics that a text names, separated by commas. -/
def requestedMetrics (text : String) : List String :=
  ((text.toList.splitOn ',').map strip).filterMap fun name =>
    if name.isEmpty then none else some (String.ofList name)

/-- Takes the outcome of a step of the service. -/
def takeStep (step : Service.Step FileAnalysis) : Shell (Service × FileAnalysis) := do
  tell step.log
  setDisk step.disk
  return (step.service, ← take step.result)

/-- Analyses a file, with a prediction if that is wanted. -/
def analyzeFile (service : Service) (predict : Bool) (order : Order) :
    Shell (Service × FileAnalysis) := do
  if !predict then takeStep (service.analyze (← disk) order)
  else match service.begin (← disk) order with
    | .over step => takeStep step
    | .waiting service disk log analysis prediction =>
      tell log
      setDisk disk
      let answer ← ask (prediction.mapResult .ok)
      takeStep (service.conclude disk analysis answer)

/-- Analyses files one after another. -/
def analyzeFiles (service : Service) (predict : Bool) :
    List Order → Shell (List FileAnalysis)
  | [] => pure []
  | order :: rest => do
    let (service, analysis) ← analyzeFile service predict order
    return analysis :: (← analyzeFiles service predict rest)

/-- An analysis as JSON, with what the service said if it was asked. -/
def analysisDatum (asked : Bool) (a : FileAnalysis) : Datum :=
  .ofFields ([("file", .text a.file), ("language", .text a.language.word),
    ("report", a.report.write), ("smells", flagsDatum a.localFlags),
    ("highlighted", highlightedDatum a.highlighted)]
    ++ if asked then [("predicted", flagsDatum a.remoteFlags), ("verdict", flagsDatum a.flags)]
      else [])

/-- Shows an analysis. -/
def showAnalysis (asked : Bool) (a : FileAnalysis) : Shell Unit := do
  showAll (Console.header a.file)
  showAll (Console.metrics a.report (highlightedNames a.highlighted))
  showAll (Console.smells a.localFlags "Local Thresholds")
  if asked then showAll (Console.prediction a.predicted)
  match a.reportPath with
  | some path => showInfo ("Report saved to " ++ path.text)
  | none => pure ()

/-- Sets the service up and analyses files; says whether predictions were asked for. -/
def analyzeWork (s : Surroundings) (files : List String) (language metrics : Option String)
    (predict : Bool) : Shell (Bool × List FileAnalysis) := do
  let settings ← settings s
  if !(← present settings.componentsDir) then
    showWarning ("Components directory not found: " ++ settings.componentsDir.text)
  let (service, lines) := Service.ofSettings (← disk) s.env settings
  tell lines
  let service ← take service
  if predict && service.client.isNone then
    showWarning "Prediction service URL is not configured; using local thresholds"
  let requested := (metrics.map requestedMetrics).getD []
  let orders := files.map fun file => { file, language, metrics := requested : Order }
  return (predict && service.client.isSome, ← analyzeFiles service predict orders)

/-- Analyses files and shows the results. -/
def analyze (s : Surroundings) (files : List String) (language metrics : Option String)
    (predict json : Bool) : Shell Unit := do
  let (asked, analyses) ← guarding Fault.isOwn (fun fault => "Analysis failed: " ++ fault.message)
    (analyzeWork s files language metrics predict)
  if json then showJson (.list (analyses.map (analysisDatum asked)))
  else analyses.forM (showAnalysis asked)

/-! ## Classifying a report -/

/-- Classifies a saved report. -/
def classifyReport (s : Surroundings) (path : Path) (json : Bool) : Shell Unit := do
  let (found, lines) := Report.load (← disk) path
  tell lines
  match ← take found with
  | none =>
    showError ("Could not read metrics report: " ++ path.text)
    fail
  | some report =>
    let thresholds ← configured do
      let settings ← settings s
      take (Thresholds.load (← disk) settings.thresholdsPath)
    let c ← take (classify thresholds (report.values.map fun v => (v.1, .ofNumber v.2)))
    tell c.log
    if json then
      showJson (.ofFields [("file", .text report.fullPath), ("smells", flagsDatum c.flags),
        ("highlighted", highlightedDatum c.highlighted)])
    else
      showAll (Console.header report.fullPath)
      showAll (Console.metrics report (highlightedNames c.highlighted))
      showAll (Console.smells c.flags Console.smellsTitle)

/-! ## Asking for predictions -/

/-- The table of predictions for reports. -/
def predictionTable (answers : List (String × SmellFlags)) : Console.Table where
  columns := ⟨"Report", .left, none⟩ :: Smell.all.map fun smell => ⟨smell.name, .centre, none⟩
  rows := answers.map fun (name, flags) => name :: Smell.all.map fun smell =>
    if flags.has smell then "[red]●[/red]" else "[dim]○[/dim]"

/-- Sends all reports. -/
def predictAll (client : Client) (folder : Path) (json : Bool) : Shell Unit := do
  let answers ← ask (client.sendAll (← disk) folder Client.usualDelay)
  if json then
    showJson (.ofFields (answers.map fun (name, flags) => (name, flagsDatum flags)))
  else if answers.isEmpty then
    showWarning "No predictions received"
    fail
  else show_ (.table (predictionTable answers))

/-- Sends one report: the given one, or the one that was changed last. -/
def predictOne (client : Client) (folder : Path) (report : Option Path) (json : Bool) :
    Shell Unit := do
  let disk ← disk
  let flags ← match report with
    | none => ask (client.sendLatest disk folder)
    | some path => do
      if !(← present path) then
        showError ("Metrics report not found: " ++ path.text)
        fail
      else ask (client.sendFile disk path)
  if json then showJson ((flags.map flagsDatum).getD .null)
  else showAll (Console.prediction flags)
  if flags.isNone then fail

/-- Sends reports to the prediction service. -/
def predict (s : Surroundings) (report : Option Path) (all json : Bool) : Shell Unit := do
  let settings ← configured (settings s)
  let client ← take (Client.ofSettings s.env settings)
  if !client.isConfigured then
    showError ("Prediction service not configured: set " ++ urlVariable ++ " and " ++ keyVariable)
    fail
  else if all then predictAll client settings.resultsDir json
  else predictOne client settings.resultsDir report json

/-! ## The state of a project -/

/-- A folder with the number of its files. -/
def folderSummary (folder : Path) : Shell String := do
  let found ← present folder
  let disk ← disk
  let count := if found then (disk.listing folder ".json").length else 0
  return folder.text ++ " (" ++ toString count ++ " files)"

/-- A value that a table can show. -/
def shown (absent : String) (value : Datum) : Shell String :=
  if value.isVoid then pure absent
  else match value with
    | .text s => pure s
    | other => throw (.fault (.notRenderable other.shortKindName))

/-- Shows where the data of a project are and whether the service is there. -/
def status (s : Surroundings) : Shell Unit := do
  let settings ← configured (settings s)
  let components ← folderSummary settings.componentsDir
  let reports ← folderSummary settings.resultsDir
  let url ← shown "[dim]not configured[/dim]" settings.predictionUrl
  let key := if settings.apiKey.isVoid then "[dim]not set[/dim]" else "set"
  show_ (.table {
    columns := [⟨"Setting", .left, none⟩, ⟨"Value", .left, none⟩]
    titled := false
    rows := [["Components", components], ["Reports", reports],
      ["Thresholds", settings.thresholdsPath.text], ["Prediction URL", url], ["API key", key]] })
  show_ .gap
  if settings.predictionUrl.isVoid then
    showWarning "Prediction service URL is not configured"
    fail
  else
    let client ← take (Client.ofSettings s.env settings)
    if ← ask client.checkStatus then showSuccess "Prediction service is reachable"
    else
      showError "Prediction service is not responding"
      fail

/-! ## Thresholds -/

/-- Shows the thresholds in effect. -/
def showThresholds (s : Surroundings) (json : Bool) : Shell Unit := do
  let (path, thresholds) ← configured do
    let settings ← settings s
    return (settings.thresholdsPath, ← take (Thresholds.load (← disk) settings.thresholdsPath))
  if json then showJson thresholds.toDatum
  else
    let source := if ← present path then path.text else "defaults"
    show_ (.markup ("[bold]Thresholds[/bold] [dim](" ++ source ++ ")[/dim]"))
    show_ (.plain thresholds.text)

/-- Writes the default thresholds. -/
def initThresholds (s : Surroundings) (force : Bool) : Shell Unit := do
  let settings ← configured (settings s)
  let path := settings.thresholdsPath
  if (← present path) && !force then
    showWarning ("Threshold file already exists: " ++ path.text ++ " (use --force to overwrite)")
    fail
  else
    let (disk, saved) := Thresholds.save (← disk) {} path
    setDisk disk
    take saved
    showSuccess ("Wrote default thresholds to " ++ path.text)

/-! ## Command lines -/

/-- Runs a command. -/
def runCommand (s : Surroundings) : Command → Shell Unit
  | .analyze files language metrics predict json => analyze s files language metrics predict json
  | .classify report json => classifyReport s (Path.ofText report) json
  | .predict report all json => predict s (report.map Path.ofText) all json
  | .status => status s
  | .showThresholds json => showThresholds s json
  | .initThresholds force => initThresholds s force

/-- The name of the program. -/
def programName : String := "design-smells"

/-- The version of the program. -/
def programVersion : String := "0.3.0"

/-- How the program is used. -/
def usage : String :=
  "Usage: " ++ programName ++ " [OPTIONS] COMMAND [ARGS]...\n\n"
    ++ "Commands: analyze, classify, predict, status, thresholds show, thresholds init\n"

/-- The end of a run: the disk and the output as they were left, the exit code, and the fault that
ended it if there was one. -/
structure Ending where
  disk : Disk
  output : String
  code : Nat
  fault : Option Fault := none

/-- The end that the work of a command comes to. -/
def Ending.of : Except Stop Unit × Desk → Ending
  | (.ok (), desk) => ⟨desk.disk, desk.output, 0, none⟩
  | (.error (.exit code), desk) => ⟨desk.disk, desk.output, code, none⟩
  | (.error (.fault fault), desk) => ⟨desk.disk, desk.output, 1, some fault⟩

/-- A project root may be a folder or absent, but no file. -/
def rootFits (disk : Disk) (root : String) : Bool :=
  match disk.look (Path.ofText root) with
  | .ok (.file _ _) => false
  | _ => true

/-- Runs a command line in a folder. -/
def run (env : Environment) (folder : Path) (disk : Disk) (words : List String) :
    Exchange Ending :=
  match readInvocation (rootFits disk) words with
  | none => pure ⟨disk, "", 2, none⟩
  | some .version => pure ⟨disk, programName ++ " " ++ programVersion ++ "\n", 0, none⟩
  | some .help => pure ⟨disk, usage, 0, none⟩
  | some (.run root _ command) =>
    let s : Surroundings := ⟨env, (root.map Path.ofText).getD folder⟩
    Ending.of <$> (runCommand s command).run.run { disk }

end DesignGauge.Cli
