import DesignGauge.Console.Table
import DesignGauge.Console.Value
import DesignGauge.Report.Basic
import DesignGauge.Smell

/-!
# What the console shows

The output is a sequence of blocks. Each block is shown in whole or is refused, because of its
markup or of a value that has no text.
-/

namespace DesignGauge.Console

open Text

/-- A block of output. -/
inductive Block where
  /-- A text with markup. -/
  | markup (text : String)
  /-- A text without markup. -/
  | plain (text : String)
  /-- A text that is shown as it is. -/
  | verbatim (text : String)
  /-- A table. -/
  | table (t : Table)
  /-- The values of metrics, some of them highlighted. -/
  | metrics (entries : List MetricEntry) (highlighted : List String)

/-- Lines, each with its end. -/
def joinLines (lines : List (List Char)) : String :=
  String.ofList (lines.flatMap (· ++ ['\n']))

/-- A text broken into lines of the console. -/
def flow (text : List Char) : String := joinLines (wrap consoleWidth .free .fold text)

/-- The table of metric values. -/
def metricsTable (entries : List MetricEntry) (highlighted : List String) :
    Except Fault Table := do
  let rows ← entries.mapM fun entry => do
    let value ← numberText entry.value
    return if highlighted.contains entry.name then
      ["[red]" ++ entry.name ++ "[/red]", "[red]" ++ value ++ "[/red]"]
    else [entry.name, value]
  return {
    columns := [⟨"Metric", .left, some 10⟩, ⟨"Value", .right, some 10⟩]
    rows }

/-- The text of a block. -/
def Block.text : Block → Except Fault String
  | .markup text => do return flow (← plainText text)
  | .plain text => .ok (flow (sanitized text.toList))
  | .verbatim text => .ok (text ++ "\n")
  | .table t => do return joinLines (← t.lines)
  | .metrics entries highlighted => do
    return joinLines (← (← metricsTable entries highlighted).lines)

/-- An empty line. -/
def Block.gap : Block := .verbatim ""

/-- The heading of a file. -/
def header (file : String) : List Block :=
  [.markup ("\n[bold blue]📐 Design Metrics[/bold blue] [dim]" ++ file ++ "[/dim]"),
    .markup (repeated 60 '━')]

/-- The metric values of a report. -/
def metrics (report : Report) (highlighted : List String) : List Block :=
  if report.metrics.isEmpty then [.markup "  No metrics computed", .gap]
  else [.metrics report.metrics highlighted, .gap]

/-- The verdict on a smell. -/
def verdict (flags : SmellFlags) (smell : Smell) : Block :=
  if flags.has smell then .markup ("  [red]●[/red] " ++ smell.name)
  else .markup ("  [dim]○ " ++ smell.name ++ "[/dim]")

/-- The verdicts on all smells under a title. -/
def smells (flags : SmellFlags) (title : String) : List Block :=
  [.markup ("[bold]" ++ title ++ "[/bold]")] ++ Smell.all.map (verdict flags)
    ++ (if flags.hasSmells then [] else [.markup "  [green]✓ No design smells detected[/green]"])
    ++ [.gap]

/-- The title of verdicts if no other is given. -/
def smellsTitle : String := "Design Smells"

/-- What the prediction service said. -/
def prediction : Option SmellFlags → List Block
  | none => [.markup "[yellow]No prediction available; treating as no smells[/yellow]", .gap]
  | some flags => smells flags "Predicted Smells"

/-- The text of blocks up to the first that is refused, and the refusal. -/
def render : List Block → String × Except Fault Unit
  | [] => ("", .ok ())
  | block :: rest => match block.text with
    | .error fault => ("", .error fault)
    | .ok text =>
      let (more, result) := render rest
      (text ++ more, result)

end DesignGauge.Console
