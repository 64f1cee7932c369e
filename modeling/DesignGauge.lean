import DesignGauge.Address.Basic
import DesignGauge.Address.Host
import DesignGauge.Address.Label
import DesignGauge.Address.LabelTable
import DesignGauge.Address.Punycode
import DesignGauge.Analysis.Choice
import DesignGauge.Analysis.Pass
import DesignGauge.Analysis.Service
import DesignGauge.Analysis.Session
import DesignGauge.Cli.Arguments
import DesignGauge.Cli.Commands
import DesignGauge.Cli.Shell
import DesignGauge.Component.Basic
import DesignGauge.Component.Wire
import DesignGauge.Console.Block
import DesignGauge.Console.Emoji
import DesignGauge.Console.EmojiTable
import DesignGauge.Console.Handler
import DesignGauge.Console.Markup
import DesignGauge.Console.Style
import DesignGauge.Console.Table
import DesignGauge.Console.Value
import DesignGauge.Console.Wrap
import DesignGauge.Datum.Basic
import DesignGauge.Datum.Literal
import DesignGauge.Disk
import DesignGauge.Exchange
import DesignGauge.Fault
import DesignGauge.Json.File
import DesignGauge.Json.Reader
import DesignGauge.Json.Reply
import DesignGauge.Json.Writer
import DesignGauge.Log
import DesignGauge.Main
import DesignGauge.Measure.Ancestry
import DesignGauge.Measure.Catalogue
import DesignGauge.Measure.Count
import DesignGauge.Measure.Foreign
import DesignGauge.Measure.PublicFace
import DesignGauge.Measure.Sharing
import DesignGauge.Measure.Span
import DesignGauge.Measure.View
import DesignGauge.Measure.Weight
import DesignGauge.Number.Basic
import DesignGauge.Number.Double
import DesignGauge.Number.Layout
import DesignGauge.Number.Reading
import DesignGauge.Number.Shortest
import DesignGauge.Path.Basic
import DesignGauge.Path.SourceName
import DesignGauge.Prediction
import DesignGauge.Proofs.Analysis.Exclusion
import DesignGauge.Proofs.Folder
import DesignGauge.Proofs.Store.History
import DesignGauge.Proofs.Store.Index
import DesignGauge.Proofs.Store.Loading
import DesignGauge.Proofs.Store.Malformed
import DesignGauge.Proofs.Wire.Blocking
import DesignGauge.Report.Archive
import DesignGauge.Report.Basic
import DesignGauge.Settings
import DesignGauge.Smell
import DesignGauge.Status
import DesignGauge.Store.Archive
import DesignGauge.Store.Basic
import DesignGauge.Text.Case
import DesignGauge.Text.CaseTable
import DesignGauge.Text.CellTable
import DesignGauge.Text.Cells
import DesignGauge.Text.CharClass
import DesignGauge.Text.Pieces
import DesignGauge.Text.Printable
import DesignGauge.Text.Surrogate
import DesignGauge.Text.Utf8
import DesignGauge.Text.Word
import DesignGauge.Threshold.Basic
import DesignGauge.Threshold.File
import DesignGauge.TypeName
import DesignGauge.Wire.Checked
import DesignGauge.Yaml.Cursor
import DesignGauge.Yaml.Node
import DesignGauge.Yaml.Scalar
import DesignGauge.Yaml.Tag
import DesignGauge.Yaml.Token
import DesignGauge.Yaml.Value
import DesignGauge.Yaml.Writer
import DesignGauge.Proofs.Number.Rounding
import DesignGauge.Proofs.Wire.RoundTrip
import DesignGauge.Proofs.Number.Shortest
import DesignGauge.Proofs.Json.RoundTrip
import DesignGauge.Proofs.Component.Storing
import DesignGauge.Proofs.Disk.Writing
import DesignGauge.Proofs.Path.BaseName
import DesignGauge.Proofs.Path.Respelling
import DesignGauge.Proofs.Store.Reloading
import DesignGauge.Proofs.Measure.Finite
import DesignGauge.Proofs.Analysis.Agreement
import DesignGauge.Proofs.Disk.Making
import DesignGauge.Proofs.Analysis.Atomicity
import DesignGauge.Proofs.Measure.Ancestry
import DesignGauge.Proofs.Measure.Alike
import DesignGauge.Proofs.Measure.Regrouping
import DesignGauge.Proofs.Measure.Locality
import DesignGauge.Proofs.Measure.Reordering
import DesignGauge.Proofs.Report.Loading
import DesignGauge.Proofs.Report.Persistence
import DesignGauge.Proofs.Prediction.Submission
import DesignGauge.Proofs.Prediction.Attribution
import DesignGauge.Proofs.Yaml.Numbers
import DesignGauge.Proofs.Yaml.Scanning
import DesignGauge.Proofs.Yaml.Sections
import DesignGauge.Proofs.Yaml.Nodes
import DesignGauge.Proofs.Threshold.RoundTrip
import DesignGauge.Proofs.TypeName.Scanning
import DesignGauge.Proofs.TypeName.Grammar
import DesignGauge.Proofs.TypeName.Parameter
import DesignGauge.Proofs.Measure.VariableArity
import DesignGauge.Proofs.Measure.Lineage
import DesignGauge.Proofs.Measure.Growth
import DesignGauge.Proofs.Text.Pieces
import DesignGauge.Proofs.Measure.Contribution
import DesignGauge.Proofs.Measure.Ratios
import DesignGauge.Proofs.Measure.Cohesion
import DesignGauge.Proofs.Measure.Reach
import DesignGauge.Proofs.Number.Order
import DesignGauge.Proofs.Number.Range
import DesignGauge.Proofs.Smell.Readings
import DesignGauge.Proofs.Smell.Verdicts
import DesignGauge.Proofs.Measure.Insertion
import DesignGauge.Proofs.TypeName.Arguments
import DesignGauge.Proofs.Measure.Abstraction
import DesignGauge.Proofs.Prediction.Outcome
import DesignGauge.Proofs.Analysis.Reload
import DesignGauge.Proofs.Threshold.Acceptance
import DesignGauge.Proofs.Settings
import DesignGauge.Proofs.Measure.Modifiers
import DesignGauge.Proofs.Analysis.Selection
import DesignGauge.Proofs.Wire.Variants
import DesignGauge.Proofs.Component.Variants
