import DesignGauge.Measure.Catalogue
import DesignGauge.Path.Basic

/-!
# What to measure

The language of a file follows from its extension unless one is named; the metrics are all those
of the language unless some are named.
-/

namespace DesignGauge

open Text

/-- The languages of extensions, in lower case. -/
def extensionLanguages : List (String × Language) :=
  [(".java", .java), (".py", .python), (".pyw", .python)]

/-- The language of an extension in any letter case, Java if it has none of its own. -/
def languageOfExtension (extension : String) : Language :=
  (extensionLanguages.lookup (lower extension)).getD .java

/-- The language of a source file. -/
def languageOfFile (file : String) : Language :=
  languageOfExtension (Path.sourceName file).suffix

/-- The named language, or that of the file. -/
def chooseLanguage (file : String) : Option String → Except Fault Language
  | none => .ok (languageOfFile file)
  | some word => match Language.parse? word with
    | some language => .ok language
    | none => .error (.unknownLanguage word)

/-- The metrics of some names, in order. -/
def namedMetrics : List String → Except Fault (List Metric)
  | [] => .ok []
  | name :: rest => match Metric.parse? name with
    | some metric => do return metric :: (← namedMetrics rest)
    | none => .error (.unknownMetric name)

/-- The named metrics, or all of the language. -/
def chooseMetrics (language : Language) (names : List String) : Except Fault (List Metric) :=
  if names.isEmpty then .ok (metricsOf language) else namedMetrics names

end DesignGauge
