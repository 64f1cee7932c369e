import DesignGauge.Number.Basic

/-!
# Writing sections of numbers

A mapping of sections, each a mapping of numbers, on lines of its own with two blanks in front of
the entries of a section.
-/

namespace DesignGauge.Yaml

/-- One entry of a section. -/
def entryLine (entry : String × Number) : String :=
  "  " ++ entry.1 ++ ": " ++ entry.2.render .thresholds ++ "\n"

/-- A section. -/
def sectionText (part : String × List (String × Number)) : String :=
  part.1 ++ ":\n" ++ String.join (part.2.map entryLine)

/-- All sections. -/
def sectionsText (parts : List (String × List (String × Number))) : String :=
  String.join (parts.map sectionText)

end DesignGauge.Yaml
