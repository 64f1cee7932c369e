/-!
# Log lines

What a run tells beside its answer: lines with a level, in order.
-/

namespace DesignGauge

/-- How weighty a line is. -/
inductive Level where
  | debug
  | info
  | warning
  | error
  deriving DecidableEq, Repr

namespace Level

/-- The word of a level. -/
def word : Level → String
  | .debug => "DEBUG"
  | .info => "INFO"
  | .warning => "WARNING"
  | .error => "ERROR"

/-- The rank of a level. -/
def rank : Level → Nat
  | .debug => 0
  | .info => 1
  | .warning => 2
  | .error => 3

/-- The level of a word. -/
def ofWord? (s : String) : Option Level :=
  [debug, info, warning, error].find? (·.word == s)

end Level

/-- One line. A detail that a reader of files or replies gives is kept apart. -/
structure LogLine where
  level : Level
  text : String
  detail : String := ""
  deriving DecidableEq, Repr

namespace LogLine

/-- A line for debugging. -/
def debug (text : String) : LogLine := { level := .debug, text }

/-- A line that informs. -/
def info (text : String) : LogLine := { level := .info, text }

/-- A line that warns. -/
def warning (text : String) : LogLine := { level := .warning, text }

/-- A line about an error. -/
def error (text : String) : LogLine := { level := .error, text }

/-- All of a line. -/
def full (line : LogLine) : String :=
  if line.detail.isEmpty then line.text else line.text ++ ": " ++ line.detail

/-- The lines at a level or above. -/
def atLeast (level : Level) (lines : List LogLine) : List LogLine :=
  lines.filter fun line => level.rank ≤ line.level.rank

end LogLine

end DesignGauge
