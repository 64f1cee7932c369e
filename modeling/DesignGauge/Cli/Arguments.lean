import DesignGauge.Path.Basic

/-!
# Command lines

A command line has general options, the name of a command, and the options and operands of that
command. Options have a long name behind two hyphens and may have a letter behind one; letters may
stand together. A value follows its option as the next word, behind an equals sign (long name) or
directly (letter). Two hyphens alone end the options.
-/

namespace DesignGauge.Cli

/-- An option: its long name, its letter, and whether it takes a value. -/
structure OptionSpec where
  name : String
  letter : Option Char := none
  valued : Bool := false
  deriving DecidableEq, Repr

/-- Options as they were given, in order, and the other words. -/
structure Given where
  options : List (String × String) := []
  operands : List String := []
  deriving DecidableEq, Repr

namespace Given

/-- Adds options in front. -/
def withOptions (given : Given) (options : List (String × String)) : Given :=
  { given with options := options ++ given.options }

/-- An option was given. -/
def has (given : Given) (name : String) : Bool := given.options.any (·.1 == name)

/-- The value that was given last for an option. -/
def value? (given : Given) (name : String) : Option String :=
  given.options.reverse.lookup name

end Given

/-- What a word with options amounts to: options that are complete, and one that takes the next
word as its value. -/
structure Opened where
  complete : List (String × String) := []
  awaiting : Option String := none
  deriving DecidableEq, Repr

/-- Reads a long option. -/
def readLong (specs : List OptionSpec) (body : List Char) : Option Opened :=
  let name := String.ofList (body.takeWhile (· != '='))
  let value := body.dropWhile (· != '=')
  match specs.find? (·.name == name) with
  | none => none
  | some spec => match spec.valued, value with
    | true, [] => some { awaiting := some name }
    | true, _ :: v => some { complete := [(name, String.ofList v)] }
    | false, [] => some { complete := [(name, "")] }
    | false, _ :: _ => none

/-- Reads letters that stand together. -/
def readLetters (specs : List OptionSpec) : List Char → Option Opened
  | [] => some {}
  | c :: rest => match specs.find? (·.letter == some c) with
    | none => none
    | some spec =>
      if spec.valued then
        if rest.isEmpty then some { awaiting := some spec.name }
        else some { complete := [(spec.name, String.ofList rest)] }
      else (readLetters specs rest).map fun opened =>
        { opened with complete := (spec.name, "") :: opened.complete }

/-- Reads a word, if it is one with options; the inner result is `none` if it names an option that
is not known or is used wrongly. -/
def readWord? (specs : List OptionSpec) (word : String) : Option (Option Opened) :=
  match word.toList with
  | '-' :: '-' :: body => some (readLong specs body)
  | '-' :: c :: rest => some (readLetters specs (c :: rest))
  | _ => none

/-- Reads words. If `mixed`, options may follow operands, otherwise the first operand ends them. -/
def readWords (specs : List OptionSpec) (mixed : Bool) : List String → Option Given
  | [] => some {}
  | word :: rest =>
    if word == "--" then some { operands := rest }
    else match readWord? specs word with
      | none =>
        if mixed then (readWords specs mixed rest).map fun given =>
          { given with operands := word :: given.operands }
        else some { operands := word :: rest }
      | some none => none
      | some (some opened) => match opened.awaiting with
        | none => (readWords specs mixed rest).map (·.withOptions opened.complete)
        | some name => match rest with
          | [] => none
          | value :: more =>
            (readWords specs mixed more).map (·.withOptions (opened.complete ++ [(name, value)]))

/-- The commands with their operands and options. -/
inductive Command where
  | analyze (files : List String) (language metrics : Option String) (predict json : Bool)
  | classify (report : String) (json : Bool)
  | predict (report : Option String) (all json : Bool)
  | status
  | showThresholds (json : Bool)
  | initThresholds (force : Bool)
  deriving DecidableEq, Repr

/-- How much is told. -/
inductive Verbosity where
  | quiet
  | usual
  | verbose
  deriving DecidableEq, Repr

/-- A command line. -/
inductive Invocation where
  | version
  | help
  | run (root : Option String) (verbosity : Verbosity) (command : Command)
  deriving DecidableEq, Repr

/-- The option that asks for help, which every command has. -/
def helpOption : OptionSpec := { name := "help" }

/-- The option for JSON output. -/
def jsonOption : OptionSpec := { name := "json" }

/-- Reads the words of a command; `none` inside stands for a request for help. -/
def readCommandWith (specs : List OptionSpec) (words : List String)
    (make : Given → Option Command) : Option (Option Command) :=
  match readWords (helpOption :: specs) true words with
  | none => none
  | some given => if given.has "help" then some none else (make given).map some

/-- Reads the words after `thresholds`. -/
def readThresholds : List String → Option (Option Command)
  | "show" :: words => readCommandWith [jsonOption] words fun given =>
    if given.operands.isEmpty then some (.showThresholds (given.has "json")) else none
  | "init" :: words => readCommandWith [⟨"force", some 'f', false⟩] words fun given =>
    if given.operands.isEmpty then some (.initThresholds (given.has "force")) else none
  | _ => none

/-- Reads a command. -/
def readCommand : List String → Option (Option Command)
  | "analyze" :: words =>
    readCommandWith [⟨"language", some 'l', true⟩, ⟨"metrics", some 'm', true⟩,
      ⟨"predict", none, false⟩, jsonOption] words fun given =>
      if given.operands.isEmpty then none
      else some (.analyze given.operands (given.value? "language") (given.value? "metrics")
        (given.has "predict") (given.has "json"))
  | "classify" :: words => readCommandWith [jsonOption] words fun given =>
    match given.operands with
    | [report] => some (.classify report (given.has "json"))
    | _ => none
  | "predict" :: words =>
    readCommandWith [⟨"all", some 'a', false⟩, jsonOption] words fun given =>
      match given.operands with
      | [] => some (.predict none (given.has "all") (given.has "json"))
      | [report] => some (.predict (some report) (given.has "all") (given.has "json"))
      | _ => none
  | "status" :: words => readCommandWith [] words fun given =>
    if given.operands.isEmpty then some .status else none
  | "thresholds" :: words => match readWords [helpOption] false words with
    | none => none
    | some given => if given.has "help" then some none else readThresholds given.operands
  | _ => none

/-- The general options. -/
def generalOptions : List OptionSpec :=
  [⟨"verbose", some 'v', false⟩, ⟨"quiet", some 'q', false⟩, ⟨"project-root", some 'p', true⟩,
    ⟨"version", none, false⟩, helpOption]

/-- How much is to be told. -/
def verbosityOf (given : Given) : Verbosity :=
  if given.has "quiet" then .quiet else if given.has "verbose" then .verbose else .usual

/-- Reads a command line; `rootFits` says whether a project root may be used. -/
def readInvocation (rootFits : String → Bool) (words : List String) : Option Invocation :=
  match readWords generalOptions false words with
  | none => none
  | some given =>
    let root := given.value? "project-root"
    match (given.options.map Prod.fst).find? fun name => name == "version" || name == "help" with
    | some name => some (if name == "version" then .version else .help)
    | none =>
      if !(root.map rootFits).getD true then none
      else (readCommand given.operands).map fun command => match command with
        | none => .help
        | some command => .run root (verbosityOf given) command

end DesignGauge.Cli
