import DesignGauge.Cli.Commands

/-!
# The program

Reads the files that a command line is about, runs it, prints its output and writes the files that
it changed. The program has no connection to a network: a request is answered by a failure.
-/

namespace DesignGauge.Program

/-- The variables that the program looks at. -/
def variableNames : List String := [urlVariable, keyVariable, resultsVariable, componentsVariable]

/-- The environment of the program. -/
def environment : IO Environment := do
  let values ← variableNames.mapM fun name => do return (← IO.getEnv name).map (name, ·)
  return values.filterMap id

/-- The location of a path. -/
def locationOf (path : Path) : Location :=
  path.parts.foldl (fun location name =>
    if name != ".." then location ++ [name]
    else if Disk.isBase location then location
    else location.dropLast)
    (if path.isAbsolute then ["/"] else [])

/-- The time of a node in one number. -/
def timeOf (info : IO.FS.Metadata) : Int :=
  info.modified.sec * 1000000000 + info.modified.nsec.toNat

/-- Adds a file, or a folder with all that is in it if `deep`. -/
partial def load (deep : Bool) (disk : Disk) (path : Path) : IO Disk := do
  let here ← IO.currentDir
  let target := here / path.text
  match ← target.metadata.toBaseIO with
  | .error _ => return disk
  | .ok info =>
    match info.type with
    | .dir =>
      let disk := disk.setNode (locationOf path) (.folder (timeOf info))
      if deep then
        let entries ← target.readDir
        entries.foldlM (fun disk entry => load deep disk (path.below entry.fileName)) disk
      else return disk
    | _ =>
      let octets ← IO.FS.readBinFile target
      return disk.setNode (locationOf path) (.file octets.toList (timeOf info))

/-- The folders above a path, the outermost first. -/
def ancestors (path : Path) : List Path :=
  (List.range path.parts.length).map fun n => ⟨path.root, path.parts.take n⟩

/-- Adds a path with the folders above it. -/
def mount (disk : Disk) (path : Path) : IO Disk := do
  let disk ← (ancestors path).foldlM (load false) disk
  load true disk path

/-- The paths that a command names. -/
def named : Cli.Command → List Path
  | .classify report _ => [Path.ofText report]
  | .predict (some report) _ _ => [Path.ofText report]
  | _ => []

/-- The files that a command line is about, and where they were found. -/
def gather (env : Environment) (folder : Path) (words : List String) : IO (Disk × List Path) := do
  match Cli.readInvocation (fun _ => true) words with
  | some (.run root _ command) =>
    let root := (root.map Path.ofText).getD folder
    let near := dataDir root :: named command
    let disk ← near.foldlM mount {}
    let disk ← load false disk root
    match Settings.load disk env (settingsFile root) root with
    | .error _ => return (disk, near)
    | .ok s =>
      let far := [s.componentsDir, s.resultsDir, s.thresholdsPath]
      return (← far.foldlM mount disk, far ++ near)
  | _ => return ({}, [])

/-- The path of a location, seen from the paths where files were found. -/
def pathOf (mounts : List Path) (location : Location) : Path :=
  match mounts.find? fun p => (locationOf p).isPrefixOf location with
  | some p => ⟨p.root, p.parts ++ location.drop (locationOf p).length⟩
  | none => match location with
    | "/" :: parts => ⟨"/", parts⟩
    | parts => ⟨"", parts⟩

/-- Writes the files that were changed. -/
def store (mounts : List Path) (before after : Disk) : IO Unit := do
  let here ← IO.currentDir
  for (location, node) in after.nodes do
    match node with
    | .folder _ => pure ()
    | .file octets _ =>
      if before.node? location != some node then
        let path := pathOf mounts location
        IO.FS.createDirAll (here / path.parent.text)
        IO.FS.writeBinFile (here / path.text) ⟨octets.toArray⟩

/-- The least level that is printed. -/
def levelOf (words : List String) : Level :=
  match Cli.readInvocation (fun _ => true) words with
  | some (.run _ .quiet _) => .error
  | some (.run _ .verbose _) => .debug
  | _ => .warning

/-- Runs a command line; gives the exit code. -/
def run (words : List String) : IO UInt32 := do
  let env ← environment
  let folder := Path.ofText (toString (← IO.currentDir))
  let (disk, mounts) ← gather env folder words
  let disk := { disk with clock := (← IO.monoNanosNow : Nat) + Nat.pow 10 30 }
  let (transcript, _) := (Cli.run env folder disk words).run
    (fun _ s => (.broken "no connection", s)) ()
  for line in LogLine.atLeast (levelOf words) transcript.log do
    IO.eprintln (line.level.word ++ ": " ++ line.full)
  match transcript.result with
  | .error fault =>
    IO.eprintln fault.message
    return 1
  | .ok ending =>
    store mounts disk ending.disk
    IO.print ending.output
    match ending.fault with
    | some fault => IO.eprintln fault.message
    | none => pure ()
    return ending.code.toUInt32

end DesignGauge.Program

/-- Runs the program. -/
def main (words : List String) : IO UInt32 := DesignGauge.Program.run words
