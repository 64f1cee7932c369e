import DesignGauge.Analysis.Service
import DesignGauge.Console.Block

/-!
# Running commands

A command works on a desk: the disk and the output so far. It may ask the prediction service, and
it ends by itself, with an exit code, or with a fault; in each case the desk is as it was left.
-/

namespace DesignGauge.Cli

/-- What a command works on. -/
structure Desk where
  disk : Disk
  output : String := ""

/-- Why a command ends early. -/
inductive Stop where
  | exit (code : Nat)
  | fault (fault : Fault)

/-- The work of a command. -/
abbrev Shell := ExceptT Stop (StateT Desk Exchange)

/-- What a command needs to know: the environment, the folder it is run in and the root of the
project. -/
structure Surroundings where
  env : Environment
  root : Path

namespace Shell

/-- Takes the result of a computation. -/
def take {α : Type} : Except Fault α → Shell α
  | .ok a => pure a
  | .error fault => throw (.fault fault)

/-- Asks the service; a fault ends the command and leaves the desk as it is. -/
def ask {α : Type} (exchange : Exchange α) : Shell α := do
  let result ← (exchange.mapResult .ok : Exchange (Except Fault α))
  take result

/-- Tells something. -/
def tell (lines : List LogLine) : Shell Unit := ask (.tell lines (pure ()))

/-- The disk as it is. -/
def disk : Shell Disk := do return (← get).disk

/-- Sets the disk. -/
def setDisk (disk : Disk) : Shell Unit := modify fun desk => { desk with disk }

/-- Shows a block. -/
def show_ (block : Console.Block) : Shell Unit := do
  let text ← take block.text
  modify fun desk => { desk with output := desk.output ++ text }

/-- Shows blocks one after another. -/
def showAll : List Console.Block → Shell Unit
  | [] => pure ()
  | block :: rest => do
    show_ block
    showAll rest

/-- Shows a value as JSON. -/
def showJson (value : Datum) : Shell Unit :=
  match Json.fileText value with
  | .ok text => show_ (.verbatim text)
  | .error refusal => throw (.fault refusal.fault)

/-- Shows what went wrong. -/
def showError (text : String) : Shell Unit := show_ (.markup ("[red]✗ " ++ text ++ "[/red]"))

/-- Shows a warning. -/
def showWarning (text : String) : Shell Unit :=
  show_ (.markup ("[yellow]⚠ " ++ text ++ "[/yellow]"))

/-- Shows what was done. -/
def showSuccess (text : String) : Shell Unit :=
  show_ (.markup ("[green]✓ " ++ text ++ "[/green]"))

/-- Shows a hint. -/
def showInfo (text : String) : Shell Unit := show_ (.markup ("[blue]ℹ " ++ text ++ "[/blue]"))

/-- Ends the command with the exit code for failure. -/
def fail {α : Type} : Shell α := throw (.exit 1)

/-- Runs work, and ends the command with an error text if it ends with one of some faults. -/
def guarding {α : Type} (expected : Fault → Bool) (text : Fault → String) (work : Shell α) :
    Shell α :=
  tryCatch work fun stop => match stop with
    | .fault fault =>
      if expected fault then do
        showError (text fault)
        fail
      else throw stop
    | .exit _ => throw stop

/-- Runs work, and ends the command with an error text if a configuration is wrong. -/
def configured {α : Type} (work : Shell α) : Shell α :=
  guarding (fun fault => match fault with | .config _ => true | _ => false) Fault.message work

/-- A path is there. -/
def present (path : Path) : Shell Bool := do take ((← disk).present path)

end Shell

end DesignGauge.Cli
