import DesignGauge.Analysis.Pass
import DesignGauge.Prediction
import DesignGauge.Store.Archive

/-!
# The analysis service

The service keeps a store of components and runs one pass at a time. A pass holds the slot of the
service from its start to its end; work that is asked for meanwhile is refused at once. A pass that
asks for a prediction is suspended until the reply is there, and keeps the slot all the time: it is
begun by `Service.begin` and ended by `Service.conclude`.
-/

namespace DesignGauge

/-- The slot of a service: whether it is held, and for what. -/
structure Slot where
  locked : Bool := false
  holder : Option String := none
  deriving DecidableEq, Repr

namespace Slot

/-- The slot is held. -/
def isBusy (s : Slot) : Bool := s.locked

/-- Takes the slot, unless it is held. -/
def acquire (s : Slot) (target : String) : Except Fault Slot :=
  if s.locked then .error (.busy s.holder target)
  else .ok { locked := true, holder := some target }

/-- Gives the slot back; a free slot cannot be given back. -/
def release (s : Slot) : Except Fault Slot :=
  if s.locked then .ok { locked := false, holder := none } else .error .releaseFree

end Slot

/-- A service. -/
structure Service where
  store : Store
  thresholds : Thresholds := {}
  resultsDir : Option Path := none
  client : Option Client := none
  slot : Slot := {}

namespace Service

/-- The service that settings describe, and what setting it up tells. -/
def ofSettings (disk : Disk) (env : Environment) (s : Settings) :
    Except Fault Service × List LogLine :=
  let client := if s.predictionUrl.isVoid then .ok none else (Client.ofSettings env s).map some
  match client with
  | .error fault => (.error fault, [])
  | .ok client =>
    let loading := Store.load disk .empty s.componentsDir
    match loading.result, Thresholds.load disk s.thresholdsPath with
    | .error fault, _ => (.error fault, loading.log)
    | .ok _, .error fault => (.error fault, loading.log)
    | .ok _, .ok thresholds =>
      (.ok {
        store := loading.store
        thresholds
        resultsDir := some s.resultsDir
        client }, loading.log)

/-- The result of a step of the service: the service and the disk as they are then. -/
structure Step (α : Type) where
  service : Service
  disk : Disk
  result : Except Fault α
  log : List LogLine := []

/-- Gives the slot back at the end of a pass; the pass fails if it is not held any more. What it was
held for is forgotten in both cases. -/
def finish {α : Type} (s : Service) (disk : Disk) (result : Except Fault α)
    (log : List LogLine) : Step α :=
  match s.slot.release with
  | .ok slot => ⟨{ s with slot }, disk, result, log⟩
  | .error fault => ⟨{ s with slot := { s.slot with holder := none } }, disk, .error fault, log⟩

/-- Does some work while the slot is held for a target. The slot is given back when the work is
over, whatever came of it. -/
def hold {α : Type} (s : Service) (disk : Disk) (target : String) (work : Service → Step α) :
    Step α :=
  match s.slot.acquire target with
  | .error fault => ⟨s, disk, .error fault, []⟩
  | .ok slot =>
    let done := work { s with slot }
    done.service.finish done.disk done.result done.log

/-- Replaces the store by what a folder holds. -/
def reload (s : Service) (disk : Disk) (folder : Path) : Step Nat :=
  s.hold disk folder.text fun held =>
    let fresh := Store.load disk .empty folder
    match fresh.result with
    | .error fault => ⟨held, disk, .error fault, fresh.log⟩
    | .ok _ =>
      ⟨{ held with store := held.store.replaceAll fresh.store }, disk, .ok fresh.store.size,
        fresh.log⟩

/-- Analyses a file with the store and the thresholds of the service. -/
def pass (s : Service) (disk : Disk) (order : Order) : Analysing :=
  analyse s.store s.thresholds s.resultsDir disk order

/-- Runs a pass. -/
def analyze (s : Service) (disk : Disk) (order : Order) : Step FileAnalysis :=
  s.hold disk order.file fun held =>
    let done := held.pass disk order
    ⟨held, done.disk, done.result, done.log⟩

/-- A pass that asks for a prediction, once it is begun: it is over, or it waits for what its
exchange gives. -/
inductive Begun where
  | over (step : Step FileAnalysis)
  | waiting (service : Service) (disk : Disk) (log : List LogLine) (analysis : FileAnalysis)
      (prediction : Exchange (Option SmellFlags))

/-- Begins a pass that asks for a prediction. -/
def begin (s : Service) (disk : Disk) (order : Order) : Begun :=
  match s.slot.acquire order.file with
  | .error fault => .over ⟨s, disk, .error fault, []⟩
  | .ok slot =>
    let held := { s with slot }
    let done := held.pass disk order
    match done.result, held.client with
    | .ok analysis, some client =>
      .waiting held done.disk done.log analysis (client.predict [analysis.report])
    | result, _ => .over (held.finish done.disk result done.log)

/-- Ends a pass with what came of the prediction. -/
def conclude (s : Service) (disk : Disk) (analysis : FileAnalysis) :
    Except Fault (Option SmellFlags) → Step FileAnalysis
  | .error fault => s.finish disk (.error fault) []
  | .ok (some flags) => s.finish disk (.ok { analysis with predicted := some flags }) []
  | .ok none =>
    s.finish disk (.ok analysis)
      [.warning ("No prediction for " ++ analysis.file ++ "; treating as no smells")]

end Service

end DesignGauge
