import DesignGauge.Analysis.Service

/-!
# Sessions

A session is a service at work among several callers: the service, the disk, and the passes that
wait for the reply to a prediction request. A pass runs without a break from one request to the
next; whatever else is asked for happens in between. An event is something that is asked of the
service, the reply that a waiting pass gets, or a fault that reaches it instead of a reply.
-/

namespace DesignGauge

/-- A pass that waits for a reply. -/
structure Waiting where
  analysis : FileAnalysis
  next : Reply → Exchange (Option SmellFlags)

/-- The file of a waiting pass. -/
def Waiting.file (w : Waiting) : String := w.analysis.file

/-- A service, the disk it works on and the passes that wait. -/
structure Session where
  service : Service
  disk : Disk
  waiting : List Waiting := []

namespace Session

/-- What can happen. Waiting passes are told apart by their places in the session. -/
inductive Event where
  | analyze (order : Order)
  | reload (folder : Path)
  | predict (order : Order)
  | reply (place : Nat) (reply : Reply)
  | interrupt (place : Nat) (fault : Fault)

/-- What comes of an event. -/
inductive Outcome where
  /-- A pass is over. -/
  | analysed (result : Except Fault FileAnalysis)
  /-- A reload is over. -/
  | reloaded (result : Except Fault Nat)
  /-- A pass waits for the reply to a request. -/
  | suspended (request : Request)
  /-- No pass waits at the place. -/
  | idle

/-- The result of an event: the session as it is then, and what came of the event. -/
structure Turn where
  session : Session
  outcome : Outcome
  log : List LogLine := []

/-- The turn that a step of the service makes. -/
def turnOf {α : Type} (s : Session) (step : Service.Step α) (outcome : Except Fault α → Outcome) :
    Turn :=
  ⟨{ s with service := step.service, disk := step.disk }, outcome step.result, step.log⟩

/-- Lets a pass go on to its next request, where it waits at a place, or to its end. -/
def settle (s : Session) (place : Nat) (analysis : FileAnalysis)
    (work : Exchange (Option SmellFlags)) (log : List LogLine) : Turn :=
  match work.advance with
  | (.asking request next, lines) =>
    ⟨{ s with waiting := s.waiting.insertIdx place ⟨analysis, next⟩ }, .suspended request,
      log ++ lines⟩
  | (.ended result, lines) =>
    let step := s.service.conclude s.disk analysis result
    s.turnOf { step with log := log ++ lines ++ step.log } .analysed

/-- Lets the pass at a place go on with what has reached it. -/
def resume (s : Session) (place : Nat) (work : Waiting → Exchange (Option SmellFlags)) : Turn :=
  match s.waiting[place]? with
  | none => ⟨s, .idle, []⟩
  | some w => { s with waiting := s.waiting.eraseIdx place }.settle place w.analysis (work w) []

/-- The turn that an event makes. -/
def step (s : Session) : Event → Turn
  | .analyze order => s.turnOf (s.service.analyze s.disk order) .analysed
  | .reload folder => s.turnOf (s.service.reload s.disk folder) .reloaded
  | .predict order => match s.service.begin s.disk order with
    | .over step => s.turnOf step .analysed
    | .waiting service disk log analysis prediction =>
      { s with service, disk }.settle s.waiting.length analysis prediction log
  | .reply place reply => s.resume place (·.next reply)
  | .interrupt place fault => s.resume place fun _ => .done (.error fault)

/-- The session after some events. -/
def run (s : Session) (events : List Event) : Session :=
  events.foldl (fun s event => (s.step event).session) s

end Session

end DesignGauge
