import DesignGauge.Address.Basic
import DesignGauge.Exchange
import DesignGauge.Json.Reply
import DesignGauge.Report.Archive
import DesignGauge.Settings
import DesignGauge.Smell
import DesignGauge.Status

/-!
# The prediction service

Reports are sent to a service that answers with predictions; the last prediction of an answer gives
the verdicts. A request is made once. What goes wrong with it is told and counts as no prediction.
-/

namespace DesignGauge

open Text

/-- Reports as they are sent, each with the name of its source file. -/
def Report.submission (reports : List Report) : Datum :=
  .list (reports.map fun report => match report.write with
    | .map entries => .map (entries ++ [(.text "fileName", .text report.fileName)])
    | other => other)

/-- How the service is reached: its address without closing slashes, the key shown to it and the
seconds until a request is given up. A reply that is nested more deeply than there is room for
cannot be read. -/
structure Client where
  address : String
  key : Datum
  timeout : Datum
  depth : Nat

namespace Client

/-- The nesting that there is room for when little else is going on. -/
def usualDepth : Nat := 975

/-- An address without closing slashes. -/
def trimmed (address : String) : String :=
  String.ofList (dropRightWhile (· == '/') address.toList)

/-- A client; the environment gives what counts as absent. -/
def make (env : Environment) (url key timeout : Datum) (depth : Nat := usualDepth) :
    Except Fault Client := do
  let given := if url.isVoid then .text ((env.lookup urlVariable).getD "") else url
  let key := if key.isVoid then ((env.lookup keyVariable).map Datum.text).getD .null else key
  match given with
  | .text address => return ⟨trimmed address, key, timeout, depth⟩
  | other => throw (.noOperation other.kindName "rstrip")

/-- The client that settings describe. -/
def ofSettings (env : Environment) (s : Settings) : Except Fault Client :=
  make env s.predictionUrl s.apiKey (.float s.timeout)

/-- A client can send reports if it has an address and a key. -/
def isConfigured (c : Client) : Bool := c.address != "" && !c.key.isVoid

/-- What a request says about itself. -/
def headers (c : Client) : List (String × Datum) :=
  ("Content-Type", .text "application/json") :: if c.key.isVoid then [] else [("x-api-key", c.key)]

/-- The key as it is shown; only a text of the basic range can be. -/
def shownKey (c : Client) : Except Fault (Option String) :=
  if c.key.isVoid then .ok none
  else match c.key with
    | .text s => if s.toList.all (·.toNat < 128) then .ok (some s) else .error (.notAscii s)
    | other => .error (.badHeader other.kindName)

/-- A timeout in parts needs two of them. -/
def checkTimeout (c : Client) : Except Fault Unit :=
  match c.timeout with
  | .tuple [] | .tuple [_] => .error .emptyPoint
  | _ => .ok ()

/-- Where a request to a part of the service goes, and the key that it shows. -/
def dial (c : Client) (part : String) : Except Fault (Address × Option String) := do
  c.checkTimeout
  let address ← Address.parse (c.address ++ part)
  return (address.target, ← c.shownKey)

/-- The reply to a request. A response from an address that does not say how it is reached counts
for nothing. -/
def heard {α : Type} (address : Address) (next : Reply → Exchange α)
    (refuse : Fault → Exchange α) : Reply → Exchange α
  | .response status body =>
    if address.isAbsolute then next (.response status body)
    else refuse (.relativeAddress address.text)
  | reply => next reply

/-- What a reply says about whether the service is there. -/
def presence (address : Address) : Reply → Exchange Bool
  | .response status _ =>
    if Status.isSuccess status then .tell [.info "Connected to prediction service"] (pure true)
    else silent (Status.explanation status address.text)
  | .timedOut detail => silent detail
  | .broken detail => silent detail
  | .badAddress detail => .done (.error (.badAddress detail))
  | .raised fault => .done (.error fault)
where
  /-- Tells that nobody answers. -/
  silent (detail : String) : Exchange Bool :=
    .tell [.error ("Prediction service is not responding: " ++ detail)] (pure false)

/-- Asks whether the service is there. -/
def checkStatus (c : Client) : Exchange Bool :=
  if c.address == "" then
    .tell [.error "Prediction service URL is not configured"] (pure false)
  else match c.dial "/" with
    | .error fault => .done (.error fault)
    | .ok (address, key) =>
      .ask ⟨.get, address.text, key, ""⟩
        (heard address (presence address) fun fault => .done (.error fault))

/-- Faults that are taken for a response that is no JSON: those of a text or a number. -/
def isNotJson : Fault → Bool
  | .notAscii _ | .loneSurrogate _ | .relativeAddress _ | .badValue _ | .notUtf8 _ | .noNumber _
  | .notInteger _ _ | .tooManyDigits | .tooManyDigitsRead _ | .notLanguage _ | .notMetric _
  | .nullInPath => true
  | _ => false

/-- Ends with a fault, or tells that something is no JSON. -/
def fail (fault : Fault) : Exchange Datum :=
  if isNotJson fault then
    .refuse [.error ("Prediction service returned invalid JSON: " ++ fault.message)]
      (.prediction .notJson)
  else .done (.error fault)

/-- What a reply to sent reports amounts to. -/
def conclude (c : Client) : Reply → Exchange Datum
  | .response status body =>
    if Status.isSuccess status then match Json.readReply c.depth body with
      | .ok value => pure value
      | .error fault => fail fault
    else
      let fault := PredictionFault.status status
      .refuse [.error fault.message] (.prediction fault)
  | .timedOut _ =>
    .refuse [.error ("Prediction service timeout after " ++ c.timeout.display ++ "s")]
      (.prediction (.timedOut c.timeout))
  | .broken detail =>
    .refuse [.error ("Error connecting to prediction service: " ++ detail)]
      (.prediction (.failed detail))
  | .badAddress detail => .done (.error (.badAddress detail))
  | .raised fault => fail fault

/-- The body of a request: nothing for no value, and else the value. -/
def bodyText (payload : Datum) : Except Fault String :=
  match payload, Json.requestText payload with
  | .null, _ => .ok ""
  | _, .error refusal => .error refusal.fault
  | _, .ok text => if isWhole text then .ok text else .error (.loneSurrogate text)

/-- The request that sends a value, and where it goes. -/
def submission (c : Client) (payload : Datum) : Except Fault (Address × Request) := do
  let (address, key) ← c.dial "/metrics"
  return (address, ⟨.post, address.text, key, ← bodyText payload⟩)

/-- Sends a value and gives the value that comes back. -/
def post (c : Client) (payload : Datum) : Exchange Datum :=
  match c.submission payload with
  | .error fault => fail fault
  | .ok (address, request) => .ask request (heard address c.conclude fail)

/-- A failure of the service counts as no answer. -/
def answered {α : Type} : Except Fault α → Except Fault (Option α)
  | .ok a => .ok (some a)
  | .error (.prediction _) => .ok none
  | .error fault => .error fault

/-- Sends reports; gives the answer as it is. -/
def predictRaw (c : Client) (reports : List Report) : Exchange (Option Datum) :=
  if !c.isConfigured then
    .tell [.error ("Cannot send metrics: set " ++ urlVariable ++ " and " ++ keyVariable)]
      (pure none)
  else if reports.isEmpty then pure none
  else do
    match ← (c.post (Report.submission reports)).mapResult answered with
    | none => return none
    | some answer => .tell [.debug ("Prediction response: " ++ answer.display)] (pure (some answer))

/-- Sends reports; gives the verdicts. -/
def predict (c : Client) (reports : List Report) : Exchange (Option SmellFlags) := do
  match ← c.predictRaw reports with
  | none => return none
  | some answer => .tell (SmellFlags.answerLog answer) (pure (SmellFlags.ofAnswer? answer))

/-- Sends the report of a file. -/
def sendFile (c : Client) (disk : Disk) (path : Path) : Exchange (Option SmellFlags) :=
  let (found, lines) := Report.load disk path
  .tell lines (match found with
    | .error fault => .done (.error fault)
    | .ok none => pure none
    | .ok (some report) => c.predict [report])

/-- Sends the report of the file that was changed last. -/
def sendLatest (c : Client) (disk : Disk) (folder : Path) : Exchange (Option SmellFlags) :=
  let (found, lines) := Report.latest disk folder
  .tell lines (match found with
    | .error fault => .done (.error fault)
    | .ok none => pure none
    | .ok (some path) =>
      .tell [.info ("Using most recent metrics file: " ++ path.text)] (c.sendFile disk path))

/-- Sends reports one after another, each in a request of its own, with a pause after each unless
the delay counts as absent. -/
def sendEach (c : Client) (delay : Datum) :
    List (Path × Report) → Exchange (List (String × SmellFlags))
  | [] => pure []
  | (path, report) :: rest => do
    let flags ← c.predict [report]
    let more := sendEach c delay rest
    let others ← if delay.isVoid then more else .pause delay more
    return (flags.map (path.name, ·)).toList ++ others

/-- Sends all reports of a folder; gives the verdicts of those that were answered. -/
def sendAll (c : Client) (disk : Disk) (folder : Path) (delay : Datum) :
    Exchange (List (String × SmellFlags)) :=
  let (found, lines) := Report.loadAll disk folder
  .tell lines (match found with
    | .error fault => .done (.error fault)
    | .ok reports => do
      let answers ← c.sendEach delay reports
      .tell [.info ("Sent " ++ toString answers.length ++ " out of " ++ toString reports.length
        ++ " metrics files")] (pure answers))

/-- The pause between two reports. -/
def usualDelay : Datum := .float (Double.ofQuotient 1 10)

end Client

end DesignGauge
