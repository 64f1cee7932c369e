import DesignGauge.Fault
import DesignGauge.Log
import DesignGauge.Text.Utf8

/-!
# Exchanges

Work that may ask a service is a value: it is done, or it tells something, pauses, or waits for the
reply to a request and goes on with whatever comes back. Nothing else can happen between a request
and its reply as far as the work is concerned, so the one that serves the requests decides where
the replies come from and what it does while one is pending. `Exchange.run` serves an exchange and
keeps a transcript of it.
-/

namespace DesignGauge

open Text

/-- What a request wants. -/
inductive Verb where
  | get
  | post
  deriving DecidableEq, Repr

/-- The word of a verb. -/
def Verb.word : Verb → String
  | .get => "GET"
  | .post => "POST"

/-- A request, with the key that it shows. -/
structure Request where
  verb : Verb
  address : String
  key : Option String
  body : String
  deriving DecidableEq, Repr

/-- What comes back for a request: a response, or the failure to get one. -/
inductive Reply where
  | response (status : Int) (body : Octets)
  | timedOut (detail : String)
  | broken (detail : String)
  | badAddress (detail : String)
  /-- The request ends with a fault that is no failure of the connection. -/
  | raised (fault : Fault)

/-- Work that may ask a service. -/
inductive Exchange (α : Type) where
  | done (result : Except Fault α)
  | tell (lines : List LogLine) (rest : Exchange α)
  | pause (delay : Datum) (rest : Exchange α)
  | ask (request : Request) (next : Reply → Exchange α)

namespace Exchange

variable {α β σ : Type}

/-- Changes the result of an exchange. -/
def mapResult (f : Except Fault α → Except Fault β) : Exchange α → Exchange β
  | .done result => .done (f result)
  | .tell lines rest => .tell lines (rest.mapResult f)
  | .pause delay rest => .pause delay (rest.mapResult f)
  | .ask request next => .ask request fun reply => (next reply).mapResult f

/-- Goes on with the result of an exchange, unless it is a fault. -/
def andThen (f : α → Exchange β) : Exchange α → Exchange β
  | .done (.ok a) => f a
  | .done (.error fault) => .done (.error fault)
  | .tell lines rest => .tell lines (rest.andThen f)
  | .pause delay rest => .pause delay (rest.andThen f)
  | .ask request next => .ask request fun reply => (next reply).andThen f

instance : Monad Exchange where
  pure a := .done (.ok a)
  bind e f := e.andThen f

/-- Ends with a fault after telling something. -/
def refuse (lines : List LogLine) (fault : Fault) : Exchange α := .tell lines (.done (.error fault))

/-- Where an exchange stands: it has ended, or it waits for the reply to a request. -/
inductive Halt (α : Type) where
  | ended (result : Except Fault α)
  | asking (request : Request) (next : Reply → Exchange α)

/-- Goes on to the next request or to the end, and gives what is told on the way. -/
def advance : Exchange α → Halt α × List LogLine
  | .done result => (.ended result, [])
  | .tell lines rest =>
    let (halt, more) := rest.advance
    (halt, lines ++ more)
  | .pause _ rest => rest.advance
  | .ask request next => (.asking request next, [])

/-- What happened in an exchange, in order. -/
structure Transcript (α : Type) where
  result : Except Fault α
  requests : List Request := []
  pauses : List Datum := []
  log : List LogLine := []

/-- Serves an exchange. -/
def run (serve : Request → σ → Reply × σ) : Exchange α → σ → Transcript α × σ
  | .done result, s => ({ result }, s)
  | .tell lines rest, s =>
    let (t, last) := rest.run serve s
    ({ t with log := lines ++ t.log }, last)
  | .pause delay rest, s =>
    let (t, last) := rest.run serve s
    ({ t with pauses := delay :: t.pauses }, last)
  | .ask request next, s =>
    let (reply, s) := serve request s
    let (t, last) := (next reply).run serve s
    ({ t with requests := request :: t.requests }, last)

/-- Serves requests with the replies of a list, one after another; then nobody answers. -/
def scripted (_ : Request) : List Reply → Reply × List Reply
  | [] => (.broken "no script", [])
  | reply :: rest => (reply, rest)

end Exchange

end DesignGauge
