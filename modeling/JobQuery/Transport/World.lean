import JobQuery.Service.Fake
import JobQuery.Transport.Http

/-!
# The world a client runs in

Everything outside the client's own state: the transport behind it, a clock, the log of
requests handed to the transport, and the source of fresh job ids. Client code runs in
`Run`, a state monad over this world, so a whole conversation with the service is a pure
function of the world it starts from.

Three transports are modelled here:

* the in-memory service (`FakeService`), which waits its latency before every answer;
* a *script*: a queue of canned answers, one popped per request; an empty queue fails the
  request with the transport error `script exhausted`;
* the HTTP transport (`HttpLink`), which resolves credentials and builds URLs but reaches no
  server.

The world also collects the log events emitted along the way, and the overflow that stops
the in-memory service, if one does: the run is then over, whatever the client makes of it.

Time is virtual: `sleep` only moves the clock, and elapsed time is the difference of two
clock readings.
-/

namespace JobQuery

open Json

/-- One canned answer of a scripted transport. -/
inductive Canned where
  /-- A response with a status and an optional body. -/
  | reply (response : ApiResponse)
  /-- A failure to deliver the request. -/
  | failure (message : String)
  deriving Inhabited

/-- The transport requests go through. -/
inductive Backend where
  /-- The in-memory query service. -/
  | fake (service : FakeService)
  /-- A queue of canned answers. -/
  | script (queue : List Canned)
  /-- The HTTP transport. -/
  | network (link : HttpLink)
  deriving Inhabited

/-- The world outside the client. -/
structure World where
  backend : Backend
  /-- Virtual milliseconds since the start. -/
  clock : Nat := 0
  /-- Every request handed to the transport, oldest first. -/
  sent : Array ApiRequest := #[]
  /-- How many job ids have been minted. -/
  minted : Nat := 0
  /-- The log events emitted so far, oldest first. -/
  events : Array Event := #[]
  /-- The overflow that stopped the in-memory service, if one did: it ends the whole run,
  and what happens after it is not observed. -/
  panic : Option String := none
  deriving Inhabited

/-- Computations in the world. -/
abbrev Run := StateM World

/-- Computations in the world that may fail with a query error. -/
abbrev Call := ExceptT QueryError Run

namespace World

/-- Wait `ms` virtual milliseconds. -/
def sleep (ms : Nat) : Run Unit :=
  modify fun w => { w with clock := w.clock + ms }

/-- The virtual time now. -/
def now : Run Nat := do
  return (← get).clock

/-- A fresh job id, never handed out before. -/
def freshJobId : Run String :=
  modifyGet fun w => (Text.mintUuid 0 w.minted, { w with minted := w.minted + 1 })

/-- The number of requests sent so far. -/
def sentCount : Run Nat := do
  return (← get).sent.size

/-- The requests sent since `mark` requests had been sent. -/
def sentSince (mark : Nat) : Run (List ApiRequest) := do
  return ((← get).sent.toList.drop mark)

/-- Emit a log event. -/
def emit (e : Event) : Run Unit :=
  modify fun w => { w with events := w.events.push e }

/-- Hand a request to the transport and get its answer. -/
def send (r : ApiRequest) : Call ApiResponse := do
  modify fun w => { w with sent := w.sent.push r }
  match (← get).backend with
  | .fake service =>
    match service.handle r with
    | .ok (response, service) =>
      modify fun w => { w with backend := .fake service }
      sleep service.behavior.latencyMs
      return response
    | .error m =>
      modify fun w => { w with panic := w.panic <|> some m }
      throw (.transport m)
  | .script [] => throw (.transport "script exhausted")
  | .script (c :: rest) =>
    modify fun w => { w with backend := .script rest }
    match c with
    | .reply response => return response
    | .failure message => throw (.transport message)
  | .network link =>
    let (outcome, events, link) := link.send r
    modify fun w => { w with backend := .network link, events := w.events ++ events.toArray }
    match outcome with
    | .ok response => return response
    | .error e => throw e

/-- Queue one more canned answer behind the others; other transports ignore it. -/
def enqueue (c : Canned) : Run Unit :=
  modify fun w => match w.backend with
    | .script q => { w with backend := .script (q ++ [c]) }
    | _ => w

/-- The in-memory service, when that is the transport. -/
def fake? (w : World) : Option FakeService :=
  match w.backend with
  | .fake s => some s
  | _ => none

/-- The report of a run: `report`, unless an overflow stopped the in-memory service, in
which case the run's report is a `Panic` object naming the overflow. -/
def reportOr (w : World) (report : Value) : Value :=
  match w.panic with
  | some m => panicReport m
  | none => report

/-- The canned answers left, when the transport is a script. -/
def scriptLeft? (w : World) : Option Nat :=
  match w.backend with
  | .script q => some q.length
  | _ => none

end World

end JobQuery
