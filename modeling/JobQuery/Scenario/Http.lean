import JobQuery.Scenario.Calls
import JobQuery.Scenario.Credentials

/-!
# HTTP scenarios

Scenarios for a client whose transport is HTTP:

* one request sent through the transport, reported with its outcome and the provider calls
  it made;
* a client session: typed calls, raw requests and whole queries (opened, sized and read
  sequentially, or read by several workers), each reported with its outcome, the requests
  the server logged and the provider calls it made, then the server's counters.

The server is the in-memory service behind a network the transport cannot reach, so it
logs no request and its counters stay as they were.
-/

namespace JobQuery

open Json

/-- The provider calls of an HTTP world, or none for other transports. -/
def World.providerLog (w : World) : List ProviderCall :=
  match w.backend with
  | .network link => link.credentials.log
  | _ => []

/-- The credential cache of an HTTP world. -/
def World.credentials? (w : World) : Option CredentialContext :=
  match w.backend with
  | .network link => some link.credentials
  | _ => none

/-- A response's status and body, or the error object. -/
def responseValue : Except QueryError ApiResponse → Value
  | .ok r => r.toValue
  | .error e => e.toValue

/-- Send one request through an HTTP link: the outcome, the provider calls, and with
`showDefault` the default data lake's id. -/
def httpSendReport (link : HttpLink) (r : ApiRequest) (showDefault : Bool) : Value :=
  let (outcome, _, link) := link.send r
  let base := [("result", responseValue outcome),
    ("provider_calls", .arr (link.credentials.log.map ProviderCall.toValue))]
  Value.object (base ++ (if showDefault then
    [("default", orNull (fun l => .str l.id) link.credentials.defaultLake)] else []))

/-- One step of an HTTP client session. -/
inductive HttpStep where
  /-- A typed call with the credential of a data lake, or the default one. -/
  | call (lake : Option DataLake) (call : ServiceCall)
  /-- A raw request. -/
  | send (request : ApiRequest)
  /-- A whole query, read sequentially or by `parallel` workers. -/
  | query (lake : Option DataLake) (sql : String) (config : SessionConfig) (parallel : Option Nat)
  deriving Inhabited

namespace HttpStep

/-- Open a session, learn its size, and read it with one cursor. -/
def querySequential (svc : QueryService) (sql : String) (config : SessionConfig) :
    InClient Value := do
  match ← Client.openSession sql config svc false with
  | .error e => return e.toValue
  | .ok s =>
    let size := ((← Client.onSession s Session.size).getD (.ok none))
    let read ← Client.onSession s do
      Session.attach
      let (rows, stop, c) ← Scenario.drainSequential { leased := true } [] rowBudget
      let _ ← c.close
      return (rows.reverse, stop)
    let (rows, stop) := read.getD ([], none)
    return okValue (Value.object [("count", Value.nat rows.length), ("rows", .arr rows),
      ("stop", Scenario.stopValue stop), ("size", renderResult (orNull Value.nat) size)])

/-- Open a session and read it with `parallel` workers. -/
def queryParallel (svc : QueryService) (sql : String) (config : SessionConfig)
    (parallel : Nat) : InClient Value := do
  match ← Client.openSession sql config svc false with
  | .error e => return e.toValue
  | .ok s =>
    let read ← Client.onSession s do
      Session.attach
      collectParallel { leased := true } parallel 1024
    let (rows, report) := read.getD ([], {})
    return okValue (Value.object [("count", Value.nat rows.length),
      ("rows", .arr (rows.mergeSort Scenario.rowBefore)), ("cursors", Value.nat report.cursors),
      ("failures", .arr (Scenario.sortErrors report.failures))])

/-- Run one step. -/
def perform : HttpStep → InClient Value
  | .call lake c => StateT.lift (c.perform { credential := lake })
  | .send r => do return responseValue (← StateT.lift (World.send r).run)
  | .query lake sql config parallel =>
    let svc : QueryService := { credential := lake }
    match parallel with
    | some p => if p > 1 then queryParallel svc sql config p else querySequential svc sql config
    | none => querySequential svc sql config

end HttpStep

/-- Run the steps in order, each reported with its outcome, the server's log lines for it
and its provider calls. -/
def performHttpSteps : List HttpStep → InClient (List Value)
  | [] => return []
  | st :: rest => do
    let mark := (← getThe World).providerLog.length
    let result ← st.perform
    let calls := (← getThe World).providerLog.drop mark
    let v := Value.object [("result", result), ("server", .arr []),
      ("provider_calls", .arr (calls.map ProviderCall.toValue))]
    return v :: (← performHttpSteps rest)

/-- Run an HTTP client session against a server: the step reports, then the server's call
counters and live jobs after the client has shut down. -/
def runHttpSession (link : HttpLink) (server : FakeService) (steps : List HttpStep) : Value :=
  let world : World := { backend := .network link }
  let ((reports, _), _) := ((do
      let vs ← performHttpSteps steps
      Client.shutdown
      return vs).run ({} : Client)).run world
  Value.object [("steps", .arr reports), ("calls", server.calls.toValue),
    ("live_jobs", Value.nat server.jobs.length)]

end JobQuery
