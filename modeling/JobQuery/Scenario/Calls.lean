import JobQuery.Scenario.Session

/-!
# Call scenarios

Scenarios for the layers below sessions:

* typed calls of the query API, each reported with the requests it sent in full;
* job steps (create, poll, delete, fetch a page), each reported with its requests as
  one-line summaries and the virtual time it took;
* raw requests answered by the in-memory service directly.

A call's canned answer, when it brings one, is queued on the scripted transport before the
call is made.
-/

namespace JobQuery

open Json

/-- One typed call of the query API. -/
inductive ServiceCall where
  /-- Create a job; `params` is absent, or the outcome of building them. -/
  | createJob (jobId : Option String) (params : Option (Except QueryError QueryParams))
  | getJobStatus (jobId : String)
  | deleteJob (jobId : String)
  | listJobs (filter : JobListFilter)
  | getJobResults (request : ResultsRequest)
  deriving Inhabited

/-- `{"params_error": error}`: parameters refused before any call. -/
def paramsError (e : QueryError) : Value := Value.object [("params_error", e.toValue)]

/-- Make one typed call and report its outcome. -/
def ServiceCall.perform (svc : QueryService) : ServiceCall → Run Value
  | .createJob _ (some (.error e)) => return paramsError e
  | .createJob jobId params => do
    let params := params.bind fun p => match p with
      | .ok p => some p
      | .error _ => none
    return renderResult QueryJob.toValue (← (svc.createJob jobId params).run)
  | .getJobStatus id => do return renderResult JobDetail.toValue (← (svc.getJobStatus id).run)
  | .deleteJob id => do return renderResult JobDetail.toValue (← (svc.deleteJob id).run)
  | .listJobs f => do
    return renderResult (fun ds => .arr (ds.map JobDetail.toValue)) (← (svc.listJobs f).run)
  | .getJobResults r => do return renderResult JobResult.toValue (← (svc.getJobResults r).run)

/-- Make typed calls in order, each after queuing its canned answer: for each, the
requests it sent (in full) and its outcome. -/
def performCalls (svc : QueryService) : List (Option Canned × ServiceCall) → Run (List Value)
  | [] => return []
  | (respond, call) :: rest => do
    if let some c := respond then World.enqueue c
    let mark ← World.sentCount
    let result ← call.perform svc
    let sent ← World.sentSince mark
    let v := Value.object [("requests", .arr (sent.map ApiRequest.toValue)), ("result", result)]
    return v :: (← performCalls svc rest)

/-- One step of a job scenario. -/
inductive JobStep where
  | create (jobId : Option String) (params : Except QueryError QueryParams)
  | poll (jobId : String) (cancelled : Bool)
  | delete (jobId : String)
  | fetch (jobId : String) (pageSize : Nat) (selector : PageSelector) (cancelled : Bool)
  /-- The driver's settings, and the page size a page source would use. -/
  | policy (pageSize : Nat)
  deriving Inhabited

/-- A fetched page. -/
def FetchedPage.toValue (p : FetchedPage) : Value :=
  Value.object [("rows", .arr p.rows), ("next_cursor", orNull .str p.nextCursor),
    ("rows_in_job", orNull Value.nat p.rowsInJob)]

/-- Run one job step. -/
def JobStep.perform (d : JobDriver) : JobStep → Run Value
  | .create _ (.error e) => return paramsError e
  | .create jobId (.ok p) => do return renderResult QueryJob.toValue (← (d.create jobId p).run)
  | .poll id cancelled => do
    return renderResult (fun s => .str s.name) (← (d.pollUntilDone cancelled id).run)
  | .delete id => do
    d.delete id
    return okValue .null
  | .fetch id pageSize selector cancelled => do
    return renderResult FetchedPage.toValue (← (fetchPage d.service pageSize cancelled id selector).run)
  | .policy pageSize => return okValue (Value.object [("delay_ms", Value.nat d.policy.delayMs),
      ("max_attempts", Value.nat d.policy.maxAttempts),
      ("default_delay_ms", Value.nat ({} : PollPolicy).delayMs),
      ("default_max_attempts", Value.nat ({} : PollPolicy).maxAttempts),
      ("credential", orNull (fun l => .str l.id) d.service.credential),
      ("page_size", Value.nat pageSize)])

/-- Run job steps in order: for each, its outcome, its requests and the time it took. -/
def performJobSteps (d : JobDriver) : List JobStep → Run (List Value)
  | [] => return []
  | st :: rest => do
    let mark ← World.sentCount
    let start ← World.now
    let result ← st.perform d
    let sent ← World.sentSince mark
    let v := Value.object [("result", result),
      ("requests", .arr (sent.map fun r => .str r.line)),
      ("elapsed_ms", Value.nat ((← World.now) - start))]
    return v :: (← performJobSteps d rest)

/-- The canned answers left, or `null` when the transport is not a script. -/
def World.scriptLeftValue (w : World) : Value := orNull Value.nat w.scriptLeft?

/-- The report of service calls made in a world: each call's report, or the overflow that
stopped the service. -/
def callsReport (svc : QueryService) (calls : List (Option Canned × ServiceCall)) (w : World) :
    Value :=
  let (results, w) := (performCalls svc calls).run w
  w.reportOr (.arr results)

/-- The report of job steps run in a world: each step's report and the canned answers
left, or the overflow that stopped the service. -/
def jobsReport (d : JobDriver) (steps : List JobStep) (w : World) : Value :=
  let (results, w) := (performJobSteps d steps).run w
  w.reportOr (Value.object [("steps", .arr results), ("script_left", w.scriptLeftValue)])

/-- Answer raw requests with the in-memory service: the responses, the call counters and
the number of jobs alive afterwards, or the overflow that stopped the service. -/
def FakeService.answerAll (s : FakeService) (requests : List ApiRequest) : Value :=
  match s.handleAll requests with
  | .ok (responses, s) =>
    Value.object [("responses", .arr (responses.map ApiResponse.toValue)), ("calls", s.calls.toValue),
      ("live_jobs", Value.nat s.jobs.length)]
  | .error m => panicReport m

end JobQuery
