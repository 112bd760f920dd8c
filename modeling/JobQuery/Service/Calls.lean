import JobQuery.Transport.World
import JobQuery.Api.Requests

/-!
# Typed calls

One call per endpoint of the query API. Each checks its arguments (nothing is sent when a
check fails), builds the request, sends it with the service's data lake (if any), turns a
status of 400 or above into an `api` error, and decodes the body as the expected shape.
-/

namespace JobQuery

open Json

/-- The typed face of the query API, sending as one data lake or as the transport's
default. -/
structure QueryService where
  credential : Option DataLake := none
  deriving Repr, Inhabited

namespace QueryService

/-- The path every endpoint lives under. -/
def root : String := "/query/v2/"

/-- Decode a body as `what`. -/
def expect (d : Decoder α) (what : String) (body : Option Value) : Call α :=
  match decodeBody d what body with
  | .ok a => pure a
  | .error e => throw e

/-- A request about one job; an empty id is refused. -/
def jobRequest (method : Method) (jobId : String) : Except QueryError ApiRequest :=
  if jobId.isEmpty then .error (.validation "'jobId' parameter is mandatory")
  else .ok { method, path := root ++ "jobs", resourceId := some jobId }

/-- Lift a check into a call. -/
def checked (r : Except QueryError α) : Call α :=
  match r with
  | .ok a => pure a
  | .error e => throw e

/-- Send a request as this service's data lake; the body of a success. -/
def call (svc : QueryService) (r : ApiRequest) : Call (Option Value) := do
  let response ← World.send { r with credential := svc.credential }
  checked response.intoSuccess

/-- Create a job running `params`, under `jobId` if given. -/
def createJob (svc : QueryService) (jobId : Option String) (params : Option QueryParams) :
    Call QueryJob := do
  let some params := params
    | throw (.validation "'params' parameter is mandatory")
  let body := Value.object ((jobId.map fun id => [("jobId", Value.str id)]).getD [] ++
    [("params", params.wire)])
  let shown := match jobId with
    | some id => "Some(" ++ Text.debugStr id ++ ")"
    | none => "None"
  World.emit
    { level := .trace
      target := "kqx::query_service"
      message := "🚀 create job request"
      fields := [("job_id", shown)] }
  let answer ← svc.call { method := .post, path := root ++ "jobs", body := some body }
  expect QueryJob.decoder "query job" answer

/-- The status of a job. -/
def getJobStatus (svc : QueryService) (jobId : String) : Call JobDetail := do
  let r ← checked (jobRequest .get jobId)
  expect JobDetail.decoder "job detail" (← svc.call r)

/-- Delete a job; the service answers with its last status. -/
def deleteJob (svc : QueryService) (jobId : String) : Call JobDetail := do
  let r ← checked (jobRequest .delete jobId)
  expect JobDetail.decoder "job detail" (← svc.call r)

/-- The jobs a filter selects. -/
def listJobs (svc : QueryService) (filter : JobListFilter) : Call (List JobDetail) := do
  let query ← checked filter.toQuery
  let answer ← svc.call { method := .get, path := root ++ "jobs", query := query }
  expect (Decoder.list JobDetail.decoder) "job detail array" answer

/-- One page of a job's results. -/
def getJobResults (svc : QueryService) (request : ResultsRequest) : Call JobResult := do
  let query ← checked request.toQuery
  let r : ApiRequest :=
    { method := .get, path := root ++ "jobResults", resourceId := some request.jobId, query }
  let answer ← svc.call r
  expect JobResult.decoder "job result" answer

end QueryService

end JobQuery
