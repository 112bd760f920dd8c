import JobQuery.Api.Wire

/-!
# Request descriptors

The two requests whose arguments are checked before anything is sent: the job-list filter
(a tenant is mandatory) and the results request (a job id is mandatory, and a page is chosen
by cursor or by number, never both). Each turns into the ordered query pairs of its URL.
-/

namespace JobQuery

/-- Filter for the job list. -/
structure JobListFilter where
  tenantId : String
  createdAfter : Option Int := none
  maxJobs : Option Nat := none
  state : Option JobState := none
  deriving Repr, Inhabited

/-- The query pairs of a job-list request: `tenantId`, then `createdAfter`, `maxJobs` and
`state` (lower case) when set. -/
def JobListFilter.toQuery (f : JobListFilter) : Except QueryError (List (String × String)) :=
  if f.tenantId.isEmpty then .error (.validation "'tenantId' parameter is mandatory")
  else .ok <|
    [("tenantId", f.tenantId)] ++
    (f.createdAfter.map fun c => [("createdAfter", toString c)]).getD [] ++
    (f.maxJobs.map fun m => [("maxJobs", toString m)]).getD [] ++
    (f.state.map fun s => [("state", s.filterName)]).getD []

/-- Everything a results request can say. -/
structure ResultsRequest where
  jobId : String
  maxWait : Option Nat := none
  resultFormat : Option ResultFormat := none
  pageSize : Option Nat := none
  pageCursor : Option String := none
  pageNumber : Option Nat := none
  offset : Option Nat := none
  deriving Repr, Inhabited

/-- The query pairs of a results request, in the order `maxWait`, `resultFormat`,
`pageSize`, `pageCursor`, `pageNumber`, `offset`. -/
def ResultsRequest.toQuery (r : ResultsRequest) : Except QueryError (List (String × String)) :=
  if r.jobId.isEmpty then .error (.validation "'jobId' parameter is mandatory")
  else if r.pageCursor.isSome && r.pageNumber.isSome then
    .error (.invalidArgument "use either 'pageCursor' or 'pageNumber', not both")
  else .ok <|
    (r.maxWait.map fun x => [("maxWait", toString x)]).getD [] ++
    (r.resultFormat.map fun x => [("resultFormat", x.name)]).getD [] ++
    (r.pageSize.map fun x => [("pageSize", toString x)]).getD [] ++
    (r.pageCursor.map fun x => [("pageCursor", x)]).getD [] ++
    (r.pageNumber.map fun x => [("pageNumber", toString x)]).getD [] ++
    (r.offset.map fun x => [("offset", toString x)]).getD []

end JobQuery
