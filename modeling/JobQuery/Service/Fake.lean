import JobQuery.Transport.Request
import JobQuery.Text.Numeral

/-!
# The in-memory query service

A complete stand-in for the query service, answering the `/query/v2` API from a job table
in memory. It serves tests and simulations: it answers at once (or after a fixed latency),
counts every call by endpoint, and can be told to misbehave on cue.

* `POST /jobs` creates a job (400 without a body, `params` or a non-empty `params.query`;
  409 when the id is taken). A job without an id in the body gets a fresh one. Its submit
  time is the number of jobs alive after it was added.
* `GET /jobs/{id}` counts a status check and reports `RUNNING` while the job's check count
  is at most `pollsBeforeDone`, then `finalState`. The count is 32-bit: the check that would
  take it past the largest 32-bit number stops the service with the overflow.
* `DELETE /jobs/{id}` forgets the job and reports it `CANCELLED`.
* `GET /jobs?tenantId=..` lists the jobs, most recent first (ties by id), optionally
  filtered by lower-case state and cut to `maxJobs`.
* `GET /jobResults/{id}` serves rows `0 .. rows-1` in pages, chosen by `page-N` cursor or
  by page number, as `{"row": i}` objects or `[i]` arrays. A chosen failing page answers
  500 and a chosen null-data page answers `data: null`. A page whose bounds pass the
  largest 64-bit number stops the service with the overflow.

Every error answer has the body `[{"errorCode": status, "message": text}]`.
-/

namespace JobQuery

open Json

/-- How the service behaves. -/
structure Behavior where
  rows : Nat := 0
  pollsBeforeDone : Nat := 0
  finalState : JobState := .done
  reportRowsInJob : Bool := true
  failingPage : Option Nat := none
  nullDataPage : Option Nat := none
  latencyMs : Nat := 0
  deriving Repr, Inhabited

/-- Calls received, by endpoint. -/
structure CallCounts where
  creates : Nat := 0
  statusChecks : Nat := 0
  results : Nat := 0
  deletes : Nat := 0
  lists : Nat := 0
  deriving Repr, BEq, Inhabited

/-- A job in the table. -/
structure FakeJob where
  params : Value
  /-- The status checks it has had, a 32-bit count. -/
  statusChecks : Nat := 0
  submitTime : Nat
  deriving Inhabited

/-- The service: its behaviour, its job table, its call counters and the number of ids it
has minted. -/
structure FakeService where
  behavior : Behavior := {}
  jobs : List (String × FakeJob) := []
  calls : CallCounts := {}
  minted : Nat := 0
  deriving Inhabited

namespace FakeService

/-- The path every route lives under. -/
def root : String := "/query/v2/"

/-- The page size used when neither the request nor the job says. -/
def defaultPageSize : Nat := 400

/-- An error answer. -/
def errorResponse (status : Nat) (message : String) : ApiResponse :=
  { status, body := some (.arr [Value.object [("errorCode", Value.nat status),
      ("message", .str message)]]) }

/-- The job registered under `id`. -/
def find? (s : FakeService) (id : String) : Option FakeJob :=
  (s.jobs.find? fun e => e.1 == id).map Prod.snd

/-- Replace the job registered under `id`. -/
def update (s : FakeService) (id : String) (job : FakeJob) : FakeService :=
  { s with jobs := s.jobs.map fun e => if e.1 == id then (id, job) else e }

/-- The ids of the jobs alive, in increasing order. -/
def liveIds (s : FakeService) : List String :=
  (s.jobs.map Prod.fst).mergeSort (fun a b => decide (a ≤ b))

/-- The state a job reports. -/
def stateOf (b : Behavior) (job : FakeJob) : JobState :=
  if job.statusChecks ≤ b.pollsBeforeDone then .running else b.finalState

/-- The status detail of a job in a given state. -/
def detail (id : String) (job : FakeJob) (state : JobState) : Value :=
  Value.object [("jobId", .str id), ("state", .str state.name),
    ("submitTime", Value.nat job.submitTime),
    ("progress", Value.object [("completionPct",
      Value.nat (if state == .done then 100 else 50))]),
    ("params", job.params)]

/-- The value of the first query pair with key `key`. -/
def param (query : List (String × String)) (key : String) : Option String :=
  (query.find? fun kv => kv.1 == key).map Prod.snd

/-- `POST /jobs`. -/
def create (s : FakeService) (body : Option Value) : ApiResponse × FakeService :=
  let s := { s with calls := { s.calls with creates := s.calls.creates + 1 } }
  match body with
  | none => (errorResponse 400 "request body is mandatory", s)
  | some body =>
    match body.get? "params" with
    | none => (errorResponse 400 "'params' is mandatory", s)
    | some params =>
      let query := (params.get? "query").bind Value.asString?
      if query.isNone || query == some "" then (errorResponse 400 "'params.query' is mandatory", s)
      else
        let (id, s) := match (body.get? "jobId").bind Value.asString? with
          | some id => (id, s)
          | none => (Text.mintUuid 1 s.minted, { s with minted := s.minted + 1 })
        if (s.find? id).isSome then (errorResponse 409 ("job " ++ id ++ " already exists"), s)
        else
          let job : FakeJob := { params, submitTime := s.jobs.length + 1 }
          ({ status := 200, body := some (Value.object [("jobId", .str id),
              ("uri", .str (root ++ "jobs/" ++ id))]) },
           { s with jobs := s.jobs ++ [(id, job)] })

/-- `GET /jobs/{id}`: the answer, or the overflow that stops the service when the job's check
count would pass the largest 32-bit number. -/
def status (s : FakeService) (id : String) : Except String (ApiResponse × FakeService) :=
  let s := { s with calls := { s.calls with statusChecks := s.calls.statusChecks + 1 } }
  match s.find? id with
  | none => .ok (errorResponse 404 ("job " ++ id ++ " not found"), s)
  | some job => do
    let job := { job with statusChecks := ← Text.addU32 job.statusChecks 1 }
    return ({ status := 200, body := some (detail id job (stateOf s.behavior job)) }, s.update id job)

/-- `DELETE /jobs/{id}`. -/
def delete (s : FakeService) (id : String) : ApiResponse × FakeService :=
  let s := { s with calls := { s.calls with deletes := s.calls.deletes + 1 } }
  match s.find? id with
  | none => (errorResponse 404 ("job " ++ id ++ " not found"), s)
  | some job =>
    ({ status := 200, body := some (detail id job .cancelled) },
     { s with jobs := s.jobs.filter fun e => e.1 != id })

/-- Listing order: most recent submit time first, then increasing id. -/
def listedBefore (a b : String × FakeJob) : Bool :=
  a.2.submitTime > b.2.submitTime || (a.2.submitTime == b.2.submitTime && decide (a.1 ≤ b.1))

/-- `GET /jobs`. -/
def list (s : FakeService) (query : List (String × String)) : ApiResponse × FakeService :=
  let s := { s with calls := { s.calls with lists := s.calls.lists + 1 } }
  if (param query "tenantId").isNone then (errorResponse 400 "'tenantId' is mandatory", s)
  else
    let filter := param query "state"
    let maxJobs := (param query "maxJobs").bind Text.parseU64
    let listed := (s.jobs.mergeSort listedBefore).filter fun e =>
      match filter with
      | none => true
      | some f => f == (stateOf s.behavior e.2).filterName
    let listed := match maxJobs with
      | none => listed
      | some m => listed.take m
    ({ status := 200, body := some (.arr (listed.map fun e =>
        detail e.1 e.2 (stateOf s.behavior e.2))) }, s)

/-- The rows `start .. stop-1` in the requested format. -/
def rowsBetween (asArrays : Bool) (start stop : Nat) : List Value :=
  (List.range (stop - start)).map fun i =>
    if asArrays then .arr [Value.nat (start + i)] else Value.object [("row", Value.nat (start + i))]

/-- Which page a results request asks for. -/
def pageNumber (query : List (String × String)) : Except ApiResponse Nat :=
  match param query "pageCursor", param query "pageNumber" with
  | some _, some _ => .error (errorResponse 400 "'pageCursor' and 'pageNumber' are exclusive")
  | some cursor, none =>
    let n := if cursor.startsWith "page-" then
        Text.parseU64 (String.ofList (cursor.toList.drop 5)) else none
    match n with
    | some n => .ok n
    | none => .error (errorResponse 400 ("unknown page cursor " ++ cursor))
  | none, some number =>
    match Text.parseU64 number with
    | some n => .ok n
    | none => .error (errorResponse 400 "'pageNumber' must be a number")
  | none, none => .ok 0

/-- `GET /jobResults/{id}`: the answer, or the overflow that stops the service when the
page's bounds do not fit in 64 bits. -/
def results (s : FakeService) (id : String) (query : List (String × String)) :
    Except String (ApiResponse × FakeService) :=
  let s := { s with calls := { s.calls with results := s.calls.results + 1 } }
  match s.find? id with
  | none => .ok (errorResponse 404 ("job " ++ id ++ " not found"), s)
  | some job =>
    let jobPageSize := ((job.params.get? "properties").bind (·.get? "defaultPageSize")).bind
      Value.asNat?
    let pageSize := match (param query "pageSize").bind Text.parseU64 with
      | some p => if p > 0 then p else jobPageSize.getD defaultPageSize
      | none => jobPageSize.getD defaultPageSize
    match pageNumber query with
    | .error r => .ok (r, s)
    | .ok n =>
      let offset := ((param query "offset").bind Text.parseU64).getD 0
      let asArrays := param query "resultFormat" == some "valuesArray"
      if s.behavior.failingPage == some n then
        .ok (errorResponse 500 ("page " ++ toString n ++ " exploded"), s)
      else do
        let rows := s.behavior.rows
        let start := min (← Text.addU64 offset (← Text.mulU64 n pageSize)) rows
        let stop := min (← Text.addU64 start pageSize) rows
        let data : Value :=
          if s.behavior.nullDataPage == some n then .null else .arr (rowsBetween asArrays start stop)
        let next : Value ←
          if stop < rows then do pure (.str ("page-" ++ toString (← Text.addU64 n 1)))
          else pure .null
        let fields : List (String × Value) :=
          [("jobId", .str id), ("state", .str JobState.done.name),
           ("resultFormat", .str (if asArrays then "valuesArray" else "valuesDictionary")),
           ("rowsInPage", Value.nat (stop - start)),
           ("schema", Value.object [("fields", .arr [Value.object [("name", .str "row"),
              ("type", .str "integer")]])]),
           ("page", Value.object [("pageCursor", next),
              ("result", Value.object [("data", data)])])] ++
          (if s.behavior.reportRowsInJob then [("rowsInJob", Value.nat rows)] else [])
        return ({ status := 200, body := some (Value.object fields) }, s)

/-- Answer one request (the latency is the caller's to wait), or the overflow that stops the
service. -/
def handle (s : FakeService) (r : ApiRequest) : Except String (ApiResponse × FakeService) :=
  if !r.path.startsWith root then .ok (errorResponse 404 ("no route for " ++ r.path), s)
  else
    let route := String.ofList (r.path.toList.drop root.length)
    let segments := route.splitOn "/" ++ r.resourceId.toList
    match r.method, segments with
    | .post, ["jobs"] => .ok (s.create r.body)
    | .get, ["jobs"] => .ok (s.list r.query)
    | .get, ["jobs", id] => s.status id
    | .delete, ["jobs", id] => .ok (s.delete id)
    | .get, ["jobResults", id] => s.results id r.query
    | m, _ => .ok (errorResponse 404 ("no route for " ++ m.name ++ " " ++ r.path), s)

/-- Answer requests in order: the answers and the service afterwards, or the overflow that
stopped the service. -/
def handleAll (s : FakeService) : List ApiRequest → Except String (List ApiResponse × FakeService)
  | [] => .ok ([], s)
  | r :: rest => do
    let (resp, s) ← s.handle r
    let (resps, s) ← s.handleAll rest
    return (resp :: resps, s)

end FakeService

/-- The report of a run that an overflow in the service stopped. -/
def panicReport (message : String) : Value :=
  Value.object [("error", .str "Panic"), ("message", .str message)]

end JobQuery
