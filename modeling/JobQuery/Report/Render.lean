import JobQuery.Cursor.Split

/-!
# Reports as JSON

The JSON forms under which the library's values are reported: errors as *error objects*
(`{"error": kind, "message": display, ...}` with the variant's own fields), results as
`{"ok": value}` or an error object, and the service's typed answers with every field
present (`null` when absent).

Requests have two forms: the one-line summary `METHOD path[/id][?k=v&..][ body=json]`
(nothing percent-encoded), and the full object with every part of the request.
-/

namespace JobQuery

open Json

/-- `null` or the value. -/
def orNull (f : α → Value) : Option α → Value
  | none => .null
  | some a => f a

/-- The error object of a query error. -/
def QueryError.toValue : QueryError → Value
  | e@(.api status body) => Value.object [("error", .str e.kind), ("message", .str e.display),
      ("status", Value.nat status), ("body", body.getD .null)]
  | e@(.jobTimeout id s n) => Value.object [("error", .str e.kind), ("message", .str e.display),
      ("job_id", .str id), ("last_state", .str s.name), ("attempts", Value.nat n)]
  | e@(.jobFailed id s) => Value.object [("error", .str e.kind), ("message", .str e.display),
      ("job_id", .str id), ("state", .str s.name)]
  | e@(.sessionFailed inner) => Value.object [("error", .str e.kind),
      ("message", .str e.display), ("inner", inner.toValue)]
  | e => Value.object [("error", .str e.kind), ("message", .str e.display)]

/-- `{"ok": value}`. -/
def okValue (v : Value) : Value := Value.object [("ok", v)]

/-- A result as `{"ok": value}` or an error object. -/
def renderResult (f : α → Value) : Except QueryError α → Value
  | .ok a => okValue (f a)
  | .error e => e.toValue

/-- The properties with every field present. -/
def QueryProperties.toValue (p : QueryProperties) : Value :=
  Value.object [("priority", orNull (fun x => .str x.name) p.priority),
    ("timeoutMs", orNull Value.nat p.timeoutMs), ("maxWait", orNull Value.nat p.maxWait),
    ("defaultPageSize", orNull Value.nat p.defaultPageSize)]

/-- Parameters with every field present, next to their wire form. -/
def QueryParams.toValue (p : QueryParams) : Value :=
  Value.object [("query", .str p.query), ("dialect", orNull .str p.dialect),
    ("properties", orNull QueryProperties.toValue p.properties), ("wire", p.wire)]

/-- A job handle. -/
def QueryJob.toValue (j : QueryJob) : Value :=
  Value.object [("jobId", .str j.jobId), ("uri", orNull .str j.uri)]

/-- A job detail with every field present. -/
def JobDetail.toValue (d : JobDetail) : Value :=
  Value.object [("jobId", .str d.jobId), ("state", .str d.state.name),
    ("submitTime", Value.int d.submitTime), ("startTime", orNull Value.int d.startTime),
    ("endTime", orNull Value.int d.endTime),
    ("progress", orNull (fun p => Value.object [("completionPct", Value.int p.completionPct)])
      d.progress),
    ("params", orNull QueryParams.toValue d.params),
    ("statistics", orNull (fun s => Value.object [("runTimeMs", orNull Value.int s.runTimeMs),
      ("cachePct", orNull Value.int s.cachePct), ("etaMs", orNull Value.int s.etaMs)])
      d.statistics)]

/-- A result page with every field present. -/
def JobResult.toValue (r : JobResult) : Value :=
  Value.object [("jobId", .str r.jobId), ("state", .str r.state.name),
    ("resultFormat", .str r.resultFormat.name), ("rowsInJob", orNull Value.nat r.rowsInJob),
    ("rowsInPage", orNull Value.nat r.rowsInPage),
    ("schema", orNull (fun s => Value.object [("fields", .arr s.fields)]) r.schema),
    ("page", Value.object [("pageCursor", orNull .str r.page.pageCursor),
      ("data", orNull .arr r.page.result.data)])]

/-- The one-line summary of a request. -/
def ApiRequest.line (r : ApiRequest) : String :=
  r.method.name ++ " " ++ r.path ++ (r.resourceId.map ("/" ++ ·)).getD "" ++
  (if r.query.isEmpty then ""
   else "?" ++ String.intercalate "&" (r.query.map fun kv => kv.1 ++ "=" ++ kv.2)) ++
  (r.body.map (" body=" ++ ·.compact)).getD ""

/-- The full form of a request. -/
def ApiRequest.toValue (r : ApiRequest) : Value :=
  Value.object [("method", .str r.method.name), ("path", .str r.path),
    ("resource_id", orNull .str r.resourceId),
    ("query", .arr (r.query.map fun kv => .arr [.str kv.1, .str kv.2])),
    ("body", r.body.getD .null), ("credential", orNull (fun l => .str l.id) r.credential)]

/-- A response. -/
def ApiResponse.toValue (r : ApiResponse) : Value :=
  Value.object [("status", Value.nat r.status), ("body", r.body.getD .null)]

/-- The call counters of the in-memory service. -/
def CallCounts.toValue (c : CallCounts) : Value :=
  Value.object [("creates", Value.nat c.creates), ("status_checks", Value.nat c.statusChecks),
    ("results", Value.nat c.results), ("deletes", Value.nat c.deletes),
    ("lists", Value.nat c.lists)]

/-- A page layout. -/
def PageLayout.toValue (l : PageLayout) : Value :=
  Value.object [("rows_in_job", Value.nat l.rowsInJob), ("page_size", Value.nat l.pageSize),
    ("last_page", Value.nat l.lastPage), ("remainder", Value.nat l.remainder)]

/-- A page range. -/
def PageRange.toValue (r : PageRange) : Value :=
  Value.object [("start", Value.nat r.start), ("current", Value.nat r.current),
    ("end", Value.nat r.stop), ("remainder", Value.nat r.remainder)]

/-- A job state with its names and whether it is in flight. -/
def JobState.toValue (s : JobState) : Value :=
  Value.object [("as_str", .str s.name), ("display", .str s.name),
    ("filter", .str s.filterName), ("in_flight", .bool s.inFlight)]

/-- An error item with its summary line. -/
def ApiErrorItem.toValue (item : ApiErrorItem) : Value :=
  Value.object [("errorCode", orNull Value.int item.errorCode),
    ("message", orNull .str item.message), ("context", orNull .str item.context),
    ("display", .str item.display)]

/-- Session settings, their check and their polling policy. -/
def SessionConfig.toValue (c : SessionConfig) : Value :=
  Value.object [("page_size", Value.nat c.pageSize), ("poll_delay_ms", Value.nat c.pollDelayMs),
    ("max_poll_attempts", Value.nat c.maxPollAttempts), ("dialect", orNull .str c.dialect),
    ("priority", orNull (fun p => .str p.name) c.priority),
    ("validate", renderResult (fun _ => .null) c.validate),
    ("poll_policy", Value.object [("delay_ms", Value.nat c.pollPolicy.delayMs),
      ("max_attempts", Value.nat c.pollPolicy.maxAttempts)])]

/-- An error's display text, the error object of its root, the root's status and error
items. -/
def QueryError.inspect (e : QueryError) : Value :=
  Value.object [("display", .str e.display), ("root", e.root.toValue),
    ("status", orNull Value.nat e.status),
    ("api_errors", orNull (renderResult fun items => .arr (items.map ApiErrorItem.toValue))
      e.apiErrors)]

end JobQuery
