import JobQuery.Api.Params

/-!
# Response shapes

The typed forms of the service's answers: the handle of a created job, a job's status
detail, and a page of results. Each has a decoder; a body that does not fit its shape is a
`parse` error naming the shape and the reason (see `decodeBody`).
-/

namespace JobQuery

open Json

/-- What creating a job hands back. -/
structure QueryJob where
  jobId : String
  uri : Option String := none
  deriving Repr, BEq, Inhabited

/-- How far along a job is, in percent. -/
structure JobProgress where
  completionPct : Int
  deriving Repr, BEq, Inhabited

/-- Runtime statistics of a job; all optional. -/
structure JobStatistics where
  runTimeMs : Option Int := none
  cachePct : Option Int := none
  etaMs : Option Int := none
  deriving Repr, BEq, Inhabited

/-- A job's status, as status checks, deletes and the job list report it. -/
structure JobDetail where
  jobId : String
  state : JobState
  submitTime : Int
  startTime : Option Int := none
  endTime : Option Int := none
  progress : Option JobProgress := none
  params : Option QueryParams := none
  statistics : Option JobStatistics := none
  deriving Repr, BEq, Inhabited

/-- The row layout of a result page. -/
inductive ResultFormat where
  /-- Positional rows, meaningful next to the page schema. -/
  | valuesArray
  /-- Self-describing rows, one object per row. -/
  | valuesDictionary
  deriving Repr, BEq, DecidableEq, Inhabited

/-- The name of a result format on the wire. -/
def ResultFormat.name : ResultFormat → String
  | .valuesArray => "valuesArray"
  | .valuesDictionary => "valuesDictionary"

/-- Column metadata of a page, kept opaque. -/
structure Schema where
  fields : List Value := []
  deriving Inhabited

/-- The rows of one page; `none` stands for `data: null`. -/
structure PageResult where
  data : Option (List Value) := none
  deriving Inhabited

/-- One page and the cursor to the next one (`none` on the last page). -/
structure Page where
  pageCursor : Option String := none
  result : PageResult
  deriving Inhabited

/-- A page of results with the job-wide row accounting. -/
structure JobResult where
  jobId : String
  state : JobState
  resultFormat : ResultFormat
  rowsInJob : Option Nat := none
  rowsInPage : Option Nat := none
  schema : Option Schema := none
  page : Page
  deriving Inhabited

namespace QueryJob

/-- The shape of a job handle. -/
def shape : Shape :=
  { name := "QueryJob"
    fields := [Field.of "jobId" Decoder.string, Field.of "uri" (Decoder.option Decoder.string)] }

/-- A job handle read from JSON. -/
def decoder : Decoder QueryJob :=
  shape.decode fun slot => do
    let jobId ← (slot "jobId").required Decoder.string
    let uri ← (slot "uri").optional Decoder.string
    pure { jobId, uri }

end QueryJob

namespace JobProgress

/-- The shape of a progress object. -/
def shape : Shape :=
  { name := "JobProgress", fields := [Field.of "completionPct" Decoder.i32] }

/-- Progress read from JSON. -/
def decoder : Decoder JobProgress :=
  shape.decode fun slot => do
    let completionPct ← (slot "completionPct").required Decoder.i32
    pure { completionPct }

end JobProgress

namespace JobStatistics

/-- The shape of a statistics object. -/
def shape : Shape :=
  { name := "JobStatistics"
    fields := [Field.of "runTimeMs" (Decoder.option Decoder.i64),
               Field.of "cachePct" (Decoder.option Decoder.i32),
               Field.of "etaMs" (Decoder.option Decoder.i64)] }

/-- Statistics read from JSON. -/
def decoder : Decoder JobStatistics :=
  shape.decode fun slot => do
    let runTimeMs ← (slot "runTimeMs").optional Decoder.i64
    let cachePct ← (slot "cachePct").optional Decoder.i32
    let etaMs ← (slot "etaMs").optional Decoder.i64
    pure { runTimeMs, cachePct, etaMs }

end JobStatistics

namespace JobDetail

/-- The shape of a job detail. -/
def shape : Shape :=
  { name := "QueryJobDetail"
    fields := [Field.of "jobId" Decoder.string,
               Field.of "state" JobState.decoder,
               Field.of "submitTime" Decoder.i64,
               Field.of "startTime" (Decoder.option Decoder.i64),
               Field.of "endTime" (Decoder.option Decoder.i64),
               Field.of "progress" (Decoder.option JobProgress.decoder),
               Field.of "params" (Decoder.option QueryParams.decoder),
               Field.of "statistics" (Decoder.option JobStatistics.decoder)] }

/-- A job detail read from JSON. -/
def decoder : Decoder JobDetail :=
  shape.decode fun slot => do
    let jobId ← (slot "jobId").required Decoder.string
    let state ← (slot "state").required JobState.decoder
    let submitTime ← (slot "submitTime").required Decoder.i64
    let startTime ← (slot "startTime").optional Decoder.i64
    let endTime ← (slot "endTime").optional Decoder.i64
    let progress ← (slot "progress").optional JobProgress.decoder
    let params ← (slot "params").optional QueryParams.decoder
    let statistics ← (slot "statistics").optional JobStatistics.decoder
    pure { jobId, state, submitTime, startTime, endTime, progress, params, statistics }

end JobDetail

/-- A result format read from its name. -/
def ResultFormat.decoder : Decoder ResultFormat :=
  Decoder.unitEnum [("valuesArray", .valuesArray), ("valuesDictionary", .valuesDictionary)]

namespace Schema

/-- The shape of a schema. -/
def shape : Shape := { name := "Schema", fields := [Field.of "fields" (Decoder.list Decoder.any)] }

/-- A schema read from JSON. -/
def decoder : Decoder Schema :=
  shape.decode fun slot => do
    let fields ← (slot "fields").withDefault (Decoder.list Decoder.any) []
    pure { fields }

end Schema

namespace PageResult

/-- The shape of a page's rows. -/
def shape : Shape :=
  { name := "PageResult", fields := [Field.of "data" (Decoder.option (Decoder.list Decoder.any))] }

/-- Page rows read from JSON. -/
def decoder : Decoder PageResult :=
  shape.decode fun slot => do
    let data ← (slot "data").optional (Decoder.list Decoder.any)
    pure { data }

end PageResult

namespace Page

/-- The shape of a page. -/
def shape : Shape :=
  { name := "Page"
    fields := [Field.of "pageCursor" (Decoder.option Decoder.string),
               Field.of "result" PageResult.decoder] }

/-- A page read from JSON. -/
def decoder : Decoder Page :=
  shape.decode fun slot => do
    let pageCursor ← (slot "pageCursor").optional Decoder.string
    let result ← (slot "result").required PageResult.decoder
    pure { pageCursor, result }

end Page

namespace JobResult

/-- The shape of a result page. -/
def shape : Shape :=
  { name := "QueryJobResult"
    fields := [Field.of "jobId" Decoder.string,
               Field.of "state" JobState.decoder,
               Field.of "resultFormat" ResultFormat.decoder,
               Field.of "rowsInJob" (Decoder.option Decoder.u64),
               Field.of "rowsInPage" (Decoder.option Decoder.u64),
               Field.of "schema" (Decoder.option Schema.decoder),
               Field.of "page" Page.decoder] }

/-- A result page read from JSON. -/
def decoder : Decoder JobResult :=
  shape.decode fun slot => do
    let jobId ← (slot "jobId").required Decoder.string
    let state ← (slot "state").required JobState.decoder
    let resultFormat ← (slot "resultFormat").required ResultFormat.decoder
    let rowsInJob ← (slot "rowsInJob").optional Decoder.u64
    let rowsInPage ← (slot "rowsInPage").optional Decoder.u64
    let schema ← (slot "schema").optional Schema.decoder
    let page ← (slot "page").required Page.decoder
    pure { jobId, state, resultFormat, rowsInJob, rowsInPage, schema, page }

end JobResult

/-- Decode a response body as `what`: no body is a `parse` error, and so is a body of the
wrong shape, with the decoder's reason. -/
def decodeBody (d : Decoder α) (what : String) : Option Value → Except QueryError α
  | none => .error (.parse ("'null' response, expected " ++ what))
  | some body =>
    match d body with
    | .ok a => .ok a
    | .error e => .error (.parse ("response is not a valid " ++ what ++ ": " ++ e.message))

end JobQuery
