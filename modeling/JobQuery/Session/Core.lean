import JobQuery.Session.Config

/-!
# Sessions

A session is one query, one remote job and any number of consumers. Nothing is sent until a
consumer first needs the job; then the session creates the job under a fresh id, polls it
until it is done and fetches its first page, once for everyone:

```text
  uninitialized ──(create, poll, first page)──▶ ready(job)
        │                                          │
        └──────────────(any step fails)───────▶ failed(error)
```

* The outcome is cached: a ready job is served to every later caller, and so is a failure
  (wrapped once as a session failure and recorded as the last error). There are no retries.
  A job created before the failure is remembered, so it still gets deleted.
* Consumers hold leases. Attaching counts one more; releasing counts one less (never below
  zero), and the release that brings the count to zero takes the job id and deletes the
  job. A ready session then goes back to `uninitialized`, so a later request starts a new
  job; a failed one keeps its error and forgets the job.
* `close` cancels the session, deletes the job and leaves the session failed with a
  cancelled session failure for good.

A session's cancellation is a flag: it is raised between operations (by `close`, by an
explicit cancel or by the client shutting down), and every page fetch and status check
looks at it before sending anything.

Operations on one session run in `InSession`, a state monad over the session on top of the
world.
-/

namespace JobQuery

open Json

/-- What a successful start leaves behind. -/
structure ReadyJob where
  jobId : String
  firstPage : FetchedPage
  /-- `none` when the service did not report the number of rows. -/
  layout : Option PageLayout
  deriving Inhabited

/-- Where a session's start stands. -/
inductive Phase where
  | uninitialized
  | ready (job : ReadyJob)
  /-- Start failed with `error`; `jobId` is a job created before the failure, still to be
  deleted. -/
  | failed (error : QueryError) (jobId : Option String)
  deriving Inhabited

/-- One query and its consumers. -/
structure Session where
  params : QueryParams
  config : SessionConfig
  service : QueryService
  phase : Phase := .uninitialized
  consumers : Nat := 0
  lastError : Option QueryError := none
  cancelled : Bool := false
  /-- A session of its own, not cancelled when the client shuts down. -/
  standalone : Bool := false
  deriving Inhabited

/-- Operations on one session. -/
abbrev InSession := StateT Session Run

namespace Session

/-- A session for `sql`; refused when the settings or the query are. -/
def make (sql : String) (config : SessionConfig) (service : QueryService)
    (standalone : Bool := false) : Except QueryError Session := do
  let params ← config.params sql
  pure { params, config, service, standalone }

/-- The session's query text. -/
def sql (s : Session) : String := s.params.query

/-- The driver of the session's jobs. -/
def driver (s : Session) : JobDriver := { service := s.service, policy := s.config.pollPolicy }

/-- Run a call of the world inside a session. -/
def call (c : Call α) : InSession (Except QueryError α) :=
  StateT.lift c.run

/-- Fetch one page of the session's job. -/
def fetch (jobId : String) (selector : PageSelector) : InSession (Except QueryError FetchedPage) := do
  let s ← get
  call (fetchPage s.service s.config.pageSize s.cancelled jobId selector)

/-- Create, poll, and fetch the first page: the job created (if any) and the outcome. -/
def launch (s : Session) : Run (Option String × Except QueryError ReadyJob) := do
  let id ← World.freshJobId
  match ← (s.driver.create (some id) s.params).run with
  | .error e => return (none, .error e)
  | .ok job =>
    let rest : Call ReadyJob := do
      let _ ← s.driver.pollUntilDone s.cancelled job.jobId
      let first ← fetchPage s.service s.config.pageSize s.cancelled job.jobId .first
      pure { jobId := job.jobId, firstPage := first,
             layout := first.rowsInJob.map fun rows => PageLayout.make rows s.config.pageSize }
    return (some job.jobId, ← rest.run)

/-- Remember an error as the session's last. -/
def recordError (e : QueryError) : InSession Unit :=
  modify fun s => { s with lastError := some e }

/-- The ready job, starting it on first use; a failure is cached. -/
def ready : InSession (Except QueryError ReadyJob) := do
  let s ← get
  match s.phase with
  | .ready job => return .ok job
  | .failed e _ => return .error e
  | .uninitialized =>
    let (created, outcome) ← StateT.lift s.launch
    match outcome with
    | .ok job =>
      modify fun s => { s with phase := .ready job }
      return .ok job
    | .error e =>
      let e := e.asSessionFailure
      modify fun s => { s with lastError := some e, phase := .failed e created }
      return .error e

/-- The job id to delete, taken out of the phase: a ready session goes back to
`uninitialized`, a failed one forgets its job. -/
def takeJobId : Phase → Option String × Phase
  | .ready job => (some job.jobId, .uninitialized)
  | .failed e id => (id, .failed e none)
  | .uninitialized => (none, .uninitialized)

/-- Delete a job through the session's driver. -/
def deleteJob (jobId : String) : InSession Unit := do
  let s ← get
  StateT.lift (s.driver.delete jobId)

/-- One more consumer. -/
def attach : InSession Unit :=
  modify fun s => { s with consumers := s.consumers + 1 }

/-- One consumer less; the last one out deletes the job. -/
def detach : InSession Unit := do
  modify fun s => { s with consumers := s.consumers - 1 }
  let s ← get
  if s.consumers == 0 then
    let (id, phase) := takeJobId s.phase
    set { s with phase }
    if let some id := id then deleteJob id

/-- Cancel the session, delete its job and shut it for good. -/
def close : InSession Unit := do
  modify fun s => { s with cancelled := true }
  let s ← get
  let (id, _) := takeJobId s.phase
  set { s with phase := .failed QueryError.cancelled.asSessionFailure none }
  if let some id := id then deleteJob id

/-- Raise the cancellation flag. -/
def cancel : InSession Unit :=
  modify fun s => { s with cancelled := true }

/-- The number of rows in the job, when reported; starts the job if needed. -/
def size : InSession (Except QueryError (Option Nat)) := do
  return (← ready).map fun job => job.layout.map (·.rowsInJob)

/-- The job id; starts the job if needed. -/
def jobId : InSession (Except QueryError String) := do
  return (← ready).map (·.jobId)

end Session

end JobQuery
