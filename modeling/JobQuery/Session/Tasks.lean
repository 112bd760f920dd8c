import JobQuery.Session.Core

/-!
# Many tasks on one session

`Session.ready`, `Session.attach`, `Session.detach` and `Session.close` describe one operation
on its own. Operations run as tasks that interleave at their await points, and a session guards
its state with two locks, each held across awaits:

* the *init lock* guards the phase. A start holds it from the moment it finds the phase
  uninitialized, through the creation of a job, its status checks and the fetch of its first
  page, until it writes the outcome into the phase;
* the *consumer lock* guards the consumer count. An attach and a detach take it to count; the
  detach that brings the count to zero keeps it while it takes the job out of the phase (under
  the init lock) and while the job's deletion is in flight, and so does a close.

A `SessionTasks` holds the tasks on one session, each at one of its await points, with the world
they share, and a step moves one task past its next await point:

* an attach counts one more consumer and hands out a lease;
* a release marks its lease released (its holder released it, or dropped it and a tracked task
  runs the detach), then counts one consumer less; the last one out takes the job and deletes
  it. Taking the job of a ready phase resets the phase to uninitialized: a new *generation*
  of the session begins, in which a later wait starts a new job;
* a wait for the session reads the phase: a ready job or a failure is returned as it is; an
  uninitialized phase is started, step by step as `Session.launch` does it, and the outcome is
  written into the phase, a failure wrapped once as a session failure with the job created
  before it;
* a close raises the cancellation flag, then takes the job under both locks, leaves the phase
  failed with a cancelled session failure and deletes the job.

The system also keeps what the claims about it are stated over: the leases handed out, the ids
of the jobs created (each with the generation it was created in), which of them the phase
holds, the jobs passed to a delete (each with the task that deleted it), and every request a
start sent, with its generation. `SessionTasks.Reachable` is every state some interleaving
reaches.

A task's future may also be dropped where it stands, at an await point (`SessionTasks.drop`): it
never moves again, the locks it held are free, and its locals are gone.
`SessionTasks.ReachableWithDrops` is every state interleavings and such drops reach.
-/

namespace JobQuery

/-- What a task does on a session. -/
inductive SessionRequest where
  /-- Attach a consumer (a cursor opening, or a split accepted), which takes a lease. -/
  | attach
  /-- Release lease number `lease`: its holder releases it, or drops it and a tracked task
  detaches it. -/
  | release (lease : Nat)
  /-- Wait until the session has started (`size`, `job_id`, a cursor's first pull or split),
  on behalf of the cursor holding lease `lease`, if any. -/
  | ready (lease : Option Nat)
  /-- Close the session. -/
  | close
  deriving DecidableEq, Inhabited

/-- Where a lease stands. -/
inductive LeaseState where
  /-- Handed out; `reading` is the job (by creation number) its cursor started reading. -/
  | held (reading : Option Nat)
  /-- Released or dropped, its detach not yet counted. -/
  | releasing
  /-- Detached, by a detach that found `count` consumers. -/
  | released (count : Nat)
  deriving DecidableEq, Inhabited

/-- A lease that the consumer count still counts. -/
def LeaseState.attached : LeaseState → Bool
  | .held _ | .releasing => true
  | .released _ => false

/-- A lease whose cursor starts reading job `k`; a lease no longer held stays as it is. -/
def LeaseState.read (k : Option Nat) : LeaseState → LeaseState
  | .held _ => .held k
  | st => st

/-- Where a task stands. -/
inductive SessionStage where
  /-- A release or a close, before its first step. -/
  | fresh
  /-- Waiting for the consumer lock. -/
  | awaitConsumers
  /-- Waiting for the init lock; a release or a close waits holding the consumer lock. -/
  | awaitInit
  /-- A start holding the init lock, its job to create. -/
  | creating
  /-- A start holding the init lock, job `job` (creation number `k`) created and its first
  status check due. -/
  | checking (k : Nat) (job : QueryJob)
  /-- A start holding the init lock, polling job `job` (creation number `k`), last seen in
  `state`, with `remaining` checks left of which `attempts` are spent. -/
  | polling (k : Nat) (job : QueryJob) (remaining attempts : Nat) (state : JobState)
  /-- A start holding the init lock, job `job` (creation number `k`) done and its first page
  to fetch. -/
  | fetching (k : Nat) (job : QueryJob)
  /-- A release or a close holding the consumer lock, the deletion of job `jobId` in flight. -/
  | deleting (jobId : String)
  /-- A wait that returned `result` in generation `generation`. -/
  | returned (generation : Nat) (result : Except QueryError ReadyJob)
  /-- An attach, a release or a close that returned. -/
  | finished
  deriving Inhabited

/-- The first stage of a task: an attach waits for the consumer lock, a wait for the init
lock. -/
def SessionRequest.initial : SessionRequest → SessionStage
  | .attach => .awaitConsumers
  | .ready _ => .awaitInit
  | .release _ | .close => .fresh

/-- Tasks on one session, with the world they share. -/
structure SessionTasks where
  session : Session
  world : World
  /-- Each task's request and stage, by task number. -/
  tasks : List (SessionRequest × SessionStage)
  /-- The task holding the init lock. -/
  initLock : Option Nat := none
  /-- The task holding the consumer lock. -/
  consumerLock : Option Nat := none
  /-- The leases handed out, by lease number. -/
  leases : List LeaseState := []
  /-- The ids of the jobs created, by creation number, each with its generation. -/
  created : List (Nat × String) := []
  /-- The job (by creation number) the phase holds. -/
  phaseJob : Option Nat := none
  /-- The jobs passed to a delete, by creation number, each with the task that deleted it. -/
  deleted : List (Nat × Nat) := []
  /-- The number of resets of the phase so far. -/
  generation : Nat := 0
  /-- The requests the starts sent, oldest first, each with its generation. -/
  startRequests : List (Nat × ApiRequest) := []
  deriving Inhabited

/-- One more status check, after the poll delay, unless cancelled. -/
def JobDriver.recheck (d : JobDriver) (cancelled : Bool) (jobId : String) : Call JobState := do
  if cancelled then throw .cancelled
  World.sleep d.policy.delayMs
  d.check cancelled jobId

/-- Create the session's job under a fresh id. -/
def Session.createJob (s : Session) : Run (Except QueryError QueryJob) := do
  let id ← World.freshJobId
  (s.driver.create (some id) s.params).run

namespace SessionTasks

/-- A new session on `s`'s query, settings, service and cancellation, with no consumer yet,
and the requests `requests`, none started. -/
def start (s : Session) (world : World) (requests : List SessionRequest) : SessionTasks :=
  { session := { s with phase := .uninitialized, consumers := 0 }, world,
    tasks := requests.map fun r => (r, r.initial) }

/-- Move task `i`, asking `req`, to stage `st`. -/
def setStage (S : SessionTasks) (i : Nat) (req : SessionRequest) (st : SessionStage) :
    SessionTasks :=
  { S with tasks := S.tasks.set i (req, st) }

/-- Run `x` on the world for the start in progress; the requests it sends are logged in the
current generation. -/
def startRun (S : SessionTasks) (x : Run α) : α × SessionTasks :=
  let r := x.run S.world
  (r.1, { S with world := r.2,
                 startRequests := S.startRequests ++
                   (r.2.sent.toList.drop S.world.sent.size).map fun q => (S.generation, q) })

/-- Task `i`, a wait on behalf of lease `lease`, returns `result`; when it is the job, the
lease's cursor reads the job the phase holds. -/
def answer (S : SessionTasks) (i : Nat) (lease : Option Nat)
    (result : Except QueryError ReadyJob) : SessionTasks :=
  { S.setStage i (.ready lease) (.returned S.generation result) with
    leases := match result, lease with
      | .ok _, some l => S.leases.modify l (LeaseState.read S.phaseJob)
      | _, _ => S.leases }

/-- The start of task `i` fails with `e`, after creating job `created` (creation number and
id) if any: the failure, wrapped once as a session failure, is recorded and cached in the phase
with the created job, and the init lock is free. -/
def fail (S : SessionTasks) (i : Nat) (lease : Option Nat) (e : QueryError)
    (created : Option (Nat × String)) : SessionTasks :=
  let e := e.asSessionFailure
  { S with session := { S.session with lastError := some e,
                                       phase := .failed e (created.map Prod.snd) },
           phaseJob := created.map Prod.fst, initLock := none }.answer i lease (.error e)

/-- Task `i` takes the init lock and reads the phase: a ready job or a failure is returned, an
uninitialized phase is started. -/
def begin (S : SessionTasks) (i : Nat) (lease : Option Nat) : SessionTasks :=
  match S.session.phase with
  | .ready job => S.answer i lease (.ok job)
  | .failed e _ => S.answer i lease (.error e)
  | .uninitialized => { S with initLock := some i }.setStage i (.ready lease) .creating

/-- Task `i` creates the job; a created job gets the next creation number. -/
def create (S : SessionTasks) (i : Nat) (lease : Option Nat) : SessionTasks :=
  let (r, S') := S.startRun S.session.createJob
  match r with
  | .error e => S'.fail i lease e none
  | .ok job =>
    { S' with created := S'.created ++ [(S'.generation, job.jobId)] }.setStage i (.ready lease)
      (.checking S'.created.length job)

/-- Task `i` checks the status of job `job` for the first time. -/
def firstCheck (S : SessionTasks) (i : Nat) (lease : Option Nat) (k : Nat) (job : QueryJob) :
    SessionTasks :=
  let d := S.session.driver
  let (r, S') := S.startRun (d.check S.session.cancelled job.jobId).run
  match r with
  | .error e => S'.fail i lease e (some (k, job.jobId))
  | .ok state => S'.setStage i (.ready lease) (.polling k job d.policy.maxAttempts 0 state)

/-- Task `i` goes on polling job `job`, last seen in `state`, as `JobDriver.settle` does: a job
in flight is checked again while checks remain, a finished job's first page is fetched, a job
that failed fails the start. -/
def poll (S : SessionTasks) (i : Nat) (lease : Option Nat) (k : Nat) (job : QueryJob)
    (remaining attempts : Nat) (state : JobState) : SessionTasks :=
  let d := S.session.driver
  if state.inFlight then
    match remaining with
    | 0 => S.fail i lease (.jobTimeout job.jobId state attempts) (some (k, job.jobId))
    | r + 1 =>
      let (res, S') := S.startRun (d.recheck S.session.cancelled job.jobId).run
      match res with
      | .error e => S'.fail i lease e (some (k, job.jobId))
      | .ok next => S'.setStage i (.ready lease) (.polling k job r (attempts + 1) next)
  else if state == .done then S.setStage i (.ready lease) (.fetching k job)
  else S.fail i lease (.jobFailed job.jobId state) (some (k, job.jobId))

/-- Task `i` fetches the first page of job `job`; the ready job goes into the phase and the
init lock is free. -/
def fetchFirst (S : SessionTasks) (i : Nat) (lease : Option Nat) (k : Nat) (job : QueryJob) :
    SessionTasks :=
  let s := S.session
  let (r, S') := S.startRun (fetchPage s.service s.config.pageSize s.cancelled job.jobId .first).run
  match r with
  | .error e => S'.fail i lease e (some (k, job.jobId))
  | .ok first =>
    let ready : ReadyJob :=
      { jobId := job.jobId, firstPage := first,
        layout := first.rowsInJob.map fun rows => PageLayout.make rows s.config.pageSize }
    { S' with session := { S'.session with phase := .ready ready }, phaseJob := some k,
              initLock := none }.answer i lease (.ok ready)

/-- Task `i` attaches a consumer and hands out the next lease. -/
def attach (S : SessionTasks) (i : Nat) : SessionTasks :=
  { S with session := { S.session with consumers := S.session.consumers + 1 },
           leases := S.leases ++ [LeaseState.held none] }.setStage i .attach .finished

/-- Task `i` counts its lease `l` out; the last one out keeps the consumer lock to take the
job. -/
def detach (S : SessionTasks) (i : Nat) (l : Nat) : SessionTasks :=
  let count := S.session.consumers
  let S' := { S with session := { S.session with consumers := count - 1 },
                     leases := S.leases.set l (.released count) }
  if count - 1 == 0 then { S' with consumerLock := some i }.setStage i (.release l) .awaitInit
  else S'.setStage i (.release l) .finished

/-- Task `i`, holding the consumer lock, has taken the job `id` out of the phase under the init
lock, leaving the phase `phase` in generation `generation`, and passes the job to a delete; with
no job, it returns and frees the consumer lock. -/
def passJob (S : SessionTasks) (i : Nat) (req : SessionRequest) (id : Option String)
    (phase : Phase) (generation : Nat) : SessionTasks :=
  let S' := { S with session := { S.session with phase }, phaseJob := none, generation,
                     deleted := S.deleted ++ (S.phaseJob.map fun k => (k, i)).toList }
  match id with
  | none => { S' with consumerLock := none }.setStage i req .finished
  | some id => S'.setStage i req (.deleting id)

/-- The last release `i` (of lease `l`) takes the job; taking the job of a ready phase resets it
and starts a new generation. -/
def lastRelease (S : SessionTasks) (i : Nat) (l : Nat) : SessionTasks :=
  let (id, phase) := Session.takeJobId S.session.phase
  let generation := match S.session.phase with
    | .ready _ => S.generation + 1
    | _ => S.generation
  S.passJob i (.release l) id phase generation

/-- The close `i` takes the job and leaves the phase failed with a cancelled session failure. -/
def closeTake (S : SessionTasks) (i : Nat) : SessionTasks :=
  S.passJob i .close (Session.takeJobId S.session.phase).1
    (.failed QueryError.cancelled.asSessionFailure none) S.generation

/-- The deletion of job `jobId` by task `i` comes back; the consumer lock is free. -/
def finishDelete (S : SessionTasks) (i : Nat) (req : SessionRequest) (jobId : String) :
    SessionTasks :=
  let world := ((S.session.driver.delete jobId).run S.world).2
  { S with world, consumerLock := none }.setStage i req .finished

/-- Task `i` moves past its next await point; `none` while it waits for a lock, for a lease
it does not hold, or once it has returned. -/
def step (S : SessionTasks) (i : Nat) : Option SessionTasks :=
  match S.tasks[i]? with
  | none => none
  | some (req, stage) =>
    match req, stage with
    | .release l, .fresh =>
      match S.leases[l]? with
      | some (.held _) => some ({ S with leases := S.leases.set l .releasing }.setStage i req
          .awaitConsumers)
      | _ => none
    | .close, .fresh =>
      some ({ S with session := { S.session with cancelled := true } }.setStage i req
        .awaitConsumers)
    | .attach, .awaitConsumers => if S.consumerLock.isSome then none else some (S.attach i)
    | .release l, .awaitConsumers =>
      if S.consumerLock.isSome then none else some (S.detach i l)
    | .close, .awaitConsumers =>
      if S.consumerLock.isSome then none
      else some ({ S with consumerLock := some i }.setStage i req .awaitInit)
    | .ready l, .awaitInit => if S.initLock.isSome then none else some (S.begin i l)
    | .release l, .awaitInit => if S.initLock.isSome then none else some (S.lastRelease i l)
    | .close, .awaitInit => if S.initLock.isSome then none else some (S.closeTake i)
    | .ready l, .creating => some (S.create i l)
    | .ready l, .checking k job => some (S.firstCheck i l k job)
    | .ready l, .polling k job r a st => some (S.poll i l k job r a st)
    | .ready l, .fetching k job => some (S.fetchFirst i l k job)
    | _, .deleting jobId => some (S.finishDelete i req jobId)
    | _, _ => none

/-- Move the tasks a schedule names, in order; `none` when a named task cannot move. -/
def run (S : SessionTasks) : List Nat → Option SessionTasks
  | [] => some S
  | i :: rest => (S.step i).bind fun S => run S rest

/-- The states some interleaving of the tasks reaches from `S₀`. -/
inductive Reachable (S₀ : SessionTasks) : SessionTasks → Prop
  | start : Reachable S₀ S₀
  | step {S S' : SessionTasks} (i : Nat) : Reachable S₀ S → S.step i = some S' →
      Reachable S₀ S'

/-- The future of task `i` is dropped at the await point it stands at (a timeout or a `select`
around it): the guards of the locks it holds go with it, so those locks are free; what it did
before the await stays done, and what it kept only in its own locals (the job a start created,
the job a release or a close took for deletion) is lost with it. A dropped task never moves
again. `none` for a task that cannot be dropped mid-flight: one that has returned, and a release
not yet polled, which still owns its lease, whose own drop hands it to a tracked detach that
the task goes on standing for. -/
def drop (S : SessionTasks) (i : Nat) : Option SessionTasks :=
  match S.tasks[i]? with
  | none | some (.release _, .fresh) | some (_, .returned _ _) | some (_, .finished) => none
  | some (req, _) =>
    some { S.setStage i req .finished with
           initLock := if S.initLock == some i then none else S.initLock,
           consumerLock := if S.consumerLock == some i then none else S.consumerLock }

/-- The states some interleaving reaches from `S₀` when, besides, the future of any task may be
dropped at an await point. -/
inductive ReachableWithDrops (S₀ : SessionTasks) : SessionTasks → Prop
  | start : ReachableWithDrops S₀ S₀
  | step {S S' : SessionTasks} (i : Nat) : ReachableWithDrops S₀ S → S.step i = some S' →
      ReachableWithDrops S₀ S'
  | drop {S S' : SessionTasks} (i : Nat) : ReachableWithDrops S₀ S → S.drop i = some S' →
      ReachableWithDrops S₀ S'

end SessionTasks

end JobQuery
