import JobQuery.Auth.Context

/-!
# Many tasks on one credential cache

`CredentialContext.resolve` and `CredentialContext.refresh` describe one request on its own.
Requests run as tasks that interleave at their await points, and the cache guards the entry of
a data lake with two mechanisms:

* a *once-cell*: one task at a time holds its permit and runs the first contact (a forced
  provider call); a credential that comes back is kept for good, and nothing is kept when none
  comes back, so the permit passes to the next waiting task, which tries again;
* a *refresh lock*, taken without waiting: a task that finds it held skips the refresh and uses
  the cached token.

A `CredentialTasks` holds the tasks of one data lake, each at one of its await points, and a
step moves one task past its next await point:

* a fresh task touches the lake's entry. With nothing cached, a resolve takes the permit and
  calls the provider with `force = true`, or waits while another task holds the permit, and a
  refresh answers `false`. With a credential cached, either tries the refresh lock and, when it
  gets it, calls the provider with `force = false`;
* a waiting resolve goes on once the permit is free, as a fresh one would;
* a forced call comes back: its credential is cached, or, when there is none, the resolve fails
  with nothing cached; the permit is free again either way;
* an unforced call comes back: a token it gives replaces the cached token (never the endpoint),
  and the refresh lock is free again;
* a resolve reads the cached credential and returns it.

The system also keeps the provider calls its tasks made, each as its start and its answer, in
the order they happened. `CredentialTasks.Reachable` is every state some interleaving reaches.
-/

namespace JobQuery

/-- What a task asks of the credential cache. -/
inductive CredentialRequest where
  | resolve
  | refresh
  deriving DecidableEq, Repr, Inhabited

/-- Where a task stands. -/
inductive TaskStage where
  /-- Not started. -/
  | fresh
  /-- A resolve waiting for the once-cell's permit. -/
  | waiting
  /-- Holding the permit, with a forced provider call in flight. -/
  | forcing
  /-- Holding the refresh lock, with an unforced provider call in flight. -/
  | refreshing
  /-- A resolve about to read the cached credential. -/
  | reading
  /-- A resolve that returned. -/
  | resolved (result : Except QueryError Credential)
  /-- A refresh that returned whether a new token came. -/
  | refreshed (renewed : Bool)
  deriving Inhabited

/-- A provider call as the cache sees it: its start, and its answer. -/
inductive ProviderEvent where
  | called (force : Bool)
  | answered (force : Bool) (answer : Option Credential)
  deriving Inhabited

/-- Tasks resolving and refreshing the credential of one data lake through one cache. -/
structure CredentialTasks where
  lake : DataLake
  context : CredentialContext
  /-- Each task's request and stage, by task number. -/
  tasks : List (CredentialRequest × TaskStage)
  /-- The task holding the once-cell's permit. -/
  permit : Option Nat := none
  /-- The task holding the refresh lock. -/
  refreshLock : Option Nat := none
  /-- The provider calls made, oldest first. -/
  events : List ProviderEvent := []
  deriving Inhabited

namespace CredentialTasks

/-- The requests `requests`, none started yet, on a cache as `context` holds it. -/
def start (lake : DataLake) (context : CredentialContext) (requests : List CredentialRequest) :
    CredentialTasks :=
  { lake, context, tasks := requests.map fun r => (r, .fresh) }

/-- The credential cached for the data lake. -/
def cell (S : CredentialTasks) : Option CachedCredential := S.context.cached S.lake.id

/-- Move task `i`, asking `req`, to stage `st`. -/
def setStage (S : CredentialTasks) (i : Nat) (req : CredentialRequest) (st : TaskStage) :
    CredentialTasks :=
  { S with tasks := S.tasks.set i (req, st) }

/-- Task `i` takes the once-cell's permit and calls the provider with `force = true`. -/
def force (S : CredentialTasks) (i : Nat) (req : CredentialRequest) : CredentialTasks :=
  { S.setStage i req .forcing with permit := some i, events := S.events ++ [.called true] }

/-- Task `i` tries the refresh lock: it takes it and calls the provider with `force = false`,
or, when another task holds it, skips the refresh (a resolve then reads the cached token, a
refresh answers `false`). -/
def tryRefresh (S : CredentialTasks) (i : Nat) (req : CredentialRequest) : CredentialTasks :=
  match S.refreshLock with
  | none =>
    { S.setStage i req .refreshing with
      refreshLock := some i, events := S.events ++ [.called false] }
  | some _ =>
    S.setStage i req (match req with
      | .resolve => .reading
      | .refresh => .refreshed false)

/-- The forced call of task `i` comes back with the provider's answer: a credential is cached,
none fails the resolve. The permit is free again. -/
def answerForced (S : CredentialTasks) (i : Nat) (req : CredentialRequest) : CredentialTasks :=
  let (answer, context) := S.context.call S.lake true
  let S := { S with context, permit := none,
                    events := S.events ++ [ProviderEvent.answered true answer] }
  match answer with
  | none =>
    S.setStage i req (.resolved (.error (.configuration
      ("credential provider returned nothing for data lake " ++ S.lake.id))))
  | some cr =>
    { S with context := S.context.store S.lake.id { endpoint := cr.endpoint, token := cr.token } }
      |>.setStage i req .reading

/-- The unforced call of task `i` comes back with the provider's answer: a token replaces the
cached one. The refresh lock is free again. -/
def answerRefresh (S : CredentialTasks) (i : Nat) (req : CredentialRequest) : CredentialTasks :=
  let (answer, context) := S.context.call S.lake false
  let S := { S with context, refreshLock := none,
                    events := S.events ++ [ProviderEvent.answered false answer] }
  let S := match answer, S.cell with
    | some cr, some cc =>
      { S with context := S.context.store S.lake.id { cc with token := cr.token } }
    | _, _ => S
  S.setStage i req (match req with
    | .resolve => .reading
    | .refresh => .refreshed answer.isSome)

/-- Task `i` moves past its next await point; `none` while it waits for the permit or once it
has returned. -/
def step (S : CredentialTasks) (i : Nat) : Option CredentialTasks :=
  match S.tasks[i]? with
  | none => none
  | some (req, stage) =>
    match stage with
    | .fresh =>
      let S := { S with context := S.context.touch S.lake.id }
      match S.cell, req with
      | none, .resolve =>
        some (if S.permit.isNone then S.force i req else S.setStage i req .waiting)
      | none, .refresh => some (S.setStage i req (.refreshed false))
      | some _, _ => some (S.tryRefresh i req)
    | .waiting =>
      if S.permit.isSome then none
      else match S.cell with
        | none => some (S.force i req)
        | some _ => some (S.tryRefresh i req)
    | .forcing => some (S.answerForced i req)
    | .refreshing => some (S.answerRefresh i req)
    | .reading =>
      match S.cell with
      | some cc => some (S.setStage i req (.resolved (.ok cc.credential)))
      | none => none
    | .resolved _ | .refreshed _ => none

/-- Move the tasks a schedule names, in order; `none` when a named task cannot move. -/
def run (S : CredentialTasks) : List Nat → Option CredentialTasks
  | [] => some S
  | i :: rest => (S.step i).bind fun S => run S rest

/-- The states some interleaving of the tasks reaches from `S₀`. -/
inductive Reachable (S₀ : CredentialTasks) : CredentialTasks → Prop
  | start : Reachable S₀ S₀
  | step {S S' : CredentialTasks} (i : Nat) : Reachable S₀ S → S.step i = some S' →
      Reachable S₀ S'

end CredentialTasks

end JobQuery
