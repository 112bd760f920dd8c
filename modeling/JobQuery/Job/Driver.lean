import JobQuery.Service.Calls

/-!
# Running a job to completion

Create a job, poll it until it leaves the in-flight states, delete it afterwards.

Polling checks once, then, while the job is in flight, sleeps the policy's delay and checks
again, at most `maxAttempts` times after the first check. A job still in flight when the
budget is spent is a `jobTimeout` carrying the last state and the attempts made; a job that
ends in any state but `DONE` is a `jobFailed`. A cancelled operation stops before the next
check or sleep with `cancelled`, and nothing more is sent.

Deleting is best effort: its failures are swallowed.
-/

namespace JobQuery

/-- How often and how long to poll. -/
structure PollPolicy where
  delayMs : Nat := 200
  maxAttempts : Nat := 10
  deriving Repr, BEq, Inhabited

/-- Creates, polls and deletes jobs through one service. -/
structure JobDriver where
  service : QueryService
  policy : PollPolicy := {}
  deriving Repr, Inhabited

namespace JobDriver

/-- Create a job for `params`. -/
def create (d : JobDriver) (jobId : Option String) (params : QueryParams) : Call QueryJob :=
  d.service.createJob jobId (some params)

/-- One status check, unless cancelled. -/
def check (d : JobDriver) (cancelled : Bool) (jobId : String) : Call JobState := do
  if cancelled then throw .cancelled
  return (← d.service.getJobStatus jobId).state

/-- Keep polling from `state`, with `remaining` attempts left of which `attempts` are spent. -/
def settle (d : JobDriver) (cancelled : Bool) (jobId : String) :
    (remaining attempts : Nat) → JobState → Call JobState
  | remaining, attempts, state =>
    if state.inFlight then
      match remaining with
      | 0 => throw (.jobTimeout jobId state attempts)
      | r + 1 => do
        if cancelled then throw .cancelled
        World.sleep d.policy.delayMs
        let next ← d.check cancelled jobId
        d.settle cancelled jobId r (attempts + 1) next
    else if state == .done then pure state
    else throw (.jobFailed jobId state)

/-- Poll a job until it is done. -/
def pollUntilDone (d : JobDriver) (cancelled : Bool) (jobId : String) : Call JobState := do
  let state ← d.check cancelled jobId
  d.settle cancelled jobId d.policy.maxAttempts 0 state

/-- Delete a job, ignoring any failure. -/
def delete (d : JobDriver) (jobId : String) : Run Unit := do
  let _ ← (d.service.deleteJob jobId).run
  pure ()

end JobDriver

end JobQuery
