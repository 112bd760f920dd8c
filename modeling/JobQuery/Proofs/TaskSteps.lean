import JobQuery.Session.Tasks

/-!
# JobQuery — the moves of a task on a session, one by one

`SessionTasks.step` moves a task past its next await point by one of thirteen arms, each guarded
by the task's request and stage and, for some, by a free lock or a held lease.
`SessionTasks.Step S i S'` names each arm with its guards, and `SessionTasks.step_cases` says
that every step is one of them. A fact that every step keeps is then proved by one case per
arm, with no unfolding of `step`.
-/

namespace JobQuery

namespace SessionTasks

/-- Task `i` of `S` moves to `S'` by one arm of `step`. -/
inductive Step (S : SessionTasks) (i : Nat) : SessionTasks → Prop
  /-- A release marks its lease, which it holds, and waits for the consumer lock. -/
  | markRelease {l : Nat} {r : Option Nat} (hi : S.tasks[i]? = some (.release l, .fresh))
      (hl : S.leases[l]? = some (.held r)) :
      Step S i ({ S with leases := S.leases.set l .releasing }.setStage i (.release l)
        .awaitConsumers)
  /-- A close raises the cancellation flag and waits for the consumer lock. -/
  | cancel (hi : S.tasks[i]? = some (.close, .fresh)) :
      Step S i ({ S with session := { S.session with cancelled := true } }.setStage i .close
        .awaitConsumers)
  /-- An attach finds the consumer lock free. -/
  | attach (hi : S.tasks[i]? = some (.attach, .awaitConsumers)) (hc : S.consumerLock = none) :
      Step S i (S.attach i)
  /-- A release finds the consumer lock free and counts its lease out. -/
  | detach {l : Nat} (hi : S.tasks[i]? = some (.release l, .awaitConsumers))
      (hc : S.consumerLock = none) : Step S i (S.detach i l)
  /-- A close takes the free consumer lock. -/
  | lockConsumers (hi : S.tasks[i]? = some (.close, .awaitConsumers))
      (hc : S.consumerLock = none) :
      Step S i ({ S with consumerLock := some i }.setStage i .close .awaitInit)
  /-- A wait takes the free init lock and reads the phase. -/
  | begin {l : Option Nat} (hi : S.tasks[i]? = some (.ready l, .awaitInit))
      (hc : S.initLock = none) : Step S i (S.begin i l)
  /-- The last release out takes the free init lock and the job. -/
  | lastRelease {l : Nat} (hi : S.tasks[i]? = some (.release l, .awaitInit))
      (hc : S.initLock = none) : Step S i (S.lastRelease i l)
  /-- A close takes the free init lock and the job. -/
  | closeTake (hi : S.tasks[i]? = some (.close, .awaitInit)) (hc : S.initLock = none) :
      Step S i (S.closeTake i)
  /-- A start creates its job. -/
  | create {l : Option Nat} (hi : S.tasks[i]? = some (.ready l, .creating)) :
      Step S i (S.create i l)
  /-- A start checks the status of its job for the first time. -/
  | firstCheck {l : Option Nat} {k : Nat} {job : QueryJob}
      (hi : S.tasks[i]? = some (.ready l, .checking k job)) :
      Step S i (S.firstCheck i l k job)
  /-- A start goes on polling its job. -/
  | poll {l : Option Nat} {k : Nat} {job : QueryJob} {remaining attempts : Nat}
      {state : JobState}
      (hi : S.tasks[i]? = some (.ready l, .polling k job remaining attempts state)) :
      Step S i (S.poll i l k job remaining attempts state)
  /-- A start fetches the first page of its job. -/
  | fetchFirst {l : Option Nat} {k : Nat} {job : QueryJob}
      (hi : S.tasks[i]? = some (.ready l, .fetching k job)) :
      Step S i (S.fetchFirst i l k job)
  /-- The deletion a release or a close has in flight comes back. -/
  | finishDelete {req : SessionRequest} {jobId : String}
      (hi : S.tasks[i]? = some (req, .deleting jobId)) : Step S i (S.finishDelete i req jobId)

/-- Every step is one of the arms `Step` names. -/
theorem step_cases {S S' : SessionTasks} {i : Nat} (hs : S.step i = some S') : S.Step i S' := by
  unfold step at hs
  split at hs
  · cases hs
  next req stage hi =>
  -- one case per arm of the step; a task waiting for a lock or a lease gives `none`
  split at hs
  · split at hs
    · next hl =>
      cases hs
      exact .markRelease hi hl
    · cases hs
  · cases hs
    exact .cancel hi
  · split at hs
    · cases hs
    · next hl =>
      cases hs
      exact .attach hi (by simpa using hl)
  · split at hs
    · cases hs
    · next hl =>
      cases hs
      exact .detach hi (by simpa using hl)
  · split at hs
    · cases hs
    · next hl =>
      cases hs
      exact .lockConsumers hi (by simpa using hl)
  · split at hs
    · cases hs
    · next hl =>
      cases hs
      exact .begin hi (by simpa using hl)
  · split at hs
    · cases hs
    · next hl =>
      cases hs
      exact .lastRelease hi (by simpa using hl)
  · split at hs
    · cases hs
    · next hl =>
      cases hs
      exact .closeTake hi (by simpa using hl)
  · cases hs
    exact .create hi
  · cases hs
    exact .firstCheck hi
  · cases hs
    exact .poll hi
  · cases hs
    exact .fetchFirst hi
  · cases hs
    exact .finishDelete hi
  · cases hs

end SessionTasks

end JobQuery
