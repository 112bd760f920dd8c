import JobQuery.Proofs.SessionSteps

/-!
# JobQuery — what a cancelled session still sends

A session's cancellation is looked at by each status check and each page fetch before it sends
anything, but not by the creation of its job. So a session that has not started when it is
cancelled still starts when a consumer first needs it: the start sends one request, the
creation of the job, then fails at its first status check with the cancellation, wrapped once
as a session failure. The job it created is remembered, so the session's last release or its
close deletes it. A page fetch of a cancelled session sends nothing and fails with the
cancellation.

The requests a computation sends are the ones it appends to the world's `sent` list; every
request goes through `World.send`, which appends exactly the request it is given
(`World.send_sent`), and the steps around it (checks, decoding, log events, minting ids) append
nothing.

The main result is `Session.cancelled_session_requests`.
-/

namespace JobQuery

open InSession

namespace QueryService

/-- A call sends its request as the service's data lake, and nothing else. -/
theorem call_sent (svc : QueryService) (r : ApiRequest) (w : World) :
    ((svc.call r).run.run w).2.sent = w.sent.push { r with credential := svc.credential } := by
  have hquiet := Call.world_bind_quiet
    (x := World.send { r with credential := svc.credential })
    (fun (resp : ApiResponse) w => checked_world resp.intoSuccess w) w
  exact (congrArg World.sent hquiet).trans (World.send_sent _ w)

/-- Creating a job sends one request, a POST to the jobs endpoint. -/
theorem createJob_sent (svc : QueryService) (jobId : Option String) (params : QueryParams)
    (w : World) : ∃ req : ApiRequest, req.method = .post ∧ req.path = root ++ "jobs" ∧
      ((svc.createJob jobId (some params)).run.run w).2.sent = w.sent.push req := by
  let req : ApiRequest :=
    { method := .post, path := root ++ "jobs", credential := svc.credential,
      body := some (Json.Value.object ((jobId.map fun id => [("jobId", Json.Value.str id)]).getD [] ++
        [("params", params.wire)])) }
  refine ⟨req, rfl, rfl, ?_⟩
  unfold createJob
  rw [Call.run_bind, Call.run_lift]
  dsimp only
  rw [Call.world_bind_quiet fun answer => expect_world _ _ answer, call_sent]
  rfl

end QueryService


namespace Session

variable {s : Session} {w : World}

/-- A start after cancellation sends one request, the creation of its job, and fails: with the
cancellation when the job was created. -/
theorem launch_cancelled (hc : s.cancelled = true) (w : World) :
    ∃ req : ApiRequest, req.method = .post ∧ req.path = QueryService.root ++ "jobs" ∧
      (s.launch.run w).2.sent = w.sent.push req ∧
      ∃ e, (s.launch.run w).1.2 = .error e ∧ ((s.launch.run w).1.1.isSome → e = .cancelled) := by
  -- the job id is minted first, which sends nothing
  let w₁ : World := { w with minted := w.minted + 1 }
  obtain ⟨req, hpost, hpath, hsent⟩ :=
    s.service.createJob_sent (some (Text.mintUuid 0 w.minted)) s.params w₁
  have hsent' : ((s.driver.create (some (Text.mintUuid 0 w.minted)) s.params).run.run w₁).2.sent =
      w.sent.push req := hsent
  refine ⟨req, hpost, hpath, ?_⟩
  unfold launch
  simp only [Run.run_bind, World.freshJobId_run]
  rcases hcreate : ((s.driver.create (some (Text.mintUuid 0 w.minted)) s.params).run.run w₁)
    with ⟨_ | job, w₂⟩
  · -- the creation failed: nothing else is sent
    rw [hcreate] at hsent'
    exact ⟨hsent', _, rfl, fun h => absurd h (by simp)⟩
  · -- the job was created: the first status check sees the cancellation
    rw [hcreate] at hsent'
    dsimp only
    rw [hc]
    simp only [Run.run_bind, Call.run_bind, JobDriver.pollUntilDone_cancelled]
    exact ⟨hsent', _, rfl, fun _ => rfl⟩

/-- A start after cancellation sends one request, the creation of the job, and fails: with the
cancellation, wrapped as a session failure, when the job was created. The created job is kept
in the failed phase, for the last release or the close to delete. -/
theorem ready_cancelled (hc : s.cancelled = true) (hu : s.phase = .uninitialized) :
    Session.ready.Holds s w fun r s' w' =>
      (∃ req : ApiRequest, req.method = .post ∧ req.path = QueryService.root ++ "jobs" ∧
        w'.sent = w.sent.push req) ∧
      ∃ e created, r = .error e ∧ s'.phase = .failed e created ∧
        (created.isSome → e = QueryError.cancelled.asSessionFailure) := by
  obtain ⟨req, hpost, hpath, hsent, e, he, hcreated⟩ := launch_cancelled hc w
  unfold ready
  simp only [holds_bind, holds_get, hu, holds_lift]
  rcases hl : s.launch.run w with ⟨⟨created, outcome⟩, w'⟩
  rw [hl] at hsent he hcreated
  dsimp only at he hcreated
  subst he
  exact ⟨⟨req, hpost, hpath, hsent⟩, _, created, rfl, rfl,
    fun h => by rw [hcreated h]⟩

/-- A page fetch after cancellation sends nothing and fails with the cancellation. -/
theorem fetch_cancelled (hc : s.cancelled = true) (jobId : String) (sel : PageSelector) :
    (Session.fetch jobId sel).Holds s w fun r s' w' =>
      r = .error .cancelled ∧ s' = s ∧ w' = w := by
  unfold fetch
  simp only [holds_bind, holds_get, holds_call, hc, fetchPage_cancelled, and_self]

/-- What a cancelled session sends. A start, when the session had not started, still creates
its job: it sends that one request and fails, with the cancellation (wrapped as a session
failure) once the job was created, and keeps the created job for deletion. A page fetch sends
nothing and fails with the cancellation. -/
theorem cancelled_session_requests (hc : s.cancelled = true) :
    (s.phase = .uninitialized → Session.ready.Holds s w fun r s' w' =>
      (∃ req : ApiRequest, req.method = .post ∧ req.path = QueryService.root ++ "jobs" ∧
        w'.sent = w.sent.push req) ∧
      ∃ e created, r = .error e ∧ s'.phase = .failed e created ∧
        (created.isSome → e = QueryError.cancelled.asSessionFailure)) ∧
    ∀ jobId sel, (Session.fetch jobId sel).Holds s w fun r s' w' =>
      r = .error .cancelled ∧ s' = s ∧ w' = w :=
  ⟨ready_cancelled hc, fetch_cancelled hc⟩

/-- A session cancelled before it started still sends the creation of its job. -/
theorem cancelled_session_requests_unstarted :
    ∃ (s : Session) (w : World), s.cancelled = true ∧ s.phase = .uninitialized ∧
      Session.ready.Holds s w fun r s' w' =>
        (∃ req : ApiRequest, req.method = .post ∧ req.path = QueryService.root ++ "jobs" ∧
          w'.sent = w.sent.push req) ∧
        ∃ e created, r = .error e ∧ s'.phase = .failed e created ∧
          (created.isSome → e = QueryError.cancelled.asSessionFailure) :=
  ⟨{ params := default, config := default, service := default, cancelled := true }, default,
    rfl, rfl, (cancelled_session_requests rfl).1 rfl⟩

end Session

end JobQuery
