import JobQuery.Proofs.Cancellation

/-!
# JobQuery — typed calls check their arguments, then send once

Each typed call of the query API first checks its arguments. A call whose arguments fail the
check — no parameters for a new job, an empty job id, an empty tenant, or a results request
that names its page both by cursor and by number — fails with a `validation` or
`invalidArgument` error and leaves the world exactly as it was: nothing reaches the transport
(`QueryService.Refuses`).

Every other call hands exactly one request to the transport, and its outcome is read off the
transport's answer alone (`QueryService.SendsOnce`, `QueryService.Answers`): a transport error
comes back unchanged, a status of 400 or more becomes an `api` error with the status and the
body as they came, and a status below 400 succeeds exactly when the body decodes as the
call's type, and is a `parse` error otherwise, a missing body included. Nothing but log
events changes before the request is sent, and nothing at all after it.

All five calls share the tail `call` then `expect`, whose answer is derived once
(`call_expect_answers`); each call only adds its check in front.

The main result is `QueryService.calls_check_then_send`.
-/

namespace JobQuery

open Json

namespace QueryService

/-- How a typed call answers, once the transport has answered its request with `o`. -/
inductive Answers {α : Type} (d : Decoder α) (what : String) :
    Except QueryError ApiResponse → Except QueryError α → Prop where
  /-- A transport error is handed on unchanged. -/
  | failed (e : QueryError) : Answers d what (.error e) (.error e)
  /-- A status of 400 or more is an `api` error carrying the status and the body. -/
  | rejected (r : ApiResponse) : 400 ≤ r.status →
      Answers d what (.ok r) (.error (.api r.status r.body))
  /-- A status below 400 with a body of the call's type is that body, decoded. -/
  | decoded (r : ApiResponse) (v : Value) (a : α) : r.status < 400 → r.body = some v →
      d v = .ok a → Answers d what (.ok r) (.ok a)
  /-- A status below 400 without a body is a `parse` error. -/
  | missing (r : ApiResponse) : r.status < 400 → r.body = none →
      Answers d what (.ok r) (.error (.parse ("'null' response, expected " ++ what)))
  /-- A status below 400 with a body of another shape is a `parse` error saying why. -/
  | malformed (r : ApiResponse) (v : Value) (e : DecodeError) : r.status < 400 →
      r.body = some v → d v = .error e →
      Answers d what (.ok r) (.error (.parse ("response is not a valid " ++ what ++ ": " ++
        e.message)))

/-- A call refused before anything is sent: it fails with `e` and leaves the world as it
was. -/
def Refuses {α : Type} (c : Call α) (e : QueryError) : Prop :=
  ∀ w, c.run.run w = (.error e, w)

/-- A call that hands exactly the request `r` to the transport: whatever the world, the request
log grows by `r` alone; only log events may be added before `r` is sent; the call answers as
`Answers` says of the transport's answer, and leaves the world the transport left. -/
def SendsOnce {α : Type} (c : Call α) (r : ApiRequest) (d : Decoder α) (what : String) : Prop :=
  ∀ w, ∃ events : Array Event,
    (c.run.run w).2.sent = w.sent.push r ∧
    Answers d what ((World.send r).run.run { w with events }).1 (c.run.run w).1 ∧
    (c.run.run w).2 = ((World.send r).run.run { w with events }).2

/-- The request about one job, sent as the service's data lake. -/
def jobRequestAs (svc : QueryService) (method : Method) (jobId : String) : ApiRequest :=
  { method, path := root ++ "jobs", resourceId := some jobId, credential := svc.credential }

/-- The request creating a job, sent as the service's data lake. -/
def createRequest (svc : QueryService) (jobId : Option String) (params : QueryParams) :
    ApiRequest :=
  { method := .post, path := root ++ "jobs", credential := svc.credential,
    body := some (Value.object ((jobId.map fun id => [("jobId", Value.str id)]).getD [] ++
      [("params", params.wire)])) }

/-! ## The shared tail: send, then read the answer -/

/-- A status check of an answer, then the decoding of its body, answer as `Answers` says. -/
theorem answers_checked_expect {α : Type} (d : Decoder α) (what : String) (resp : ApiResponse)
    (w : World) :
    Answers d what (.ok resp)
        ((checked resp.intoSuccess >>= expect d what).run.run w).1 ∧
      ((checked resp.intoSuccess >>= expect d what).run.run w).2 = w := by
  unfold ApiResponse.intoSuccess
  by_cases hs : 400 ≤ resp.status
  · simp only [ge_iff_le, hs, if_true, checked, Call.run_bind, Call.run_throw]
    exact ⟨.rejected resp hs, trivial⟩
  have hlt : resp.status < 400 := Nat.lt_of_not_le hs
  simp only [ge_iff_le, hs, if_false, checked, Call.run_bind, Call.run_pure, expect]
  -- below 400 the body is read: missing, of the call's type, or of another shape
  rcases hbody : resp.body with _ | v
  · exact ⟨.missing resp hlt hbody, rfl⟩
  rcases hd : d v with e | a
  · simp only [decodeBody, hd, Call.run_throw]
    exact ⟨.malformed resp v e hlt hbody hd, trivial⟩
  · simp only [decodeBody, hd, Call.run_pure]
    exact ⟨.decoded resp v a hlt hbody hd, trivial⟩

/-- Sending a request as the service's data lake and reading the answer as `what`: the
outcome is what `Answers` makes of the transport's answer, in the world the transport
left. -/
theorem call_expect_answers {α : Type} (svc : QueryService) (r : ApiRequest) (d : Decoder α)
    (what : String) (w : World) :
    Answers d what ((World.send { r with credential := svc.credential }).run.run w).1
        ((svc.call r >>= expect d what).run.run w).1 ∧
      ((svc.call r >>= expect d what).run.run w).2 =
        ((World.send { r with credential := svc.credential }).run.run w).2 := by
  simp only [call, bind_assoc]
  rw [Call.run_bind]
  rcases (World.send { r with credential := svc.credential }).run.run w with ⟨_ | resp, w'⟩
  · exact ⟨.failed _, rfl⟩
  · exact answers_checked_expect d what resp w'

/-- The shared tail sends its request once. -/
theorem sendsOnce_call_expect {α : Type} (svc : QueryService) (r : ApiRequest) (d : Decoder α)
    (what : String) :
    SendsOnce (svc.call r >>= expect d what) { r with credential := svc.credential } d what := by
  intro w
  obtain ⟨hanswer, hworld⟩ := call_expect_answers svc r d what w
  refine ⟨w.events, ?_, hanswer, hworld⟩
  rw [hworld]
  exact World.send_sent _ w

/-! ## Each call's check -/

/-- A call that starts by checking a failed argument refuses with its error, whatever would
follow. -/
theorem refuses_checked_error {α β : Type} (e : QueryError) (k : β → Call α) :
    Refuses (checked (.error e) >>= k) e := by
  intro w
  simp only [checked, Call.run_bind, Call.run_throw]

variable (svc : QueryService)

theorem createJob_refuses (jobId : Option String) :
    Refuses (svc.createJob jobId none) (.validation "'params' parameter is mandatory") :=
  fun _ => rfl

/-- Creating a job logs its request, then sends it. -/
theorem createJob_sendsOnce (jobId : Option String) (params : QueryParams) :
    SendsOnce (svc.createJob jobId (some params)) (svc.createRequest jobId params)
      QueryJob.decoder "query job" := by
  intro w
  let r : ApiRequest := { method := .post, path := root ++ "jobs", body := some (Value.object
    ((jobId.map fun id => [("jobId", Value.str id)]).getD [] ++ [("params", params.wire)])) }
  have hreq : svc.createRequest jobId params = { r with credential := svc.credential } := rfl
  unfold createJob
  rw [Call.run_bind, Call.run_lift, World.emit_run, hreq]
  obtain ⟨hanswer, hworld⟩ := call_expect_answers svc r QueryJob.decoder "query job"
    { w with events := w.events.push _ }
  refine ⟨_, ?_, hanswer, hworld⟩
  rw [hworld, World.send_sent]

/-- A status check or a delete of one job refuses an empty id and sends otherwise. -/
theorem jobCall_checks {α : Type} (method : Method) (d : Decoder α) (what : String)
    (jobId : String) :
    if jobId = "" then
      Refuses (do let r ← checked (jobRequest method jobId); expect d what (← svc.call r))
        (.validation "'jobId' parameter is mandatory")
    else
      SendsOnce (do let r ← checked (jobRequest method jobId); expect d what (← svc.call r))
        (svc.jobRequestAs method jobId) d what := by
  split
  · rename_i hempty
    subst hempty
    intro w
    rfl
  · rename_i hne
    have hreq : jobRequest method jobId =
        .ok { method := method, path := root ++ "jobs", resourceId := some jobId } := by
      simp [jobRequest, String.isEmpty_iff, hne]
    simp only [hreq, checked, pure_bind]
    exact sendsOnce_call_expect svc _ d what

theorem listJobs_checks (f : JobListFilter) :
    if f.tenantId = "" then
      Refuses (svc.listJobs f) (.validation "'tenantId' parameter is mandatory")
    else
      ∃ q, f.toQuery = .ok q ∧
        SendsOnce (svc.listJobs f)
          { method := .get, path := root ++ "jobs", query := q, credential := svc.credential }
          (Decoder.list JobDetail.decoder) "job detail array" := by
  split
  · rename_i hempty
    have hq : f.toQuery = .error (.validation "'tenantId' parameter is mandatory") := by
      simp [JobListFilter.toQuery, hempty]
    unfold listJobs
    rw [hq]
    exact refuses_checked_error _ _
  · rename_i hne
    obtain ⟨q, hq⟩ : ∃ q, f.toQuery = .ok q := by
      simp [JobListFilter.toQuery, String.isEmpty_iff, hne]
    refine ⟨q, hq, ?_⟩
    simp only [listJobs, hq, checked, pure_bind]
    exact sendsOnce_call_expect svc _ _ _

theorem getJobResults_checks (req : ResultsRequest) :
    if req.jobId = "" then
      Refuses (svc.getJobResults req) (.validation "'jobId' parameter is mandatory")
    else if req.pageCursor.isSome ∧ req.pageNumber.isSome then
      Refuses (svc.getJobResults req)
        (.invalidArgument "use either 'pageCursor' or 'pageNumber', not both")
    else
      ∃ q, req.toQuery = .ok q ∧
        SendsOnce (svc.getJobResults req) (svc.resultsRequest req.jobId q) JobResult.decoder
          "job result" := by
  split
  · rename_i hempty
    have hq : req.toQuery = .error (.validation "'jobId' parameter is mandatory") := by
      simp [ResultsRequest.toQuery, hempty]
    unfold getJobResults
    rw [hq]
    exact refuses_checked_error _ _
  rename_i hne
  split
  · rename_i hboth
    have hq : req.toQuery =
        .error (.invalidArgument "use either 'pageCursor' or 'pageNumber', not both") := by
      simp [ResultsRequest.toQuery, String.isEmpty_iff, hne, hboth]
    unfold getJobResults
    rw [hq]
    exact refuses_checked_error _ _
  · rename_i hone
    obtain ⟨q, hq⟩ : ∃ q, req.toQuery = .ok q := by
      simp only [ResultsRequest.toQuery, String.isEmpty_iff, hne, if_false]
      rw [if_neg (by simpa using hone)]
      exact ⟨_, rfl⟩
    refine ⟨q, hq, ?_⟩
    simp only [getJobResults, hq, checked, pure_bind]
    exact sendsOnce_call_expect svc _ _ _

/-- Typed calls check their arguments before any input or output, then send once and classify
the answer. Creating a job without parameters, checking or deleting a job with an empty id,
listing jobs of an empty tenant, and asking for results of an empty job id or by both cursor
and page number fail with a `validation` or `invalidArgument` error and leave the world as it
was, so the transport receives nothing. Every other call hands exactly one request to the
transport, and answers with the transport's error unchanged, an `api` error carrying the status
and body of an answer at 400 or above, or, below 400, the body decoded as the call's type, or
a `parse` error when there is no body or it does not decode. -/
theorem calls_check_then_send :
    (∀ jobId, Refuses (svc.createJob jobId none)
      (.validation "'params' parameter is mandatory")) ∧
    (∀ jobId params, SendsOnce (svc.createJob jobId (some params))
      (svc.createRequest jobId params) QueryJob.decoder "query job") ∧
    (∀ jobId, if jobId = "" then
        Refuses (svc.getJobStatus jobId) (.validation "'jobId' parameter is mandatory")
      else SendsOnce (svc.getJobStatus jobId) (svc.jobRequestAs .get jobId) JobDetail.decoder
        "job detail") ∧
    (∀ jobId, if jobId = "" then
        Refuses (svc.deleteJob jobId) (.validation "'jobId' parameter is mandatory")
      else SendsOnce (svc.deleteJob jobId) (svc.jobRequestAs .delete jobId) JobDetail.decoder
        "job detail") ∧
    (∀ f : JobListFilter, if f.tenantId = "" then
        Refuses (svc.listJobs f) (.validation "'tenantId' parameter is mandatory")
      else ∃ q, f.toQuery = .ok q ∧
        SendsOnce (svc.listJobs f)
          { method := .get, path := root ++ "jobs", query := q, credential := svc.credential }
          (Decoder.list JobDetail.decoder) "job detail array") ∧
    (∀ req : ResultsRequest, if req.jobId = "" then
        Refuses (svc.getJobResults req) (.validation "'jobId' parameter is mandatory")
      else if req.pageCursor.isSome ∧ req.pageNumber.isSome then
        Refuses (svc.getJobResults req)
          (.invalidArgument "use either 'pageCursor' or 'pageNumber', not both")
      else ∃ q, req.toQuery = .ok q ∧
        SendsOnce (svc.getJobResults req) (svc.resultsRequest req.jobId q) JobResult.decoder
          "job result") :=
  ⟨createJob_refuses svc, createJob_sendsOnce svc, jobCall_checks svc .get _ _,
    jobCall_checks svc .delete _ _, listJobs_checks svc, getJobResults_checks svc⟩

end QueryService

end JobQuery
