import JobQuery.Proofs.Polling

/-!
# JobQuery — starting a session on the in-memory service

A session starts its job once: it creates the job under a fresh id, polls it until it is
done and fetches its first page. This module follows that start through the in-memory
service.

Main results:

* `QueryProperties.decoder_wire_session`, `QueryParams.decoder_wire_session` — the wire form
  of a session's job parameters reads back as the parameters, with empty properties left out.
* `Session.launch_ok` — soundness: a job the start hands out has the service's page 0 as its
  first page, and the layout of the row count that page reports.
* `Session.launch_polled` — on a fresh in-memory service with any poll behaviour, the start
  creates its job, ends as the poll of that job ends (`Behavior.pollEnd`) when the poll fails,
  and goes on to fetch page 0 when the job is done within the attempts (`Behavior.PollsDone`);
  the job stays known to the service either way.
* `Session.launch_fresh` — completeness: when the poll is done, the start of a session made
  by `Session.make` succeeds unless the service overflows.
-/

namespace JobQuery

open Json

/-! ## Parameters on the wire -/

theorem Decoder.u32_nat {n : Nat} (h : n < Nat.pow 2 32) : Decoder.u32 (Value.nat n) = .ok n := by
  have h32 : n < 4294967296 := h
  have hle : (n : Int) ≤ 4294967295 := by omega
  simp only [Decoder.u32, Decoder.natBelow, Decoder.intRange, Value.nat]
  simp [hle, Except.map]

theorem Decoder.option_u32_nat {n : Nat} (h : n < Nat.pow 2 32) :
    Decoder.option Decoder.u32 (Value.nat n) = .ok (some n) := by
  have hn := Decoder.u32_nat h
  unfold Value.nat at hn ⊢
  simp [Decoder.option, hn, Except.map]

theorem Decoder.option_str {α : Type} (d : Decoder α) (x : String) :
    Decoder.option d (.str x) = (d (.str x)).map some := rfl

/-- The properties a session sets (a priority, if any, and its page size) read back as
written. -/
theorem QueryProperties.decoder_wire_session (pr : Option Priority) {P : Nat}
    (hP : P < Nat.pow 2 32) :
    QueryProperties.decoder ({ priority := pr, defaultPageSize := some P } : QueryProperties).wire =
      .ok { priority := pr, defaultPageSize := some P } := by
  rcases pr with _ | _ | _ | _
  all_goals
    simp +decide [QueryProperties.decoder, QueryProperties.wire, QueryProperties.shape,
      Value.object, Value.insertField, Shape.decode, Shape.firstError, Field.of, Field.accepts,
      Shape.memberSlot, Slot.optional, Slot.withDefault, Decoder.option_str, Priority.name,
      Priority.decoder, Decoder.unitEnum, Decoder.variant, Decoder.option_u32_nat hP, bind,
      Except.bind, pure, Except.pure, Except.map, -String.lt_iff_ltb]

theorem QueryProperties.option_decoder_wire (p : QueryProperties) :
    Decoder.option QueryProperties.decoder p.wire = (QueryProperties.decoder p.wire).map some :=
  rfl

/-- The parameters a session sends (its query, a dialect if any, and its properties) read back
as written. -/
theorem QueryParams.decoder_wire_session (sql : String) (dialect : Option String)
    (pr : Option Priority) {P : Nat} (hP : P < Nat.pow 2 32) :
    QueryParams.decoder
        ({ query := sql, dialect := dialect,
           properties := some { priority := pr, defaultPageSize := some P } } : QueryParams).wire =
      .ok { query := sql, dialect := dialect,
            properties := some { priority := pr, defaultPageSize := some P } } := by
  rcases dialect with _ | d
  all_goals
    simp +decide [QueryParams.decoder, QueryParams.wire, QueryParams.noProperties,
      QueryProperties.isEmpty, QueryParams.props, QueryParams.shape, Value.object,
      Value.insertField, Shape.decode, Shape.firstError, Field.of, Field.accepts,
      Shape.memberSlot, Slot.optional, Slot.required, Slot.withDefault, Decoder.option_str,
      Decoder.string, QueryProperties.option_decoder_wire,
      QueryProperties.decoder_wire_session pr hP, bind, Except.bind, pure, Except.pure,
      Except.map, -String.lt_iff_ltb]

/-- The parameters `Session.make` sends: the query, the configured dialect, and properties
holding the configured priority and page size. -/
theorem SessionConfig.params_eq {c : SessionConfig} {sql : String} {p : QueryParams}
    (h : c.params sql = .ok p) :
    p = { query := sql, dialect := c.dialect,
          properties := some { priority := c.priority, defaultPageSize := some c.pageSize } } ∧
      Text.isBlank sql = false ∧ 0 < c.pageSize := by
  unfold SessionConfig.params SessionConfig.validate QueryParams.make at h
  by_cases hP : c.pageSize = 0
  · simp [hP, bind, Except.bind] at h
  by_cases hb : Text.isBlank sql
  · simp [hP, hb, bind, Except.bind] at h
  refine ⟨?_, by simpa using hb, Nat.pos_of_ne_zero hP⟩
  rcases hd : c.dialect with _ | d <;> rcases hpr : c.priority with _ | pr <;>
  simp_all [bind, Except.bind, pure, Except.pure, QueryParams.withDefaultPageSize,
    QueryParams.withDialect, QueryParams.withPriority, QueryParams.props,
    Nat.pos_of_ne_zero hP]

/-! ## Answers of the service read back -/

theorem QueryJob.decoder_created (id uri : String) :
    QueryJob.decoder (Value.object [("jobId", .str id), ("uri", .str uri)]) =
      .ok { jobId := id, uri := some uri } := by
  simp +decide [QueryJob.decoder, QueryJob.shape, Value.object, Value.insertField, Shape.decode,
    Shape.firstError, Field.of, Field.accepts, Shape.memberSlot, Slot.optional, Slot.required,
    Slot.withDefault, Decoder.option_str, Decoder.string, bind, Except.bind, pure, Except.pure,
    Except.map, -String.lt_iff_ltb]

theorem QueryParams.option_decoder_wire (p : QueryParams) :
    Decoder.option QueryParams.decoder p.wire = (QueryParams.decoder p.wire).map some :=
  rfl

/-! ## Creating and polling a job -/

section Start

variable {w : World} {fs : FakeService} (svc : QueryService) {sql : String}
  {dialect : Option String} {pr : Option Priority} {P : Nat}

/-- The job parameters a session sends. -/
abbrev sessionParams (sql : String) (dialect : Option String) (pr : Option Priority) (P : Nat) :
    QueryParams :=
  { query := sql, dialect := dialect,
    properties := some { priority := pr, defaultPageSize := some P } }

/-- The in-memory service takes a job under an id it does not know yet, when the parameters
carry a query. -/
theorem FakeService.create_fresh (fs : FakeService) {id sql : String} {W : Value}
    (hquery : W.get? "query" = some (.str sql)) (hsql : sql ≠ "") (hfresh : fs.find? id = none) :
    fs.create (some (Value.object [("jobId", .str id), ("params", W)])) =
      ({ status := 200, body := some (Value.object [("jobId", .str id),
          ("uri", .str (FakeService.root ++ "jobs/" ++ id))]) },
       { fs with
         jobs := fs.jobs ++ [(id, { params := W, submitTime := fs.jobs.length + 1 })]
         calls := { fs.calls with creates := fs.calls.creates + 1 } }) := by
  have hbody : Value.object [("jobId", .str id), ("params", W)] =
      .obj [("jobId", .str id), ("params", W)] := by
    simp +decide [Value.object, Value.insertField, -String.lt_iff_ltb]
  have hparams : (Value.obj [("jobId", .str id), ("params", W)]).get? "params" = some W := by
    simp +decide [Value.get?]
  have hid : (Value.obj [("jobId", .str id), ("params", W)]).get? "jobId" = some (.str id) := by
    simp [Value.get?]
  simp [FakeService.create, hbody, hparams, hid, hquery, Value.asString?, hsql, hfresh]

theorem sessionParams_query :
    (sessionParams sql dialect pr P).wire.get? "query" = some (.str sql) := by
  rcases dialect with _ | d <;>
  simp +decide [QueryParams.wire, QueryParams.noProperties, QueryProperties.isEmpty,
    QueryParams.props, Value.object, Value.insertField, Value.get?, -String.lt_iff_ltb]

/-- The in-memory service takes a session's job under an id it does not know yet. -/
theorem createJob_fresh (hw : w.backend = .fake fs) {id : String} (hfresh : fs.find? id = none)
    (hsql : sql ≠ "") :
    let r := (svc.createJob (some id) (some (sessionParams sql dialect pr P))).run.run w
    r.1 = .ok { jobId := id, uri := some (FakeService.root ++ "jobs/" ++ id) } ∧
      r.2.backend = .fake
        { fs with
          jobs := fs.jobs ++ [(id, { params := (sessionParams sql dialect pr P).wire,
                                     submitTime := fs.jobs.length + 1 })]
          calls := { fs.calls with creates := fs.calls.creates + 1 } } ∧
      r.2.panic = w.panic := by
  have hh := (FakeService.handle_create fs svc.credential _).trans
    (congrArg Except.ok (FakeService.create_fresh fs (@sessionParams_query sql dialect pr P) hsql hfresh))
  simp only [QueryService.createJob, Option.map_some, Option.getD_some, List.singleton_append,
    Call.run_bind, Call.run_lift, World.emit_run, QueryService.call, World.send_fake hh, hw]
  simp [QueryService.checked, ApiResponse.intoSuccess, QueryService.expect, decodeBody,
    QueryJob.decoder_created]

/-! ## Completeness of a start -/

theorem Session.make_ok {sql : String} {config : SessionConfig} {svc : QueryService}
    {standalone : Bool} {s : Session} (h : Session.make sql config svc standalone = .ok s) :
    ∃ p, config.params sql = .ok p ∧ s = { params := p, config, service := svc, standalone } := by
  unfold Session.make at h
  rcases hp : config.params sql with e | p <;> simp [hp, bind, Except.bind, pure, Except.pure] at h
  exact ⟨p, rfl, h.symm⟩

theorem mintUuid_ne_empty (space n : Nat) : Text.mintUuid space n ≠ "" := by
  intro h
  have hlen := congrArg String.length h
  simp [Text.mintUuid] at hlen

/-- Page 0 always fits in 64 bits. -/
theorem Behavior.pageFits_zero (b : Behavior) {P : Nat} (hP : P < Nat.pow 2 64) :
    b.PageFits P 0 := by
  have h64 : Nat.pow 2 64 = 18446744073709551616 := rfl
  refine ⟨by simp, ?_, fun _ => by simp⟩
  simp only [Behavior.pageStart, Nat.zero_mul, Nat.zero_min, Nat.zero_add]
  exact hP

/-- The parameters a session sends read back from the job the service keeps. -/
theorem sessionParams_read (hP : P < Nat.pow 2 32) :
    Decoder.option QueryParams.decoder (sessionParams sql dialect pr P).wire =
      .ok (some (sessionParams sql dialect pr P)) := by
  rw [QueryParams.option_decoder_wire, QueryParams.decoder_wire_session sql dialect pr hP]
  rfl

/-- A start on an in-memory service that does not know the next fresh id creates its job under
that id and polls it as `Behavior.pollEnd` says for a new job. A poll that fails ends the start;
one that finds the job done, with no overflow, leaves the fetch of its first page. Whatever the
poll finds, the service behaves as before, still knows the job and has deleted nothing more. -/
theorem Session.launch_polled {s : Session} {config : SessionConfig} {standalone : Bool}
    (hs : Session.make sql config svc standalone = .ok s) (hP32 : config.pageSize < Nat.pow 2 32)
    (hw : w.backend = .fake fs) (hfresh : fs.find? (Text.mintUuid 0 w.minted) = none)
    (hlen : fs.jobs.length + 1 < Nat.pow 2 63) :
    let J := Text.mintUuid 0 w.minted
    ∃ w₃ fs₃, w₃.backend = .fake fs₃ ∧ fs₃.behavior = fs.behavior ∧ (fs₃.find? J).isSome ∧
      fs₃.calls.deletes = fs.calls.deletes ∧
      (∀ e, fs.behavior.pollEnd config.maxPollAttempts J = .error e →
        s.launch.run w = ((some J, .error e), w₃)) ∧
      (fs.behavior.PollsDone config.maxPollAttempts → w₃.panic = w.panic ∧
        s.launch.run w =
          match (fetchPage svc config.pageSize false J .first).run.run w₃ with
          | (.ok first, w₄) =>
            ((some J, .ok { jobId := J, firstPage := first,
                            layout := first.rowsInJob.map fun rows => PageLayout.make rows config.pageSize }),
             w₄)
          | (.error e, w₄) => ((some J, .error e), w₄)) := by
  obtain ⟨p, hparams, rfl⟩ := Session.make_ok hs
  obtain ⟨rfl, hblank, -⟩ := SessionConfig.params_eq hparams
  have hsql : sql ≠ "" := fun h => by simp [h, Text.isBlank] at hblank
  -- the job is created under the fresh id
  have hw₁ : ({ w with minted := w.minted + 1 } : World).backend = .fake fs := hw
  obtain ⟨hc₁, hc₂, hc₃⟩ := @createJob_fresh _ fs svc sql config.dialect config.priority
    config.pageSize hw₁ (Text.mintUuid 0 w.minted) hfresh hsql
  generalize hr₁ : (svc.createJob _ _).run.run _ = r₁ at hc₁ hc₂ hc₃
  rcases r₁ with ⟨_, w₂⟩
  subst hc₁
  simp only [Session.launch, Run.run_bind, World.freshJobId_run, Session.driver, JobDriver.create]
  rw [hr₁]
  simp only at hc₂ hc₃
  simp only [Run.run_bind, Run.run_pure]
  -- the job is known to the service, with the parameters the session sent, never checked
  set J := Text.mintUuid 0 w.minted
  set W := (sessionParams sql config.dialect config.priority config.pageSize).wire
  set job₁ : FakeJob := { params := W, submitTime := fs.jobs.length + 1 } with hjob₁
  set fs₁ : FakeService :=
    { fs with
      jobs := fs.jobs ++ [(J, job₁)]
      calls := { fs.calls with creates := fs.calls.creates + 1 } } with hfs₁
  have hfind₁ : fs₁.find? J = some job₁ := by
    have hnone : fs.jobs.find? (fun e => e.1 == J) = none := by
      simpa [FakeService.find?] using hfresh
    simp [hfs₁, FakeService.find?, List.find?_append, hnone]
  -- the poll ends as the service's behaviour says, after its settling check or its last attempt
  have hpoll := JobDriver.pollUntilDone_fake (d := { service := svc, policy := config.pollPolicy })
    (J := J) hc₂ (mintUuid_ne_empty 0 w.minted) hfind₁ rfl (sessionParams_read hP32) hlen
  have hchecks : job₁.statusChecks + min fs.behavior.settleCheck config.maxPollAttempts <
      Nat.pow 2 32 := by
    rw [show job₁.statusChecks = 0 from rfl, Nat.zero_add]
    exact lt_of_le_of_lt (Nat.min_le_left _ _) Behavior.settleCheck_lt
  obtain ⟨fs₃, hw₃, hb₃, hfind₃, hdel₃, hpanic₃⟩ :=
    JobDriver.afterCheck_fake (d := { service := svc, policy := config.pollPolicy }) (J := J) hc₂
      (mintUuid_ne_empty 0 w.minted) hfind₁ (sessionParams_read hP32) hlen _ hchecks
  refine ⟨_, fs₃, hw₃, hb₃, hfind₃, hdel₃, fun e he => ?_, fun hdone => ⟨?_, ?_⟩⟩
  · simp only [Call.run_bind]
    rw [hpoll]
    dsimp only [SessionConfig.pollPolicy]
    rw [show fs₁.behavior = fs.behavior from rfl, he]
  · -- a poll that finds the job done stops at the check of its final state, below the bound
    have hsettle : min fs.behavior.settleCheck config.maxPollAttempts =
        fs.behavior.pollsBeforeDone := by
      rw [Behavior.settleCheck_of_pollsDone hdone, Nat.min_eq_left hdone.2.1]
    have hbelow : job₁.statusChecks + min fs.behavior.settleCheck config.maxPollAttempts + 1 <
        Nat.pow 2 32 := by
      rw [hsettle, show job₁.statusChecks = 0 from rfl, Nat.zero_add]
      exact hdone.2.2
    rw [hpanic₃ hbelow, hc₃]
  · simp only [Call.run_bind]
    rw [hpoll]
    dsimp only [SessionConfig.pollPolicy]
    rw [show fs₁.behavior = fs.behavior from rfl, Behavior.pollEnd_of_pollsDone hdone]
    dsimp only
    rcases (fetchPage svc config.pageSize false J .first).run.run _ with ⟨_ | first, w₄⟩ <;> rfl

/-- Completeness of a start: on an in-memory service that does not know the next fresh id and
whose poll finds a new job done, the start of a session made by `Session.make` succeeds when page
0 is served. It creates its job under that id, its first page is the service's page 0, and the
service keeps the job. -/
theorem Session.launch_fresh {s : Session} {config : SessionConfig} {standalone : Bool}
    (hs : Session.make sql config svc standalone = .ok s) (hP32 : config.pageSize < Nat.pow 2 32)
    (hw : w.backend = .fake fs) (hfresh : fs.find? (Text.mintUuid 0 w.minted) = none)
    (hlen : fs.jobs.length + 1 < Nat.pow 2 63) (hdone : fs.behavior.PollsDone config.maxPollAttempts)
    (hfail : fs.behavior.failingPage ≠ some 0)
    (hnull : fs.behavior.nullDataPage ≠ some 0) (hR : fs.behavior.rows < Nat.pow 2 64) :
    let J := Text.mintUuid 0 w.minted
    let r := s.launch.run w
    r.1 = (some J, .ok { jobId := J, firstPage := fs.behavior.page config.pageSize 0,
                          layout := (fs.behavior.page config.pageSize 0).rowsInJob.map
                            fun rows => PageLayout.make rows config.pageSize }) ∧
      (∃ fs', r.2.backend = .fake fs' ∧ fs'.behavior = fs.behavior ∧ (fs'.find? J).isSome) ∧
      r.2.panic = w.panic := by
  obtain ⟨w₃, fs₃, hw₃, hb₃, hknown₃, -, -, hpolled⟩ :=
    Session.launch_polled svc hs hP32 hw hfresh hlen
  obtain ⟨hpanic₃, hlaunch⟩ := hpolled hdone
  obtain ⟨job₃, hfind₃⟩ := Option.isSome_iff_exists.mp hknown₃
  obtain ⟨p, hparams, -⟩ := Session.make_ok hs
  obtain ⟨-, -, hP0⟩ := SessionConfig.params_eq hparams
  have hP64 : config.pageSize < Nat.pow 2 64 :=
    lt_trans hP32 (by decide : Nat.pow 2 32 < Nat.pow 2 64)
  -- the first page is the service's page 0
  obtain ⟨q, hq⟩ := @fetchPage_served w₃ fs₃ svc config.pageSize 0 _ .first hw₃ .first
    (mintUuid_ne_empty 0 w.minted) job₃ hfind₃ hP0 hP64 (hb₃ ▸ hR) (hb₃ ▸ hfail) (hb₃ ▸ hnull)
    (Behavior.pageFits_zero _ hP64)
  simp only [hlaunch, hq]
  exact ⟨by simp [hb₃], ⟨fs₃.countResults, rfl, hb₃, by rw [FakeService.find?_countResults, hfind₃]; rfl⟩,
    hpanic₃⟩

end Start

/-! ## Soundness of a start -/

/-- Whatever the service and the job table, a job a session's start hands out has the
service's page 0 as its first page, and the layout of the row count that page reports. -/
theorem Session.launch_ok {s : Session} {w w' : World} {b : Behavior} (hw : w.Serves b)
    (hP : 0 < s.config.pageSize) (hP64 : s.config.pageSize < Nat.pow 2 64)
    (hR : b.rows < Nat.pow 2 64) {created : Option String} {job : ReadyJob}
    (h : s.launch.run w = ((created, .ok job), w')) :
    job.firstPage = b.page s.config.pageSize 0 ∧ b.PageFits s.config.pageSize 0 ∧
      job.layout = (b.page s.config.pageSize 0).rowsInJob.map
        fun rows => PageLayout.make rows s.config.pageSize := by
  unfold Session.launch at h
  simp only [Run.run_bind, World.freshJobId_run] at h
  -- the world the first page is fetched from still has the same service behaviour
  generalize hw₁ : ({ w with minted := w.minted + 1 } : World) = w₁ at h
  have hs₁ : w₁.Serves b := hw₁ ▸ hw
  rcases hc : (s.driver.create (some (Text.mintUuid 0 w.minted)) s.params).run.run w₁ with
    ⟨_ | cj, w₂⟩
  · simp [hc] at h
  have hs₂ : w₂.Serves b := by
    have hfollow := Call.Follows.create s.driver (some (Text.mintUuid 0 w.minted)) s.params w₁
    rw [hc] at hfollow
    exact hfollow.serves b hs₁
  simp only [hc, Run.run_bind, Run.run_pure, Call.run_bind] at h
  rcases hp : (s.driver.pollUntilDone s.cancelled cj.jobId).run.run w₂ with ⟨_ | st, w₃⟩
  · simp [hp] at h
  have hs₃ : w₃.Serves b := by
    have hfollow := Call.Follows.pollUntilDone s.driver s.cancelled cj.jobId w₂
    rw [hp] at hfollow
    exact hfollow.serves b hs₂
  rcases hf : (fetchPage s.service s.config.pageSize s.cancelled cj.jobId .first).run.run w₃ with
    ⟨_ | first, w₄⟩
  · simp [hp, hf] at h
  obtain ⟨fs, hfs, rfl⟩ := hs₃
  obtain ⟨hfirst, hfits⟩ := fetchPage_ok hfs .first hP hP64 hR hf
  simp [hp, hf] at h
  obtain ⟨-, rfl⟩ := h.1
  exact ⟨hfirst, hfits, by rw [hfirst]⟩

end JobQuery
