import JobQuery.Proofs.FakeService
import JobQuery.Proofs.ObjectDecode

/-!
# JobQuery — how a poll spends its attempts

A job driver polls a job by checking its status, and while the job is in flight (`PENDING` or
`RUNNING`) by sleeping the policy's delay and checking again, at most `maxAttempts` times after the
first check. A poll run from a world meets the answers of its checks in order: `answer J i w` is
what its `i`-th check (counting from 0) answers when every check before it found the job in
flight, and `afterCheck J i w` is the world after that check, reached by `i + 1` checks with a
sleep between each two (`beforeCheck`).

Whatever the transport answers, the poll is decided by the first answer that does not keep it
going (`KeepsPolling`):

* when it comes at a check `k ≤ maxAttempts`, the poll returns `DONE`, a `jobFailed` with the
  state found, or the error of that check, in the world after the `k`-th check
  (`pollUntilDone_ends`);
* when every answer up to the `maxAttempts`-th keeps it going, the poll times out with the state
  of the last check and `maxAttempts` attempts (`pollUntilDone_spends`);
* a cancelled poll fails before it sends anything.

By its `k`-th check a poll has sent `k + 1` status checks (`afterCheck_sent`) and slept `k` times;
over the in-memory service each check also waits the service's latency (`afterCheck_clock`,
`afterCheck_clock_fake`). The in-memory service answers `RUNNING` until a job has been checked more
than `pollsBeforeDone` times, then its final state (`answer_fake`); its count of checks is 32 bits
wide, and the check that would carry it past `2^32 - 1` stops the service (`answer_fake_overflow`).
For a job never checked before this fixes the whole poll: `Behavior.pollEnd` is its outcome and
`Behavior.settleCheck` the check it ends at (`pollUntilDone_fake`).

The main result is `pollUntilDone_accounting`.
-/

namespace JobQuery
open Json

/-! ## Calls that leave the world alone -/

namespace World

/-- Whatever the transport, sending a request records that request, and nothing else. -/
theorem send_sent (r : ApiRequest) (w : World) : ((send r).run.run w).2.sent = w.sent.push r := by
  unfold send
  rw [Call.run_bind, Call.run_modify]
  dsimp only
  rw [Call.run_bind, Call.run_get]
  dsimp only
  -- every transport only replaces its own state after the request is recorded
  rcases w.backend with fs | q | link
  · dsimp only
    split <;> rfl
  · cases q with
    | nil => rfl
    | cons c rest => cases c <;> rfl
  · dsimp only
    split <;> rfl

end World

namespace Call

/-- A call followed by steps that leave the world alone leaves the world as the call does. -/
theorem world_bind_quiet {α β : Type} {x : Call α} {g : α → Call β}
    (hg : ∀ a w, ((g a).run.run w).2 = w) (w : World) :
    ((x >>= g).run.run w).2 = (x.run.run w).2 := by
  rw [Call.run_bind]
  rcases x.run.run w with ⟨_ | a, w'⟩
  · rfl
  · exact hg a w'

end Call

namespace QueryService

theorem checked_world {α : Type} (r : Except QueryError α) (w : World) :
    ((checked r).run.run w).2 = w := by
  cases r <;> rfl

theorem expect_world {α : Type} (d : Json.Decoder α) (what : String) (body : Option Json.Value)
    (w : World) : ((expect d what body).run.run w).2 = w := by
  unfold expect
  split <;> rfl

end QueryService

namespace JobDriver

/-- A cancelled status check fails before it sends. -/
theorem check_cancelled (d : JobDriver) (jobId : String) (w : World) :
    (d.check true jobId).run.run w = (.error .cancelled, w) := rfl

/-- Polling a cancelled job fails at its first check, sending nothing. -/
theorem pollUntilDone_cancelled (d : JobDriver) (jobId : String) (w : World) :
    (d.pollUntilDone true jobId).run.run w = (.error .cancelled, w) := by
  unfold pollUntilDone
  rw [Call.run_bind, check_cancelled]

end JobDriver

/-! ## A status detail read back -/

/-- The 32-bit bound as a numeral, for `omega`. -/
theorem pow_two_32 : Nat.pow 2 32 = 4294967296 := rfl

/-- States compare as they are equal. -/
@[simp] theorem JobState.beq_eq_decide (a b : JobState) : (a == b) = decide (a = b) := by
  cases a <;> cases b <;> rfl

theorem JobState.decoder_name (s : JobState) : JobState.decoder (.str s.name) = .ok s := by
  cases s <;> rfl

theorem Decoder.i64_nat {n : Nat} (h : n < Nat.pow 2 63) : Decoder.i64 (Value.nat n) = .ok n := by
  have h63 : n < 9223372036854775808 := h
  have hle : (n : Int) ≤ 9223372036854775807 := by omega
  simp only [Decoder.i64, Decoder.intRange, Value.nat]
  simp [hle]

/-- The progress the in-memory service reports reads back: done jobs at 100, others at 50. -/
theorem JobProgress.option_decoder_detail (s : JobState) :
    Decoder.option JobProgress.decoder
        (Value.object [("completionPct", Value.nat (if s == .done then 100 else 50))]) =
      .ok (some ⟨if s == .done then 100 else 50⟩) := by
  cases s <;> rfl

theorem JobDetail.shape_plain : JobDetail.shape.Plain := by
  simp [Shape.Plain, JobDetail.shape, Field.of]

/-- Every member of a status detail the in-memory service writes passes the check of its field,
when the job's parameters do. -/
theorem FakeService.detail_checks (id : String) (job : FakeJob) (s : JobState)
    {p : Option QueryParams} (hparams : Decoder.option QueryParams.decoder job.params = .ok p)
    (hsubmit : job.submitTime < Nat.pow 2 63) :
    ∀ kv ∈ [("jobId", Value.str id), ("state", Value.str s.name),
      ("submitTime", Value.nat job.submitTime),
      ("progress", Value.object [("completionPct", Value.nat (if s == .done then 100 else 50))]),
      ("params", job.params)],
      ∀ f ∈ JobDetail.shape.fields, f.name = kv.1 → f.check kv.2 = none := by
  intro kv hkv f hf hname
  simp only [JobDetail.shape, List.mem_cons, List.not_mem_nil, or_false] at hf
  simp only [List.mem_cons, List.not_mem_nil, or_false] at hkv
  -- only the field of the member's own name is left in each case
  rcases hkv with rfl | rfl | rfl | rfl | rfl <;>
    rcases hf with rfl | rfl | rfl | rfl | rfl | rfl | rfl | rfl <;> simp [Field.of] at hname
  · exact Field.check_of_ok [] (rfl : Decoder.string (.str id) = .ok id)
  · exact Field.check_of_ok [] (JobState.decoder_name s)
  · exact Field.check_of_ok [] (Decoder.i64_nat hsubmit)
  · exact Field.check_of_ok [] (JobProgress.option_decoder_detail s)
  · exact Field.check_of_ok [] hparams

/-- The status detail the in-memory service writes reads back, field by field, as the detail of
the job in that state, when the job's parameters do. -/
theorem JobDetail.decoder_detail (id : String) (job : FakeJob) (s : JobState)
    {p : Option QueryParams} (hparams : Decoder.option QueryParams.decoder job.params = .ok p)
    (hsubmit : job.submitTime < Nat.pow 2 63) :
    JobDetail.decoder (FakeService.detail id job s) =
      .ok { jobId := id, state := s, submitTime := job.submitTime,
            progress := some ⟨if s == .done then 100 else 50⟩, params := p } := by
  obtain ⟨members, hm⟩ : ∃ members, FakeService.detail id job s = .obj members := ⟨_, rfl⟩
  have hslot : ∀ name, (shape.fields.find? (fun f => f.name == name)).isSome →
      shape.memberSlot members name =
        Slot.ofMember name ((FakeService.detail id job s).get? name) := by
    intro name hf
    rw [hm]
    exact Shape.memberSlot_plain shape_plain members hf
  rw [decoder, hm, Shape.decode_object shape_plain _ hm
      (FakeService.detail_checks id job s hparams hsubmit)]
  -- every field the shape reads is one of its own, so each slot is read from the member
  simp (disch := simp [shape, Field.of]) only [hslot]
  -- each member is read by its own decoder; the three absent ones are left out
  simp only [FakeService.detail, Value.get?_object, List.reverse_cons, List.reverse_nil,
    List.nil_append, List.cons_append, List.find?_cons, String.reduceBEq,
    List.find?_nil, Option.map_some, Option.map_none, Slot.ofMember, Slot.required,
    Slot.optional, Slot.withDefault, JobState.decoder_name, Decoder.i64_nat hsubmit,
    JobProgress.option_decoder_detail, hparams]
  rfl

/-! ## Status checks on the in-memory service -/

namespace FakeService

theorem find?_update_self (s : FakeService) (J : String) (job : FakeJob) :
    (s.update J job).find? J = (s.find? J).map fun _ => job := by
  simp only [find?, update, List.find?_map, Option.map_map]
  have hp : ((fun e : String × FakeJob => e.1 == J) ∘ fun e => if e.1 == J then (J, job) else e) =
      fun e => e.1 == J := by
    funext e
    by_cases he : e.1 = J <;> simp [he]
  rw [hp]
  rcases h : s.jobs.find? (fun e => e.1 == J) with _ | e
  · rw [h]; rfl
  · have he := List.find?_some h
    simp only [beq_iff_eq] at he
    rw [h]
    simp [he]

/-- After a status check of a job, the job found is the one the check wrote. -/
theorem find?_countStatus_update {J : String} {job : FakeJob} (s : FakeService)
    (h : s.find? J = some job) (job' : FakeJob) : (s.countStatus.update J job').find? J = some job' := by
  simp [find?_update_self, h]

end FakeService

/-- A status check of a job the in-memory service knows, below the 32-bit bound of its check
count, reports the state the service gives it after counting the check. -/
theorem QueryService.getJobStatus_fake (svc : QueryService) {w : World} {fs : FakeService}
    (hw : w.backend = .fake fs) {J : String} (hJ : J ≠ "") {job : FakeJob}
    (hfind : fs.find? J = some job) (hlt : job.statusChecks + 1 < Nat.pow 2 32)
    {q : Option QueryParams} (hparams : Decoder.option QueryParams.decoder job.params = .ok q)
    (hsubmit : job.submitTime < Nat.pow 2 63) :
    ∃ dt : JobDetail,
      dt.state = FakeService.stateOf fs.behavior { job with statusChecks := job.statusChecks + 1 } ∧
      (svc.getJobStatus J).run.run w =
        (.ok dt, { w with sent := w.sent.push { method := .get, path := root ++ "jobs",
                                                resourceId := some J, credential := svc.credential }
                          backend := .fake (fs.countStatus.update J
                            { job with statusChecks := job.statusChecks + 1 })
                          clock := w.clock + fs.behavior.latencyMs }) := by
  obtain ⟨dt, hdt, hstate⟩ : ∃ dt : JobDetail,
      JobDetail.decoder (FakeService.detail J { job with statusChecks := job.statusChecks + 1 }
          (FakeService.stateOf fs.behavior { job with statusChecks := job.statusChecks + 1 })) =
        .ok dt ∧
        dt.state = FakeService.stateOf fs.behavior { job with statusChecks := job.statusChecks + 1 } :=
    ⟨_, JobDetail.decoder_detail J _ _ hparams hsubmit, rfl⟩
  have hh := (FakeService.handle_status fs J svc.credential).trans (FakeService.status_known hfind hlt)
  have hid : J.isEmpty = false := by simpa [String.isEmpty_iff] using hJ
  refine ⟨dt, hstate, ?_⟩
  simp only [QueryService.getJobStatus, QueryService.checked, QueryService.jobRequest, hid,
    Bool.false_eq_true, if_false, Call.run_bind, Call.run_pure, QueryService.call]
  simp only [World.send_fake hh hw, FakeService.update_behavior, FakeService.countStatus_behavior]
  simp [ApiResponse.intoSuccess, QueryService.expect, decodeBody, hdt]

/-- The status check that would take a job's check count past the largest 32-bit number stops
the in-memory service: the run records the overflow, and the client sees a transport error. -/
theorem QueryService.getJobStatus_fake_overflow (svc : QueryService) {w : World}
    {fs : FakeService} (hw : w.backend = .fake fs) {J : String} (hJ : J ≠ "") {job : FakeJob}
    (hfind : fs.find? J = some job) (hge : Nat.pow 2 32 ≤ job.statusChecks + 1) :
    (svc.getJobStatus J).run.run w =
      (.error (.transport "attempt to add with overflow"),
       { w with sent := w.sent.push { method := .get, path := root ++ "jobs", resourceId := some J,
                                      credential := svc.credential }
                panic := w.panic <|> some "attempt to add with overflow" }) := by
  have hh := (FakeService.handle_status fs J svc.credential).trans (FakeService.status_overflow hfind hge)
  have hid : J.isEmpty = false := by simpa [String.isEmpty_iff] using hJ
  simp only [QueryService.getJobStatus, QueryService.checked, QueryService.jobRequest, hid,
    Bool.false_eq_true, if_false, Call.run_bind, Call.run_pure, QueryService.call]
  simp only [World.send_fake_overflow hh hw]

namespace JobDriver

variable (d : JobDriver) (J : String)

/-- The world a poll of job `J` makes its `n`-th status check in (counting from 0), when every
check before it found the job in flight: the checks alternate with sleeps of the policy's
delay. -/
def beforeCheck : Nat → World → World
  | 0, w => w
  | n + 1, w =>
    ((World.sleep d.policy.delayMs).run ((d.check false J).run.run (beforeCheck n w)).2).2

/-- What the `n`-th status check of a poll answers. -/
def answer (n : Nat) (w : World) : Except QueryError JobState :=
  ((d.check false J).run.run (d.beforeCheck J n w)).1

/-- The world after the `n`-th status check of a poll. -/
def afterCheck (n : Nat) (w : World) : World :=
  ((d.check false J).run.run (d.beforeCheck J n w)).2

/-- An answer that keeps a poll going: a state in flight. -/
def KeepsPolling (a : Except QueryError JobState) : Prop := ∃ s, a = .ok s ∧ s.inFlight = true

variable {d J}

theorem check_run (n : Nat) (w : World) :
    (d.check false J).run.run (d.beforeCheck J n w) = (d.answer J n w, d.afterCheck J n w) := rfl

/-- A state that is not in flight ends the poll. -/
theorem settle_settled {c : Bool} {s : JobState} (hs : s.inFlight = false) (r a : Nat) (v : World) :
    (d.settle c J r a s).run.run v =
      (if s = .done then .ok .done else .error (.jobFailed J s), v) := by
  unfold settle
  by_cases hd : s = .done
  · subst hd; rfl
  · simp [hs, hd]

/-- A state in flight with no attempt left is a timeout. -/
theorem settle_spent {c : Bool} {s : JobState} (hs : s.inFlight = true) (a : Nat) (v : World) :
    (d.settle c J 0 a s).run.run v = (.error (.jobTimeout J s a), v) := by
  unfold settle
  simp [hs]

/-- A state in flight with an attempt left: sleep, check again, and go on with the answer. -/
theorem settle_inFlight {s : JobState} (hs : s.inFlight = true) (r a n : Nat) (w : World) :
    (d.settle false J (r + 1) a s).run.run (d.afterCheck J n w) =
      match d.answer J (n + 1) w with
      | .ok s' => (d.settle false J r (a + 1) s').run.run (d.afterCheck J (n + 1) w)
      | .error e => (.error e, d.afterCheck J (n + 1) w) := by
  have hsleep : d.beforeCheck J (n + 1) w =
      ((World.sleep d.policy.delayMs).run (d.afterCheck J n w)).2 := rfl
  conv => lhs; unfold settle
  simp only [hs, if_true, Bool.false_eq_true, if_false, Call.run_bind, Call.run_lift, ← hsleep,
    check_run]
  rcases d.answer J (n + 1) w with e | s' <;> rfl

/-- What a poll returns when the answer `a` of a check ends it: the error of a failed check,
`DONE`, or `jobFailed` with any other state. -/
def endOf (J : String) : Except QueryError JobState → Except QueryError JobState
  | .error e => .error e
  | .ok s => if s = .done then .ok .done else .error (.jobFailed J s)

theorem not_keepsPolling_ok {s : JobState} : ¬KeepsPolling (.ok s) ↔ s.inFlight = false := by
  simp [KeepsPolling]

/-- From the `n`-th check on, a poll with `r` attempts left ends at the first answer `k` that
does not keep it going, when that answer comes within the attempts left. -/
theorem settle_ends {w : World} {k : Nat} (hk : ¬KeepsPolling (d.answer J k w)) :
    ∀ r n s, d.answer J n w = .ok s → n ≤ k → k ≤ n + r →
      (∀ i, n ≤ i → i < k → KeepsPolling (d.answer J i w)) →
      (d.settle false J r n s).run.run (d.afterCheck J n w) = (endOf J (d.answer J k w), d.afterCheck J k w) := by
  intro r
  induction r with
  | zero =>
    intro n s hs hnk hkn _
    obtain rfl : k = n := by omega
    rw [hs] at hk ⊢
    rw [settle_settled (not_keepsPolling_ok.mp hk)]
    rfl
  | succ r ih =>
    intro n s hs hnk hkn hkeep
    rcases Nat.eq_or_lt_of_le hnk with rfl | hlt
    · rw [hs] at hk ⊢
      rw [settle_settled (not_keepsPolling_ok.mp hk)]
      rfl
    · obtain ⟨s₀, hs₀, hflight⟩ := hkeep n le_rfl hlt
      rw [hs₀] at hs
      cases hs
      rw [settle_inFlight hflight]
      rcases hnext : d.answer J (n + 1) w with e | s'
      · -- an error ends the poll, so it is the answer `k`
        have hk1 : k = n + 1 := by
          by_contra hne
          obtain ⟨_, h, _⟩ := hkeep (n + 1) (by omega) (by omega)
          rw [hnext] at h
          cases h
        subst hk1
        rw [hnext]
        rfl
      · exact ih (n + 1) s' hnext (by omega) (by omega) fun i hi hik => hkeep i (by omega) hik

/-- From the `n`-th check on, a poll whose answers all keep it going spends its `r` attempts
left and times out with the last state it saw. -/
theorem settle_spends {w : World} :
    ∀ r n s, d.answer J n w = .ok s → (∀ i, n ≤ i → i ≤ n + r → KeepsPolling (d.answer J i w)) →
      ∀ s', d.answer J (n + r) w = .ok s' →
        (d.settle false J r n s).run.run (d.afterCheck J n w) =
          (.error (.jobTimeout J s' (n + r)), d.afterCheck J (n + r) w) := by
  intro r
  induction r with
  | zero =>
    intro n s hs hkeep s' hs'
    rw [Nat.add_zero, hs] at hs'
    cases hs'
    obtain ⟨_, h, hflight⟩ := hkeep n le_rfl (by omega)
    rw [hs] at h
    cases h
    rw [settle_spent hflight]
    rfl
  | succ r ih =>
    intro n s hs hkeep s' hs'
    obtain ⟨s₀, hs₀, hflight⟩ := hkeep n le_rfl (by omega)
    rw [hs₀] at hs
    cases hs
    rw [settle_inFlight hflight]
    obtain ⟨s₁, hs₁, -⟩ := hkeep (n + 1) (by omega) (by omega)
    rw [hs₁]
    dsimp only
    have hidx : n + 1 + r = n + (r + 1) := by omega
    rw [ih (n + 1) s₁ hs₁ (fun i hi hir => hkeep i (by omega) (by omega)) s' (hidx ▸ hs'), hidx]

/-- A poll is its first check, then the settling of what it answered. -/
theorem pollUntilDone_run (w : World) :
    (d.pollUntilDone false J).run.run w =
      match d.answer J 0 w with
      | .ok s => (d.settle false J d.policy.maxAttempts 0 s).run.run (d.afterCheck J 0 w)
      | .error e => (.error e, d.afterCheck J 0 w) := by
  have hfirst : (d.check false J).run.run w = (d.answer J 0 w, d.afterCheck J 0 w) := check_run 0 w
  unfold pollUntilDone
  rw [Call.run_bind, hfirst]
  rcases d.answer J 0 w with e | s <;> rfl

/-- A poll ends at the first answer that does not keep it going, when that answer comes within
the budget of attempts: after that many sleeps and one more check. -/
theorem pollUntilDone_ends {w : World} {k : Nat} (hk : k ≤ d.policy.maxAttempts)
    (hkeep : ∀ i < k, KeepsPolling (d.answer J i w)) (hend : ¬KeepsPolling (d.answer J k w)) :
    (d.pollUntilDone false J).run.run w = (endOf J (d.answer J k w), d.afterCheck J k w) := by
  rw [pollUntilDone_run]
  rcases h0 : d.answer J 0 w with e | s
  · -- a first check that fails is the answer that ends the poll
    have hk0 : k = 0 := by
      by_contra hne
      obtain ⟨_, h, _⟩ := hkeep 0 (by omega)
      rw [h0] at h
      cases h
    subst hk0
    rw [h0]
    rfl
  · exact settle_ends hend _ 0 s h0 (Nat.zero_le k) (by omega) fun i _ hi => hkeep i hi

/-- A poll whose answers all keep it going, up to the check after the last attempt, times out
with the state that check found and the number of attempts. -/
theorem pollUntilDone_spends {w : World}
    (hkeep : ∀ i ≤ d.policy.maxAttempts, KeepsPolling (d.answer J i w)) {s : JobState}
    (hs : d.answer J d.policy.maxAttempts w = .ok s) :
    (d.pollUntilDone false J).run.run w =
      (.error (.jobTimeout J s d.policy.maxAttempts), d.afterCheck J d.policy.maxAttempts w) := by
  rw [pollUntilDone_run]
  obtain ⟨s₀, h0, -⟩ := hkeep 0 (Nat.zero_le _)
  rw [h0]
  have h := settle_spends d.policy.maxAttempts 0 s₀ h0 (fun i _ hi => hkeep i (by omega)) s
    (by rw [Nat.zero_add]; exact hs)
  rw [Nat.zero_add] at h
  exact h

variable (d J) in
/-- The status check of job `J` a driver sends. -/
def statusRequest : ApiRequest :=
  { method := .get, path := QueryService.root ++ "jobs", resourceId := some J,
    credential := d.service.credential }

section Fake

variable {w : World} {fs : FakeService} {job : FakeJob} {q : Option QueryParams}

/-- A status check of a job the in-memory service knows, below the 32-bit bound of its check
count. -/
theorem check_fake {v : World} (hv : v.backend = .fake fs) (hJ : J ≠ "")
    (hfind : fs.find? J = some job) (hlt : job.statusChecks + 1 < Nat.pow 2 32)
    (hparams : Decoder.option QueryParams.decoder job.params = .ok q)
    (hsubmit : job.submitTime < Nat.pow 2 63) :
    (d.check false J).run.run v =
      (.ok (FakeService.stateOf fs.behavior { job with statusChecks := job.statusChecks + 1 }),
       { v with sent := v.sent.push (d.statusRequest J)
                backend := .fake (fs.countStatus.update J { job with statusChecks := job.statusChecks + 1 })
                clock := v.clock + fs.behavior.latencyMs }) := by
  obtain ⟨dt, hstate, hrun⟩ := d.service.getJobStatus_fake hv hJ hfind hlt hparams hsubmit
  unfold check
  simp only [Bool.false_eq_true, if_false, Call.run_bind, hrun, Call.run_pure, hstate]
  rfl

/-- The status check at the 32-bit bound of a job's check count stops the in-memory service. -/
theorem check_fake_overflow {v : World} (hv : v.backend = .fake fs) (hJ : J ≠ "")
    (hfind : fs.find? J = some job) (hge : Nat.pow 2 32 ≤ job.statusChecks + 1) :
    (d.check false J).run.run v =
      (.error (.transport "attempt to add with overflow"),
       { v with sent := v.sent.push (d.statusRequest J)
                panic := v.panic <|> some "attempt to add with overflow" }) := by
  unfold check
  simp only [Bool.false_eq_true, if_false, Call.run_bind,
    d.service.getJobStatus_fake_overflow hv hJ hfind hge]
  rfl

/-- Along a poll of a job the in-memory service knows, the `i`-th check finds the job checked
`i` more times, the clock moved by `i` sleeps and `i` answers, and no overflow yet, as long as
the count stays within 32 bits. -/
theorem beforeCheck_fake (hw : w.backend = .fake fs) (hJ : J ≠ "") (hfind : fs.find? J = some job)
    (hparams : Decoder.option QueryParams.decoder job.params = .ok q)
    (hsubmit : job.submitTime < Nat.pow 2 63) (i : Nat) (hi : job.statusChecks + i < Nat.pow 2 32) :
    ∃ fs' : FakeService, (d.beforeCheck J i w).backend = .fake fs' ∧ fs'.behavior = fs.behavior ∧
      fs'.find? J = some { job with statusChecks := job.statusChecks + i } ∧
      fs'.calls.deletes = fs.calls.deletes ∧
      (d.beforeCheck J i w).clock = w.clock + i * (d.policy.delayMs + fs.behavior.latencyMs) ∧
      (d.beforeCheck J i w).panic = w.panic := by
  induction i with
  | zero => exact ⟨fs, hw, rfl, by simpa using hfind, rfl, by simp [beforeCheck], rfl⟩
  | succ i ih =>
    obtain ⟨fs', hback, hbeh, hfind', hdel, hclock, hpanic⟩ := ih (by omega)
    have hrun := d.check_fake hback hJ hfind' (by omega) hparams hsubmit
    refine ⟨fs'.countStatus.update J { job with statusChecks := job.statusChecks + i + 1 }, ?_, ?_,
      ?_, hdel, ?_, ?_⟩
    · simp [beforeCheck, hrun]
    · simp [hbeh]
    · rw [FakeService.find?_countStatus_update fs' hfind']
      simp [Nat.add_assoc]
    · simp only [beforeCheck, hrun, World.sleep_run, hclock, hbeh]
      ring
    · simp [beforeCheck, hrun, World.sleep_run, hpanic]

/-- The answers a poll gets from the in-memory service below the 32-bit bound: `RUNNING` while
the job has been checked no more than `pollsBeforeDone` times, then the final state. -/
theorem answer_fake (hw : w.backend = .fake fs) (hJ : J ≠ "") (hfind : fs.find? J = some job)
    (hparams : Decoder.option QueryParams.decoder job.params = .ok q)
    (hsubmit : job.submitTime < Nat.pow 2 63) (i : Nat)
    (hi : job.statusChecks + i + 1 < Nat.pow 2 32) :
    d.answer J i w =
      .ok (if job.statusChecks + i < fs.behavior.pollsBeforeDone then .running
           else fs.behavior.finalState) := by
  obtain ⟨fs', hback, hbeh, hfind', -⟩ := d.beforeCheck_fake hw hJ hfind hparams hsubmit i (by omega)
  rw [answer, d.check_fake hback hJ hfind' (by simpa using hi) hparams hsubmit]
  simp [FakeService.stateOf, hbeh]

/-- The check that takes a job's count to the 32-bit bound stops the in-memory service: it
answers the overflow as a transport error, and the run records it. -/
theorem answer_fake_overflow (hw : w.backend = .fake fs) (hJ : J ≠ "")
    (hfind : fs.find? J = some job) (hparams : Decoder.option QueryParams.decoder job.params = .ok q)
    (hsubmit : job.submitTime < Nat.pow 2 63) (i : Nat)
    (hi : job.statusChecks + i + 1 = Nat.pow 2 32) :
    d.answer J i w = .error (.transport "attempt to add with overflow") ∧
      (d.afterCheck J i w).panic = (w.panic <|> some "attempt to add with overflow") := by
  obtain ⟨fs', hback, -, hfind', -, -, hpanic⟩ :=
    d.beforeCheck_fake hw hJ hfind hparams hsubmit i (by omega)
  have hrun := d.check_fake_overflow hback hJ hfind' (by dsimp only; omega)
  rw [answer, afterCheck, hrun]
  exact ⟨rfl, by simp [hpanic]⟩

end Fake

end JobDriver

/-! ## A poll of a new job on the in-memory service -/

namespace Behavior

variable (b : Behavior)

/-- What the `i`-th status check of a job never checked before answers: `RUNNING` for the first
`pollsBeforeDone` checks, then the final state, until the check that overflows the job's 32-bit
count. -/
def checkAnswer (i : Nat) : Except QueryError JobState :=
  if i + 1 < Nat.pow 2 32 then .ok (if i < b.pollsBeforeDone then .running else b.finalState)
  else .error (.transport "attempt to add with overflow")

/-- The first check of a new job whose answer ends a poll: the first one past `pollsBeforeDone`
when the final state is terminal, and at the latest the one that overflows. -/
def settleCheck : Nat :=
  if b.finalState.inFlight then Nat.pow 2 32 - 1 else min b.pollsBeforeDone (Nat.pow 2 32 - 1)

/-- How a poll of a new job with `m` attempts ends: as the answer of the settling check says
when it comes within the attempts, else with a timeout at the `m`-th check. -/
def pollEnd (m : Nat) (J : String) : Except QueryError JobState :=
  if b.settleCheck ≤ m then JobDriver.endOf J (b.checkAnswer b.settleCheck)
  else .error (.jobTimeout J (if m < b.pollsBeforeDone then .running else b.finalState) m)

/-- A poll of a new job with `m` attempts finds it done: the final state is `DONE`, and it comes
within the attempts, before the job's check count overflows. -/
def PollsDone (m : Nat) : Prop :=
  b.finalState = .done ∧ b.pollsBeforeDone ≤ m ∧ b.pollsBeforeDone + 1 < Nat.pow 2 32

variable {b}

theorem settleCheck_lt : b.settleCheck < Nat.pow 2 32 := by
  have h32 := pow_two_32
  unfold settleCheck
  split
  · omega
  · exact lt_of_le_of_lt (Nat.min_le_right _ _) (by omega)

/-- Below the bound, the settling check is the first one past `pollsBeforeDone`, and the final
state is terminal. -/
theorem settleCheck_below (h : b.settleCheck + 1 < Nat.pow 2 32) :
    b.settleCheck = b.pollsBeforeDone ∧ b.finalState.inFlight = false := by
  have h32 := pow_two_32
  unfold settleCheck at h ⊢
  split at h
  · omega
  · rename_i hterm
    rw [if_neg hterm]
    -- below the bound, the minimum is `pollsBeforeDone` itself
    have hp : b.pollsBeforeDone ≤ Nat.pow 2 32 - 1 := by
      by_contra hgt
      rw [Nat.min_eq_right (by omega)] at h
      omega
    exact ⟨Nat.min_eq_left hp, Bool.eq_false_iff.mpr hterm⟩

/-- Every check before the settling one keeps a poll going. -/
theorem keepsPolling_checkAnswer {i : Nat} (hi : i < b.settleCheck) :
    JobDriver.KeepsPolling (b.checkAnswer i) := by
  have hbound : i + 1 < Nat.pow 2 32 := lt_of_le_of_lt hi settleCheck_lt
  by_cases hrun : i < b.pollsBeforeDone
  · exact ⟨.running, by simp [checkAnswer, hbound, hrun], rfl⟩
  · -- past `pollsBeforeDone` before the settling check: the final state is in flight
    have hflight : b.finalState.inFlight = true := by
      by_contra hterm
      rw [settleCheck, if_neg hterm] at hi
      exact hrun (Nat.lt_min.mp hi).1
    exact ⟨b.finalState, by simp [checkAnswer, hbound, hrun], hflight⟩

/-- The settling check ends a poll. -/
theorem not_keepsPolling_settleCheck : ¬ JobDriver.KeepsPolling (b.checkAnswer b.settleCheck) := by
  rintro ⟨s, hs, hflight⟩
  unfold checkAnswer at hs
  split at hs
  · rename_i hlt
    obtain ⟨hsettle, hterm⟩ := settleCheck_below hlt
    rw [hsettle, if_neg (lt_irrefl _)] at hs
    cases hs
    rw [hterm] at hflight
    cases hflight
  · cases hs

/-- A poll that ends with a state has found the job done. -/
theorem pollsDone_of_pollEnd_ok {m : Nat} {J : String} {s : JobState}
    (h : b.pollEnd m J = .ok s) : b.PollsDone m := by
  unfold pollEnd at h
  split at h
  · rename_i hle
    unfold checkAnswer at h
    split at h
    · rename_i hlt
      obtain ⟨hsettle, -⟩ := settleCheck_below hlt
      rw [hsettle, if_neg (lt_irrefl _)] at h
      by_cases hdone : b.finalState = .done
      · exact ⟨hdone, hsettle ▸ hle, hsettle ▸ hlt⟩
      · simp [JobDriver.endOf, hdone] at h
    · cases h
  · cases h

/-- A poll that finds the job done settles at the check after the `pollsBeforeDone` running
ones. -/
theorem settleCheck_of_pollsDone {m : Nat} (h : b.PollsDone m) :
    b.settleCheck = b.pollsBeforeDone := by
  obtain ⟨hdone, -, hlt⟩ := h
  have h32 := pow_two_32
  rw [settleCheck, if_neg (by simp [hdone, JobState.inFlight]), Nat.min_def, if_pos (by omega)]

theorem pollEnd_of_pollsDone {m : Nat} {J : String} (h : b.PollsDone m) :
    b.pollEnd m J = .ok .done := by
  have hsettle := settleCheck_of_pollsDone h
  obtain ⟨hdone, hle, hlt⟩ := h
  rw [pollEnd, if_pos (hsettle ▸ hle), hsettle, checkAnswer, if_pos hlt, if_neg (lt_irrefl _),
    hdone]
  rfl

/-- A poll that does not find the job done fails. -/
theorem pollEnd_error {m : Nat} {J : String} (h : ¬ b.PollsDone m) :
    ∃ e, b.pollEnd m J = .error e := by
  rcases hp : b.pollEnd m J with e | s
  · exact ⟨e, rfl⟩
  · exact absurd (pollsDone_of_pollEnd_ok hp) h

end Behavior

namespace JobDriver

section Fake

variable {d : JobDriver} {J : String} {w : World} {fs : FakeService} {job : FakeJob}
  {q : Option QueryParams}

/-- The answers a poll gets from the in-memory service about a job never checked before, up to
the check that overflows its count. -/
theorem answer_new (hw : w.backend = .fake fs) (hJ : J ≠ "") (hfind : fs.find? J = some job)
    (hnew : job.statusChecks = 0) (hparams : Decoder.option QueryParams.decoder job.params = .ok q)
    (hsubmit : job.submitTime < Nat.pow 2 63) {i : Nat} (hi : i < Nat.pow 2 32) :
    d.answer J i w = fs.behavior.checkAnswer i := by
  by_cases hlt : i + 1 < Nat.pow 2 32
  · rw [answer_fake hw hJ hfind hparams hsubmit i (by omega)]
    simp [Behavior.checkAnswer, hlt, hnew]
  · rw [(answer_fake_overflow hw hJ hfind hparams hsubmit i (by omega)).1]
    simp [Behavior.checkAnswer, hlt]

/-- A poll of a job the in-memory service has never checked ends as `Behavior.pollEnd` says,
after its settling check or its last attempt, whichever comes first. -/
theorem pollUntilDone_fake (hw : w.backend = .fake fs) (hJ : J ≠ "") (hfind : fs.find? J = some job)
    (hnew : job.statusChecks = 0) (hparams : Decoder.option QueryParams.decoder job.params = .ok q)
    (hsubmit : job.submitTime < Nat.pow 2 63) :
    (d.pollUntilDone false J).run.run w =
      (fs.behavior.pollEnd d.policy.maxAttempts J,
       d.afterCheck J (min fs.behavior.settleCheck d.policy.maxAttempts) w) := by
  have hbound := Behavior.settleCheck_lt (b := fs.behavior)
  have hans : ∀ i ≤ fs.behavior.settleCheck, d.answer J i w = fs.behavior.checkAnswer i :=
    fun i hi => answer_new hw hJ hfind hnew hparams hsubmit (by omega)
  by_cases hk : fs.behavior.settleCheck ≤ d.policy.maxAttempts
  · -- the settling check comes within the attempts and decides the poll
    have hkeep : ∀ i < fs.behavior.settleCheck, KeepsPolling (d.answer J i w) := fun i hi => by
      rw [hans i hi.le]
      exact Behavior.keepsPolling_checkAnswer hi
    have hend : ¬ KeepsPolling (d.answer J fs.behavior.settleCheck w) := by
      rw [hans _ le_rfl]
      exact Behavior.not_keepsPolling_settleCheck
    rw [pollUntilDone_ends hk hkeep hend, hans _ le_rfl, Behavior.pollEnd, if_pos hk,
      Nat.min_eq_left hk]
  · -- every answer up to the last attempt keeps the poll going
    have hm : d.policy.maxAttempts < fs.behavior.settleCheck := by omega
    have hkeep : ∀ i ≤ d.policy.maxAttempts, KeepsPolling (d.answer J i w) := fun i hi => by
      rw [hans i (by omega)]
      exact Behavior.keepsPolling_checkAnswer (by omega)
    have hlast : d.answer J d.policy.maxAttempts w =
        .ok (if d.policy.maxAttempts < fs.behavior.pollsBeforeDone then .running
          else fs.behavior.finalState) := by
      rw [hans _ hm.le]
      simp [Behavior.checkAnswer, show d.policy.maxAttempts + 1 < Nat.pow 2 32 by omega]
    rw [pollUntilDone_spends hkeep hlast, Behavior.pollEnd, if_neg hk, Nat.min_eq_right hm.le]

/-- The in-memory service after a check of a poll, up to the one that overflows: it behaves as
before, still knows the job and has deleted nothing more; below the bound nothing overflowed. -/
theorem afterCheck_fake (hw : w.backend = .fake fs) (hJ : J ≠ "") (hfind : fs.find? J = some job)
    (hparams : Decoder.option QueryParams.decoder job.params = .ok q)
    (hsubmit : job.submitTime < Nat.pow 2 63) (k : Nat) (hk : job.statusChecks + k < Nat.pow 2 32) :
    ∃ fs', (d.afterCheck J k w).backend = .fake fs' ∧ fs'.behavior = fs.behavior ∧
      (fs'.find? J).isSome ∧ fs'.calls.deletes = fs.calls.deletes ∧
      (job.statusChecks + k + 1 < Nat.pow 2 32 → (d.afterCheck J k w).panic = w.panic) := by
  obtain ⟨fs', hback, hbeh, hfind', hdel, -, hpanic⟩ :=
    d.beforeCheck_fake hw hJ hfind hparams hsubmit k hk
  by_cases hlt : job.statusChecks + k + 1 < Nat.pow 2 32
  · -- an answered check counts one more check of the job
    rw [afterCheck, d.check_fake hback hJ hfind' (by simpa using hlt) hparams hsubmit]
    refine ⟨_, rfl, by simp [hbeh], ?_, hdel, fun _ => hpanic⟩
    rw [FakeService.find?_countStatus_update fs' hfind']
    rfl
  · -- the overflowing check leaves the service as it was
    rw [afterCheck, d.check_fake_overflow hback hJ hfind' (by dsimp only; omega)]
    exact ⟨fs', hback, hbeh, by rw [hfind']; rfl, hdel, fun h => absurd h hlt⟩

end Fake

end JobDriver

end JobQuery
