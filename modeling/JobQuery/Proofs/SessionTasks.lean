import Mathlib
import JobQuery.Session.Tasks
import JobQuery.Proofs.Cancellation
import JobQuery.Proofs.TaskSteps

/-!
# JobQuery — one job at a time, each deleted once, under any interleaving

Any number of tasks attach consumers, release leases, wait for the session and close it,
interleaved in any order at their await points (`SessionTasks.Reachable`). Along every
interleaving, from a new session:

* the consumer count is the number of leases handed out and not yet counted out;
* every job the session created has exactly one holder: the start that is polling it or
  fetching its first page, the phase, or one delete; a delete is made only by a close or by
  the release whose detach took the count from one to zero; and until a close, the job a
  cursor holding its lease started reading is not deleted;
* in each generation of the phase (generations are separated by the last release of a ready
  session), the starts send at most one creation of a job, then only status checks of the job
  it created and at most one fetch of its first page;
* without a close, every wait that returns in one generation returns the same outcome; a
  returned failure leaves the phase failed, and once the phase is failed it stays failed and
  no start sends anything again.

One invariant carries all of it (`SessionTasks.Inv`). Each kind of step keeps it, hence every
step (`Inv.step`) and every interleaving (`Inv.reachable`).

The main results are `SessionTasks.reachable_delete_once` and
`SessionTasks.reachable_single_start`.
-/

namespace JobQuery

open SessionTasks

/-! ## What the statements are about -/

namespace ApiRequest

/-- The creation of a job. -/
def IsJobCreation (r : ApiRequest) : Prop :=
  r.method = .post ∧ r.path = QueryService.root ++ "jobs"

/-- A status check of job `id`. -/
def IsStatusCheck (id : String) (r : ApiRequest) : Prop :=
  r.method = .get ∧ r.path = QueryService.root ++ "jobs" ∧ r.resourceId = some id

/-- The fetch of the first page of job `id`, in pages of `pageSize` rows. -/
def IsFirstPage (id : String) (pageSize : Nat) (r : ApiRequest) : Prop :=
  r.method = .get ∧ r.path = QueryService.root ++ "jobResults" ∧ r.resourceId = some id ∧
    (PageSelector.first.request id pageSize).toQuery = .ok r.query

end ApiRequest

/-- What a start has sent while it polls job `id`: the creation of the job, then status checks
of `id`. -/
def Polled (id : String) (reqs : List ApiRequest) : Prop :=
  ∃ post checks, reqs = post :: checks ∧ post.IsJobCreation ∧ ∀ r ∈ checks, r.IsStatusCheck id

/-- What the starts of one generation may have sent, given the ids of the jobs they created:
nothing; or one creation of a job that gave no job; or one creation that gave job `id`, then
status checks of `id` and at most one fetch of its first page. -/
def StartsSent (pageSize : Nat) (created : List String) (reqs : List ApiRequest) : Prop :=
  (created = [] ∧ (reqs = [] ∨ ∃ post, reqs = [post] ∧ post.IsJobCreation)) ∨
  ∃ id polled fetch, created = [id] ∧ reqs = polled ++ fetch ∧ Polled id polled ∧
    fetch.length ≤ 1 ∧ ∀ r ∈ fetch, r.IsFirstPage id pageSize

/-- More status checks of the job keep what a start sent a poll of it. -/
theorem Polled.append {id : String} {reqs more : List ApiRequest} (h : Polled id reqs)
    (hmore : ∀ r ∈ more, r.IsStatusCheck id) : Polled id (reqs ++ more) := by
  obtain ⟨post, checks, rfl, hpost, hchecks⟩ := h
  refine ⟨post, checks ++ more, rfl, hpost, fun r hr => ?_⟩
  rcases List.mem_append.mp hr with hr | hr
  · exact hchecks r hr
  · exact hmore r hr

/-- A start that created job `id`, polled it and fetched at most its first page sent what a
generation may send. -/
theorem StartsSent.of_polled {pageSize : Nat} {id : String} {reqs fetch : List ApiRequest}
    (hp : Polled id reqs) (hlen : fetch.length ≤ 1)
    (hfetch : ∀ r ∈ fetch, r.IsFirstPage id pageSize) : StartsSent pageSize [id] (reqs ++ fetch) :=
  .inr ⟨id, reqs, fetch, rfl, rfl, hp, hlen, hfetch⟩

namespace Phase

/-- What a wait finds in the phase. -/
def outcome : Phase → Option (Except QueryError ReadyJob)
  | .ready job => some (.ok job)
  | .failed e _ => some (.error e)
  | .uninitialized => none

/-- The phase holds a failure. -/
def Failed (p : Phase) : Prop := ∃ e id, p = .failed e id

theorem failed_of_outcome {p : Phase} {e : QueryError} (h : p.outcome = some (.error e)) :
    p.Failed := by
  cases p with
  | ready job => cases h
  | failed e' id => exact ⟨e', id, rfl⟩
  | uninitialized => cases h

end Phase

namespace SessionStage

/-- A start in progress, holding the init lock. -/
def Starting : SessionStage → Prop
  | .creating | .checking _ _ | .polling _ _ _ _ _ | .fetching _ _ => True
  | _ => False

/-- The job a start holds while it polls it or fetches its first page, with its creation
number. -/
def heldJob : SessionStage → Option (Nat × QueryJob)
  | .checking k job | .polling k job _ _ _ | .fetching k job => some (k, job)
  | _ => none

end SessionStage

/-- A release or a close holding the consumer lock. -/
def SessionRequest.HoldsConsumers : SessionRequest → SessionStage → Prop
  | .release _, .awaitInit | .close, .awaitInit => True
  | _, .deleting _ => True
  | _, _ => False

/-! ## What a start sends -/

/-- The requests `x` sends when run from `w`: what it appends to the world's list. -/
def Run.sentBy {α : Type} (x : Run α) (w : World) : List ApiRequest :=
  (x.run w).2.sent.toList.drop w.sent.size

namespace Run

variable {α : Type} {x : Run α} {w : World}

theorem sentBy_of_push {r : ApiRequest} (h : (x.run w).2.sent = w.sent.push r) :
    x.sentBy w = [r] := by
  simp [sentBy, h]

theorem sentBy_pure (a : α) : (pure a : Run α).sentBy w = [] := by
  simp [sentBy]

theorem sentBy_of_same (h : (x.run w).2.sent = w.sent) : x.sentBy w = [] := by
  simp [sentBy, h]

end Run

namespace QueryService

/-- A status check sends nothing (for an empty id) or one status check of the job. -/
theorem getJobStatus_sent (svc : QueryService) (id : String) (w : World) :
    ((svc.getJobStatus id).run.run w).2.sent = w.sent ∨
      ∃ r, r.IsStatusCheck id ∧ ((svc.getJobStatus id).run.run w).2.sent = w.sent.push r := by
  unfold getJobStatus jobRequest
  split
  · exact .inl rfl
  · let r : ApiRequest :=
      { method := .get, path := root ++ "jobs", resourceId := some id,
        credential := svc.credential }
    refine .inr ⟨r, ⟨rfl, rfl, rfl⟩, ?_⟩
    rw [Call.run_bind]
    exact (congrArg World.sent (Call.world_bind_quiet (fun a w => expect_world _ _ a w) w)).trans
      (call_sent svc _ w)

/-- A fetch of a first page sends nothing (when its query is refused) or that fetch. -/
theorem getJobResults_first_sent (svc : QueryService) (id : String) (pageSize : Nat)
    (w : World) :
    ((svc.getJobResults (PageSelector.first.request id pageSize)).run.run w).2.sent = w.sent ∨
      ∃ r, r.IsFirstPage id pageSize ∧
        ((svc.getJobResults (PageSelector.first.request id pageSize)).run.run w).2.sent =
          w.sent.push r := by
  unfold getJobResults
  rcases hq : (PageSelector.first.request id pageSize).toQuery with e | q
  · left
    rw [Call.run_bind]
    simp [checked]
  · let r : ApiRequest :=
      { method := .get, path := root ++ "jobResults", resourceId := some id, query := q,
        credential := svc.credential }
    refine .inr ⟨r, ⟨rfl, rfl, rfl, hq⟩, ?_⟩
    rw [Call.run_bind]
    simp only [checked]
    exact (congrArg World.sent (Call.world_bind_quiet (fun a w => expect_world _ _ a w) w)).trans
      (call_sent svc _ w)

end QueryService

/-- A status check sends status checks of its job only. -/
theorem JobDriver.sentBy_check (d : JobDriver) (c : Bool) (id : String) (w : World) :
    ∀ r ∈ (d.check c id).run.sentBy w, r.IsStatusCheck id := by
  cases c
  · have hw : ((d.check false id).run.run w).2 = ((d.service.getJobStatus id).run.run w).2 := by
      unfold JobDriver.check
      simp only [Bool.false_eq_true, ↓reduceIte]
      exact Call.world_bind_quiet (fun _ _ => rfl) w
    rcases d.service.getJobStatus_sent id w with h | ⟨r, hr, h⟩
    · rw [Run.sentBy_of_same (by rw [hw]; exact h)]
      simp
    · rw [Run.sentBy_of_push (by rw [hw]; exact h)]
      simpa using hr
  · rw [Run.sentBy_of_same rfl]
    simp

/-- A status check after the poll delay sends status checks of its job only. -/
theorem sentBy_recheck (d : JobDriver) (c : Bool) (id : String) (w : World) :
    ∀ r ∈ (d.recheck c id).run.sentBy w, r.IsStatusCheck id := by
  cases c
  · -- the delay moves the clock only, then the check runs
    exact d.sentBy_check false id { w with clock := w.clock + d.policy.delayMs }
  · rw [Run.sentBy_of_same rfl]
    simp

/-- The fetch of a first page sends at most one request, a fetch of that first page. -/
theorem sentBy_fetchFirst (svc : QueryService) (pageSize : Nat) (c : Bool) (id : String)
    (w : World) :
    ((fetchPage svc pageSize c id .first).run.sentBy w).length ≤ 1 ∧
      ∀ r ∈ (fetchPage svc pageSize c id .first).run.sentBy w, r.IsFirstPage id pageSize := by
  cases c
  · have hw : ((fetchPage svc pageSize false id .first).run.run w).2 =
        ((svc.getJobResults (PageSelector.first.request id pageSize)).run.run w).2 := by
      unfold fetchPage
      simp only [Bool.false_eq_true, ↓reduceIte]
      exact Call.world_bind_quiet (fun _ _ => by split <;> rfl) w
    rcases svc.getJobResults_first_sent id pageSize w with h | ⟨r, hr, h⟩
    · rw [Run.sentBy_of_same (by rw [hw]; exact h)]
      simp
    · rw [Run.sentBy_of_push (by rw [hw]; exact h)]
      simpa using hr
  · rw [Run.sentBy_of_same rfl]
    simp

/-- The creation of a session's job sends one request, the creation of a job. -/
theorem sentBy_createJob (s : Session) (w : World) :
    ∃ post, s.createJob.sentBy w = [post] ∧ post.IsJobCreation := by
  obtain ⟨req, hpost, hpath, hsent⟩ :=
    s.service.createJob_sent (some (Text.mintUuid 0 w.minted)) s.params
      { w with minted := w.minted + 1 }
  exact ⟨req, Run.sentBy_of_push hsent, hpost, hpath⟩

namespace SessionTasks

/-- No close has started. -/
def NoClose (S : SessionTasks) : Prop :=
  ∀ (i : Nat) st, S.tasks[i]? = some (SessionRequest.close, st) → st = SessionStage.fresh

/-- How many holders job `k` (by creation number) has: the phase, a start polling it or
fetching its first page, and the deletes it was passed to. -/
def holders (S : SessionTasks) (k : Nat) : Nat :=
  (if S.phaseJob = some k then 1 else 0) +
  S.tasks.countP (fun t => t.2.heldJob.map Prod.fst == some k) +
  S.deleted.countP (fun d => d.1 == k)

/-- The requests the starts of generation `g` sent, oldest first. -/
def requestsIn (S : SessionTasks) (g : Nat) : List ApiRequest :=
  (S.startRequests.filter fun p => p.1 == g).map Prod.snd

/-- The ids of the jobs created in generation `g`, oldest first. -/
def createdIn (S : SessionTasks) (g : Nat) : List String :=
  (S.created.filter fun p => p.1 == g).map Prod.snd

variable {S : SessionTasks} {i : Nat} {req : SessionRequest} {st : SessionStage}

/-! ## Moving one task -/

@[simp] theorem setStage_session : (S.setStage i req st).session = S.session := rfl
@[simp] theorem setStage_world : (S.setStage i req st).world = S.world := rfl
@[simp] theorem setStage_initLock : (S.setStage i req st).initLock = S.initLock := rfl
@[simp] theorem setStage_consumerLock : (S.setStage i req st).consumerLock = S.consumerLock := rfl
@[simp] theorem setStage_leases : (S.setStage i req st).leases = S.leases := rfl
@[simp] theorem setStage_created : (S.setStage i req st).created = S.created := rfl
@[simp] theorem setStage_phaseJob : (S.setStage i req st).phaseJob = S.phaseJob := rfl
@[simp] theorem setStage_deleted : (S.setStage i req st).deleted = S.deleted := rfl
@[simp] theorem setStage_generation : (S.setStage i req st).generation = S.generation := rfl
@[simp] theorem setStage_startRequests :
    (S.setStage i req st).startRequests = S.startRequests := rfl
@[simp] theorem setStage_requestsIn (g : Nat) :
    (S.setStage i req st).requestsIn g = S.requestsIn g := rfl
@[simp] theorem setStage_createdIn (g : Nat) :
    (S.setStage i req st).createdIn g = S.createdIn g := rfl

/-- A task of a state with one task moved is the moved task, or a task as it was. -/
theorem setStage_getElem? {j : Nat} {r : SessionRequest} {y : SessionStage}
    (h : (S.setStage i req st).tasks[j]? = some (r, y)) :
    (j = i ∧ r = req ∧ y = st) ∨ (j ≠ i ∧ S.tasks[j]? = some (r, y)) := by
  unfold setStage at h
  rw [List.getElem?_set] at h
  split at h
  · split at h
    · obtain ⟨rfl, rfl⟩ := Prod.mk.inj (Option.some.inj h)
      exact .inl ⟨by omega, rfl, rfl⟩
    · cases h
  · exact .inr ⟨by omega, h⟩

theorem setStage_self {x : SessionRequest × SessionStage} (hi : S.tasks[i]? = some x) :
    (S.setStage i req st).tasks[i]? = some (req, st) := by
  have hlt : i < S.tasks.length := (List.getElem?_eq_some_iff.mp hi).1
  simp [setStage, hlt]

theorem setStage_other {j : Nat} (hne : j ≠ i) :
    (S.setStage i req st).tasks[j]? = S.tasks[j]? := by
  simp [setStage, Ne.symm hne]

/-- Moving a task keeps every task's request. -/
theorem setStage_request (st : SessionStage) {x : SessionStage} (hi : S.tasks[i]? = some (req, x)) {j : Nat}
    {r : SessionRequest} {y : SessionStage} (hj : S.tasks[j]? = some (r, y)) :
    ∃ y', (S.setStage i req st).tasks[j]? = some (r, y') := by
  by_cases hji : j = i
  · subst hji
    rw [hi] at hj
    obtain ⟨rfl, rfl⟩ := Prod.mk.inj (Option.some.inj hj)
    exact ⟨st, setStage_self hi⟩
  · exact ⟨y, by rw [setStage_other hji]; exact hj⟩

theorem countP_setStage {x : SessionRequest × SessionStage} (hi : S.tasks[i]? = some x)
    (p : SessionRequest × SessionStage → Bool) :
    (S.setStage i req st).tasks.countP p =
      S.tasks.countP p - (if p x then 1 else 0) + (if p (req, st) then 1 else 0) := by
  have hlt : i < S.tasks.length := (List.getElem?_eq_some_iff.mp hi).1
  have hx : S.tasks[i] = x := (List.getElem?_eq_some_iff.mp hi).2
  simp only [setStage, List.countP_set hlt, hx]

/-- Moving a task keeps a count that counts its old and new stage alike. -/
theorem countP_setStage_of_eq {x : SessionRequest × SessionStage} (hi : S.tasks[i]? = some x)
    {p : SessionRequest × SessionStage → Bool} (hp : p (req, st) = p x) :
    (S.setStage i req st).tasks.countP p = S.tasks.countP p := by
  rw [countP_setStage hi, hp]
  split
  · have : 0 < S.tasks.countP p := List.countP_pos_iff.mpr ⟨_, List.mem_of_getElem? hi, ‹_›⟩
    omega
  · simp

/-- Moving a start within the stages that hold one job keeps every job's holders. -/
theorem holders_setStage {x : SessionStage} (hi : S.tasks[i]? = some (req, x))
    (hsame : st.heldJob.map Prod.fst = x.heldJob.map Prod.fst) (k : Nat) :
    (S.setStage i req st).holders k = S.holders k := by
  unfold SessionTasks.holders
  rw [countP_setStage_of_eq hi (by simp only [hsame])]
  rfl

/-- How the holders of a job change when task `i` moves and the phase may change its job: the
old holders and what the new state gained are the new holders and what the old state lost. -/
theorem holders_move {T : SessionTasks} {x : SessionStage} (st : SessionStage)
    (hi : S.tasks[i]? = some (req, x)) (ht : T.tasks = (S.setStage i req st).tasks)
    (hd : T.deleted = S.deleted) (k : Nat) :
    T.holders k + (if S.phaseJob = some k then 1 else 0) +
        (if x.heldJob.map Prod.fst = some k then 1 else 0) =
      S.holders k + (if T.phaseJob = some k then 1 else 0) +
        (if st.heldJob.map Prod.fst = some k then 1 else 0) := by
  unfold SessionTasks.holders
  rw [ht, hd, countP_setStage hi]
  by_cases hxk : x.heldJob.map Prod.fst = some k
  · -- the task held the job, so the count it leaves is positive
    have hpos : 0 < S.tasks.countP (fun t => t.2.heldJob.map Prod.fst == some k) :=
      List.countP_pos_iff.mpr ⟨_, List.mem_of_getElem? hi, by simp [hxk]⟩
    simp only [hxk, beq_self_eq_true, if_true, beq_iff_eq]
    split_ifs <;> omega
  · simp only [hxk, beq_iff_eq, if_false]
    split_ifs <;> omega

/-- A start that ends hands its job to the phase: every job keeps its holders. -/
theorem holders_handOver {T : SessionTasks} {x : SessionStage} (st : SessionStage)
    (hi : S.tasks[i]? = some (req, x))
    (hpj : S.phaseJob = none) (hst : st.heldJob = none)
    (ht : T.tasks = (S.setStage i req st).tasks) (hp : T.phaseJob = x.heldJob.map Prod.fst)
    (hd : T.deleted = S.deleted) (k : Nat) : T.holders k = S.holders k := by
  have hmove := holders_move st hi ht hd k
  rw [hp, hpj, hst] at hmove
  simpa using hmove

/-- A start that creates a job comes to hold it: the job gains one holder. -/
theorem holders_create {T : SessionTasks} {x : SessionStage} (st : SessionStage)
    (hi : S.tasks[i]? = some (req, x)) (hx : x.heldJob = none)
    (ht : T.tasks = (S.setStage i req st).tasks) (hp : T.phaseJob = S.phaseJob)
    (hd : T.deleted = S.deleted) (k : Nat) :
    T.holders k = S.holders k + if st.heldJob.map Prod.fst = some k then 1 else 0 := by
  have hmove := holders_move st hi ht hd k
  rw [hp, hx] at hmove
  simp only [Option.map_none, reduceCtorEq, if_false, Nat.add_zero] at hmove
  omega

/-- Moving a task between stages that hold no job, with the phase's job as it was, keeps every
job's holders. -/
theorem holders_keep {T : SessionTasks} {x : SessionStage} (st : SessionStage)
    (hi : S.tasks[i]? = some (req, x)) (hx : x.heldJob = none) (hst : st.heldJob = none)
    (ht : T.tasks = (S.setStage i req st).tasks) (hp : T.phaseJob = S.phaseJob)
    (hd : T.deleted = S.deleted) (k : Nat) : T.holders k = S.holders k := by
  have hmove := holders_move st hi ht hd k
  rw [hp, hx, hst] at hmove
  omega

/-- Moving a task to a stage other than `fresh` keeps the close tasks that had not started. -/
theorem NoClose.of_setStage {x : SessionStage} (h : (S.setStage i req st).NoClose)
    (hi : S.tasks[i]? = some (req, x)) (hst : st ≠ .fresh) : S.NoClose := by
  intro j st' hj
  by_cases hji : j = i
  · subst hji
    rw [hi] at hj
    obtain ⟨rfl, rfl⟩ := Prod.mk.inj (Option.some.inj hj)
    exact absurd (h j st (setStage_self hi)) hst
  · exact h j st' (by rw [setStage_other hji]; exact hj)

end SessionTasks

/-! ## Leases -/

namespace LeaseState

@[simp] theorem read_held (k r : Option Nat) : (held r).read k = held k := rfl
@[simp] theorem read_releasing (k : Option Nat) : releasing.read k = releasing := rfl
@[simp] theorem read_released (k : Option Nat) (c : Nat) : (released c).read k = released c :=
  rfl

@[simp] theorem attached_read (k : Option Nat) (st : LeaseState) :
    (st.read k).attached = st.attached := by
  cases st <;> rfl

end LeaseState

namespace SessionTasks

variable {S : SessionTasks} {i : Nat} {req : SessionRequest} {st : SessionStage}

/-- `L'` is the lease list `L` where some held leases now read job `k`. -/
structure ReadOf (L L' : List LeaseState) (k : Option Nat) : Prop where
  countP : L'.countP LeaseState.attached = L.countP LeaseState.attached
  keep : ∀ (l : Nat) st, L[l]? = some st → (∀ r, st ≠ LeaseState.held r) → L'[l]? = some st
  held : ∀ (l : Nat) r, L'[l]? = some (LeaseState.held r) →
    ∃ r₀, L[l]? = some (LeaseState.held r₀) ∧ (r = r₀ ∨ r = k)

theorem ReadOf.refl (L : List LeaseState) (k : Option Nat) : ReadOf L L k :=
  ⟨rfl, fun _ _ h _ => h, fun _ r h => ⟨r, h, .inl rfl⟩⟩

theorem readOf_modify (L : List LeaseState) (l : Nat) (k : Option Nat) :
    ReadOf L (L.modify l (LeaseState.read k)) k := by
  refine ⟨?_, fun l' st h hst => ?_, fun l' r h => ?_⟩
  · induction L generalizing l with
    | nil => simp
    | cons a rest ih =>
      cases l with
      | zero => simp [List.countP_cons]
      | succ l => simp [List.countP_cons, ih]
  · rw [List.getElem?_modify, h]
    cases st <;> simp_all
  · rw [List.getElem?_modify] at h
    rcases hl : L[l']? with _ | st
    · simp [hl] at h
    · simp only [hl, Option.map_eq_map, Option.map_some, Option.some.injEq] at h
      split at h
      · cases st <;> simp_all [LeaseState.read]
      · exact ⟨r, by rw [← h], .inl rfl⟩

/-! ## A start's requests, by generation -/

section Start

variable {α : Type} {x : Run α}

@[simp] theorem startRun_session : (S.startRun x).2.session = S.session := rfl
@[simp] theorem startRun_tasks : (S.startRun x).2.tasks = S.tasks := rfl
@[simp] theorem startRun_initLock : (S.startRun x).2.initLock = S.initLock := rfl
@[simp] theorem startRun_consumerLock : (S.startRun x).2.consumerLock = S.consumerLock := rfl
@[simp] theorem startRun_leases : (S.startRun x).2.leases = S.leases := rfl
@[simp] theorem startRun_created : (S.startRun x).2.created = S.created := rfl
@[simp] theorem startRun_phaseJob : (S.startRun x).2.phaseJob = S.phaseJob := rfl
@[simp] theorem startRun_deleted : (S.startRun x).2.deleted = S.deleted := rfl
@[simp] theorem startRun_generation : (S.startRun x).2.generation = S.generation := rfl
@[simp] theorem startRun_createdIn (g : Nat) : (S.startRun x).2.createdIn g = S.createdIn g := rfl

theorem startRun_startRequests :
    (S.startRun x).2.startRequests =
      S.startRequests ++ (x.sentBy S.world).map fun q => (S.generation, q) := rfl

theorem filter_tagged (L : List ApiRequest) (gen g : Nat) :
    ((L.map fun q => (gen, q)).filter fun p => p.1 == g).map Prod.snd =
      if g = gen then L else [] := by
  induction L with
  | nil => split <;> rfl
  | cons q L ih =>
    by_cases hg : g = gen
    · simp_all
    · simp_all [Ne.symm hg]

/-- What a start sends is logged in the current generation. -/
theorem startRun_requestsIn (g : Nat) :
    (S.startRun x).2.requestsIn g =
      S.requestsIn g ++ if g = S.generation then x.sentBy S.world else [] := by
  unfold requestsIn
  rw [startRun_startRequests, List.filter_append, List.map_append, filter_tagged]

/-- A job created is logged in the current generation. -/
theorem createdIn_append (C : List (Nat × String)) (gen g : Nat) (id : String) :
    ((C ++ [(gen, id)]).filter fun p => p.1 == g).map Prod.snd =
      (C.filter fun p => p.1 == g).map Prod.snd ++ if g = gen then [id] else [] := by
  rw [List.filter_append, List.map_append]
  congr 1
  by_cases hg : g = gen
  · subst hg
    simp
  · simp [Ne.symm hg, hg]

end Start

/-- Every request logged after the start of generation `g` is in a later one. -/
theorem requestsIn_of_bound {g : Nat} (h : ∀ p ∈ S.startRequests, p.1 ≤ S.generation)
    (hg : S.generation < g) : S.requestsIn g = [] := by
  simp only [requestsIn, List.map_eq_nil_iff, List.filter_eq_nil_iff, beq_iff_eq]
  intro p hp hpg
  have := h p hp
  omega

theorem createdIn_of_bound {g : Nat} (h : ∀ p ∈ S.created, p.1 ≤ S.generation)
    (hg : S.generation < g) : S.createdIn g = [] := by
  simp only [createdIn, List.map_eq_nil_iff, List.filter_eq_nil_iff, beq_iff_eq]
  intro p hp hpg
  have := h p hp
  omega

/-! ## Returning -/

section Answer

variable {lease : Option Nat} {result : Except QueryError ReadyJob}

@[simp] theorem answer_session : (S.answer i lease result).session = S.session := rfl
@[simp] theorem answer_world : (S.answer i lease result).world = S.world := rfl
@[simp] theorem answer_initLock : (S.answer i lease result).initLock = S.initLock := rfl
@[simp] theorem answer_consumerLock :
    (S.answer i lease result).consumerLock = S.consumerLock := rfl
@[simp] theorem answer_created : (S.answer i lease result).created = S.created := rfl
@[simp] theorem answer_phaseJob : (S.answer i lease result).phaseJob = S.phaseJob := rfl
@[simp] theorem answer_deleted : (S.answer i lease result).deleted = S.deleted := rfl
@[simp] theorem answer_generation : (S.answer i lease result).generation = S.generation := rfl
@[simp] theorem answer_startRequests :
    (S.answer i lease result).startRequests = S.startRequests := rfl

theorem answer_tasks :
    (S.answer i lease result).tasks =
      (S.setStage i (.ready lease) (.returned S.generation result)).tasks := rfl

theorem answer_readOf : ReadOf S.leases (S.answer i lease result).leases S.phaseJob := by
  unfold answer
  split
  · exact readOf_modify _ _ _
  · exact ReadOf.refl _ _

/-- A task of a state where task `i` returned is task `i`, returned, or a task as it was. -/
theorem answer_getElem? {j : Nat} {r : SessionRequest} {y : SessionStage}
    (h : (S.answer i lease result).tasks[j]? = some (r, y)) :
    (j = i ∧ r = .ready lease ∧ y = .returned S.generation result) ∨
      (j ≠ i ∧ S.tasks[j]? = some (r, y)) :=
  setStage_getElem? (S := S) h

@[simp] theorem answer_requestsIn (g : Nat) :
    (S.answer i lease result).requestsIn g = S.requestsIn g := rfl
@[simp] theorem answer_createdIn (g : Nat) :
    (S.answer i lease result).createdIn g = S.createdIn g := rfl

@[simp] theorem answer_error_leases (e : QueryError) :
    (S.answer i lease (.error e)).leases = S.leases := rfl

end Answer

/-! ## The invariant -/

/-- What every interleaving keeps.

*Locks.* A start in progress holds the init lock, and the phase is uninitialized while it
runs; a release or a close between its detach and the end of its delete holds the consumer lock.

*Leases.* The consumer count is the number of attached leases; a release waiting for the
consumer lock has marked its lease, and no other release waits with the same lease; the
release holding the consumer lock took the count from one to zero, and the count stays zero.

*Jobs.* The phase holds the id of the job `phaseJob` names; every job created has exactly one
holder; a start holds a job of the current generation; every job passed to a delete was passed
by a close or by a release that took the count from one to zero; until a close, a lease whose
cursor read a job keeps that job in the phase.

*Starts.* Every request and every job is logged in a generation that has begun; a past
generation sent what `StartsSent` allows; in the current one, nothing was sent before its
start, a start that is creating its job has sent nothing, a start that holds its job has sent
its creation and status checks of it, and once the phase is written the generation sent what
`StartsSent` allows.

*Outcomes.* A wait returned in a generation that has begun; until a close, one that returned in
the current generation returned what the phase holds, and two that returned in one generation
returned the same; a wait that returned a failure left the phase failed. -/
structure Inv (S : SessionTasks) : Prop where
  initLocked : ∀ (i : Nat) req st, S.tasks[i]? = some (req, st) → st.Starting →
    S.initLock = some i
  startingUninit : ∀ (i : Nat) req st, S.tasks[i]? = some (req, st) → st.Starting →
    S.session.phase = .uninitialized
  consumersLocked : ∀ (i : Nat) req st, S.tasks[i]? = some (req, st) → req.HoldsConsumers st →
    S.consumerLock = some i
  count : S.session.consumers = S.leases.countP LeaseState.attached
  releasing : ∀ (i l : Nat), S.tasks[i]? = some (.release l, .awaitConsumers) →
    S.leases[l]? = some .releasing
  releasingOnce : ∀ (i j l : Nat), S.tasks[i]? = some (.release l, .awaitConsumers) →
    S.tasks[j]? = some (.release l, .awaitConsumers) → i = j
  lastOut : ∀ (i l : Nat) st, S.tasks[i]? = some (.release l, st) →
    (SessionRequest.release l).HoldsConsumers st →
    S.session.consumers = 0 ∧ S.leases[l]? = some (.released 1)
  phaseId : (Session.takeJobId S.session.phase).1 =
    S.phaseJob.bind fun k => (S.created[k]?).map Prod.snd
  holders : ∀ k, S.holders k = if k < S.created.length then 1 else 0
  stageJob : ∀ (i : Nat) req st k job, S.tasks[i]? = some (req, st) →
    st.heldJob = some (k, job) → S.created[k]? = some (S.generation, job.jobId)
  deletedBy : ∀ k i, (k, i) ∈ S.deleted →
    (∃ st, S.tasks[i]? = some (.close, st)) ∨
      ∃ l st, S.tasks[i]? = some (.release l, st) ∧ S.leases[l]? = some (.released 1)
  reading : ∀ (l k : Nat), S.leases[l]? = some (.held (some k)) → S.NoClose →
    S.phaseJob = some k
  requestsBound : ∀ p ∈ S.startRequests, p.1 ≤ S.generation
  createdBound : ∀ p ∈ S.created, p.1 ≤ S.generation
  past : ∀ g < S.generation,
    StartsSent S.session.config.pageSize (S.createdIn g) (S.requestsIn g)
  quiet : (∀ (i : Nat) req st, S.tasks[i]? = some (req, st) → ¬ st.Starting) →
    S.session.phase = .uninitialized →
    S.requestsIn S.generation = [] ∧ S.createdIn S.generation = []
  creating : ∀ (i : Nat) req, S.tasks[i]? = some (req, .creating) →
    S.requestsIn S.generation = [] ∧ S.createdIn S.generation = []
  polled : ∀ (i : Nat) req st k job, S.tasks[i]? = some (req, st) →
    st.heldJob = some (k, job) →
    S.createdIn S.generation = [job.jobId] ∧ Polled job.jobId (S.requestsIn S.generation)
  settled : S.session.phase ≠ .uninitialized →
    StartsSent S.session.config.pageSize (S.createdIn S.generation) (S.requestsIn S.generation)
  returnedBound : ∀ (i : Nat) req g r, S.tasks[i]? = some (req, .returned g r) →
    g ≤ S.generation
  outcome : S.NoClose → ∀ (i : Nat) req r, S.tasks[i]? = some (req, .returned S.generation r) →
    S.session.phase.outcome = some r
  agree : S.NoClose → ∀ (i j : Nat) req req' g r r', S.tasks[i]? = some (req, .returned g r) →
    S.tasks[j]? = some (req', .returned g r') → r = r'
  failedReturned : ∀ (i : Nat) req g e, S.tasks[i]? = some (req, .returned g (.error e)) →
    S.session.phase.Failed

/-- A task of a new session is at its first stage. -/
theorem start_getElem? {s : Session} {w : World} {requests : List SessionRequest}
    (h : (start s w requests).tasks[i]? = some (req, st)) : st = req.initial := by
  simp only [start, List.getElem?_map, Option.map_eq_some_iff] at h
  obtain ⟨r, -, hr⟩ := h
  obtain ⟨rfl, rfl⟩ := Prod.mk.inj hr
  rfl

/-- A first stage is not a start, holds no lock and no job, and has not returned. -/
theorem initial_inert (req : SessionRequest) :
    ¬ req.initial.Starting ∧ ¬ req.HoldsConsumers req.initial ∧ req.initial.heldJob = none ∧
      (∀ l, req ≠ .release l ∨ req.initial ≠ .awaitConsumers) ∧
      ∀ g r, req.initial ≠ .returned g r := by
  cases req <;>
    simp [SessionRequest.initial, SessionStage.Starting, SessionRequest.HoldsConsumers,
      SessionStage.heldJob]

theorem inv_start (s : Session) (w : World) (requests : List SessionRequest) :
    (start s w requests).Inv := by
  have hfirst : ∀ (i : Nat) req st, (start s w requests).tasks[i]? = some (req, st) →
      st = req.initial := fun _ _ _ => start_getElem?
  have hnone : ∀ k, (start s w requests).tasks.countP
      (fun t => t.2.heldJob.map Prod.fst == some k) = 0 := by
    intro k
    simp [start, List.countP_eq_zero, (initial_inert _).2.2.1]
  refine ⟨fun i req st h hs => ?_, fun i req st h hs => ?_, fun i req st h hs => ?_, rfl,
    fun i l h => ?_, fun i j l h => ?_, fun i l st h hs => ?_, rfl, fun k => ?_,
    fun i req st k job h hj => ?_, fun k i h => ?_, fun l k h => ?_, fun p h => ?_,
    fun p h => ?_, fun g hg => ?_, fun _ _ => ⟨rfl, rfl⟩, fun i req h => ?_,
    fun i req st k job h hj => ?_, fun h => ?_, fun i req g r h => ?_, fun _ i req r h => ?_,
    fun _ i j req req' g r r' h => ?_, fun i req g e h => ?_⟩
  -- a task at its first stage is no start, holds nothing and has not returned
  · exact absurd (hfirst _ _ _ h ▸ hs) (initial_inert req).1
  · exact absurd (hfirst _ _ _ h ▸ hs) (initial_inert req).1
  · exact absurd (hfirst _ _ _ h ▸ hs) (initial_inert req).2.1
  · exact ((initial_inert _).2.2.2.1 l).elim (· rfl) (· (hfirst _ _ _ h).symm) |>.elim
  · exact ((initial_inert _).2.2.2.1 l).elim (· rfl) (· (hfirst _ _ _ h).symm) |>.elim
  · exact absurd (hfirst _ _ _ h ▸ hs) (initial_inert _).2.1
  · rw [holders, hnone]
    simp [start]
  · simp [hfirst _ _ _ h, (initial_inert req).2.2.1] at hj
  · simp [start] at h
  · simp [start] at h
  · simp [start] at h
  · simp [start] at h
  · simp [start] at hg
  · exact absurd (hfirst _ _ _ h).symm ((initial_inert req).1 ∘ (· ▸ trivial))
  · simp [hfirst _ _ _ h, (initial_inert req).2.2.1] at hj
  · simp [start] at h
  all_goals exact absurd (hfirst _ _ _ h).symm ((initial_inert _).2.2.2.2 _ _)

/-! ## Facts every reachable state has -/

theorem SessionStage.starting_of_heldJob {x : SessionStage} {p : Nat × QueryJob}
    (h : x.heldJob = some p) : x.Starting := by
  cases x <;> simp_all [SessionStage.heldJob, SessionStage.Starting]

namespace Inv

variable (h : S.Inv)
include h

/-- With the init lock free, no start is in progress. -/
theorem not_starting (hl : S.initLock = none) {j : Nat} {r : SessionRequest} {x : SessionStage}
    (hj : S.tasks[j]? = some (r, x)) : ¬ x.Starting := fun hs => by
  simpa [hl] using h.initLocked j r x hj hs

/-- With the consumer lock free, no release or close holds it. -/
theorem not_holding (hl : S.consumerLock = none) {j : Nat} {r : SessionRequest}
    {x : SessionStage} (hj : S.tasks[j]? = some (r, x)) : ¬ r.HoldsConsumers x := fun hs => by
  simpa [hl] using h.consumersLocked j r x hj hs

/-- The job the phase holds was created. -/
theorem phaseJob_lt {k : Nat} (hk : S.phaseJob = some k) : k < S.created.length := by
  have hk' := h.holders k
  unfold SessionTasks.holders at hk'
  rw [hk, if_pos rfl] at hk'
  split at hk' <;> omega

/-- An uninitialized phase holds no job. -/
theorem phaseJob_uninit (hu : S.session.phase = .uninitialized) : S.phaseJob = none := by
  rcases hk : S.phaseJob with _ | k
  · rfl
  · have hid := h.phaseId
    rw [hu, hk] at hid
    simp [Session.takeJobId, List.getElem?_eq_getElem (h.phaseJob_lt hk)] at hid

/-- Two tasks in progress with the init lock are one. -/
theorem starting_unique {j j' : Nat} {r r' : SessionRequest} {x x' : SessionStage}
    (hj : S.tasks[j]? = some (r, x)) (hx : x.Starting) (hj' : S.tasks[j']? = some (r', x'))
    (hx' : x'.Starting) : j = j' := by
  have h1 := h.initLocked j r x hj hx
  have h2 := h.initLocked j' r' x' hj' hx'
  rw [h1] at h2
  exact Option.some.inj h2

end Inv

/-! ## Each kind of step keeps the invariant -/

/-- A stage at which a task is no start and has not returned. -/
def Free (y : SessionStage) : Prop := ¬ y.Starting ∧ ∀ g r, y ≠ .returned g r

theorem not_starting_heldJob {y : SessionStage} (h : ¬ y.Starting) : y.heldJob = none := by
  rcases hy : y.heldJob with _ | p
  · rfl
  · exact absurd (SessionStage.starting_of_heldJob hy) h

/-- Moving a task that is no start to a stage that is no start and has not returned keeps the
invariant: a task that comes to hold the consumer lock holds it, and a release holding it took
the count to zero; a release that starts waiting for the consumer lock has marked its lease,
and waits alone with it. -/
theorem Inv.setStage_free (h : S.Inv) {x : SessionStage} (hi : S.tasks[i]? = some (req, x))
    (hx : ¬ x.Starting) (hst : Free st)
    (hhold : req.HoldsConsumers st → S.consumerLock = some i ∧
      ∀ l, req = .release l → S.session.consumers = 0 ∧ S.leases[l]? = some (.released 1))
    (hwait : ∀ l, req = .release l → st = .awaitConsumers →
      S.leases[l]? = some .releasing ∧
        ∀ j, j ≠ i → S.tasks[j]? ≠ some (SessionRequest.release l, .awaitConsumers))
    (hnc : (S.setStage i req st).NoClose → S.NoClose) : (S.setStage i req st).Inv := by
  refine ⟨fun j r y hj hy => ?_, fun j r y hj hy => ?_, fun j r y hj hy => ?_, h.count,
    fun j l hj => ?_, fun j j' l hj hj' => ?_, fun j l y hj hy => ?_, h.phaseId, fun k => ?_,
    fun j r y k job hj hy => ?_, fun k j hk => ?_, fun l k hl hnc' => h.reading l k hl (hnc hnc'),
    h.requestsBound, h.createdBound, h.past, fun hno hu => h.quiet (fun j r y hj => ?_) hu,
    fun j r hj => ?_, fun j r y k job hj hy => ?_, h.settled, fun j r g res hj => ?_,
    fun hnc' j r res hj => ?_, fun hnc' j j' r r' g res res' hj hj' => ?_,
    fun j r g e hj => ?_⟩
  · rcases setStage_getElem? hj with ⟨-, -, rfl⟩ | ⟨-, hj⟩
    · exact absurd hy hst.1
    · exact h.initLocked j r y hj hy
  · rcases setStage_getElem? hj with ⟨-, -, rfl⟩ | ⟨-, hj⟩
    · exact absurd hy hst.1
    · exact h.startingUninit j r y hj hy
  · rcases setStage_getElem? hj with ⟨rfl, rfl, rfl⟩ | ⟨-, hj⟩
    · exact (hhold hy).1
    · exact h.consumersLocked j r y hj hy
  · rcases setStage_getElem? hj with ⟨-, rfl, rfl⟩ | ⟨-, hj⟩
    · exact (hwait l rfl rfl).1
    · exact h.releasing j l hj
  · rcases setStage_getElem? hj with ⟨hji, hreq, hst'⟩ | ⟨hji, hj⟩ <;>
      rcases setStage_getElem? hj' with ⟨hj'i, hreq', hst''⟩ | ⟨hj'i, hj'⟩
    · omega
    · exact absurd hj' ((hwait l hreq.symm hst'.symm).2 j' hj'i)
    · exact absurd hj ((hwait l hreq'.symm hst''.symm).2 j hji)
    · exact h.releasingOnce j j' l hj hj'
  · rcases setStage_getElem? hj with ⟨-, rfl, rfl⟩ | ⟨-, hj⟩
    · exact (hhold hy).2 l rfl
    · exact h.lastOut j l y hj hy
  · -- neither stage holds a job
    rw [holders_setStage hi (by rw [not_starting_heldJob hx, not_starting_heldJob hst.1]),
      h.holders k]
    rfl
  · rcases setStage_getElem? hj with ⟨-, -, rfl⟩ | ⟨-, hj⟩
    · simp [not_starting_heldJob hst.1] at hy
    · exact h.stageJob j r y k job hj hy
  · rcases h.deletedBy k j hk with ⟨y, hj⟩ | ⟨l, y, hj, hl⟩
    · exact .inl (setStage_request st hi hj)
    · obtain ⟨y', hj'⟩ := setStage_request st hi hj
      exact .inr ⟨l, y', hj', hl⟩
  · by_cases hji : j = i
    · subst hji
      rw [hi] at hj
      obtain ⟨-, rfl⟩ := Prod.mk.inj (Option.some.inj hj)
      exact hx
    · exact hno j r y (by rw [setStage_other hji]; exact hj)
  · rcases setStage_getElem? hj with ⟨-, -, hc⟩ | ⟨-, hj⟩
    · exact absurd (hc ▸ trivial) hst.1
    · exact h.creating j r hj
  · rcases setStage_getElem? hj with ⟨-, -, rfl⟩ | ⟨-, hj⟩
    · simp [not_starting_heldJob hst.1] at hy
    · exact h.polled j r y k job hj hy
  · rcases setStage_getElem? hj with ⟨-, -, hr⟩ | ⟨-, hj⟩
    · exact absurd hr.symm (hst.2 g res)
    · exact h.returnedBound j r g res hj
  · rcases setStage_getElem? hj with ⟨-, -, hr⟩ | ⟨-, hj⟩
    · exact absurd hr.symm (hst.2 _ res)
    · exact h.outcome (hnc hnc') j r res hj
  · rcases setStage_getElem? hj with ⟨-, -, hr⟩ | ⟨-, hj⟩
    · exact absurd hr.symm (hst.2 g res)
    rcases setStage_getElem? hj' with ⟨-, -, hr⟩ | ⟨-, hj'⟩
    · exact absurd hr.symm (hst.2 g res')
    · exact h.agree (hnc hnc') j j' r r' g res res' hj hj'
  · rcases setStage_getElem? hj with ⟨-, -, hr⟩ | ⟨-, hj⟩
    · exact absurd hr.symm (hst.2 g _)
    · exact h.failedReturned j r g e hj

/-- A close raises the cancellation flag and waits for the consumer lock. -/
theorem Inv.cancel (h : S.Inv) (hi : S.tasks[i]? = some (.close, .fresh)) :
    ({ S with session := { S.session with cancelled := true } }.setStage i .close
      .awaitConsumers).Inv := by
  -- the flag is read by no part of the invariant
  have h' : ({ S with session := { S.session with cancelled := true } }).Inv :=
    ⟨h.1, h.2, h.3, h.4, h.5, h.6, h.7, h.8, h.9, h.10, h.11, h.12, h.13, h.14, h.15, h.16, h.17,
      h.18, h.19, h.20, h.21, h.22, h.23⟩
  refine h'.setStage_free hi (by simp [SessionStage.Starting]) (by simp [Free, SessionStage.Starting])
    (by simp [SessionRequest.HoldsConsumers]) (by simp) fun hnc => ?_
  -- the close itself has started
  exact absurd (hnc i _ (setStage_self hi)) (by simp)


/-- An attach counts one more consumer and hands out a lease that reads nothing yet. -/
theorem Inv.attach (h : S.Inv) (hi : S.tasks[i]? = some (.attach, .awaitConsumers))
    (hl : S.consumerLock = none) : (S.attach i).Inv := by
  -- a lease handed out before keeps its number
  have hold : ∀ {l : Nat} {x : LeaseState}, S.leases[l]? = some x →
      (S.leases ++ [LeaseState.held none])[l]? = some x := fun hx =>
    (List.getElem?_append_left (List.getElem?_eq_some_iff.mp hx).1).trans hx
  have hnew : ∀ {l : Nat} {x : LeaseState}, (S.leases ++ [LeaseState.held none])[l]? = some x →
      S.leases[l]? = some x ∨ x = .held none := by
    intro l x hx
    by_cases hlt : l < S.leases.length
    · exact .inl ((List.getElem?_append_left hlt).symm.trans hx)
    · rw [List.getElem?_append_right (by omega)] at hx
      rcases List.getElem?_eq_some_iff.mp hx with ⟨hlt', hx⟩
      simp only [List.length_singleton] at hlt'
      simp only [List.getElem_singleton] at hx
      exact .inr hx.symm
  have h' : ({ S with session := { S.session with consumers := S.session.consumers + 1 },
                      leases := S.leases ++ [LeaseState.held none] }).Inv :=
    ⟨h.1, h.2, h.3, by simp [h.count, List.countP_append, LeaseState.attached],
      fun j l hj => hold (h.releasing j l hj), h.6,
      fun j l y hj hy => absurd hy (h.not_holding hl hj), h.8, h.9, h.10,
      fun k j hk => (h.deletedBy k j hk).imp id fun ⟨l, y, hj, hl'⟩ => ⟨l, y, hj, hold hl'⟩,
      fun l k hk hnc => (hnew hk).elim (fun hk => h.reading l k hk hnc) (by simp),
      h.13, h.14, h.15, h.16, h.17, h.18, h.19, h.20, h.21, h.22, h.23⟩
  exact h'.setStage_free hi (by simp [SessionStage.Starting]) (by simp [Free, SessionStage.Starting])
    (by simp [SessionRequest.HoldsConsumers]) (by simp) fun hnc => NoClose.of_setStage hnc hi (by simp)

/-- A release marks its lease and waits for the consumer lock. -/
theorem Inv.markRelease (h : S.Inv) {l : Nat} {r : Option Nat}
    (hi : S.tasks[i]? = some (.release l, .fresh)) (hl : S.leases[l]? = some (.held r)) :
    ({ S with leases := S.leases.set l .releasing }.setStage i (.release l)
      .awaitConsumers).Inv := by
  have hlt : l < S.leases.length := (List.getElem?_eq_some_iff.mp hl).1
  -- the leases other than `l` are as they were
  have hother : ∀ {l' : Nat} {x : LeaseState}, (S.leases.set l .releasing)[l']? = some x →
      (l' = l ∧ x = .releasing) ∨ (l' ≠ l ∧ S.leases[l']? = some x) := by
    intro l' x hx
    rw [List.getElem?_set] at hx
    split at hx
    · exact .inl ⟨by omega, (Option.some.inj hx).symm⟩
    · exact .inr ⟨by omega, hx⟩
  have hkeep : ∀ {l' : Nat} {x : LeaseState}, S.leases[l']? = some x → (∀ r, x ≠ .held r) →
      (S.leases.set l .releasing)[l']? = some x := by
    intro l' x hx hne
    have hl' : l' ≠ l := fun he => hne r (by rw [he, hl] at hx; exact (Option.some.inj hx).symm)
    rw [List.getElem?_set_ne (Ne.symm hl'), hx]
  -- no release waits with the lease: it is still held
  have hnowait : ∀ j : Nat,
      S.tasks[j]? ≠ some (SessionRequest.release l, SessionStage.awaitConsumers) := by
    intro j hj
    simp [h.releasing j l hj] at hl
  have hcount : (S.leases.set l .releasing).countP LeaseState.attached =
      S.leases.countP LeaseState.attached := by
    rw [List.countP_set hlt, (List.getElem?_eq_some_iff.mp hl).2]
    simp only [LeaseState.attached, ↓reduceIte]
    have : 0 < S.leases.countP LeaseState.attached :=
      List.countP_pos_iff.mpr ⟨_, List.mem_of_getElem? hl, rfl⟩
    omega
  have h' : ({ S with leases := S.leases.set l .releasing }).Inv :=
    ⟨h.1, h.2, h.3, hcount.symm ▸ h.count, fun j l' hj => hkeep (h.releasing j l' hj) (by simp),
      h.6, fun j l' y hj hy => (h.lastOut j l' y hj hy).imp id (hkeep · (by simp)), h.8, h.9, h.10,
      fun k j hk => (h.deletedBy k j hk).imp id
        fun ⟨l', y, hj, hl'⟩ => ⟨l', y, hj, hkeep hl' (by simp)⟩,
      fun l' k hk hnc => (hother hk).elim (fun ⟨_, hx⟩ => by cases hx)
        (fun ⟨_, hk⟩ => h.reading l' k hk hnc),
      h.13, h.14, h.15, h.16, h.17, h.18, h.19, h.20, h.21, h.22, h.23⟩
  refine h'.setStage_free hi (by simp [SessionStage.Starting]) (by simp [Free, SessionStage.Starting])
    (by simp [SessionRequest.HoldsConsumers]) ?_ fun hnc => NoClose.of_setStage hnc hi (by simp)
  rintro l' ⟨⟩ -
  exact ⟨by simp [List.getElem?_set_self hlt], fun j _ => hnowait j⟩


/-- A close takes the free consumer lock and waits for the init lock. -/
theorem Inv.lockConsumers (h : S.Inv) (hi : S.tasks[i]? = some (.close, .awaitConsumers))
    (hl : S.consumerLock = none) :
    ({ S with consumerLock := some i }.setStage i .close .awaitInit).Inv := by
  -- nobody held the lock, so taking it breaks no holder's claim
  have h' : ({ S with consumerLock := some i }).Inv :=
    ⟨h.1, h.2, fun j r y hj hy => absurd hy (h.not_holding hl hj), h.4, h.5, h.6, h.7, h.8, h.9,
      h.10, h.11, h.12, h.13, h.14, h.15, h.16, h.17, h.18, h.19, h.20, h.21, h.22, h.23⟩
  refine h'.setStage_free hi (by simp [SessionStage.Starting])
    (by simp [Free, SessionStage.Starting]) (fun _ => ⟨rfl, fun _ h => nomatch h⟩) (by simp) fun hnc => ?_
  exact absurd (hnc i _ (setStage_self hi)) (by simp)

/-- Freeing the consumer lock that no task holds, with the world moved on, keeps the
invariant. -/
theorem Inv.freeConsumers (h : S.Inv)
    (hno : ∀ (j : Nat) r y, S.tasks[j]? = some (r, y) → ¬ r.HoldsConsumers y) (w : World) :
    ({ S with world := w, consumerLock := none }).Inv :=
  ⟨h.1, h.2, fun j r y hj hy => absurd hy (hno j r y hj), h.4, h.5, h.6,
    fun j _ y hj hy => absurd hy (hno j _ y hj), h.8, h.9, h.10, h.11, h.12, h.13, h.14, h.15,
    h.16, h.17, h.18, h.19, h.20, h.21, h.22, h.23⟩

/-- The deletion of a release or a close comes back; the consumer lock is free. -/
theorem Inv.finishDelete (h : S.Inv) {jobId : String}
    (hi : S.tasks[i]? = some (req, .deleting jobId)) :
    (S.finishDelete i req jobId).Inv := by
  have hheld : S.consumerLock = some i :=
    h.consumersLocked i req _ hi (by cases req <;> trivial)
  -- the task stops holding the lock first, then the lock is free
  have h₁ : (S.setStage i req .finished).Inv :=
    h.setStage_free hi (by simp [SessionStage.Starting]) (by simp [Free, SessionStage.Starting])
      (by cases req <;> simp [SessionRequest.HoldsConsumers]) (by simp)
      fun hnc => NoClose.of_setStage hnc hi (by simp)
  refine h₁.freeConsumers (fun j r y hj hy => ?_) _
  rcases setStage_getElem? hj with ⟨-, rfl, rfl⟩ | ⟨hji, hj⟩
  · cases r <;> simp [SessionRequest.HoldsConsumers] at hy
  · exact hji (Option.some.inj ((h.consumersLocked j r y hj hy).symm.trans hheld))


/-- A lease `l` set to `x`: the lease `l` is `x`, the others are as they were. -/
theorem getElem?_set_lease {L : List LeaseState} {l l' : Nat} {x y : LeaseState}
    (hlt : l < L.length) (h : (L.set l x)[l']? = some y) :
    (l' = l ∧ y = x) ∨ (l' ≠ l ∧ L[l']? = some y) := by
  rw [List.getElem?_set] at h
  split at h
  · exact .inl ⟨by omega, (Option.some.inj h).symm⟩
  · exact .inr ⟨by omega, h⟩

/-- A detach counts its marked lease out: the count drops by one and the lease is released, by
a detach that found the count it had. -/
theorem Inv.countOut (h : S.Inv) {l : Nat} (hl : S.leases[l]? = some .releasing)
    (hno : ∀ (j : Nat) r y, S.tasks[j]? = some (r, y) → ¬ r.HoldsConsumers y)
    (hnw : ∀ j : Nat, S.tasks[j]? ≠ some (SessionRequest.release l, .awaitConsumers)) :
    ({ S with session := { S.session with consumers := S.session.consumers - 1 },
              leases := S.leases.set l (.released S.session.consumers) }).Inv := by
  have hlt : l < S.leases.length := (List.getElem?_eq_some_iff.mp hl).1
  -- every lease but `l` keeps its state
  have hkeep : ∀ {l' : Nat} {x : LeaseState}, S.leases[l']? = some x → l' ≠ l →
      (S.leases.set l (.released S.session.consumers))[l']? = some x := fun hx hne => by
    rw [List.getElem?_set_ne (Ne.symm hne), hx]
  have hne : ∀ {l' : Nat} {c : Nat}, S.leases[l']? = some (.released c) → l' ≠ l :=
    fun hx he => by rw [he, hl] at hx; cases hx
  refine ⟨h.1, h.2, fun j r y hj hy => absurd hy (hno j r y hj), ?_, fun j l' hj => ?_, h.6,
    fun j l' y hj hy => absurd hy (hno j _ y hj), h.8, h.9, h.10, fun k j hk => ?_,
    fun l' k hk hnc => ?_, h.13, h.14, h.15, h.16, h.17, h.18, h.19, h.20, h.21, h.22, h.23⟩
  · -- the lease counted out was attached, and is no longer
    have hpos : 0 < S.leases.countP LeaseState.attached :=
      List.countP_pos_iff.mpr ⟨_, List.mem_of_getElem? hl, rfl⟩
    simp only [h.count, List.countP_set hlt, (List.getElem?_eq_some_iff.mp hl).2,
      LeaseState.attached]
    simp
  · have hl' := h.releasing j l' hj
    have hne' : l' ≠ l := fun he => hnw j (he ▸ hj)
    exact hkeep hl' hne'
  · rcases h.deletedBy k j hk with hc | ⟨l', y, hj, hl'⟩
    · exact .inl hc
    · exact .inr ⟨l', y, hj, hkeep hl' (hne hl')⟩
  · rcases getElem?_set_lease hlt hk with ⟨-, hx⟩ | ⟨-, hk⟩
    · cases hx
    · exact h.reading l' k hk hnc

/-- A release counts its lease out; the last one out keeps the consumer lock and waits for the
init lock, the others return. -/
theorem Inv.detach (h : S.Inv) {l : Nat}
    (hi : S.tasks[i]? = some (.release l, .awaitConsumers)) (hc : S.consumerLock = none) :
    (S.detach i l).Inv := by
  have hl := h.releasing i l hi
  have hpos : 1 ≤ S.session.consumers := by
    rw [h.count]
    exact List.countP_pos_iff.mpr ⟨_, List.mem_of_getElem? hl, rfl⟩
  -- the release returns first; then its lease is counted out
  have h₂ : (S.setStage i (.release l) .finished).Inv :=
    h.setStage_free hi (by simp [SessionStage.Starting]) (by simp [Free, SessionStage.Starting])
      (by simp [SessionRequest.HoldsConsumers]) (by simp)
      fun hnc => NoClose.of_setStage hnc hi (by simp)
  have h₃ := h₂.countOut (l := l) hl
    (fun j r y hj => by
      rcases setStage_getElem? hj with ⟨-, rfl, rfl⟩ | ⟨-, hj⟩
      · simp [SessionRequest.HoldsConsumers]
      · exact h.not_holding hc hj)
    (fun j hj => by
      rcases setStage_getElem? hj with ⟨-, -, hx⟩ | ⟨hji, hj⟩
      · cases hx
      · exact hji (h.releasingOnce j i l hj hi))
  unfold SessionTasks.detach
  dsimp only
  split
  · -- the last one out: the count went from one to zero
    rename_i hzero
    have hone : S.session.consumers = 1 := by simp at hzero; omega
    have h₄ : ({ S.setStage i (.release l) .finished with
        session := { S.session with consumers := S.session.consumers - 1 },
        leases := S.leases.set l (.released S.session.consumers),
        consumerLock := some i }).Inv :=
      ⟨h₃.1, h₃.2, fun j r y hj hy => absurd hy (by
          rcases setStage_getElem? hj with ⟨-, rfl, rfl⟩ | ⟨-, hj⟩
          · simp [SessionRequest.HoldsConsumers]
          · exact h.not_holding hc hj),
        h₃.4, h₃.5, h₃.6, h₃.7, h₃.8, h₃.9, h₃.10, h₃.11, h₃.12, h₃.13, h₃.14, h₃.15, h₃.16,
        h₃.17, h₃.18, h₃.19, h₃.20, h₃.21, h₃.22, h₃.23⟩
    have hself : (S.setStage i (.release l) .finished).tasks[i]? =
        some (SessionRequest.release l, SessionStage.finished) := setStage_self hi
    have h₅ := h₄.setStage_free hself (by simp [SessionStage.Starting])
      (by simp [Free, SessionStage.Starting] : Free SessionStage.awaitInit)
      (fun _ => ⟨rfl, fun l' hl' => by
        cases hl'
        refine ⟨by simp [hone], ?_⟩
        simp [hone, List.getElem?_set_self (List.getElem?_eq_some_iff.mp hl).1]⟩)
      (by simp) (fun hnc => NoClose.of_setStage hnc (setStage_self hi) (by simp))
    -- the release that returned first is now the one holding the lock
    convert h₅ using 1
    simp [setStage, List.set_set]
  · exact h₃


/-- With no start in progress, the current generation has sent what `StartsSent` allows. -/
theorem Inv.startsSent (h : S.Inv) (hl : S.initLock = none) :
    StartsSent S.session.config.pageSize (S.createdIn S.generation) (S.requestsIn S.generation) := by
  by_cases hu : S.session.phase = .uninitialized
  · obtain ⟨hr, hc⟩ := h.quiet (fun j r y hj => h.not_starting hl hj) hu
    rw [hr, hc]
    exact .inl ⟨rfl, .inl rfl⟩
  · exact h.settled hu

/-- Passing the phase's job to a delete by task `i` keeps every job's holders. -/
theorem holders_passDelete (k : Nat) :
    ({ S with phaseJob := none,
              deleted := S.deleted ++ (S.phaseJob.map fun k => (k, i)).toList }).holders k =
      S.holders k := by
  unfold SessionTasks.holders
  rcases S.phaseJob with _ | k₀
  · simp
  · by_cases hkk : k₀ = k
    · subst hkk
      simp [List.countP_append]
      omega
    · simp [hkk, List.countP_append]

/-- A release or a close holding the consumer lock takes the job out of the phase: the phase
holds no job any more, the job it held is passed to a delete by that task, and the generation
moves on by at most one, only to an uninitialized phase; a failure stays a failure, and until
a close the outcome in the same generation stays. -/
theorem Inv.takeGlobals (h : S.Inv) (hi : S.tasks[i]? = some (req, .awaitInit))
    (hhold : req.HoldsConsumers .awaitInit) (hl : S.initLock = none) (phase : Phase)
    (generation : Nat) (hid : (Session.takeJobId phase).1 = none)
    (hgen : generation = S.generation ∨ generation = S.generation + 1)
    (huninit : phase = .uninitialized →
      generation = S.generation + 1 ∨ S.session.phase = .uninitialized)
    (houtcome : generation = S.generation → S.NoClose → phase.outcome = S.session.phase.outcome)
    (hfailed : S.session.phase.Failed → phase.Failed) :
    ({ S with session := { S.session with phase }, phaseJob := none, generation,
              deleted := S.deleted ++ (S.phaseJob.map fun k => (k, i)).toList }).Inv := by
  -- no start is in progress, so no task holds a job
  have hns : ∀ (j : Nat) r y, S.tasks[j]? = some (r, y) → ¬ y.Starting :=
    fun j r y hj => h.not_starting hl hj
  have hsent := h.startsSent hl
  have hnext : S.requestsIn (S.generation + 1) = [] ∧ S.createdIn (S.generation + 1) = [] :=
    ⟨requestsIn_of_bound h.requestsBound (by omega), createdIn_of_bound h.createdBound (by omega)⟩
  -- a release taking the job found no attached lease, and a close has started
  have hreq : (∃ l, req = .release l ∧ S.session.consumers = 0 ∧
      S.leases[l]? = some (.released 1)) ∨ (req = .close ∧ ¬ S.NoClose) := by
    cases req with
    | release l => exact .inl ⟨l, rfl, h.lastOut i l _ hi hhold⟩
    | close => exact .inr ⟨rfl, fun hnc => by cases hnc i _ hi⟩
    | attach | ready _ => exact absurd hhold (by simp [SessionRequest.HoldsConsumers])
  have hge : S.generation ≤ generation := by omega
  refine ⟨h.1, fun j r y hj hy => absurd hy (hns j r y hj), h.3, h.4, h.5, h.6, h.7, ?_,
    fun k => (holders_passDelete k).trans (h.holders k),
    fun j r y k job hj hy => absurd (SessionStage.starting_of_heldJob hy) (hns j r y hj),
    fun k j hk => ?_, fun l k hk hnc => ?_,
    fun p hp => (h.requestsBound p hp).trans hge, fun p hp => (h.createdBound p hp).trans hge,
    fun g hg => ?_, fun _ hu => ?_, fun j r hj => absurd trivial (hns j r _ hj),
    fun j r y k job hj hy => absurd (SessionStage.starting_of_heldJob hy) (hns j r y hj),
    fun _ => ?_, fun j r g res hj => (h.returnedBound j r g res hj).trans hge,
    fun hnc j r res hj => ?_, h.agree, fun j r g e hj => hfailed (h.failedReturned j r g e hj)⟩
  · simpa using hid
  · rcases List.mem_append.mp hk with hk | hk
    · exact h.deletedBy k j hk
    · -- the new delete is made by the release or the close itself
      have hj : j = i := by
        rcases hp : S.phaseJob with _ | k₀ <;> simp [hp] at hk
        exact hk.2
      subst hj
      rcases hreq with ⟨l, rfl, -, hl'⟩ | ⟨rfl, -⟩
      · exact .inr ⟨l, _, hi, hl'⟩
      · exact .inl ⟨_, hi⟩
  · rcases hreq with ⟨l', -, hzero, -⟩ | ⟨-, hnc'⟩
    · -- no lease is attached, so none is held
      have hpos : 0 < S.leases.countP LeaseState.attached :=
        List.countP_pos_iff.mpr ⟨_, List.mem_of_getElem? hk, rfl⟩
      have := h.count
      omega
    · exact absurd hnc hnc'
  · dsimp only at hg
    by_cases hg' : g < S.generation
    · exact h.past g hg'
    · obtain rfl : g = S.generation := by omega
      exact hsent
  · rcases huninit hu with hgen' | hu'
    · subst hgen'
      exact hnext
    · rcases hgen with rfl | rfl
      · exact h.quiet (fun j r y hj => hns j r y hj) hu'
      · exact hnext
  · rcases hgen with rfl | rfl
    · exact hsent
    · show StartsSent _ (S.createdIn (S.generation + 1)) (S.requestsIn (S.generation + 1))
      rw [hnext.1, hnext.2]
      exact .inl ⟨rfl, .inl rfl⟩
  · rcases hgen with rfl | rfl
    · rw [houtcome rfl hnc]
      exact h.outcome hnc j r res hj
    · have hb := h.returnedBound j r _ res hj
      dsimp only at hb
      omega

/-- After taking the job, a task with no job to delete returns and frees the consumer lock; one
with a job keeps the lock while the deletion is in flight. -/
theorem Inv.afterTake (h : S.Inv) (hi : S.tasks[i]? = some (req, .awaitInit))
    (hhold : req.HoldsConsumers .awaitInit) (id : Option String) :
    (match id with
      | none => { S with consumerLock := none }.setStage i req .finished
      | some id => S.setStage i req (.deleting id)).Inv := by
  have hheld : S.consumerLock = some i := h.consumersLocked i req _ hi hhold
  have hnc : ∀ st, st ≠ SessionStage.fresh → (S.setStage i req st).NoClose → S.NoClose :=
    fun _ hst hnc => NoClose.of_setStage hnc hi hst
  cases id with
  | none =>
    -- the task returns, and with it the only holder of the consumer lock
    have h₁ : (S.setStage i req .finished).Inv :=
      h.setStage_free hi (by simp [SessionStage.Starting]) (by simp [Free, SessionStage.Starting])
        (by cases req <;> simp [SessionRequest.HoldsConsumers]) (by simp) (hnc _ (by simp))
    refine h₁.freeConsumers (fun j r y hj hy => ?_) S.world
    rcases setStage_getElem? hj with ⟨-, rfl, rfl⟩ | ⟨hji, hj⟩
    · cases r <;> simp [SessionRequest.HoldsConsumers] at hy
    · exact hji (Option.some.inj ((h.consumersLocked j r y hj hy).symm.trans hheld))
  | some id =>
    refine h.setStage_free hi (by simp [SessionStage.Starting])
      (by simp [Free, SessionStage.Starting]) (fun _ => ⟨hheld, fun l hl => ?_⟩) (by simp)
      (hnc _ (by simp))
    subst hl
    exact h.lastOut i l _ hi hhold

/-- Passing the job taken out of the phase to a delete keeps the invariant, for a new phase
and generation as `Inv.takeGlobals` allows them. -/
theorem Inv.passJob (h : S.Inv) (hi : S.tasks[i]? = some (req, .awaitInit))
    (hhold : req.HoldsConsumers .awaitInit) (hl : S.initLock = none) (id : Option String)
    (phase : Phase) (generation : Nat) (hid : (Session.takeJobId phase).1 = none)
    (hgen : generation = S.generation ∨ generation = S.generation + 1)
    (huninit : phase = .uninitialized →
      generation = S.generation + 1 ∨ S.session.phase = .uninitialized)
    (houtcome : generation = S.generation → S.NoClose → phase.outcome = S.session.phase.outcome)
    (hfailed : S.session.phase.Failed → phase.Failed) :
    (S.passJob i req id phase generation).Inv :=
  (h.takeGlobals hi hhold hl phase generation hid hgen huninit houtcome hfailed).afterTake hi
    hhold id

/-- The last release, holding the consumer lock, takes the free init lock and the job. -/
theorem Inv.lastRelease (h : S.Inv) {l : Nat} (hi : S.tasks[i]? = some (.release l, .awaitInit))
    (hl : S.initLock = none) : (S.lastRelease i l).Inv := by
  unfold SessionTasks.lastRelease
  rcases hp : S.session.phase with _ | job | ⟨e, id⟩
  · exact h.passJob hi trivial hl _ _ _ rfl (.inl rfl) (fun _ => .inr hp)
      (fun _ _ => by rw [hp]) (fun ⟨_, _, he⟩ => by rw [hp] at he; cases he)
  · -- a ready phase is reset, in a new generation
    exact h.passJob hi trivial hl _ _ _ rfl (.inr rfl) (fun _ => .inl rfl) (fun hg => by simp at hg)
      (fun ⟨_, _, he⟩ => by rw [hp] at he; cases he)
  · exact h.passJob hi trivial hl _ _ _ rfl (.inl rfl) (fun hu => by cases hu)
      (fun _ _ => by rw [hp]; rfl) (fun _ => ⟨e, none, rfl⟩)

/-- A close, holding the consumer lock, takes the free init lock and the job, and leaves the
phase failed. -/
theorem Inv.closeTake (h : S.Inv) (hi : S.tasks[i]? = some (.close, .awaitInit))
    (hl : S.initLock = none) : (S.closeTake i).Inv :=
  h.passJob hi trivial hl _ _ _ rfl (.inl rfl) (fun hu => by cases hu)
    (fun _ hnc => absurd (hnc i _ hi) (by simp)) (fun _ => ⟨_, _, rfl⟩)

/-! ### Starts -/

/-- A start step that runs nothing leaves the state as it was. -/
theorem startRun_pure {α : Type} (a : α) : (S.startRun (pure a)).2 = S := by
  cases S
  simp [startRun]

/-- A start goes on with its job: it sends status checks of the job, if anything, and moves to a
stage that holds the same job. -/
theorem Inv.continueStart (h : S.Inv) {l : Option Nat} {x : SessionStage} {k : Nat}
    {job : QueryJob} (hi : S.tasks[i]? = some (.ready l, x)) (hx : x.heldJob = some (k, job))
    {α : Type} (run : Run α) (hsent : ∀ r ∈ run.sentBy S.world, r.IsStatusCheck job.jobId)
    (hst : st.heldJob = some (k, job)) :
    ((S.startRun run).2.setStage i (.ready l) st).Inv := by
  have hxs := SessionStage.starting_of_heldJob hx
  have hsts := SessionStage.starting_of_heldJob hst
  have hlock := h.initLocked i _ x hi hxs
  -- the start is the only task holding a job
  have honly : ∀ (j : Nat) r y, S.tasks[j]? = some (r, y) → y.Starting → j = i :=
    fun j r y hj hy => h.starting_unique hj hy hi hxs
  obtain ⟨hcr, hpolled⟩ := h.polled i _ x k job hi hx
  have hreq : ∀ g, (S.startRun run).2.requestsIn g =
      S.requestsIn g ++ if g = S.generation then run.sentBy S.world else [] :=
    startRun_requestsIn
  refine ⟨fun j r y hj hy => ?_, fun j r y hj hy => ?_, fun j r y hj hy => ?_, h.count,
    fun j l hj => ?_, fun j j' l hj hj' => ?_, fun j l y hj hy => ?_, h.phaseId, fun k' => ?_,
    fun j r y k' job' hj hy => ?_, fun k' j hk => ?_, fun l' k' hl hnc => ?_, fun p hp => ?_,
    h.createdBound, fun g hg => ?_, fun hno _ => ?_, fun j r hj => ?_,
    fun j r y k' job' hj hy => ?_, fun hu => absurd (h.startingUninit i _ x hi hxs) hu,
    fun j r g res hj => ?_, fun hnc j r res hj => ?_, fun hnc j j' r r' g res res' hj hj' => ?_,
    fun j r g e hj => ?_⟩
  · rcases setStage_getElem? hj with ⟨hji, -, -⟩ | ⟨-, hj⟩
    · exact hji ▸ hlock
    · exact h.initLocked j r y hj hy
  · rcases setStage_getElem? hj with ⟨-, -, -⟩ | ⟨-, hj⟩
    · exact h.startingUninit i _ x hi hxs
    · exact h.startingUninit j r y hj hy
  · rcases setStage_getElem? hj with ⟨-, rfl, rfl⟩ | ⟨-, hj⟩
    · -- a start holds no consumer lock
      cases y <;> simp_all [SessionRequest.HoldsConsumers, SessionStage.heldJob]
    · exact h.consumersLocked j r y hj hy
  · rcases setStage_getElem? hj with ⟨-, hr, -⟩ | ⟨-, hj⟩
    · cases hr
    · exact h.releasing j l hj
  · rcases setStage_getElem? hj with ⟨-, hr, -⟩ | ⟨-, hj⟩
    · cases hr
    rcases setStage_getElem? hj' with ⟨-, hr, -⟩ | ⟨-, hj'⟩
    · cases hr
    · exact h.releasingOnce j j' l hj hj'
  · rcases setStage_getElem? hj with ⟨-, hr, -⟩ | ⟨-, hj⟩
    · cases hr
    · exact h.lastOut j l y hj hy
  · exact (holders_setStage (S := (S.startRun run).2) hi (by rw [hx, hst]) k').trans
      (h.holders k')
  · rcases setStage_getElem? hj with ⟨-, -, rfl⟩ | ⟨-, hj⟩
    · rw [hst] at hy
      obtain ⟨rfl, rfl⟩ := Prod.mk.inj (Option.some.inj hy)
      exact h.stageJob i _ x k job hi hx
    · exact h.stageJob j r y k' job' hj hy
  · rcases h.deletedBy k' j hk with ⟨y, hj⟩ | ⟨l', y, hj, hl'⟩
    · exact .inl (setStage_request _ hi hj)
    · obtain ⟨y', hj'⟩ := setStage_request st hi hj
      exact .inr ⟨l', y', hj', hl'⟩
  · exact h.reading l' k' hl (NoClose.of_setStage hnc hi (by cases st <;> simp_all [SessionStage.heldJob]))
  · -- what the start sends is logged in the current generation
    rw [setStage_startRequests, startRun_startRequests] at hp
    rcases List.mem_append.mp hp with hp | hp
    · exact h.requestsBound p hp
    · obtain ⟨q, -, rfl⟩ := List.mem_map.mp hp
      exact le_refl _
  · rw [setStage_requestsIn, hreq, if_neg (by simp at hg; omega), List.append_nil]
    exact h.past g hg
  · exact absurd hsts (hno i _ st (setStage_self hi))
  · rcases setStage_getElem? hj with ⟨-, -, rfl⟩ | ⟨hji, hj⟩
    · simp [SessionStage.heldJob] at hst
    · exact absurd (honly j r _ hj trivial) hji
  · rcases setStage_getElem? hj with ⟨-, -, rfl⟩ | ⟨hji, hj⟩
    · -- the start's own requests: its creation, status checks, and now more of them
      rw [hst] at hy
      obtain ⟨rfl, rfl⟩ := Prod.mk.inj (Option.some.inj hy)
      refine ⟨hcr, ?_⟩
      obtain ⟨post, checks, hreqs, hpost, hchecks⟩ := hpolled
      refine ⟨post, checks ++ run.sentBy S.world, ?_, hpost, fun r hr => ?_⟩
      · show (S.startRun run).2.requestsIn S.generation = _
        rw [hreq, if_pos rfl, hreqs]
        rfl
      · rcases List.mem_append.mp hr with hr | hr
        · exact hchecks r hr
        · exact hsent r hr
    · exact absurd (honly j r y hj (SessionStage.starting_of_heldJob hy)) hji
  · rcases setStage_getElem? hj with ⟨-, -, hr⟩ | ⟨-, hj⟩
    · have hh := congrArg SessionStage.heldJob hr
      rw [hst] at hh
      cases hh
    · exact h.returnedBound j r g res hj
  · rcases setStage_getElem? hj with ⟨-, -, hr⟩ | ⟨-, hj⟩
    · have hh := congrArg SessionStage.heldJob hr
      rw [hst] at hh
      cases hh
    · exact h.outcome (NoClose.of_setStage hnc hi (by cases st <;> simp_all [SessionStage.heldJob]))
        j r res hj
  · rcases setStage_getElem? hj with ⟨-, -, hr⟩ | ⟨-, hj⟩
    · have hh := congrArg SessionStage.heldJob hr
      rw [hst] at hh
      cases hh
    rcases setStage_getElem? hj' with ⟨-, -, hr⟩ | ⟨-, hj'⟩
    · have hh := congrArg SessionStage.heldJob hr
      rw [hst] at hh
      cases hh
    · exact h.agree (NoClose.of_setStage hnc hi (by cases st <;> simp_all [SessionStage.heldJob]))
        j j' r r' g res res' hj hj'
  · rcases setStage_getElem? hj with ⟨-, -, hr⟩ | ⟨-, hj⟩
    · have hh := congrArg SessionStage.heldJob hr
      rw [hst] at hh
      cases hh
    · exact h.failedReturned j r g e hj
/-- A start ends: the phase takes its outcome and the job the start held, the init lock is
free, and the task returns the outcome. Its last step sent what `StartsSent` allows for the
generation. -/
theorem Inv.finishStart (h : S.Inv) {l : Option Nat} {x : SessionStage}
    (hi : S.tasks[i]? = some (.ready l, x)) (hx : x.Starting) {α : Type} (run : Run α)
    (hsent : StartsSent S.session.config.pageSize (S.createdIn S.generation)
      (S.requestsIn S.generation ++ run.sentBy S.world))
    (session : Session) (hcons : session.consumers = S.session.consumers)
    (hconf : session.config = S.session.config) {result : Except QueryError ReadyJob}
    (hout : session.phase.outcome = some result)
    (hid : (Session.takeJobId session.phase).1 = x.heldJob.map fun p => p.2.jobId) :
    ({ (S.startRun run).2 with session, phaseJob := x.heldJob.map Prod.fst,
                                initLock := none }.answer i l result).Inv := by
  have hlock := h.initLocked i _ x hi hx
  have hu := h.startingUninit i _ x hi hx
  have hpj := h.phaseJob_uninit hu
  -- the start was the only task holding the init lock
  have honly : ∀ (j : Nat) r y, S.tasks[j]? = some (r, y) → y.Starting → j = i :=
    fun j r y hj hy => h.starting_unique hj hy hi hx
  have hne : session.phase ≠ .uninitialized := fun he => by rw [he] at hout; cases hout
  have hreq : ∀ g, (S.startRun run).2.requestsIn g =
      S.requestsIn g ++ if g = S.generation then run.sentBy S.world else [] :=
    startRun_requestsIn
  have hread := @answer_readOf { (S.startRun run).2 with
    session, phaseJob := x.heldJob.map Prod.fst, initLock := none } i l result
  have hnc : ∀ {T : SessionTasks}, T.tasks = S.tasks.set i (.ready l, .returned S.generation result) →
      T.NoClose → S.NoClose := fun hT hnc =>
    NoClose.of_setStage (show (S.setStage i (.ready l) (.returned S.generation result)).NoClose from
      fun j st' hj => hnc j st' (by rw [hT]; exact hj)) hi (by simp)
  refine ⟨fun j r y hj hy => ?_, fun j r y hj hy => ?_, fun j r y hj hy => ?_, ?_,
    fun j l' hj => ?_, fun j j' l' hj hj' => ?_, fun j l' y hj hy => ?_, ?_, fun k => ?_,
    fun j r y k job hj hy => ?_, fun k j hk => ?_, fun l' k hl hnc' => ?_, fun p hp => ?_,
    h.createdBound, fun g hg => ?_, fun _ hu' => absurd hu' hne, fun j r hj => ?_,
    fun j r y k job hj hy => ?_, fun _ => ?_, fun j r g res hj => ?_,
    fun hnc' j r res hj => ?_, fun hnc' j j' r r' g res res' hj hj' => ?_,
    fun j r g e hj => ?_⟩
  · rcases answer_getElem? hj with ⟨-, -, rfl⟩ | ⟨hji, hj⟩
    · exact absurd hy id
    · exact absurd (honly j r y hj hy) hji
  · rcases answer_getElem? hj with ⟨-, -, rfl⟩ | ⟨hji, hj⟩
    · exact absurd hy id
    · exact absurd (honly j r y hj hy) hji
  · rcases answer_getElem? hj with ⟨-, rfl, rfl⟩ | ⟨-, hj⟩
    · exact absurd hy id
    · exact h.consumersLocked j r y hj hy
  · rw [hread.countP]
    exact hcons.trans h.count
  · rcases answer_getElem? hj with ⟨-, hr, -⟩ | ⟨-, hj⟩
    · cases hr
    · exact hread.keep _ _ (h.releasing j l' hj) (by simp)
  · rcases answer_getElem? hj with ⟨-, hr, -⟩ | ⟨-, hj⟩
    · cases hr
    rcases answer_getElem? hj' with ⟨-, hr, -⟩ | ⟨-, hj'⟩
    · cases hr
    · exact h.releasingOnce j j' l' hj hj'
  · rcases answer_getElem? hj with ⟨-, hr, -⟩ | ⟨-, hj⟩
    · cases hr
    · obtain ⟨hz, hl'⟩ := h.lastOut j l' y hj hy
      exact ⟨hcons.trans hz, hread.keep _ _ hl' (by simp)⟩
  · -- the phase holds the id of the start's job
    show (Session.takeJobId session.phase).1 = _
    rw [hid]
    rcases hxj : x.heldJob with _ | ⟨k, job⟩
    · rfl
    · simp [h.stageJob i _ x k job hi hxj]
  · -- the start's job moves from the start to the phase
    refine Eq.trans ?_ (h.holders k)
    apply holders_handOver (.returned S.generation result) hi hpj
    all_goals rfl
  · rcases answer_getElem? hj with ⟨-, -, rfl⟩ | ⟨hji, hj⟩
    · simp [SessionStage.heldJob] at hy
    · exact absurd (honly j r y hj (SessionStage.starting_of_heldJob hy)) hji
  · rcases h.deletedBy k j hk with ⟨y, hj⟩ | ⟨l', y, hj, hl'⟩
    · exact .inl (setStage_request (.returned S.generation result) hi hj)
    · obtain ⟨y', hj'⟩ := setStage_request (.returned S.generation result) hi hj
      exact .inr ⟨l', y', hj', hread.keep _ _ hl' (by simp)⟩
  · -- a lease reads only the job the phase now holds
    obtain ⟨r₀, hl₀, hr⟩ := hread.held l' _ hl
    rcases hr with hr | hr
    · subst hr
      have := h.reading l' k hl₀ (hnc rfl hnc')
      rw [hpj] at this
      cases this
    · exact hr.symm
  · rw [answer_startRequests] at hp
    show p.1 ≤ S.generation
    rcases List.mem_append.mp hp with hp | hp
    · exact h.requestsBound p hp
    · obtain ⟨q, -, rfl⟩ := List.mem_map.mp hp
      exact le_refl _
  · rw [answer_requestsIn]
    show StartsSent session.config.pageSize (S.createdIn g) ((S.startRun run).2.requestsIn g)
    rw [hreq, if_neg (by simp at hg; omega), List.append_nil, hconf]
    exact h.past g hg
  · rcases answer_getElem? hj with ⟨-, -, hr⟩ | ⟨hji, hj⟩
    · cases hr
    · exact absurd (honly j r _ hj trivial) hji
  · rcases answer_getElem? hj with ⟨-, -, rfl⟩ | ⟨hji, hj⟩
    · simp [SessionStage.heldJob] at hy
    · exact absurd (honly j r y hj (SessionStage.starting_of_heldJob hy)) hji
  · rw [answer_requestsIn]
    show StartsSent session.config.pageSize (S.createdIn S.generation)
      ((S.startRun run).2.requestsIn S.generation)
    rw [hreq, if_pos rfl, hconf]
    exact hsent
  · rcases answer_getElem? hj with ⟨-, -, hr⟩ | ⟨-, hj⟩
    · cases hr
      exact le_refl _
    · exact h.returnedBound j r g res hj
  · rcases answer_getElem? hj with ⟨-, -, hr⟩ | ⟨-, hj⟩
    · cases hr
      exact hout
    · -- nobody returned in this generation while the phase was uninitialized
      have := h.outcome (hnc rfl hnc') j r res hj
      rw [hu] at this
      cases this
  · rcases answer_getElem? hj with ⟨-, -, hr⟩ | ⟨-, hj⟩ <;>
      rcases answer_getElem? hj' with ⟨-, -, hr'⟩ | ⟨-, hj'⟩
    · cases hr
      cases hr'
      rfl
    · cases hr
      have := h.outcome (hnc rfl hnc') j' r' res' hj'
      rw [hu] at this
      cases this
    · cases hr'
      have := h.outcome (hnc rfl hnc') j r res hj
      rw [hu] at this
      cases this
    · exact h.agree (hnc rfl hnc') j j' r r' g res res' hj hj'
  · rcases answer_getElem? hj with ⟨-, -, hr⟩ | ⟨-, hj⟩
    · cases hr
      show session.phase.Failed
      rcases hp : session.phase with _ | job | ⟨e', id⟩ <;> rw [hp] at hout <;> cases hout
      exact ⟨_, _, rfl⟩
    · have := h.failedReturned j r g e hj
      rw [hu] at this
      obtain ⟨_, _, he⟩ := this
      cases he

/-- A start creates its job: the job is logged in the current generation with the next creation
number, the creation is the one request sent, and the start moves to its first status check
holding the job. -/
theorem Inv.createStart (h : S.Inv) {l : Option Nat}
    (hi : S.tasks[i]? = some (.ready l, .creating)) {α : Type} (run : Run α) {post : ApiRequest}
    (hsent : run.sentBy S.world = [post]) (hpost : post.IsJobCreation) (job : QueryJob) :
    ({ (S.startRun run).2 with created := S.created ++ [(S.generation, job.jobId)] }.setStage i
      (.ready l) (.checking S.created.length job)).Inv := by
  have hlock := h.initLocked i _ _ hi trivial
  have hu := h.startingUninit i _ _ hi trivial
  have hpj := h.phaseJob_uninit hu
  have honly : ∀ (j : Nat) r y, S.tasks[j]? = some (r, y) → y.Starting → j = i :=
    fun j r y hj hy => h.starting_unique hj hy hi trivial
  obtain ⟨hnoreq, hnocr⟩ := h.creating i _ hi
  have hreq : ∀ g, requestsIn { (S.startRun run).2 with
      created := S.created ++ [(S.generation, job.jobId)] } g =
      S.requestsIn g ++ if g = S.generation then run.sentBy S.world else [] :=
    startRun_requestsIn
  have hcr : ∀ g, createdIn { (S.startRun run).2 with
      created := S.created ++ [(S.generation, job.jobId)] } g =
      S.createdIn g ++ if g = S.generation then [job.jobId] else [] :=
    fun g => createdIn_append S.created S.generation g job.jobId
  have hnc : ∀ {T : SessionTasks}, T.tasks = (S.setStage i (.ready l) (.checking S.created.length
      job)).tasks → T.NoClose → S.NoClose := fun hT hnc =>
    NoClose.of_setStage (fun j st' hj => hnc j st' (by rw [hT]; exact hj)) hi (by simp)
  refine ⟨fun j r y hj hy => ?_, fun j r y hj hy => ?_, fun j r y hj hy => ?_, h.count,
    fun j l hj => ?_, fun j j' l hj hj' => ?_, fun j l y hj hy => ?_, ?_, fun k => ?_,
    fun j r y k job' hj hy => ?_, fun k j hk => ?_, fun l' k hl hnc' => ?_, fun p hp => ?_,
    fun p hp => ?_, fun g hg => ?_, fun hno _ => ?_, fun j r hj => ?_,
    fun j r y k job' hj hy => ?_, fun hu' => absurd hu hu', fun j r g res hj => ?_,
    fun hnc' j r res hj => ?_, fun hnc' j j' r r' g res res' hj hj' => ?_,
    fun j r g e hj => ?_⟩
  · rcases setStage_getElem? hj with ⟨hji, -, -⟩ | ⟨-, hj⟩
    · exact hji ▸ hlock
    · exact h.initLocked j r y hj hy
  · rcases setStage_getElem? hj with ⟨-, -, -⟩ | ⟨-, hj⟩
    · exact hu
    · exact h.startingUninit j r y hj hy
  · rcases setStage_getElem? hj with ⟨-, rfl, rfl⟩ | ⟨-, hj⟩
    · exact hy.elim
    · exact h.consumersLocked j r y hj hy
  · rcases setStage_getElem? hj with ⟨-, hr, -⟩ | ⟨-, hj⟩
    · cases hr
    · exact h.releasing j l hj
  · rcases setStage_getElem? hj with ⟨-, hr, -⟩ | ⟨-, hj⟩
    · cases hr
    rcases setStage_getElem? hj' with ⟨-, hr, -⟩ | ⟨-, hj'⟩
    · cases hr
    · exact h.releasingOnce j j' l hj hj'
  · rcases setStage_getElem? hj with ⟨-, hr, -⟩ | ⟨-, hj⟩
    · cases hr
    · exact h.lastOut j l y hj hy
  · -- the phase is uninitialized and holds no job
    show (Session.takeJobId S.session.phase).1 = S.phaseJob.bind _
    rw [hu, hpj]
    rfl
  · -- the new job has the start for its one holder
    refine (holders_create (.checking S.created.length job) hi (by rfl) (by rfl) (by rfl) (by rfl)
      k).trans ?_
    show _ = if k < (S.created ++ [(S.generation, job.jobId)]).length then 1 else 0
    rw [h.holders k, List.length_append, List.length_singleton]
    simp only [SessionStage.heldJob, Option.map_some, Option.some.injEq]
    split_ifs <;> omega
  · show (S.created ++ [(S.generation, job.jobId)])[k]? = some (S.generation, job'.jobId)
    rcases setStage_getElem? hj with ⟨-, -, rfl⟩ | ⟨-, hj⟩
    · simp only [SessionStage.heldJob, Option.some.injEq, Prod.mk.injEq] at hy
      obtain ⟨rfl, rfl⟩ := hy
      simp
    · have hk := h.stageJob j r y k job' hj hy
      rw [List.getElem?_append_left (List.getElem?_eq_some_iff.mp hk).1]
      exact hk
  · rcases h.deletedBy k j hk with ⟨y, hj⟩ | ⟨l', y, hj, hl'⟩
    · exact .inl (setStage_request _ hi hj)
    · obtain ⟨y', hj'⟩ := setStage_request (.checking S.created.length job) hi hj
      exact .inr ⟨l', y', hj', hl'⟩
  · exact h.reading l' k hl (hnc rfl hnc')
  · rw [setStage_startRequests, startRun_startRequests] at hp
    rcases List.mem_append.mp hp with hp | hp
    · exact h.requestsBound p hp
    · obtain ⟨q, -, rfl⟩ := List.mem_map.mp hp
      exact le_refl _
  · rcases List.mem_append.mp hp with hp | hp
    · exact h.createdBound p hp
    · rw [List.mem_singleton.mp hp]
      exact le_refl _
  · have hne : g ≠ S.generation := by simp at hg; omega
    rw [setStage_requestsIn, setStage_createdIn, hreq, hcr, if_neg hne, if_neg hne,
      List.append_nil, List.append_nil]
    exact h.past g hg
  · exact absurd trivial (hno i _ _ (setStage_self hi))
  · rcases setStage_getElem? hj with ⟨-, -, hr⟩ | ⟨hji, hj⟩
    · cases hr
    · exact absurd (honly j r _ hj trivial) hji
  · rcases setStage_getElem? hj with ⟨-, -, rfl⟩ | ⟨hji, hj⟩
    · -- the start's requests so far: the creation of the job it holds
      simp only [SessionStage.heldJob, Option.some.injEq, Prod.mk.injEq] at hy
      obtain ⟨-, rfl⟩ := hy
      show createdIn _ S.generation = [job.jobId] ∧ Polled job.jobId (requestsIn _ S.generation)
      rw [setStage_requestsIn, setStage_createdIn, hreq, hcr, if_pos rfl, if_pos rfl, hnoreq,
        hnocr, hsent]
      exact ⟨rfl, post, [], rfl, hpost, by simp⟩
    · exact absurd (honly j r y hj (SessionStage.starting_of_heldJob hy)) hji
  · rcases setStage_getElem? hj with ⟨-, -, hr⟩ | ⟨-, hj⟩
    · cases hr
    · exact h.returnedBound j r g res hj
  · rcases setStage_getElem? hj with ⟨-, -, hr⟩ | ⟨-, hj⟩
    · cases hr
    · exact h.outcome (hnc rfl hnc') j r res hj
  · rcases setStage_getElem? hj with ⟨-, -, hr⟩ | ⟨-, hj⟩
    · cases hr
    rcases setStage_getElem? hj' with ⟨-, -, hr⟩ | ⟨-, hj'⟩
    · cases hr
    · exact h.agree (hnc rfl hnc') j j' r r' g res res' hj hj'
  · rcases setStage_getElem? hj with ⟨-, -, hr⟩ | ⟨-, hj⟩
    · cases hr
    · exact h.failedReturned j r g e hj

/-- A start fails: the phase takes the failure, wrapped once as a session failure, with the job
the start held, and the task returns the failure. -/
theorem Inv.failStart (h : S.Inv) {l : Option Nat} {x : SessionStage}
    (hi : S.tasks[i]? = some (.ready l, x)) (hx : x.Starting) {α : Type} (run : Run α)
    (hsent : StartsSent S.session.config.pageSize (S.createdIn S.generation)
      (S.requestsIn S.generation ++ run.sentBy S.world)) (e : QueryError) :
    ((S.startRun run).2.fail i l e (x.heldJob.map fun p => (p.1, p.2.jobId))).Inv := by
  unfold fail
  simp only [Option.map_map]
  exact h.finishStart hi hx run hsent _ (by rfl) (by rfl) (by rfl) (by rfl)

/-- The first task to take the init lock with the phase uninitialized starts the session,
holding the lock. -/
theorem Inv.beginStart (h : S.Inv) {l : Option Nat}
    (hi : S.tasks[i]? = some (.ready l, .awaitInit)) (hl : S.initLock = none)
    (hu : S.session.phase = .uninitialized) :
    ({ S with initLock := some i }.setStage i (.ready l) .creating).Inv := by
  have hnc : ∀ {T : SessionTasks}, T.tasks = (S.setStage i (.ready l) .creating).tasks →
      T.NoClose → S.NoClose := fun hT hnc =>
    NoClose.of_setStage (fun j st' hj => hnc j st' (by rw [hT]; exact hj)) hi (by simp)
  refine ⟨fun j r y hj hy => ?_, fun j r y hj hy => ?_, fun j r y hj hy => ?_, h.count,
    fun j l hj => ?_, fun j j' l hj hj' => ?_, fun j l y hj hy => ?_, h.phaseId, fun k => ?_,
    fun j r y k job hj hy => ?_, fun k j hk => ?_, fun l' k hl' hnc' => h.reading l' k hl' (hnc rfl hnc'),
    h.requestsBound, h.createdBound, h.past, fun hno _ => ?_, fun j r hj => ?_,
    fun j r y k job hj hy => ?_, h.settled, fun j r g res hj => ?_,
    fun hnc' j r res hj => ?_, fun hnc' j j' r r' g res res' hj hj' => ?_,
    fun j r g e hj => ?_⟩
  · rcases setStage_getElem? hj with ⟨hji, -, -⟩ | ⟨-, hj⟩
    · exact congrArg some hji.symm
    · exact absurd hy (h.not_starting hl hj)
  · rcases setStage_getElem? hj with ⟨-, -, -⟩ | ⟨-, hj⟩
    · exact hu
    · exact h.startingUninit j r y hj hy
  · rcases setStage_getElem? hj with ⟨-, rfl, rfl⟩ | ⟨-, hj⟩
    · exact hy.elim
    · exact h.consumersLocked j r y hj hy
  · rcases setStage_getElem? hj with ⟨-, hr, -⟩ | ⟨-, hj⟩
    · cases hr
    · exact h.releasing j l hj
  · rcases setStage_getElem? hj with ⟨-, hr, -⟩ | ⟨-, hj⟩
    · cases hr
    rcases setStage_getElem? hj' with ⟨-, hr, -⟩ | ⟨-, hj'⟩
    · cases hr
    · exact h.releasingOnce j j' l hj hj'
  · rcases setStage_getElem? hj with ⟨-, hr, -⟩ | ⟨-, hj⟩
    · cases hr
    · exact h.lastOut j l y hj hy
  · exact (holders_keep .creating hi rfl rfl (by rfl) (by rfl) (by rfl) k).trans (h.holders k)
  · rcases setStage_getElem? hj with ⟨-, -, rfl⟩ | ⟨-, hj⟩
    · cases hy
    · exact h.stageJob j r y k job hj hy
  · rcases h.deletedBy k j hk with ⟨y, hj⟩ | ⟨l', y, hj, hl'⟩
    · exact .inl (setStage_request _ hi hj)
    · obtain ⟨y', hj'⟩ := setStage_request .creating hi hj
      exact .inr ⟨l', y', hj', hl'⟩
  · exact absurd trivial (hno i _ _ (setStage_self hi))
  · rcases setStage_getElem? hj with ⟨-, -, -⟩ | ⟨-, hj⟩
    · -- no start ran in this generation: the lock was free and the phase uninitialized
      exact h.quiet (fun j r y hj => h.not_starting hl hj) hu
    · exact h.creating j r hj
  · rcases setStage_getElem? hj with ⟨-, -, rfl⟩ | ⟨-, hj⟩
    · cases hy
    · exact h.polled j r y k job hj hy
  · rcases setStage_getElem? hj with ⟨-, -, hr⟩ | ⟨-, hj⟩
    · cases hr
    · exact h.returnedBound j r g res hj
  · rcases setStage_getElem? hj with ⟨-, -, hr⟩ | ⟨-, hj⟩
    · cases hr
    · exact h.outcome (hnc rfl hnc') j r res hj
  · rcases setStage_getElem? hj with ⟨-, -, hr⟩ | ⟨-, hj⟩
    · cases hr
    rcases setStage_getElem? hj' with ⟨-, -, hr⟩ | ⟨-, hj'⟩
    · cases hr
    · exact h.agree (hnc rfl hnc') j j' r r' g res res' hj hj'
  · rcases setStage_getElem? hj with ⟨-, -, hr⟩ | ⟨-, hj⟩
    · cases hr
    · exact h.failedReturned j r g e hj

/-- A task that finds the phase settled returns what the phase holds; a lease it holds now reads
the phase's job. -/
theorem Inv.answerPhase (h : S.Inv) {l : Option Nat}
    (hi : S.tasks[i]? = some (.ready l, .awaitInit)) {result : Except QueryError ReadyJob}
    (hout : S.session.phase.outcome = some result) : (S.answer i l result).Inv := by
  have hread : ReadOf S.leases (S.answer i l result).leases S.phaseJob := answer_readOf
  have hnc : ∀ {T : SessionTasks},
      T.tasks = (S.setStage i (.ready l) (.returned S.generation result)).tasks →
      T.NoClose → S.NoClose := fun hT hnc =>
    NoClose.of_setStage (fun j st' hj => hnc j st' (by rw [hT]; exact hj)) hi (by simp)
  refine ⟨fun j r y hj hy => ?_, fun j r y hj hy => ?_, fun j r y hj hy => ?_, ?_,
    fun j l' hj => ?_, fun j j' l' hj hj' => ?_, fun j l' y hj hy => ?_, h.phaseId, fun k => ?_,
    fun j r y k job hj hy => ?_, fun k j hk => ?_, fun l' k hl' hnc' => ?_, h.requestsBound,
    h.createdBound, h.past, fun hno hu => ?_, fun j r hj => ?_, fun j r y k job hj hy => ?_,
    h.settled, fun j r g res hj => ?_, fun hnc' j r res hj => ?_,
    fun hnc' j j' r r' g res res' hj hj' => ?_, fun j r g e hj => ?_⟩
  · rcases answer_getElem? hj with ⟨-, -, rfl⟩ | ⟨-, hj⟩
    · exact hy.elim
    · exact h.initLocked j r y hj hy
  · rcases answer_getElem? hj with ⟨-, -, rfl⟩ | ⟨-, hj⟩
    · exact hy.elim
    · exact h.startingUninit j r y hj hy
  · rcases answer_getElem? hj with ⟨-, rfl, rfl⟩ | ⟨-, hj⟩
    · exact hy.elim
    · exact h.consumersLocked j r y hj hy
  · rw [hread.countP]
    exact h.count
  · rcases answer_getElem? hj with ⟨-, hr, -⟩ | ⟨-, hj⟩
    · cases hr
    · exact hread.keep _ _ (h.releasing j l' hj) (by simp)
  · rcases answer_getElem? hj with ⟨-, hr, -⟩ | ⟨-, hj⟩
    · cases hr
    rcases answer_getElem? hj' with ⟨-, hr, -⟩ | ⟨-, hj'⟩
    · cases hr
    · exact h.releasingOnce j j' l' hj hj'
  · rcases answer_getElem? hj with ⟨-, hr, -⟩ | ⟨-, hj⟩
    · cases hr
    · obtain ⟨hz, hl'⟩ := h.lastOut j l' y hj hy
      exact ⟨hz, hread.keep _ _ hl' (by simp)⟩
  · exact (holders_keep (.returned S.generation result) hi rfl rfl (by rfl) (by rfl) (by rfl)
      k).trans (h.holders k)
  · rcases answer_getElem? hj with ⟨-, -, rfl⟩ | ⟨-, hj⟩
    · cases hy
    · exact h.stageJob j r y k job hj hy
  · rcases h.deletedBy k j hk with ⟨y, hj⟩ | ⟨l', y, hj, hl'⟩
    · exact .inl (setStage_request _ hi hj)
    · obtain ⟨y', hj'⟩ := setStage_request (.returned S.generation result) hi hj
      exact .inr ⟨l', y', hj', hread.keep _ _ hl' (by simp)⟩
  · -- a lease reads the job it read before, or the phase's job
    obtain ⟨r₀, hl₀, hr | hr⟩ := hread.held l' _ hl'
    · subst hr
      exact h.reading l' k hl₀ (hnc rfl hnc')
    · exact hr.symm
  · -- the task only waited for the init lock, so no task of the old state is a start
    refine h.quiet (fun j r y hj => ?_) hu
    by_cases hji : j = i
    · subst hji
      rw [hi] at hj
      obtain ⟨-, rfl⟩ := Prod.mk.inj (Option.some.inj hj)
      exact id
    · exact hno j r y (by rw [answer_tasks, setStage_other hji]; exact hj)
  · rcases answer_getElem? hj with ⟨-, -, hr⟩ | ⟨-, hj⟩
    · cases hr
    · exact h.creating j r hj
  · rcases answer_getElem? hj with ⟨-, -, rfl⟩ | ⟨-, hj⟩
    · cases hy
    · exact h.polled j r y k job hj hy
  · rcases answer_getElem? hj with ⟨-, -, hr⟩ | ⟨-, hj⟩
    · cases hr
      exact le_refl _
    · exact h.returnedBound j r g res hj
  · rcases answer_getElem? hj with ⟨-, -, hr⟩ | ⟨-, hj⟩
    · cases hr
      exact hout
    · exact h.outcome (hnc rfl hnc') j r res hj
  · -- in the current generation every task returned what the phase holds
    rcases answer_getElem? hj with ⟨-, -, hr⟩ | ⟨-, hj⟩ <;>
      rcases answer_getElem? hj' with ⟨-, -, hr'⟩ | ⟨-, hj'⟩
    · cases hr
      cases hr'
      rfl
    · cases hr
      exact Option.some.inj (hout.symm.trans (h.outcome (hnc rfl hnc') j' r' res' hj'))
    · cases hr'
      exact Option.some.inj ((h.outcome (hnc rfl hnc') j r res hj).symm.trans hout)
    · exact h.agree (hnc rfl hnc') j j' r r' g res res' hj hj'
  · rcases answer_getElem? hj with ⟨-, -, hr⟩ | ⟨-, hj⟩
    · cases hr
      exact Phase.failed_of_outcome hout
    · exact h.failedReturned j r g e hj

/-- Taking the init lock keeps the invariant: the task returns what a settled phase holds, or
starts an uninitialized one. -/
theorem Inv.begin (h : S.Inv) {l : Option Nat} (hi : S.tasks[i]? = some (.ready l, .awaitInit))
    (hl : S.initLock = none) : (S.begin i l).Inv := by
  unfold SessionTasks.begin
  split
  · next job hp => exact h.answerPhase hi (by rw [hp]; rfl)
  · next e id hp => exact h.answerPhase hi (by rw [hp]; rfl)
  · next hp => exact h.beginStart hi hl hp

theorem Inv.create (h : S.Inv) {l : Option Nat} (hi : S.tasks[i]? = some (.ready l, .creating)) :
    (S.create i l).Inv := by
  obtain ⟨post, hsent, hpost⟩ := sentBy_createJob S.session S.world
  obtain ⟨hnoreq, hnocr⟩ := h.creating i _ hi
  unfold SessionTasks.create
  dsimp only
  split
  · -- the creation failed: the start fails, having sent the creation
    refine h.failStart hi trivial _ ?_ _
    rw [hnoreq, hnocr, hsent]
    exact .inl ⟨rfl, .inr ⟨post, rfl, hpost⟩⟩
  · exact h.createStart hi _ hsent hpost _

theorem Inv.firstCheck (h : S.Inv) {l : Option Nat} {k : Nat} {job : QueryJob}
    (hi : S.tasks[i]? = some (.ready l, .checking k job)) : (S.firstCheck i l k job).Inv := by
  obtain ⟨hcr, hpolled⟩ := h.polled i _ _ k job hi rfl
  have hchecks := JobDriver.sentBy_check S.session.driver S.session.cancelled job.jobId S.world
  unfold SessionTasks.firstCheck
  dsimp only
  split
  · refine h.failStart hi trivial _ ?_ _
    rw [hcr, ← List.append_nil (_ ++ _)]
    exact StartsSent.of_polled (hpolled.append hchecks) (by simp) (by simp)
  · exact h.continueStart hi rfl _ hchecks rfl

theorem Inv.poll (h : S.Inv) {l : Option Nat} {k : Nat} {job : QueryJob} {remaining attempts : Nat}
    {state : JobState} (hi : S.tasks[i]? = some (.ready l, .polling k job remaining attempts state)) :
    (S.poll i l k job remaining attempts state).Inv := by
  obtain ⟨hcr, hpolled⟩ := h.polled i _ _ k job hi rfl
  -- a start that fails or moves on without sending
  have hnow : StartsSent S.session.config.pageSize (S.createdIn S.generation)
      (S.requestsIn S.generation ++ (pure () : Run Unit).sentBy S.world) := by
    rw [Run.sentBy_pure, hcr]
    exact StartsSent.of_polled hpolled (by simp) (by simp)
  have hfail : ∀ e, (S.fail i l e (some (k, job.jobId))).Inv := fun e => by
    have hf := h.failStart hi trivial (pure ()) hnow e
    rwa [startRun_pure] at hf
  unfold SessionTasks.poll
  split
  · split
    · exact hfail _
    · next r =>
      have hchecks := sentBy_recheck S.session.driver S.session.cancelled job.jobId S.world
      dsimp only
      split
      · refine h.failStart hi trivial _ ?_ _
        rw [hcr, ← List.append_nil (_ ++ _)]
        exact StartsSent.of_polled (hpolled.append hchecks) (by simp) (by simp)
      · exact h.continueStart hi rfl _ hchecks rfl
  · split
    · -- the job is done: the start goes on to fetch its first page
      have hc := h.continueStart hi rfl (pure ()) (by simp [Run.sentBy_pure])
        (rfl : (SessionStage.fetching k job).heldJob = some (k, job))
      rwa [startRun_pure] at hc
    · exact hfail _

theorem Inv.fetchFirst (h : S.Inv) {l : Option Nat} {k : Nat} {job : QueryJob}
    (hi : S.tasks[i]? = some (.ready l, .fetching k job)) : (S.fetchFirst i l k job).Inv := by
  obtain ⟨hcr, hpolled⟩ := h.polled i _ _ k job hi rfl
  obtain ⟨hlen, hfetch⟩ := sentBy_fetchFirst S.session.service S.session.config.pageSize
    S.session.cancelled job.jobId S.world
  have hsent : StartsSent S.session.config.pageSize (S.createdIn S.generation)
      (S.requestsIn S.generation ++ (fetchPage S.session.service S.session.config.pageSize
        S.session.cancelled job.jobId .first).run.sentBy S.world) := by
    rw [hcr]
    exact StartsSent.of_polled hpolled hlen hfetch
  unfold SessionTasks.fetchFirst
  dsimp only
  split
  · exact h.failStart hi trivial _ hsent _
  · exact h.finishStart hi trivial _ hsent _ (by rfl) (by rfl) (by rfl) (by rfl)

/-! ### Every step, every interleaving -/

/-- Every step of every task keeps the invariant. -/
theorem Inv.step (h : S.Inv) {S' : SessionTasks} (hs : S.step i = some S') : S'.Inv := by
  -- one case per arm of the step
  cases step_cases hs with
  | markRelease hi hl => exact h.markRelease hi hl
  | cancel hi => exact h.cancel hi
  | attach hi hc => exact h.attach hi hc
  | detach hi hc => exact h.detach hi hc
  | lockConsumers hi hc => exact h.lockConsumers hi hc
  | begin hi hc => exact h.begin hi hc
  | lastRelease hi hc => exact h.lastRelease hi hc
  | closeTake hi hc => exact h.closeTake hi hc
  | create hi => exact h.create hi
  | firstCheck hi => exact h.firstCheck hi
  | poll hi => exact h.poll hi
  | fetchFirst hi => exact h.fetchFirst hi
  | finishDelete hi => exact h.finishDelete hi

/-- Every state some interleaving reaches from a state satisfying the invariant satisfies it. -/
theorem Inv.of_reachable (h : S.Inv) {S' : SessionTasks} (hS' : Reachable S S') : S'.Inv := by
  induction hS' with
  | start => exact h
  | step i _ hs ih => exact ih.step hs

/-- Every state some interleaving reaches from a new session satisfies the invariant. -/
theorem Inv.reachable {s : Session} {w : World} {requests : List SessionRequest}
    {S : SessionTasks} (hS : Reachable (start s w requests) S) : S.Inv :=
  (inv_start s w requests).of_reachable hS

/-- A schedule that runs to its end reaches a state of the interleaving semantics. -/
theorem Reachable.of_run {S₀ S S' : SessionTasks} (hS : Reachable S₀ S) {sched : List Nat}
    (hrun : S.run sched = some S') : Reachable S₀ S' := by
  induction sched generalizing S with
  | nil =>
    cases hrun
    exact hS
  | cons i rest ih =>
    obtain ⟨T, hT, hrest⟩ := Option.bind_eq_some_iff.mp hrun
    exact ih (hS.step i hT) hrest

/-! ### Jobs and deletes -/

/-- Every task about to delete a job passed that job to its delete: the job is a created one,
and the task is logged as the one it was passed to. -/
def DeletesLinked (S : SessionTasks) : Prop :=
  ∀ (i : Nat) req id, S.tasks[i]? = some (req, .deleting id) →
    ∃ k, (k, i) ∈ S.deleted ∧ (S.created[k]?).map Prod.snd = some id

/-- Moving one task, with the log of jobs passed to deletes and the log of jobs created only
growing, keeps the other tasks' deletes linked. -/
theorem DeletesLinked.move {T : SessionTasks} {x : SessionStage} (h : S.DeletesLinked)
    (hi : S.tasks[i]? = some (req, x)) (ht : T.tasks = (S.setStage i req st).tasks)
    (hd : S.deleted ⊆ T.deleted) (hc : S.created <+: T.created)
    (hst : ∀ id, st = .deleting id →
      ∃ k, (k, i) ∈ T.deleted ∧ (T.created[k]?).map Prod.snd = some id) :
    T.DeletesLinked := by
  intro j r id hj
  rw [ht] at hj
  rcases setStage_getElem? hj with ⟨rfl, -, hy⟩ | ⟨-, hj⟩
  · exact hst id hy.symm
  · obtain ⟨k, hk, hid⟩ := h j r id hj
    obtain ⟨c, hc⟩ := hc
    have hlt : k < S.created.length := by
      rcases hck : S.created[k]? with _ | p
      · rw [hck] at hid
        cases hid
      · exact (List.getElem?_eq_some_iff.mp hck).1
    refine ⟨k, hd hk, ?_⟩
    rw [← hc, List.getElem?_append_left hlt]
    exact hid

theorem DeletesLinked.of_start {s : Session} {w : World} {requests : List SessionRequest} :
    (start s w requests).DeletesLinked := fun i req id hi => by
  have := start_getElem? hi
  cases req <;> cases this

/-- Moving one task to a stage that deletes nothing, with the logs of jobs as they were, keeps
the deletes linked. -/
theorem DeletesLinked.keep {T : SessionTasks} {x : SessionStage} (h : S.DeletesLinked)
    (hi : S.tasks[i]? = some (req, x)) (ht : T.tasks = (S.setStage i req st).tasks)
    (hd : T.deleted = S.deleted) (hc : T.created = S.created) (hst : ∀ id, st ≠ .deleting id) :
    T.DeletesLinked :=
  h.move hi ht (by rw [hd]; exact List.Subset.refl _) (by rw [hc]) (fun id he => absurd he (hst id))

/-- A task that takes the phase's job passes it to its own delete. -/
theorem DeletesLinked.passJob (h : S.Inv) (hd : S.DeletesLinked) {x : SessionStage}
    (hi : S.tasks[i]? = some (req, x)) (phase : Phase) (generation : Nat) :
    (S.passJob i req (Session.takeJobId S.session.phase).1 phase generation).DeletesLinked := by
  have hid := h.phaseId
  unfold SessionTasks.passJob
  split
  · exact hd.move hi (by rfl) (List.subset_append_left _ _) (List.prefix_refl _)
      (fun _ hst => by cases hst)
  · next id hsome =>
    refine hd.move hi (by rfl) (List.subset_append_left _ _) (List.prefix_refl _)
      (fun id' hst => ?_)
    cases hst
    -- the job taken is the one the phase held
    rw [hsome] at hid
    obtain ⟨k, hk, hck⟩ := Option.bind_eq_some_iff.mp hid.symm
    exact ⟨k, by simp [hk], hck⟩

/-- Every step keeps the deletes linked. -/
theorem DeletesLinked.step (h : S.Inv) (hd : S.DeletesLinked) {S' : SessionTasks}
    (hs : S.step i = some S') : S'.DeletesLinked := by
  cases step_cases hs with
  | markRelease hi _ | cancel hi | attach hi _ | lockConsumers hi _ | finishDelete hi =>
    exact hd.keep hi (by rfl) (by rfl) (by rfl) (by simp)
  | detach hi _ =>
    unfold SessionTasks.detach
    dsimp only
    split <;> exact hd.keep hi (by rfl) (by rfl) (by rfl) (by simp)
  | begin hi _ =>
    unfold SessionTasks.begin
    split <;> exact hd.keep hi (by rfl) (by rfl) (by rfl) (by simp)
  | lastRelease hi _ =>
    unfold SessionTasks.lastRelease
    exact hd.passJob h hi _ _
  | closeTake hi _ => exact hd.passJob h hi _ _
  | create hi =>
    -- a created job is logged after the others
    unfold SessionTasks.create
    dsimp only
    split
    · exact hd.keep hi (by rfl) (by rfl) (by rfl) (by simp)
    · exact hd.move hi (by rfl) (List.Subset.refl _) (List.prefix_append _ _) (by simp)
  | firstCheck hi =>
    unfold SessionTasks.firstCheck
    dsimp only
    split <;> exact hd.keep hi (by rfl) (by rfl) (by rfl) (by simp)
  | poll hi =>
    unfold SessionTasks.poll
    split
    · split
      · exact hd.keep hi (by rfl) (by rfl) (by rfl) (by simp)
      · dsimp only
        split <;> exact hd.keep hi (by rfl) (by rfl) (by rfl) (by simp)
    · split <;> exact hd.keep hi (by rfl) (by rfl) (by rfl) (by simp)
  | fetchFirst hi =>
    unfold SessionTasks.fetchFirst
    dsimp only
    split <;> exact hd.keep hi (by rfl) (by rfl) (by rfl) (by simp)

/-- In every state some interleaving reaches from a new session, the deletes are linked. -/
theorem DeletesLinked.reachable {s : Session} {w : World} {requests : List SessionRequest}
    {S : SessionTasks} (hS : Reachable (start s w requests) S) : S.DeletesLinked := by
  induction hS with
  | start => exact DeletesLinked.of_start
  | step i hreach hs ih => exact ih.step (Inv.reachable hreach) hs

/-- With no start in progress, every job created is held by the phase and was passed to no
delete, or was passed to exactly one delete and the phase does not hold it. -/
theorem Inv.held_or_deleted (h : S.Inv) (hl : S.initLock = none) {k : Nat}
    (hk : k < S.created.length) :
    (S.phaseJob = some k ∧ ∀ i, (k, i) ∉ S.deleted) ∨
      (S.phaseJob ≠ some k ∧ S.deleted.countP (fun d => d.1 == k) = 1) := by
  have hone := h.holders k
  -- no task holds a job: holding one is a start, and no start is in progress
  have htasks : S.tasks.countP (fun t => t.2.heldJob.map Prod.fst == some k) = 0 := by
    refine List.countP_eq_zero.mpr fun t ht => ?_
    obtain ⟨j, hj⟩ := List.mem_iff_getElem?.mp ht
    rw [not_starting_heldJob (h.not_starting hl (r := t.1) (x := t.2) hj)]
    simp
  unfold SessionTasks.holders at hone
  rw [htasks, if_pos hk, Nat.add_zero] at hone
  by_cases hp : S.phaseJob = some k
  · refine .inl ⟨hp, fun i hi => ?_⟩
    have hpos : 0 < S.deleted.countP (fun d => d.1 == k) := List.countP_pos_iff.mpr ⟨_, hi, by simp⟩
    rw [if_pos hp] at hone
    omega
  · rw [if_neg hp] at hone
    exact .inr ⟨hp, by omega⟩

/-- Until a close, the job a lease reads was passed to no delete. -/
theorem Inv.reading_not_deleted (h : S.Inv) {l k : Nat}
    (hl : S.leases[l]? = some (.held (some k))) (hnc : S.NoClose) (i : Nat) :
    (k, i) ∉ S.deleted := by
  intro hi
  have hp := h.reading l k hl hnc
  have hone := h.holders k
  unfold SessionTasks.holders at hone
  rw [hp, if_pos rfl, if_pos (h.phaseJob_lt hp)] at hone
  have hpos : 0 < S.deleted.countP (fun d => d.1 == k) := List.countP_pos_iff.mpr ⟨_, hi, by simp⟩
  omega

/-! ### Starts -/

/-- The current generation has sent what `StartsSent` allows, also while a start is in
progress. -/
theorem Inv.startsSent_current (h : S.Inv) :
    StartsSent S.session.config.pageSize (S.createdIn S.generation) (S.requestsIn S.generation) := by
  by_cases hs : ∃ (j : Nat) (r : SessionRequest) (y : SessionStage),
      S.tasks[j]? = some (r, y) ∧ y.Starting
  · obtain ⟨j, r, y, hj, hy⟩ := hs
    rcases hy' : y.heldJob with _ | ⟨k, job⟩
    · -- a start that holds no job yet is creating it
      have hc : y = .creating := by
        cases y <;> simp_all [SessionStage.heldJob, SessionStage.Starting]
      subst hc
      obtain ⟨hr, hc⟩ := h.creating j r hj
      rw [hr, hc]
      exact .inl ⟨rfl, .inl rfl⟩
    · obtain ⟨hc, hp⟩ := h.polled j r y k job hj hy'
      rw [hc, ← List.append_nil (S.requestsIn _)]
      exact StartsSent.of_polled hp (by simp) (by simp)
  · by_cases hu : S.session.phase = .uninitialized
    · obtain ⟨hr, hc⟩ := h.quiet (fun j r y hj hy => hs ⟨j, r, y, hj, hy⟩) hu
      rw [hr, hc]
      exact .inl ⟨rfl, .inl rfl⟩
    · exact h.settled hu

/-- Every generation, past, current or to come, has sent what `StartsSent` allows. -/
theorem Inv.startsSent_every (h : S.Inv) (g : Nat) :
    StartsSent S.session.config.pageSize (S.createdIn g) (S.requestsIn g) := by
  rcases lt_trichotomy g S.generation with hg | rfl | hg
  · exact h.past g hg
  · exact h.startsSent_current
  · rw [requestsIn_of_bound h.requestsBound hg, createdIn_of_bound h.createdBound hg]
    exact .inl ⟨rfl, .inl rfl⟩

/-- A step from a failed phase leaves the phase failed and sends no start request. -/
theorem Inv.step_failed (h : S.Inv) (hf : S.session.phase.Failed) {S' : SessionTasks}
    (hs : S.step i = some S') : S'.session.phase.Failed ∧ S'.startRequests = S.startRequests := by
  obtain ⟨e, id, hp⟩ := hf
  -- no start is in progress: a start runs while the phase is uninitialized
  have hnostart : ∀ (j : Nat) r y, S.tasks[j]? = some (r, y) → ¬ y.Starting := fun j r y hj hy => by
    rw [h.startingUninit j r y hj hy] at hp
    cases hp
  cases step_cases hs with
  | markRelease _ _ | cancel _ | attach _ _ | lockConsumers _ _ | finishDelete _ =>
    exact ⟨⟨e, id, hp⟩, rfl⟩
  | detach _ _ =>
    unfold SessionTasks.detach
    dsimp only
    split <;> exact ⟨⟨e, id, hp⟩, rfl⟩
  | begin _ _ =>
    -- a task taking the init lock returns the failure
    unfold SessionTasks.begin
    rw [hp]
    exact ⟨⟨e, id, hp⟩, rfl⟩
  | lastRelease _ _ =>
    -- the last release takes the failed phase's job and keeps the failure
    simp only [SessionTasks.lastRelease, SessionTasks.passJob, hp, Session.takeJobId]
    split <;> exact ⟨⟨e, none, rfl⟩, rfl⟩
  | closeTake _ _ =>
    simp only [SessionTasks.closeTake, SessionTasks.passJob]
    split <;> exact ⟨⟨_, none, rfl⟩, rfl⟩
  | create hi | firstCheck hi | poll hi | fetchFirst hi => exact absurd trivial (hnostart i _ _ hi)

/-- Once the phase has failed it stays failed, and no start sends anything again: not the
creation of a job, not a status check, not a page fetch. -/
theorem Inv.failed_stays (h : S.Inv) (hf : S.session.phase.Failed) {S' : SessionTasks}
    (hS' : Reachable S S') : S'.session.phase.Failed ∧ S'.startRequests = S.startRequests := by
  induction hS' with
  | start => exact ⟨hf, rfl⟩
  | step i hreach hs ih =>
    obtain ⟨hf', hreq⟩ := ih
    obtain ⟨hf'', hreq'⟩ := (h.of_reachable hreach).step_failed hf' hs
    exact ⟨hf'', hreq'.trans hreq⟩


/-! ## Exactly-once deletes and single-flight starts -/

variable {s : Session} {w : World} {requests : List SessionRequest}

/-- Tasks attaching consumers, releasing leases, waiting for the job (with a lease or without)
and closing, on one session, interleaved in any way from a new session:

* the consumer count is the number of leases handed out and not yet counted out;
* the phase holds the id of the job `phaseJob` names;
* every job created has exactly one holder: the phase, the start that created it, or one delete;
  with no start in progress, it is in the phase and passed to no delete, or passed to exactly one;
* a task about to delete a job deletes a created job that was passed to it;
* a job is passed to a delete only by a close, or by the release that took the count from one
  to zero;
* until a close, a job that a lease reads is passed to no delete. -/
theorem reachable_delete_once {S : SessionTasks} (hS : Reachable (start s w requests) S) :
    S.session.consumers = S.leases.countP LeaseState.attached ∧
    (Session.takeJobId S.session.phase).1 =
      S.phaseJob.bind (fun k => (S.created[k]?).map Prod.snd) ∧
    (∀ k, S.holders k = if k < S.created.length then 1 else 0) ∧
    (S.initLock = none → ∀ k < S.created.length,
      (S.phaseJob = some k ∧ ∀ i, (k, i) ∉ S.deleted) ∨
        (S.phaseJob ≠ some k ∧ S.deleted.countP (fun d => d.1 == k) = 1)) ∧
    (∀ (i : Nat) req id, S.tasks[i]? = some (req, .deleting id) →
      ∃ k, (k, i) ∈ S.deleted ∧ (S.created[k]?).map Prod.snd = some id) ∧
    (∀ k i, (k, i) ∈ S.deleted → (∃ st, S.tasks[i]? = some (SessionRequest.close, st)) ∨
      ∃ l st, S.tasks[i]? = some (SessionRequest.release l, st) ∧
        S.leases[l]? = some (LeaseState.released 1)) ∧
    (∀ (l k : Nat), S.leases[l]? = some (LeaseState.held (some k)) → S.NoClose →
      ∀ i, (k, i) ∉ S.deleted) := by
  have h := Inv.reachable hS
  exact ⟨h.count, h.phaseId, h.holders, fun hl _ hk => h.held_or_deleted hl hk,
    DeletesLinked.reachable hS, h.deletedBy, fun _ _ hl hnc => h.reading_not_deleted hl hnc⟩

/-- A consumer attaches, its cursor's first pull starts the session (the creation of job `j`,
one status check, the first page), and the release of its lease is the last one out: it passes
the job to its delete. -/
theorem reachable_delete_once_last_release :
    ∃ S, (start { params := { query := "select 1" }, config := {}, service := {} }
        { backend := .script
            [.reply { status := 200, body := some (.obj [("jobId", .str "j")]) },
             .reply { status := 200, body := some (.obj [("jobId", .str "j"), ("state", .str "DONE"),
               ("submitTime", .num (.int 0))]) },
             .reply { status := 200, body := some (.obj [("jobId", .str "j"), ("state", .str "DONE"),
               ("resultFormat", .str "valuesArray"),
               ("page", .obj [("result", .obj [("data", .arr [])])])]) },
             .reply { status := 200, body := some (.obj [("jobId", .str "j"), ("state", .str "DONE"),
               ("submitTime", .num (.int 0))]) }] }
        [.attach, .ready (some 0), .release 0]).run [0, 1, 1, 1, 1, 1, 2, 2, 2, 2] = some S ∧
      S.deleted = [(0, 2)] ∧
      S.session.consumers = S.leases.countP LeaseState.attached ∧
      (Session.takeJobId S.session.phase).1 =
        S.phaseJob.bind (fun k => (S.created[k]?).map Prod.snd) ∧
      (∀ k, S.holders k = if k < S.created.length then 1 else 0) ∧
      (S.initLock = none → ∀ k < S.created.length,
        (S.phaseJob = some k ∧ ∀ i, (k, i) ∉ S.deleted) ∨
          (S.phaseJob ≠ some k ∧ S.deleted.countP (fun d => d.1 == k) = 1)) ∧
      (∀ (i : Nat) req id, S.tasks[i]? = some (req, .deleting id) →
        ∃ k, (k, i) ∈ S.deleted ∧ (S.created[k]?).map Prod.snd = some id) ∧
      (∀ k i, (k, i) ∈ S.deleted → (∃ st, S.tasks[i]? = some (SessionRequest.close, st)) ∨
        ∃ l st, S.tasks[i]? = some (SessionRequest.release l, st) ∧
          S.leases[l]? = some (LeaseState.released 1)) ∧
      (∀ (l k : Nat), S.leases[l]? = some (LeaseState.held (some k)) → S.NoClose →
        ∀ i, (k, i) ∉ S.deleted) := by
  refine Exists.imp (fun S h => ⟨h.1, h.2, reachable_delete_once (Reachable.of_run .start h.1)⟩)
    (Option.map_eq_some_iff.mp ?_)
  decide

/-- Tasks waiting for the job, with the releases and closes around them, interleaved in any way
from a new session:

* in every generation (the span between two resets, which only the last release of a ready
  phase makes) the starts sent nothing, or one creation of a job, then only status checks of
  that job and at most one fetch of its first page;
* until a close, every task that returned in one generation returned the same outcome, the one
  the phase holds while that generation lasts;
* a task that returned a failure left the phase failed;
* once the phase has failed it stays failed in every state reached later, and no start sends
  anything again. -/
theorem reachable_single_start {S : SessionTasks} (hS : Reachable (start s w requests) S) :
    (∀ g, StartsSent S.session.config.pageSize (S.createdIn g) (S.requestsIn g)) ∧
    (S.NoClose → ∀ (i j : Nat) req req' g r r', S.tasks[i]? = some (req, .returned g r) →
      S.tasks[j]? = some (req', .returned g r') → r = r') ∧
    (S.NoClose → ∀ (i : Nat) req r, S.tasks[i]? = some (req, .returned S.generation r) →
      S.session.phase.outcome = some r) ∧
    (∀ (i : Nat) req g e, S.tasks[i]? = some (req, .returned g (.error e)) →
      S.session.phase.Failed) ∧
    (S.session.phase.Failed → ∀ S', Reachable S S' →
      S'.session.phase.Failed ∧ S'.startRequests = S.startRequests) := by
  have h := Inv.reachable hS
  exact ⟨h.startsSent_every, h.agree, h.outcome, h.failedReturned,
    fun hf _ hS' => h.failed_stays hf hS'⟩

/-- Two tasks wait for the job: the first starts the session and its creation of the job fails,
the second is served the cached failure. -/
theorem reachable_single_start_cached_failure :
    ∃ S, (start { params := { query := "select 1" }, config := {}, service := {} }
        { backend := .script [.failure "down"] } [.ready none, .ready none]).run [0, 0, 1] =
        some S ∧
      (∀ g, StartsSent S.session.config.pageSize (S.createdIn g) (S.requestsIn g)) ∧
      (S.NoClose → ∀ (i j : Nat) req req' g r r', S.tasks[i]? = some (req, .returned g r) →
        S.tasks[j]? = some (req', .returned g r') → r = r') ∧
      (S.NoClose → ∀ (i : Nat) req r, S.tasks[i]? = some (req, .returned S.generation r) →
        S.session.phase.outcome = some r) ∧
      (∀ (i : Nat) req g e, S.tasks[i]? = some (req, .returned g (.error e)) →
        S.session.phase.Failed) ∧
      (S.session.phase.Failed → ∀ S', Reachable S S' →
        S'.session.phase.Failed ∧ S'.startRequests = S.startRequests) := by
  refine Exists.imp (fun S hrun => ⟨hrun, reachable_single_start (Reachable.of_run .start hrun)⟩)
    (Option.isSome_iff_exists.mp ?_)
  decide

end SessionTasks

end JobQuery
