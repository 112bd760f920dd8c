import Mathlib
import JobQuery.Proofs.SessionTasks
import JobQuery.Proofs.TaskSteps

/-!
# JobQuery — what a dropped future leaves of a session

The future of any task on a session can be dropped at one of its await points
(`SessionTasks.drop`): by a timeout or a `select` around it. Nothing undoes what the task did
before that await, and what it kept only in its own locals is lost. Two such drops leave the
session where no interleaving of whole operations leads:

* a start dropped after it created its job (while it checks the job's status or fetches its
  first page) takes the job with it: the job is in the phase, held by a start or passed to a
  delete in no state that interleavings and drops reach from there, so the session never deletes
  it (`drop_start_loses_job`);
* a release dropped while it waits for the consumer lock has marked its lease released, so the
  lease's own drop spawns no detach, but it never counted the lease out: the lease stays counted,
  the consumer count stays above the number of leases still held, and no release ever again
  holds the consumer lock to take and delete the job (`drop_release_pins_consumers`).

Both rest on facts that every step and every drop keep, proved once per arm of the step
(`SessionTasks.Step`): a job that exists never gains a holder (`Step.holders_le`,
`holders_le_of_reachableWithDrops`), and a lease marked with no task left to count it out stays
counted (`SessionTasks.Pinned`, which the dropped release leaves behind: `Pinned.of_drop`).
-/

namespace JobQuery

namespace SessionTasks

variable {S S' : SessionTasks} {i : Nat}

/-! ## What a drop does -/

/-- A drop finishes task `i` where it stands and frees the locks it held; nothing else
changes. -/
theorem drop_cases (h : S.drop i = some S') :
    ∃ req st, S.tasks[i]? = some (req, st) ∧
      S' = { S.setStage i req .finished with
             initLock := if S.initLock == some i then none else S.initLock,
             consumerLock := if S.consumerLock == some i then none else S.consumerLock } := by
  unfold drop at h
  split at h
  · cases h
  · cases h
  · cases h
  · cases h
  · next _ req st _ _ _ hi => exact ⟨req, st, hi, (Option.some.inj h).symm⟩

/-- A task that stands at an await point can be dropped. -/
theorem drop_isSome {req : SessionRequest} {st : SessionStage}
    (hi : S.tasks[i]? = some (req, st)) (hfresh : ∀ l, req = .release l → st ≠ .fresh)
    (hret : ∀ g r, st ≠ .returned g r) (hfin : st ≠ .finished) : (S.drop i).isSome := by
  unfold drop
  rw [hi]
  cases st <;> cases req <;> simp_all

/-! ## A job that exists never gains a holder -/

/-- Task `i` moves from `x` to `st`, with the deletes as they were: job `k` gains a holder only
where the phase or the task held it before. -/
theorem holders_le_of_move {T : SessionTasks} {req : SessionRequest} {x : SessionStage}
    (st : SessionStage) {k : Nat} (hi : S.tasks[i]? = some (req, x))
    (ht : T.tasks = (S.setStage i req st).tasks) (hd : T.deleted = S.deleted)
    (hgain : (if T.phaseJob = some k then 1 else 0) +
        (if st.heldJob.map Prod.fst = some k then 1 else 0) ≤
      (if S.phaseJob = some k then 1 else 0) +
        (if x.heldJob.map Prod.fst = some k then 1 else 0)) :
    T.holders k ≤ S.holders k := by
  have hmove := holders_move st hi ht hd k
  omega

/-- A task that keeps the job it holds, or holds none afterwards, with the phase and the deletes
as they were, gives no job a holder. -/
theorem holders_keep_le {T : SessionTasks} {req : SessionRequest} {x : SessionStage}
    (st : SessionStage) (hi : S.tasks[i]? = some (req, x))
    (ht : T.tasks = (S.setStage i req st).tasks) (hd : T.deleted = S.deleted)
    (hp : T.phaseJob = S.phaseJob)
    (hst : st.heldJob.map Prod.fst = x.heldJob.map Prod.fst ∨ st.heldJob = none) (k : Nat) :
    T.holders k ≤ S.holders k := by
  refine holders_le_of_move st hi ht hd ?_
  rw [hp]
  rcases hst with hst | hst
  · rw [hst]
  · simp [hst]

/-- A move that keeps the log of created jobs, the phase and the deletes, the task keeping its
job or holding none afterwards, is a step as `Step.holders_le` describes it. -/
theorem created_holders_keep {T : SessionTasks} {req : SessionRequest} {x : SessionStage}
    (st : SessionStage) (hi : S.tasks[i]? = some (req, x))
    (ht : T.tasks = (S.setStage i req st).tasks) (hd : T.deleted = S.deleted)
    (hp : T.phaseJob = S.phaseJob) (hc : T.created = S.created)
    (hst : st.heldJob.map Prod.fst = x.heldJob.map Prod.fst ∨ st.heldJob = none) :
    S.created <+: T.created ∧ ∀ k < S.created.length, T.holders k ≤ S.holders k :=
  ⟨by rw [hc], fun k _ => holders_keep_le st hi ht hd hp hst k⟩

/-- A start that ends, the phase coming to hold the start's job or no job, gives no job a
holder. -/
theorem holders_settle_le {T : SessionTasks} {req : SessionRequest} {x : SessionStage}
    (st : SessionStage) (hi : S.tasks[i]? = some (req, x))
    (ht : T.tasks = (S.setStage i req st).tasks) (hd : T.deleted = S.deleted)
    (hst : st.heldJob = none) (hp : T.phaseJob = x.heldJob.map Prod.fst ∨ T.phaseJob = none)
    (k : Nat) : T.holders k ≤ S.holders k := by
  refine holders_le_of_move st hi ht hd ?_
  rcases hp with hp | hp
  · simp only [hp, hst, Option.map_none, reduceCtorEq, if_false]
    omega
  · simp [hp, hst]

/-- A start that fails, after creating its own job or none, gives no job a holder. -/
theorem holders_fail_le {lease : Option Nat} {x : SessionStage} {e : QueryError}
    {created : Option (Nat × String)} (hi : S.tasks[i]? = some (.ready lease, x))
    (hc : created.map Prod.fst = x.heldJob.map Prod.fst ∨ created = none) (k : Nat) :
    (S.fail i lease e created).holders k ≤ S.holders k := by
  refine holders_settle_le (.returned S.generation (.error e.asSessionFailure)) hi ?_ ?_ rfl ?_ k
  · rfl
  · rfl
  · rcases hc with hc | rfl
    · exact .inl hc
    · exact .inr rfl

/-- Taking the phase's job and passing it to a delete gives no job a holder. -/
theorem holders_passJob_le {req : SessionRequest} {x : SessionStage}
    (hi : S.tasks[i]? = some (req, x)) (id : Option String) (phase : Phase) (generation : Nat)
    (k : Nat) :
    (S.passJob i req id phase generation).holders k ≤ S.holders k := by
  -- the job moves from the phase to the delete; then the task moves on, holding nothing
  have hpass := holders_passDelete (S := S) (i := i) k
  set R : SessionTasks :=
    { S with phaseJob := none, deleted := S.deleted ++ (S.phaseJob.map fun k => (k, i)).toList }
  have hiR : R.tasks[i]? = some (req, x) := hi
  unfold passJob
  split
  · exact (holders_keep_le .finished hiR (by rfl) (by rfl) (by rfl) (.inr rfl) k).trans_eq hpass
  · rename_i id'
    exact (holders_keep_le (.deleting id') hiR (by rfl) (by rfl) (by rfl) (.inr rfl) k).trans_eq
      hpass

/-- Taking the phase's job keeps the log of created jobs. -/
theorem passJob_created (req : SessionRequest) (id : Option String) (phase : Phase)
    (generation : Nat) : (S.passJob i req id phase generation).created = S.created := by
  unfold passJob
  split <;> rfl

/-- Every step keeps the log of created jobs as a prefix, and gives no job created before it a
holder: only a creation makes a job, under the next creation number. -/
theorem Step.holders_le (h : S.Step i S') :
    S.created <+: S'.created ∧ ∀ k < S.created.length, S'.holders k ≤ S.holders k := by
  cases h with
  | markRelease hi _ =>
    exact created_holders_keep _ hi (by rfl) (by rfl) (by rfl) (by rfl) (.inr (by rfl))
  | cancel hi => exact created_holders_keep _ hi (by rfl) (by rfl) (by rfl) (by rfl) (.inr (by rfl))
  | attach hi _ =>
    exact created_holders_keep _ hi (by rfl) (by rfl) (by rfl) (by rfl) (.inr (by rfl))
  | detach hi _ =>
    unfold SessionTasks.detach
    dsimp only
    split
    · exact created_holders_keep _ hi (by rfl) (by rfl) (by rfl) (by rfl) (.inr (by rfl))
    · exact created_holders_keep _ hi (by rfl) (by rfl) (by rfl) (by rfl) (.inr (by rfl))
  | lockConsumers hi _ =>
    exact created_holders_keep _ hi (by rfl) (by rfl) (by rfl) (by rfl) (.inr (by rfl))
  | begin hi _ =>
    unfold SessionTasks.begin
    split
    · exact created_holders_keep _ hi (by rfl) (by rfl) (by rfl) (by rfl) (.inr (by rfl))
    · exact created_holders_keep _ hi (by rfl) (by rfl) (by rfl) (by rfl) (.inr (by rfl))
    · exact created_holders_keep _ hi (by rfl) (by rfl) (by rfl) (by rfl) (.inr (by rfl))
  | lastRelease hi _ =>
    refine ⟨?_, fun k _ => holders_passJob_le hi _ _ _ k⟩
    unfold SessionTasks.lastRelease
    rw [passJob_created]
  | closeTake hi _ =>
    refine ⟨?_, fun k _ => holders_passJob_le hi _ _ _ k⟩
    unfold SessionTasks.closeTake
    rw [passJob_created]
  | create hi =>
    unfold SessionTasks.create
    dsimp only
    split
    · exact ⟨List.prefix_refl _, fun k _ => holders_fail_le hi (.inr rfl) k⟩
    · -- the new job takes the next creation number, above every job before it
      refine ⟨List.prefix_append _ _, fun k hk => holders_le_of_move _ hi (by rfl) (by rfl) ?_⟩
      have hne : S.created.length ≠ k := by omega
      simp only [setStage_phaseJob, startRun_phaseJob, startRun_created, SessionStage.heldJob,
        Option.map_some, Option.map_none, reduceCtorEq, Option.some.injEq, hne, if_false,
        Nat.add_zero]
      exact Nat.le_refl _
  | firstCheck hi =>
    unfold SessionTasks.firstCheck
    dsimp only
    split
    · exact ⟨List.prefix_refl _, fun k _ => holders_fail_le hi (.inl rfl) k⟩
    · exact created_holders_keep _ hi (by rfl) (by rfl) (by rfl) (by rfl) (.inl (by rfl))
  | poll hi =>
    unfold SessionTasks.poll
    split
    · split
      · exact ⟨List.prefix_refl _, fun k _ => holders_fail_le hi (.inl rfl) k⟩
      · dsimp only
        split
        · exact ⟨List.prefix_refl _, fun k _ => holders_fail_le hi (.inl rfl) k⟩
        · exact created_holders_keep _ hi (by rfl) (by rfl) (by rfl) (by rfl) (.inl (by rfl))
    · split
      · exact created_holders_keep _ hi (by rfl) (by rfl) (by rfl) (by rfl) (.inl (by rfl))
      · exact ⟨List.prefix_refl _, fun k _ => holders_fail_le hi (.inl rfl) k⟩
  | fetchFirst hi =>
    unfold SessionTasks.fetchFirst
    dsimp only
    split
    · exact ⟨List.prefix_refl _, fun k _ => holders_fail_le hi (.inl rfl) k⟩
    · exact ⟨List.prefix_refl _,
        fun k _ => holders_settle_le _ hi (by rfl) (by rfl) (by rfl) (.inl (by rfl)) k⟩
  | finishDelete hi =>
    exact created_holders_keep _ hi (by rfl) (by rfl) (by rfl) (by rfl) (.inr (by rfl))

/-- A dropped task gives up the job it held, if any: that job loses the task as a holder, and no
job gains one. -/
theorem holders_drop (h : S.drop i = some S') {req : SessionRequest} {x : SessionStage}
    (hi : S.tasks[i]? = some (req, x)) (k : Nat) :
    S'.holders k + (if x.heldJob.map Prod.fst = some k then 1 else 0) = S.holders k := by
  obtain ⟨req', st, hi', hS'⟩ := drop_cases h
  obtain ⟨rfl, rfl⟩ := Prod.mk.inj (Option.some.inj (hi.symm.trans hi'))
  have hmove := holders_move (T := S') .finished hi (by subst hS'; rfl) (by subst hS'; rfl) k
  have hp : S'.phaseJob = S.phaseJob := by subst hS'; rfl
  have hfin : SessionStage.finished.heldJob = none := rfl
  simp only [hp, hfin, Option.map_none, reduceCtorEq, if_false, Nat.add_zero] at hmove
  omega

/-- A drop keeps the log of created jobs. -/
theorem drop_created (h : S.drop i = some S') : S'.created = S.created := by
  obtain ⟨req, st, -, rfl⟩ := drop_cases h
  rfl

/-- Along every run of interleavings and drops, the log of created jobs only grows, and a job
created before the run never gains a holder. -/
theorem holders_le_of_reachableWithDrops {S₀ : SessionTasks} (hS : ReachableWithDrops S₀ S)
    {k : Nat} (hk : k < S₀.created.length) :
    S₀.created <+: S.created ∧ S.holders k ≤ S₀.holders k := by
  -- induction on the run; `k` stays below the length of the growing log
  induction hS with
  | start => exact ⟨List.prefix_refl _, le_refl _⟩
  | step j _ hs ih =>
    obtain ⟨hpre, hle⟩ := ih
    obtain ⟨hpre', hle'⟩ := (step_cases hs).holders_le
    exact ⟨hpre.trans hpre', (hle' k (lt_of_lt_of_le hk hpre.length_le)).trans hle⟩
  | drop j _ hd ih =>
    obtain ⟨hpre, hle⟩ := ih
    obtain ⟨req, x, hj, -⟩ := drop_cases hd
    have hdrop := holders_drop hd hj k
    exact ⟨drop_created hd ▸ hpre, by omega⟩

/-- A job with no holder is nowhere in the state: not in the phase, held by no task and passed to
no delete. -/
theorem unheld_of_holders_eq_zero {k : Nat} (h : S.holders k = 0) :
    S.phaseJob ≠ some k ∧ (∀ j, (k, j) ∉ S.deleted) ∧
      ∀ (j : Nat) (r : SessionRequest) (y : SessionStage), S.tasks[j]? = some (r, y) →
        y.heldJob.map Prod.fst ≠ some k := by
  unfold holders at h
  refine ⟨fun hp => by rw [hp, if_pos rfl] at h; omega, fun j hj => ?_, fun j r y hj hy => ?_⟩
  · have : 0 < S.deleted.countP (fun d => d.1 == k) :=
      List.countP_pos_iff.mpr ⟨_, hj, by simp⟩
    omega
  · have : 0 < S.tasks.countP (fun t => t.2.heldJob.map Prod.fst == some k) :=
      List.countP_pos_iff.mpr ⟨_, List.mem_of_getElem? hj, by simp [hy]⟩
    omega

/-! ## A lease whose release was dropped -/

/-- Lease `l` is pinned: it is marked released and no task is left to count it out, and no
release holds the consumer lock. With it goes what `SessionTasks.Inv` says of leases: the
consumer count is the number of attached leases, and a release waiting for the consumer lock has
marked its lease and waits alone with it. -/
structure Pinned (l : Nat) (S : SessionTasks) : Prop where
  count : S.session.consumers = S.leases.countP LeaseState.attached
  releasing : ∀ (j l' : Nat), S.tasks[j]? = some (.release l', .awaitConsumers) →
    S.leases[l']? = some .releasing
  releasingOnce : ∀ (j j' l' : Nat), S.tasks[j]? = some (.release l', .awaitConsumers) →
    S.tasks[j']? = some (.release l', .awaitConsumers) → j = j'
  lease : S.leases[l]? = some .releasing
  unwaited : ∀ j : Nat,
    S.tasks[j]? ≠ some (SessionRequest.release l, SessionStage.awaitConsumers)
  noRelease : ∀ (j l' : Nat) st, S.tasks[j]? = some (.release l', st) →
    ¬ (SessionRequest.release l').HoldsConsumers st

variable {l : Nat}

/-- A wait that returns leaves leases that at most come to read a job, the state it returns in
named by any equal list of leases. -/
theorem readOf_answer {T : SessionTasks} {L : List LeaseState} (h : T.leases = L)
    {lease : Option Nat} {result : Except QueryError ReadyJob} :
    ReadOf L (T.answer i lease result).leases T.phaseJob :=
  h ▸ answer_readOf

/-- While a lease is marked released and not yet counted out, fewer leases are held than
counted. -/
theorem countP_held_lt {L : List LeaseState} (hl : L[l]? = some .releasing) :
    L.countP (fun x => x matches .held _) < L.countP LeaseState.attached := by
  have hlt : l < L.length := (List.getElem?_eq_some_iff.mp hl).1
  have hget : L[l] = .releasing := (List.getElem?_eq_some_iff.mp hl).2
  -- counting the lease out keeps the held leases and leaves one counted lease less
  have hheld := List.countP_set (p := fun x => x matches .held _) (a := .released 0) hlt
  have hatt := List.countP_set (p := LeaseState.attached) (a := .released 0) hlt
  have hmono : (L.set l (.released 0)).countP (fun x => x matches .held _) ≤
      (L.set l (.released 0)).countP LeaseState.attached :=
    List.countP_mono_left fun x _ hx => by cases x <;> simp_all [LeaseState.attached]
  have hpos : 0 < L.countP LeaseState.attached :=
    List.countP_pos_iff.mpr ⟨_, List.mem_of_getElem? hl, rfl⟩
  simp only [hget, LeaseState.attached, Bool.false_eq_true, ↓reduceIte] at hheld hatt
  omega

/-- A pinned lease keeps the consumer count above the number of leases still held. -/
theorem Pinned.held_lt (h : S.Pinned l) :
    S.leases.countP (fun x => x matches .held _) < S.session.consumers :=
  h.count ▸ countP_held_lt h.lease

/-- Moving task `i` keeps a pinned lease pinned when the count stays, the leases at most come to
read a job, the task holds the consumer lock afterwards as no release, and a release that starts
waiting for the consumer lock has marked its own lease, another than `l`, and waits alone with
it. -/
theorem Pinned.move {T : SessionTasks} {req : SessionRequest} {x st : SessionStage}
    {k : Option Nat} (h : S.Pinned l) (hi : S.tasks[i]? = some (req, x))
    (ht : T.tasks = (S.setStage i req st).tasks) (hL : ReadOf S.leases T.leases k)
    (hc : T.session.consumers = S.session.consumers)
    (hhold : ∀ l', req = .release l' → ¬ (SessionRequest.release l').HoldsConsumers st)
    (hwait : ∀ l', req = .release l' → st = .awaitConsumers →
      T.leases[l']? = some .releasing ∧ l' ≠ l ∧
        ∀ j, j ≠ i → S.tasks[j]? ≠ some (SessionRequest.release l', .awaitConsumers)) :
    T.Pinned l := by
  have htask : ∀ {j r y}, T.tasks[j]? = some (r, y) →
      (j = i ∧ r = req ∧ y = st) ∨ (j ≠ i ∧ S.tasks[j]? = some (r, y)) := fun hj =>
    setStage_getElem? (by rw [← ht]; exact hj)
  have hkeep : ∀ {l' : Nat}, S.leases[l']? = some .releasing →
      T.leases[l']? = some .releasing :=
    fun hl' => hL.keep _ _ hl' (by simp)
  refine ⟨by rw [hc, h.count, hL.countP], fun j l' hj => ?_, fun j j' l' hj hj' => ?_,
    hkeep h.lease, fun j hj => ?_, fun j l' y hj hy => ?_⟩
  · rcases htask hj with ⟨-, rfl, rfl⟩ | ⟨-, hj⟩
    · exact (hwait l' rfl rfl).1
    · exact hkeep (h.releasing j l' hj)
  · rcases htask hj with ⟨hji, rfl, rfl⟩ | ⟨hji, hj⟩ <;>
      rcases htask hj' with ⟨hj'i, hr, hy⟩ | ⟨hj'i, hj'⟩
    · omega
    · exact absurd hj' ((hwait l' rfl rfl).2.2 j' hj'i)
    · exact absurd hj ((hwait l' hr.symm hy.symm).2.2 j hji)
    · exact h.releasingOnce j j' l' hj hj'
  · rcases htask hj with ⟨-, rfl, rfl⟩ | ⟨-, hj⟩
    · exact (hwait l rfl rfl).2.1 rfl
    · exact h.unwaited j hj
  · rcases htask hj with ⟨-, rfl, rfl⟩ | ⟨-, hj⟩
    · exact hhold l' rfl hy
    · exact h.noRelease j l' y hj hy

/-- Moving task `i` to a stage where it is no release waiting for or holding the consumer lock,
with the count and the leases as they were or with leases that come to read a job, keeps a
pinned lease pinned. -/
theorem Pinned.moveQuiet {T : SessionTasks} {req : SessionRequest} {x st : SessionStage}
    {k : Option Nat} (h : S.Pinned l) (hi : S.tasks[i]? = some (req, x))
    (ht : T.tasks = (S.setStage i req st).tasks) (hL : ReadOf S.leases T.leases k)
    (hc : T.session.consumers = S.session.consumers)
    (hst : st = .finished ∨ ∀ l', req ≠ .release l') : T.Pinned l := by
  refine h.move hi ht hL hc (fun l' hr => ?_) (fun l' hr hw => ?_)
  · rcases hst with rfl | hst
    · exact id
    · exact absurd hr (hst l')
  · rcases hst with rfl | hst
    · cases hw
    · exact absurd hr (hst l')

/-- Moving task `i`, which is no release, with the leases and the count as they were, keeps a
pinned lease pinned. -/
theorem Pinned.keep {T : SessionTasks} {req : SessionRequest} {x st : SessionStage}
    (h : S.Pinned l) (hi : S.tasks[i]? = some (req, x))
    (ht : T.tasks = (S.setStage i req st).tasks) (hL : T.leases = S.leases)
    (hc : T.session.consumers = S.session.consumers) (hreq : ∀ l', req ≠ .release l') :
    T.Pinned l :=
  h.moveQuiet hi ht (k := none) (by rw [hL]; exact ReadOf.refl _ _) hc (.inr hreq)

/-- Setting lease `l'`, another than `l` and one that no release waits with, keeps a pinned lease
pinned, when the consumer count is then the number of counted leases. -/
theorem Pinned.setLease (h : S.Pinned l) {l' : Nat} {y : LeaseState} (session : Session)
    (hc : session.consumers = (S.leases.set l' y).countP LeaseState.attached) (hne : l' ≠ l)
    (hnw : ∀ j : Nat,
      S.tasks[j]? ≠ some (SessionRequest.release l', SessionStage.awaitConsumers)) :
    ({ S with session := session, leases := S.leases.set l' y }).Pinned l := by
  -- every lease but `l'` keeps its state
  have hkeep : ∀ {l'' : Nat} {z : LeaseState}, S.leases[l'']? = some z → l'' ≠ l' →
      (S.leases.set l' y)[l'']? = some z := fun hz hne' =>
    (List.getElem?_set_ne (Ne.symm hne')).trans hz
  exact ⟨hc, fun j l'' hj => hkeep (h.releasing j l'' hj) fun he => hnw j (he ▸ hj),
    h.releasingOnce, hkeep h.lease (Ne.symm hne), h.unwaited, h.noRelease⟩

/-- A release counts out a marked lease other than `l`, which no other release waits with: a
pinned lease stays pinned. -/
theorem Pinned.countOut (h : S.Pinned l) {l' : Nat} (hl' : S.leases[l']? = some .releasing)
    (hne : l' ≠ l) (hnw : ∀ j : Nat,
      S.tasks[j]? ≠ some (SessionRequest.release l', SessionStage.awaitConsumers)) :
    ({ S with session := { S.session with consumers := S.session.consumers - 1 },
              leases := S.leases.set l' (.released S.session.consumers) }).Pinned l := by
  have hlt : l' < S.leases.length := (List.getElem?_eq_some_iff.mp hl').1
  refine h.setLease _ ?_ hne hnw
  -- the lease counted out was attached, and is no longer
  have hpos : 0 < S.leases.countP LeaseState.attached :=
    List.countP_pos_iff.mpr ⟨_, List.mem_of_getElem? hl', rfl⟩
  simp only [h.count, List.countP_set hlt, (List.getElem?_eq_some_iff.mp hl').2,
    LeaseState.attached]
  simp

/-- A pinned lease stays pinned through every step. -/
theorem Pinned.step (h : S.Pinned l) (hs : S.Step i S') : S'.Pinned l := by
  cases hs with
  | @markRelease l' r hi hl =>
    -- the lease marked was held, so it is not the pinned one, and no release waits with it
    have hlt : l' < S.leases.length := (List.getElem?_eq_some_iff.mp hl).1
    have hne : l' ≠ l := fun he => by rw [he, h.lease] at hl; cases hl
    have hnw : ∀ j : Nat,
        S.tasks[j]? ≠ some (SessionRequest.release l', SessionStage.awaitConsumers) :=
      fun j hj => by rw [h.releasing j l' hj] at hl; cases hl
    have hcount : (S.leases.set l' .releasing).countP LeaseState.attached =
        S.leases.countP LeaseState.attached := by
      have : 0 < S.leases.countP LeaseState.attached :=
        List.countP_pos_iff.mpr ⟨_, List.mem_of_getElem? hl, rfl⟩
      rw [List.countP_set hlt, (List.getElem?_eq_some_iff.mp hl).2]
      simp only [LeaseState.attached, ↓reduceIte]
      omega
    have h' : ({ S with leases := S.leases.set l' .releasing }).Pinned l :=
      h.setLease S.session (h.count.trans hcount.symm) hne hnw
    exact h'.move hi (by rfl) (ReadOf.refl _ none) (by rfl) (fun _ _ => id)
      (fun l'' hr _ => by
        cases hr
        exact ⟨List.getElem?_set_self hlt, hne, fun j _ => hnw j⟩)
  | cancel hi =>
    exact h.keep hi (by rfl) (by rfl) (by rfl) (by simp)
  | attach hi _ =>
    -- a new lease, held, is appended: the leases before keep their numbers
    have happ : ∀ {l' : Nat} {y : LeaseState}, S.leases[l']? = some y →
        (S.leases ++ [LeaseState.held none])[l']? = some y := fun hy =>
      (List.getElem?_append_left (List.getElem?_eq_some_iff.mp hy).1).trans hy
    have h' : ({ S with session := { S.session with consumers := S.session.consumers + 1 },
                        leases := S.leases ++ [LeaseState.held none] }).Pinned l :=
      ⟨by simp [h.count, List.countP_append, LeaseState.attached],
        fun j l' hj => happ (h.releasing j l' hj), h.releasingOnce, happ h.lease, h.unwaited,
        h.noRelease⟩
    exact h'.moveQuiet hi (by rfl) (ReadOf.refl _ none) (by rfl) (.inl rfl)
  | @detach l' hi _ =>
    -- the lease counted out is not the pinned one, which stays attached: the count stays above
    -- one, so this release is not the last one out
    have hl' := h.releasing i l' hi
    have hne : l' ≠ l := fun he => h.unwaited i (he ▸ hi)
    have hlt : l' < S.leases.length := (List.getElem?_eq_some_iff.mp hl').1
    have hrest : 0 < (S.leases.set l' (.released S.session.consumers)).countP
        LeaseState.attached :=
      List.countP_pos_iff.mpr ⟨.releasing, List.mem_of_getElem?
        ((List.getElem?_set_ne hne).trans h.lease), rfl⟩
    have htwo : 2 ≤ S.session.consumers := by
      rw [List.countP_set hlt, (List.getElem?_eq_some_iff.mp hl').2] at hrest
      simp only [LeaseState.attached, Bool.false_eq_true, ↓reduceIte, Nat.add_zero] at hrest
      rw [h.count]
      omega
    have h₁ : (S.setStage i (.release l') .finished).Pinned l :=
      h.moveQuiet hi (by rfl) (ReadOf.refl _ none) (by rfl) (.inl rfl)
    have hnw : ∀ j : Nat, (S.setStage i (.release l') .finished).tasks[j]? ≠
        some (SessionRequest.release l', SessionStage.awaitConsumers) := fun j hj => by
      rcases setStage_getElem? hj with ⟨-, -, hy⟩ | ⟨hji, hj⟩
      · cases hy
      · exact hji (h.releasingOnce j i l' hj hi)
    unfold SessionTasks.detach
    dsimp only
    rw [if_neg (by simp only [beq_iff_eq]; omega)]
    exact h₁.countOut hl' hne hnw
  | lockConsumers hi _ =>
    exact h.keep hi (by rfl) (by rfl) (by rfl) (by simp)
  | begin hi _ =>
    unfold SessionTasks.begin
    split
    · exact h.moveQuiet hi (by rfl) answer_readOf (by rfl) (.inr fun _ h => by cases h)
    · exact h.moveQuiet hi (by rfl) answer_readOf (by rfl) (.inr fun _ h => by cases h)
    · exact h.keep hi (by rfl) (by rfl) (by rfl) (by simp)
  | lastRelease hi _ => exact absurd trivial (h.noRelease i _ _ hi)
  | closeTake hi _ =>
    unfold SessionTasks.closeTake SessionTasks.passJob
    split
    · exact h.keep hi (by rfl) (by rfl) (by rfl) (by simp)
    · exact h.keep hi (by rfl) (by rfl) (by rfl) (by simp)
  | create hi =>
    unfold SessionTasks.create
    dsimp only
    split
    · exact h.keep hi (by rfl) (by rfl) (by rfl) (by simp)
    · exact h.keep hi (by rfl) (by rfl) (by rfl) (by simp)
  | firstCheck hi =>
    unfold SessionTasks.firstCheck
    dsimp only
    split
    · exact h.keep hi (by rfl) (by rfl) (by rfl) (by simp)
    · exact h.keep hi (by rfl) (by rfl) (by rfl) (by simp)
  | poll hi =>
    unfold SessionTasks.poll
    split
    · split
      · exact h.keep hi (by rfl) (by rfl) (by rfl) (by simp)
      · dsimp only
        split
        · exact h.keep hi (by rfl) (by rfl) (by rfl) (by simp)
        · exact h.keep hi (by rfl) (by rfl) (by rfl) (by simp)
    · split
      · exact h.keep hi (by rfl) (by rfl) (by rfl) (by simp)
      · exact h.keep hi (by rfl) (by rfl) (by rfl) (by simp)
  | fetchFirst hi =>
    unfold SessionTasks.fetchFirst
    dsimp only
    split
    · exact h.keep hi (by rfl) (by rfl) (by rfl) (by simp)
    · exact h.moveQuiet hi (by rfl) (readOf_answer (by rfl)) (by rfl) (.inr fun _ h => by cases h)
  | @finishDelete req jobId hi =>
    cases req with
    | release l' => exact absurd trivial (h.noRelease i l' _ hi)
    | _ => exact h.moveQuiet hi (by rfl) (ReadOf.refl _ none) (by rfl) (.inl rfl)

/-- A pinned lease stays pinned through every drop. -/
theorem Pinned.drop (h : S.Pinned l) (hd : S.drop i = some S') : S'.Pinned l := by
  obtain ⟨req, x, hi, rfl⟩ := drop_cases hd
  exact h.moveQuiet hi (by rfl) (ReadOf.refl _ none) (by rfl) (.inl rfl)

/-- A pinned lease stays pinned along every run of interleavings and drops. -/
theorem Pinned.of_reachableWithDrops {S₀ : SessionTasks} (h : S₀.Pinned l)
    (hS : ReachableWithDrops S₀ S) : S.Pinned l := by
  induction hS with
  | start => exact h
  | step j _ hs ih => exact ih.step (step_cases hs)
  | drop j _ hd ih => exact ih.drop hd

/-- A release dropped while it waits for the consumer lock leaves its lease pinned: the lease is
marked, the release that would count it out is gone, and no other release can hold the consumer
lock, since only the last one out does and this lease is still counted. -/
theorem Pinned.of_drop {s : Session} {w : World} {requests : List SessionRequest}
    (hS : Reachable (start s w requests) S)
    (hi : S.tasks[i]? = some (.release l, .awaitConsumers)) (hd : S.drop i = some S') :
    S'.Pinned l := by
  have h := Inv.reachable hS
  obtain ⟨req, x, hi', rfl⟩ := drop_cases hd
  obtain ⟨rfl, rfl⟩ := Prod.mk.inj (Option.some.inj (hi.symm.trans hi'))
  have hl := h.releasing i l hi
  refine ⟨h.count, fun j l' hj => ?_, fun j j' l' hj hj' => ?_, hl, fun j hj => ?_,
    fun j l' y hj hy => ?_⟩
  · rcases setStage_getElem? hj with ⟨-, -, hy⟩ | ⟨-, hj⟩
    · cases hy
    · exact h.releasing j l' hj
  · rcases setStage_getElem? hj with ⟨-, -, hy⟩ | ⟨-, hj⟩
    · cases hy
    rcases setStage_getElem? hj' with ⟨-, -, hy⟩ | ⟨-, hj'⟩
    · cases hy
    exact h.releasingOnce j j' l' hj hj'
  · rcases setStage_getElem? hj with ⟨-, -, hy⟩ | ⟨hji, hj⟩
    · cases hy
    · exact hji (h.releasingOnce j i l hj hi)
  · rcases setStage_getElem? hj with ⟨-, -, rfl⟩ | ⟨-, hj⟩
    · exact hy
    · -- a release holding the consumer lock is the last one out, with no lease counted; the
      -- dropped release's lease still is
      have hout := (h.lastOut j l' y hj hy).1
      have hpos : 0 < S.leases.countP LeaseState.attached :=
        List.countP_pos_iff.mpr ⟨_, List.mem_of_getElem? hl, rfl⟩
      rw [h.count] at hout
      omega

/-! ## What the two drops leave behind -/

/-- A start dropped while it checks, polls or fetches the first page of the job it created takes
the job with it. The job is one the session created, in the current generation; yet from the drop
on, along every run of interleavings and further drops, it is not in the phase, no task holds it
and it is passed to no delete: the session never deletes it. -/
theorem drop_start_loses_job {s : Session} {w : World} {requests : List SessionRequest}
    (hS : Reachable (start s w requests) S) {req : SessionRequest} {x : SessionStage} {k : Nat}
    {job : QueryJob} (hi : S.tasks[i]? = some (req, x)) (hx : x.heldJob = some (k, job))
    (hd : S.drop i = some S') :
    S.created[k]? = some (S.generation, job.jobId) ∧
      ∀ T, ReachableWithDrops S' T →
        T.phaseJob ≠ some k ∧ (∀ j, (k, j) ∉ T.deleted) ∧
          ∀ (j : Nat) (r : SessionRequest) (y : SessionStage), T.tasks[j]? = some (r, y) →
            y.heldJob.map Prod.fst ≠ some k := by
  have h := Inv.reachable hS
  have hk : S.created[k]? = some (S.generation, job.jobId) := h.stageJob i req x k job hi hx
  have hlt : k < S.created.length := (List.getElem?_eq_some_iff.mp hk).1
  -- the dropped start was the job's one holder
  have hzero : S'.holders k = 0 := by
    have hdrop := holders_drop hd hi k
    simp only [h.holders k, hlt, hx, Option.map_some, if_true] at hdrop
    omega
  refine ⟨hk, fun T hT => unheld_of_holders_eq_zero ?_⟩
  have hlt' : k < S'.created.length := drop_created hd ▸ hlt
  exact Nat.le_zero.mp ((holders_le_of_reachableWithDrops hT hlt').2.trans hzero.le)

/-- A wait starts the session and creates job `0`, named `j`; dropped while it checks the job's
status, it takes the job with it. -/
theorem drop_start_loses_job_after_create :
    ∃ S S', (start { params := { query := "select 1" }, config := {}, service := {} }
        { backend := .script [.reply { status := 200, body := some (.obj [("jobId", .str "j")]) }] }
        [.ready none]).run [0, 0] = some S ∧ S.drop 0 = some S' ∧
      (S.created[0]?).map Prod.snd = some "j" ∧
      ∀ T, ReachableWithDrops S' T →
        T.phaseJob ≠ some 0 ∧ (∀ j, (0, j) ∉ T.deleted) ∧
          ∀ (j : Nat) (r : SessionRequest) (y : SessionStage), T.tasks[j]? = some (r, y) →
            y.heldJob.map Prod.fst ≠ some 0 := by
  have hS : Reachable (start { params := { query := "select 1" }, config := {}, service := {} }
      { backend := .script [.reply { status := 200, body := some (.obj [("jobId", .str "j")]) }] }
      [.ready none]) _ := .step 0 (.step 0 .start rfl) rfl
  obtain ⟨-, hlost⟩ := drop_start_loses_job hS (i := 0) (by rfl) (by rfl) (by rfl)
  exact ⟨_, _, rfl, rfl, by rfl, hlost⟩

/-- A release dropped while it waits for the consumer lock has marked its lease released but never
counted it out. From the drop on, along every run of interleavings and further drops, the lease
stays marked and counted, so the consumer count stays above the number of leases still held; and
no release ever holds the consumer lock, which the last release out needs to take the job and
delete it. -/
theorem drop_release_pins_consumers {s : Session} {w : World} {requests : List SessionRequest}
    (hS : Reachable (start s w requests) S)
    (hi : S.tasks[i]? = some (.release l, .awaitConsumers)) (hd : S.drop i = some S') :
    ∀ T, ReachableWithDrops S' T →
      T.leases[l]? = some .releasing ∧
        T.leases.countP (fun x => x matches .held _) < T.session.consumers ∧
        ∀ (j l' : Nat) (st : SessionStage), T.tasks[j]? = some (.release l', st) →
          ¬ (SessionRequest.release l').HoldsConsumers st := by
  intro T hT
  have hp := (Pinned.of_drop hS hi hd).of_reachableWithDrops hT
  exact ⟨hp.lease, hp.held_lt, hp.noRelease⟩

/-- A consumer attaches, and the release of its lease is dropped while it waits for the consumer
lock: the lease stays counted for good. -/
theorem drop_release_pins_consumers_after_attach :
    ∃ S S', (start { params := { query := "select 1" }, config := {}, service := {} }
        { backend := .script [] } [.attach, .release 0]).run [0, 1] = some S ∧
      S.drop 1 = some S' ∧
      ∀ T, ReachableWithDrops S' T →
        T.leases[0]? = some .releasing ∧
          T.leases.countP (fun x => x matches .held _) < T.session.consumers ∧
          ∀ (j l' : Nat) (st : SessionStage), T.tasks[j]? = some (.release l', st) →
            ¬ (SessionRequest.release l').HoldsConsumers st := by
  have hS : Reachable (start { params := { query := "select 1" }, config := {}, service := {} }
      { backend := .script [] } [.attach, .release 0]) _ := .step 1 (.step 0 .start rfl) rfl
  exact ⟨_, _, rfl, rfl, drop_release_pins_consumers hS (i := 1) (by rfl) (by rfl)⟩

end SessionTasks

end JobQuery
