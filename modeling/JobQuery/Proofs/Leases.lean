import JobQuery.Proofs.SplitPages

/-!
# JobQuery — a job started without a lease stays until a lease or a close deletes it

A session deletes its job in two places only: at the release of its last lease, and in
`close`. But a session can start without any lease: asking for it to be ready, for its row
count or for its job id starts it. Such a session keeps its job, in the service and in its phase,
for a deletion that no query makes: once started, every query hands out the cached outcome and
changes nothing (`SessionQuery.performAll_started`). So a program that starts a session this way
and then lets go of it, and of its client, without closing it leaves the job in the service.

The main result is `Session.queries_keep_job`.
-/

namespace JobQuery

open InSession

/-- What a program can ask of a session without taking a lease: that it be ready, its row count,
or its job id. -/
inductive SessionQuery where
  | ensureReady
  | size
  | jobId
  deriving Repr, DecidableEq

namespace SessionQuery

/-- Ask one query, dropping its answer. -/
def perform : SessionQuery → InSession Unit
  | .ensureReady => do
    let _ ← Session.ready
    pure ()
  | .size => do
    let _ ← Session.size
    pure ()
  | .jobId => do
    let _ ← Session.jobId
    pure ()

/-- Ask queries in order. -/
def performAll : List SessionQuery → InSession Unit
  | [] => pure ()
  | q :: qs => do
    q.perform
    performAll qs

variable {s : Session} {w : World}

/-- Every query waits for the session's ready job and does nothing else. -/
theorem holds_perform (q : SessionQuery) {Q : Unit → Session → World → Prop} :
    q.perform.Holds s w Q ↔ Session.ready.Holds s w fun _ s' w' => Q () s' w' := by
  cases q <;> simp only [perform, Session.size, Session.jobId, holds_bind, holds_pure]

/-- A session that holds a job for deletion has started: it hands out the cached outcome and
changes nothing. -/
theorem ready_holding {J : String} (h : (Session.takeJobId s.phase).1 = some J) :
    Session.ready.Holds s w fun _ s' w' => s' = s ∧ w' = w := by
  rcases hp : s.phase with _ | job | ⟨e, id⟩
  · rw [hp] at h
    cases h
  · exact (Session.holds_ready_of_ready hp).mpr ⟨rfl, rfl⟩
  · exact (Session.holds_ready_of_failed hp).mpr ⟨rfl, rfl⟩

/-- Queries on a session that holds a job change nothing; by induction on the queries. -/
theorem performAll_started {J : String} (h : (Session.takeJobId s.phase).1 = some J)
    (qs : List SessionQuery) :
    (performAll qs).Holds s w fun _ s' w' => s' = s ∧ w' = w := by
  induction qs with
  | nil => exact ⟨rfl, rfl⟩
  | cons q qs ih =>
    rw [performAll, holds_bind, holds_perform]
    refine (ready_holding h).mono ?_
    rintro _ s' w' ⟨rfl, rfl⟩
    exact ih

end SessionQuery

/-- A session started without a lease keeps its job. On a session just made over a new in-memory
service that finishes jobs at their first check, any run of queries (being ready, the row count,
the job id) starts the session with its first query and then changes nothing. Afterwards the
session's phase holds the job of the next fresh id for a deletion that only a last release or a
close makes, no consumer holds a lease whose release would make it, and the service still has
the job; whether the start succeeded or failed at page 0. -/
theorem Session.queries_keep_job {sql : String} {config : SessionConfig} {svc : QueryService}
    {standalone : Bool} {s : Session} (hs : Session.make sql config svc standalone = .ok s)
    (hP32 : config.pageSize < Nat.pow 2 32) {b : Behavior}
    (hfit : b.rows + config.pageSize < Nat.pow 2 64) (hpolls : b.pollsBeforeDone = 0)
    (hfinal : b.finalState = .done) {w : World} (hw : w.backend = .fake { behavior := b })
    (q : SessionQuery) (qs : List SessionQuery) :
    (SessionQuery.performAll (q :: qs)).Holds s w fun _ s' w' =>
      (Session.takeJobId s'.phase).1 = some (Text.mintUuid 0 w.minted) ∧ s'.consumers = 0 ∧
        w'.Knows b (Text.mintUuid 0 w.minted) := by
  obtain ⟨p, hparams, -⟩ := Session.make_ok hs
  obtain ⟨-, -, hP0⟩ := SessionConfig.params_eq hparams
  obtain ⟨hstarts, h0⟩ :=
    Session.make_starts hs hP32 ⟨hP0, hfit⟩ (Behavior.pollsDone_first hpolls hfinal _) hw
  -- the first query starts the session; the rest find it started
  rw [SessionQuery.performAll, holds_bind, SessionQuery.holds_perform]
  refine (Session.ready_starts hstarts).mono ?_
  rintro _ s₁ w₁ ⟨-, hcons, hheld, hknows, -⟩
  refine (SessionQuery.performAll_started hheld qs).mono ?_
  rintro _ s' w' ⟨rfl, rfl⟩
  exact ⟨hheld, hcons.trans h0, hknows⟩

/-- Three rows in pages of two: a session made ready, and nothing else, keeps its job. -/
theorem Session.queries_keep_job_after_ready :
    ∃ s, Session.make "SELECT 1" { pageSize := 2 } {} false = .ok s ∧
      (2 : Nat) < Nat.pow 2 32 ∧ 3 + 2 < Nat.pow 2 64 ∧
      (SessionQuery.performAll [.ensureReady]).Holds s
        { backend := .fake { behavior := { rows := 3 } } } fun _ s' w' =>
        (Session.takeJobId s'.phase).1 = some (Text.mintUuid 0 0) ∧ s'.consumers = 0 ∧
          w'.Knows { rows := 3 } (Text.mintUuid 0 0) :=
  ⟨_, rfl, by decide, by decide, @Session.queries_keep_job "SELECT 1" { pageSize := 2 } {} false _
    rfl (by decide) { rows := 3 } (by decide) rfl rfl _ rfl .ensureReady []⟩

end JobQuery
