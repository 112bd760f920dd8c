import JobQuery.Proofs.Pages

/-!
# JobQuery — what session operations do

Operations on a session run in `InSession`, a state monad over the session on top of the world.
`InSession.Holds x s w Q` says that `x`, run from session `s` in world `w`, ends where `Q` holds
of its result and of the session and the world it leaves: it is the weakest precondition of `x`
for `Q`. It goes through `bind`, `get`, `set` and `modify` by `rfl`, so each session operation
gets one spec in this form and later proofs cite the spec, never the operation's body.

Over the in-memory service three contexts matter:

* `Session.Sound` holds along every run: the world is served by the same behaviour, pages have
  the session's size, and a ready job is the one the service started, page 0 first.
* `Session.Fresh` is a session before its start, where the start will succeed.
* `Session.Live` is a session reading a job the service still knows, with nobody cancelling.
-/

namespace JobQuery

namespace InSession

variable {α β : Type} {s : Session} {w : World}

/-- Run from session `s` in world `w`, `x` ends where `Q` holds of its result, the session and the
world. -/
def Holds (x : InSession α) (s : Session) (w : World) (Q : α → Session → World → Prop) : Prop :=
  Q ((x.run s).run w).1.1 ((x.run s).run w).1.2 ((x.run s).run w).2

@[simp] theorem holds_bind (x : InSession α) (g : α → InSession β)
    {Q : β → Session → World → Prop} :
    (x >>= g).Holds s w Q ↔ x.Holds s w fun a s' w' => (g a).Holds s' w' Q :=
  Iff.rfl

@[simp] theorem holds_pure (a : α) {Q : α → Session → World → Prop} :
    (pure a : InSession α).Holds s w Q ↔ Q a s w :=
  Iff.rfl

@[simp] theorem holds_get {Q : Session → Session → World → Prop} :
    (get : InSession Session).Holds s w Q ↔ Q s s w :=
  Iff.rfl

@[simp] theorem holds_set (s' : Session) {Q : PUnit → Session → World → Prop} :
    (set s' : InSession PUnit).Holds s w Q ↔ Q ⟨⟩ s' w :=
  Iff.rfl

@[simp] theorem holds_modify (f : Session → Session) {Q : PUnit → Session → World → Prop} :
    (modify f : InSession PUnit).Holds s w Q ↔ Q ⟨⟩ (f s) w :=
  Iff.rfl

@[simp] theorem holds_lift (x : Run α) {Q : α → Session → World → Prop} :
    InSession.Holds (StateT.lift x) s w Q ↔ Q (x.run w).1 s (x.run w).2 :=
  Iff.rfl

theorem Holds.mono {x : InSession α} {Q Q' : α → Session → World → Prop} (h : x.Holds s w Q)
    (hq : ∀ a s' w', Q a s' w' → Q' a s' w') : x.Holds s w Q' :=
  hq _ _ _ h

theorem Holds.and {x : InSession α} {Q Q' : α → Session → World → Prop} (h : x.Holds s w Q)
    (h' : x.Holds s w Q') : x.Holds s w fun a s' w' => Q a s' w' ∧ Q' a s' w' :=
  ⟨h, h'⟩

end InSession

open InSession

namespace Session

variable {s : Session} {w : World}

@[simp] theorem holds_call {α : Type} (c : Call α) {Q : Except QueryError α → Session → World → Prop} :
    (Session.call c).Holds s w Q ↔ Q (c.run.run w).1 s (c.run.run w).2 :=
  Iff.rfl

@[simp] theorem holds_attach {Q : Unit → Session → World → Prop} :
    Session.attach.Holds s w Q ↔ Q () { s with consumers := s.consumers + 1 } w :=
  Iff.rfl

@[simp] theorem holds_recordError (e : QueryError) {Q : Unit → Session → World → Prop} :
    (Session.recordError e).Holds s w Q ↔ Q () { s with lastError := some e } w :=
  Iff.rfl

@[simp] theorem holds_cancel {Q : Unit → Session → World → Prop} :
    Session.cancel.Holds s w Q ↔ Q () { s with cancelled := true } w :=
  Iff.rfl

/-- Taking the job id out of a phase never leaves a ready job behind. -/
theorem takeJobId_not_ready (p : Phase) (job : ReadyJob) : (takeJobId p).2 ≠ .ready job := by
  cases p <;> simp [takeJobId]

end Session

/-! ## Contexts -/

/-- An in-memory service that finishes jobs at their first status check and serves every page:
no page fails and none comes back without data. -/
structure Behavior.Healthy (b : Behavior) : Prop where
  polls : b.pollsBeforeDone = 0
  done : b.finalState = .done
  noFailing : b.failingPage = none
  noNull : b.nullDataPage = none

/-- A service that finishes jobs at their first check lets a poll with any number of attempts
find a new job done. -/
theorem Behavior.pollsDone_first {b : Behavior} (hpolls : b.pollsBeforeDone = 0)
    (hfinal : b.finalState = .done) (m : Nat) : b.PollsDone m :=
  ⟨hfinal, by rw [hpolls]; exact Nat.zero_le m, by rw [hpolls]; decide⟩

/-- Pages of `P` rows, with room in 64 bits for the rows and one page more. -/
structure Behavior.Paged (b : Behavior) (P : Nat) : Prop where
  pos : 0 < P
  fits : b.rows + P < Nat.pow 2 64

theorem Behavior.Paged.size_lt {b : Behavior} {P : Nat} (hb : b.Paged P) : P < Nat.pow 2 64 := by
  have := hb.fits
  omega

theorem Behavior.Paged.rows_lt {b : Behavior} {P : Nat} (hb : b.Paged P) :
    b.rows < Nat.pow 2 64 := by
  have := hb.fits
  have := hb.pos
  omega

/-- The job a session started on the in-memory service hands to its cursors: page 0 first, and
the layout of the row count page 0 reports. -/
def Behavior.readyJob (b : Behavior) (P : Nat) (J : String) : ReadyJob :=
  { jobId := J, firstPage := b.page P 0
    layout := (b.page P 0).rowsInJob.map fun rows => PageLayout.make rows P }

theorem Behavior.readyJob_layout (b : Behavior) (P : Nat) (J : String) :
    (b.readyJob P J).layout =
      if b.reportRowsInJob then some (PageLayout.make b.rows P) else none := by
  simp only [Behavior.readyJob, Behavior.page]
  split <;> rfl

/-- The world is served by the in-memory service behaving as `b`, which knows job `J`. -/
def World.Knows (b : Behavior) (J : String) (w : World) : Prop :=
  ∃ fs, w.backend = .fake fs ∧ fs.behavior = b ∧ (fs.find? J).isSome

/-- The in-memory service serving the world has received `n` deletes. -/
def World.Deletes (n : Nat) (w : World) : Prop :=
  ∃ fs, w.backend = .fake fs ∧ fs.calls.deletes = n

/-- What a session over the in-memory service keeps along every run: the world is served by the
same behaviour, pages have `P` rows, and a ready job is one the service started. -/
structure Session.Sound (b : Behavior) (P : Nat) (s : Session) (w : World) : Prop where
  serves : w.Serves b
  pageSize : s.config.pageSize = P
  ready : ∀ job, s.phase = .ready job → job = b.readyJob P job.jobId

/-- A session reading job `J` with nothing in the way: pages have `P` rows, nobody cancelled, the
job is ready as the service started it, and the service still knows it. -/
structure Session.Live (b : Behavior) (P : Nat) (J : String) (s : Session) (w : World) : Prop where
  pageSize : s.config.pageSize = P
  running : s.cancelled = false
  ready : s.phase = .ready (b.readyJob P J)
  named : J ≠ ""
  knows : w.Knows b J

/-- A session before its start, where the start will succeed with job `J`, which the service
keeps. -/
structure Session.Fresh (b : Behavior) (P : Nat) (J : String) (s : Session) (w : World) : Prop where
  pageSize : s.config.pageSize = P
  running : s.cancelled = false
  unstarted : s.phase = .uninitialized
  named : J ≠ ""
  launches : (s.launch.run w).1 = (some J, .ok (b.readyJob P J))
  knows : (s.launch.run w).2.Knows b J

/-- How the start of a session over the in-memory service behaving as `b` ends: with job `J` ready,
page 0 first, or with the error for page 0 when the service breaks it. -/
def Behavior.start (b : Behavior) (P : Nat) (J : String) : Except QueryError ReadyJob :=
  if b.Breaks 0 then .error (b.pageError 0 .first J) else .ok (b.readyJob P J)

/-- A session before its start, where the start creates job `J`, which the service keeps, and
ends as `Behavior.start` says; the service has deleted no job by then. -/
structure Session.Starts (b : Behavior) (P : Nat) (J : String) (s : Session) (w : World) : Prop where
  pageSize : s.config.pageSize = P
  running : s.cancelled = false
  unstarted : s.phase = .uninitialized
  named : J ≠ ""
  launches : (s.launch.run w).1 = (some J, b.start P J)
  knows : (s.launch.run w).2.Knows b J
  clean : (s.launch.run w).2.Deletes 0

/-- A session before its start, where the start creates job `J`, which the service keeps, and
ends with an error, possibly while it polls the job, or as `Behavior.start` says; the service has
deleted no job by then. -/
structure Session.Begins (b : Behavior) (P : Nat) (J : String) (s : Session) (w : World) : Prop where
  pageSize : s.config.pageSize = P
  running : s.cancelled = false
  unstarted : s.phase = .uninitialized
  named : J ≠ ""
  creates : (s.launch.run w).1.1 = some J
  launches : ∀ job, (s.launch.run w).1.2 = .ok job → b.start P J = .ok job
  knows : (s.launch.run w).2.Knows b J
  clean : (s.launch.run w).2.Deletes 0

theorem Session.Starts.begins {b : Behavior} {P : Nat} {J : String} {s : Session} {w : World}
    (h : s.Starts b P J w) : s.Begins b P J w :=
  ⟨h.pageSize, h.running, h.unstarted, h.named, by rw [h.launches],
    fun job hjob => by rw [h.launches] at hjob; exact hjob, h.knows, h.clean⟩

/-! ## Along every run -/

section Sound

variable {b : Behavior} {P : Nat} {s : Session} {w : World}

theorem Session.Sound.follows {w' : World} (h : s.Sound b P w) (hw : w.Follows w') :
    s.Sound b P w' :=
  ⟨hw.serves b h.serves, h.pageSize, h.ready⟩

theorem Session.Sound.attach (h : s.Sound b P w) :
    Session.Sound b P { s with consumers := s.consumers + 1 } w :=
  ⟨h.serves, h.pageSize, h.ready⟩

theorem Session.Sound.recordError (h : s.Sound b P w) (e : QueryError) :
    Session.Sound b P { s with lastError := some e } w :=
  ⟨h.serves, h.pageSize, h.ready⟩

/-- Asking for the ready job keeps the session sound, and a job it hands out is the one the
service started. -/
theorem Session.ready_sound (hb : b.Paged P) (h : s.Sound b P w) :
    Session.ready.Holds s w fun r s' w' =>
      s'.Sound b P w' ∧ ∀ job, r = .ok job → job = b.readyJob P job.jobId := by
  unfold Session.ready
  simp only [holds_bind, holds_get]
  cases hphase : s.phase with
  | ready job => exact ⟨h, fun j hj => by cases hj; exact h.ready job hphase⟩
  | failed e id => exact ⟨h, fun j hj => by cases hj⟩
  | uninitialized =>
    simp only [holds_bind, holds_lift]
    have hfollow : w.Follows (s.launch.run w).2 := Run.Follows.launch s w
    rcases hl : s.launch.run w with ⟨⟨created, _ | job⟩, w'⟩
    · rw [hl] at hfollow
      refine ⟨⟨hfollow.serves b h.serves, h.pageSize, fun j hj => ?_⟩, fun j hj => by cases hj⟩
      cases hj
    · rw [hl] at hfollow
      obtain ⟨hfirst, -, hlayout⟩ := Session.launch_ok h.serves (h.pageSize ▸ hb.pos)
        (h.pageSize ▸ hb.size_lt) hb.rows_lt hl
      have hjob : job = b.readyJob P job.jobId := by
        cases job
        simp only [Behavior.readyJob] at hfirst hlayout ⊢
        rw [← h.pageSize, hfirst, hlayout]
      refine ⟨⟨hfollow.serves b h.serves, h.pageSize, fun j hj => ?_⟩, fun j hj => ?_⟩
      · cases hj
        exact hjob
      · cases hj
        exact hjob

/-- A fetch leaves the session as it was, and a page it hands out is the one the service serves
for the page its selector names. -/
theorem Session.fetch_sound (hb : b.Paged P) (h : s.Sound b P w) {id : String}
    {sel : PageSelector} {n : Nat} (hsel : sel.Reads n) :
    (Session.fetch id sel).Holds s w fun r s' w' =>
      s' = s ∧ w.Follows w' ∧ ∀ page, r = .ok page → page = b.page P n ∧ b.PageFits P n := by
  unfold Session.fetch
  simp only [holds_bind, holds_get, holds_call]
  refine ⟨trivial, Call.Follows.fetchPage _ _ _ _ _ w, fun page hpage => ?_⟩
  obtain ⟨fs, hfs, rfl⟩ := h.serves
  rcases hrun : (fetchPage s.service s.config.pageSize s.cancelled id sel).run.run w with
    ⟨r, w'⟩
  rw [hrun] at hpage
  cases hpage
  rw [← h.pageSize]
  exact fetchPage_ok hfs hsel (h.pageSize ▸ hb.pos) (h.pageSize ▸ hb.size_lt) hb.rows_lt hrun

/-- Deleting a job through the session keeps the session and what the world settled. -/
theorem Session.deleteJob_follows (id : String) :
    (Session.deleteJob id).Holds s w fun _ s' w' => s' = s ∧ w.Follows w' := by
  unfold Session.deleteJob
  simp only [holds_bind, holds_get, holds_lift]
  exact ⟨trivial, Run.Follows.delete _ _ w⟩

/-- Releasing a lease counts one consumer out, whatever the session. -/
theorem Session.detach_consumers :
    Session.detach.Holds s w fun _ s' _ => s'.consumers = s.consumers - 1 := by
  unfold Session.detach
  simp only [holds_bind, holds_modify, holds_get]
  split
  · simp only [holds_bind, holds_set]
    split
    · exact (Session.deleteJob_follows _).mono fun _ s' _ h => by rw [h.1]
    · rfl
  · rfl

theorem Session.detach_sound (h : s.Sound b P w) :
    Session.detach.Holds s w fun _ s' w' => s'.Sound b P w' := by
  unfold Session.detach
  simp only [holds_bind, holds_modify, holds_get]
  split
  · -- the last consumer out takes the job id; no ready job is left behind
    have hset : Session.Sound b P
        { s with consumers := s.consumers - 1, phase := (Session.takeJobId s.phase).2 } w :=
      ⟨h.serves, h.pageSize, fun job hj => absurd hj (Session.takeJobId_not_ready _ job)⟩
    simp only [holds_bind, holds_set]
    split
    · refine (Session.deleteJob_follows _).mono ?_
      rintro _ s' w' ⟨hs', hw'⟩
      exact hs' ▸ hset.follows hw'
    · exact hset
  · exact ⟨h.serves, h.pageSize, h.ready⟩

theorem Session.close_sound (h : s.Sound b P w) :
    Session.close.Holds s w fun _ s' w' => s'.Sound b P w' := by
  unfold Session.close
  simp only [holds_bind, holds_modify, holds_get, holds_set]
  have hset : Session.Sound b P
      { s with cancelled := true, phase := .failed QueryError.cancelled.asSessionFailure none } w :=
    ⟨h.serves, h.pageSize, fun job hj => by cases hj⟩
  split
  · refine (Session.deleteJob_follows _).mono ?_
    rintro _ s' w' ⟨hs', hw'⟩
    exact hs' ▸ hset.follows hw'
  · exact hset

end Sound

/-! ## Reading a live job -/

section Live

variable {b : Behavior} {P : Nat} {J : String} {s : Session} {w : World}

theorem Session.Live.attach (h : s.Live b P J w) :
    Session.Live b P J { s with consumers := s.consumers + 1 } w :=
  ⟨h.pageSize, h.running, h.ready, h.named, h.knows⟩

theorem Session.Fresh.attach (h : s.Fresh b P J w) :
    Session.Fresh b P J { s with consumers := s.consumers + 1 } w :=
  ⟨h.pageSize, h.running, h.unstarted, h.named, h.launches, h.knows⟩

/-- How many consumers a session has does not change how it starts. -/
theorem Session.Starts.recount (h : s.Starts b P J w) (n : Nat) :
    Session.Starts b P J { s with consumers := n } w :=
  ⟨h.pageSize, h.running, h.unstarted, h.named, h.launches, h.knows, h.clean⟩

theorem Session.Begins.recount (h : s.Begins b P J w) (n : Nat) :
    Session.Begins b P J { s with consumers := n } w :=
  ⟨h.pageSize, h.running, h.unstarted, h.named, h.creates, h.launches, h.knows, h.clean⟩

/-- A fresh session starts its job, and is then live. -/
theorem Session.ready_fresh (h : s.Fresh b P J w) :
    Session.ready.Holds s w fun r s' w' =>
      r = .ok (b.readyJob P J) ∧ s'.Live b P J w' ∧ s'.consumers = s.consumers := by
  have hlaunch := h.launches
  have hknows := h.knows
  unfold Session.ready
  simp only [holds_bind, holds_get, h.unstarted, holds_lift]
  rcases hl : s.launch.run w with ⟨⟨created, outcome⟩, w'⟩
  rw [hl] at hlaunch hknows
  cases hlaunch
  exact ⟨rfl, ⟨h.pageSize, h.running, rfl, h.named, hknows⟩, rfl⟩

/-- A session that starts as `Behavior.start` says hands out the start's outcome, a failure
wrapped once as a session failure, and keeps its consumers. Its phase then holds job `J` for
deletion, which the service still knows; once the job is ready the session is live. -/
theorem Session.ready_starts (h : s.Starts b P J w) :
    Session.ready.Holds s w fun r s' w' =>
      r = (b.start P J).mapError QueryError.asSessionFailure ∧ s'.consumers = s.consumers ∧
        (Session.takeJobId s'.phase).1 = some J ∧ w'.Knows b J ∧
        (¬ b.Breaks 0 → s'.Live b P J w') := by
  have hlaunch := h.launches
  have hknows := h.knows
  unfold Session.ready
  simp only [holds_bind, holds_get, h.unstarted, holds_lift]
  rcases hl : s.launch.run w with ⟨⟨created, outcome⟩, w'⟩
  rw [hl] at hlaunch hknows
  cases hlaunch
  by_cases hbreak : b.Breaks 0
  · -- the start failed at page 0: the failure is cached
    rw [Behavior.start, if_pos hbreak]
    exact ⟨rfl, rfl, rfl, hknows, fun hnot => absurd hbreak hnot⟩
  · rw [Behavior.start, if_neg hbreak]
    exact ⟨rfl, rfl, rfl, hknows, fun _ => ⟨h.pageSize, h.running, rfl, h.named, hknows⟩⟩

/-- A session that begins its job starts it on the first ask, whatever the start meets: the
session then holds the job, which the service keeps, with nothing deleted; a failed start is
cached in the phase with the job, and a start that succeeds makes the job ready as the service
started it and leaves the session live. -/
theorem Session.ready_begins (h : s.Begins b P J w) :
    Session.ready.Holds s w fun r s' w' =>
      s'.consumers = s.consumers ∧ w'.Knows b J ∧ w'.Deletes 0 ∧
        ((∃ e, r = .error e ∧ s'.phase = .failed e (some J)) ∨
          (r = .ok (b.readyJob P J) ∧ ¬ b.Breaks 0 ∧ s'.Live b P J w')) := by
  have hcreates := h.creates
  have hlaunches := h.launches
  have hknows := h.knows
  have hclean := h.clean
  unfold Session.ready
  simp only [holds_bind, holds_get, h.unstarted, holds_lift]
  rcases hl : s.launch.run w with ⟨⟨created, outcome⟩, w'⟩
  rw [hl] at hcreates hlaunches hknows hclean
  dsimp only at hcreates hlaunches
  subst hcreates
  cases outcome with
  | error e => exact ⟨rfl, hknows, hclean, Or.inl ⟨_, rfl, rfl⟩⟩
  | ok job =>
    -- a start that succeeds is the service's start, so page 0 was served
    have hstart := hlaunches job rfl
    have hbreak : ¬ b.Breaks 0 := fun hbreak => by
      rw [Behavior.start, if_pos hbreak] at hstart
      cases hstart
    rw [Behavior.start, if_neg hbreak] at hstart
    cases hstart
    exact ⟨rfl, hknows, hclean,
      Or.inr ⟨rfl, hbreak, ⟨h.pageSize, h.running, rfl, h.named, hknows⟩⟩⟩

/-- A live session fetches any page that starts within the rows as the service answers it, and
stays live. -/
theorem Session.fetch_reached (hb : b.Paged P) (h : s.Live b P J w) {sel : PageSelector} {n : Nat}
    (hsel : sel.Reads n) (hn : n * P ≤ b.rows) :
    (Session.fetch J sel).Holds s w fun r s' w' =>
      r = b.served P n sel J ∧ s' = s ∧ s.Live b P J w' := by
  obtain ⟨fs, hfs, hbeh, hknown⟩ := h.knows
  obtain ⟨job, hjob⟩ := Option.isSome_iff_exists.mp hknown
  subst hbeh
  unfold Session.fetch
  simp only [holds_bind, holds_get, holds_call, h.running, h.pageSize]
  obtain ⟨q, hq⟩ := @fetchPage_reached w fs s.service _ _ _ _ hfs hsel h.named _ hjob hb.pos
    hb.size_lt hb.rows_lt (fs.behavior.pageFits_of_le hb.pos hb.fits hn)
  rw [hq]
  exact ⟨rfl, trivial, ⟨h.pageSize, h.running, h.ready, h.named, fs.countResults, rfl, rfl,
    by rw [FakeService.find?_countResults, hjob]; rfl⟩⟩

/-- On a healthy service, a live session fetches any page that starts within the rows, and
stays live. -/
theorem Session.fetch_live (hb : b.Paged P) (hh : b.Healthy) (h : s.Live b P J w)
    {sel : PageSelector} {n : Nat} (hsel : sel.Reads n) (hn : n * P ≤ b.rows) :
    (Session.fetch J sel).Holds s w fun r s' w' =>
      r = .ok (b.page P n) ∧ s' = s ∧ s.Live b P J w' := by
  obtain ⟨fs, hfs, hbeh, hknown⟩ := h.knows
  obtain ⟨job, hjob⟩ := Option.isSome_iff_exists.mp hknown
  subst hbeh
  unfold Session.fetch
  simp only [holds_bind, holds_get, holds_call, h.running, h.pageSize]
  obtain ⟨q, hq⟩ := @fetchPage_served w fs s.service _ _ _ _ hfs hsel h.named _ hjob hb.pos
    hb.size_lt hb.rows_lt (by simp [hh.noFailing]) (by simp [hh.noNull])
    (fs.behavior.pageFits_of_le hb.pos hb.fits hn)
  rw [hq]
  exact ⟨rfl, trivial, ⟨h.pageSize, h.running, h.ready, h.named, fs.countResults, rfl, rfl,
    by rw [FakeService.find?_countResults, hjob]; rfl⟩⟩

/-- Releasing a lease of a live session: one consumer less, and the session stays live while a
consumer is left. -/
theorem Session.detach_live (h : s.Live b P J w) :
    Session.detach.Holds s w fun _ s' w' =>
      s'.consumers = s.consumers - 1 ∧ (s.consumers - 1 ≠ 0 → s'.Live b P J w') := by
  unfold Session.detach
  simp only [holds_bind, holds_modify, holds_get]
  split
  · rename_i hzero
    simp only [beq_iff_eq] at hzero
    simp only [holds_bind, holds_set]
    split
    · refine (Session.deleteJob_follows _).mono ?_
      rintro _ s' w' ⟨hs', -⟩
      exact ⟨by rw [hs'], fun hne => absurd hzero hne⟩
    · exact ⟨rfl, fun hne => absurd hzero hne⟩
  · exact ⟨rfl, fun _ => ⟨h.pageSize, h.running, h.ready, h.named, h.knows⟩⟩

end Live

/-! ## Sessions just made -/

section Made

variable {sql : String} {config : SessionConfig} {svc : QueryService} {standalone : Bool}
  {s : Session} {b : Behavior} {w : World}

/-- A session just made is sound over any in-memory service. -/
theorem Session.make_sound (hs : Session.make sql config svc standalone = .ok s)
    (hw : w.Serves b) : s.Sound b config.pageSize w := by
  obtain ⟨p, -, rfl⟩ := Session.make_ok hs
  refine ⟨hw, rfl, fun job hphase => ?_⟩
  cases hphase

/-- A session just made over a new in-memory service whose poll finds a new job done starts as
`Behavior.start` says, with no consumer: its start creates the job of the next fresh id. -/
theorem Session.make_starts (hs : Session.make sql config svc standalone = .ok s)
    (hP32 : config.pageSize < Nat.pow 2 32) (hb : b.Paged config.pageSize)
    (hdone : b.PollsDone config.maxPollAttempts) (hw : w.backend = .fake { behavior := b }) :
    s.Starts b config.pageSize (Text.mintUuid 0 w.minted) w ∧ s.consumers = 0 := by
  obtain ⟨w₃, fs₃, hw₃, hb₃, hknown₃, hdel₃, -, hpolled⟩ :=
    Session.launch_polled svc hs hP32 hw rfl (by simp)
  obtain ⟨-, hlaunch⟩ := hpolled hdone
  obtain ⟨job₃, hfind₃⟩ := Option.isSome_iff_exists.mp hknown₃
  simp only at hb₃
  -- the start ends with the fetch of page 0, however the service answers it
  obtain ⟨q, hq⟩ := @fetchPage_reached w₃ fs₃ svc config.pageSize 0 _ .first hw₃ .first
    (mintUuid_ne_empty 0 w.minted) job₃ hfind₃ hb.pos hb.size_lt (hb₃ ▸ hb.rows_lt)
    (hb₃ ▸ Behavior.pageFits_zero b hb.size_lt)
  have hknows : World.Knows b (Text.mintUuid 0 w.minted)
      { w₃ with sent := w₃.sent.push (svc.resultsRequest (Text.mintUuid 0 w.minted) q),
                backend := .fake fs₃.countResults, clock := w₃.clock + fs₃.behavior.latencyMs } :=
    ⟨fs₃.countResults, rfl, hb₃, by rw [FakeService.find?_countResults, hfind₃]; rfl⟩
  have hclean : World.Deletes 0
      { w₃ with sent := w₃.sent.push (svc.resultsRequest (Text.mintUuid 0 w.minted) q),
                backend := .fake fs₃.countResults, clock := w₃.clock + fs₃.behavior.latencyMs } :=
    ⟨fs₃.countResults, rfl, hdel₃⟩
  rw [hq, hb₃] at hlaunch
  obtain ⟨p, -, rfl⟩ := Session.make_ok hs
  by_cases hbreak : b.Breaks 0
  · rw [Behavior.served, if_pos hbreak] at hlaunch
    exact ⟨⟨rfl, rfl, rfl, mintUuid_ne_empty 0 w.minted,
      by rw [hlaunch, Behavior.start, if_pos hbreak], by rw [hlaunch]; exact hknows,
      by rw [hlaunch]; exact hclean⟩, rfl⟩
  · rw [Behavior.served, if_neg hbreak] at hlaunch
    exact ⟨⟨rfl, rfl, rfl, mintUuid_ne_empty 0 w.minted,
      by rw [hlaunch, Behavior.start, if_neg hbreak]; rfl, by rw [hlaunch]; exact hknows,
      by rw [hlaunch]; exact hclean⟩, rfl⟩

/-- A session just made over a new in-memory service begins its job, whatever the service's poll
finds, with no consumer: its start creates the job of the next fresh id. -/
theorem Session.make_begins (hs : Session.make sql config svc standalone = .ok s)
    (hP32 : config.pageSize < Nat.pow 2 32) (hb : b.Paged config.pageSize)
    (hw : w.backend = .fake { behavior := b }) :
    s.Begins b config.pageSize (Text.mintUuid 0 w.minted) w ∧ s.consumers = 0 := by
  by_cases hdone : b.PollsDone config.maxPollAttempts
  · obtain ⟨hstarts, hcons⟩ := Session.make_starts hs hP32 hb hdone hw
    exact ⟨hstarts.begins, hcons⟩
  -- a poll that does not find the job done fails, and so does the start
  obtain ⟨w₃, fs₃, hw₃, hb₃, hknown₃, hdel₃, hpolled, -⟩ :=
    Session.launch_polled svc hs hP32 hw rfl (by simp)
  obtain ⟨e, he⟩ : ∃ e, b.pollEnd config.maxPollAttempts (Text.mintUuid 0 w.minted) = .error e := by
    cases hend : b.pollEnd config.maxPollAttempts (Text.mintUuid 0 w.minted) with
    | error e => exact ⟨e, rfl⟩
    | ok st => exact absurd (Behavior.pollsDone_of_pollEnd_ok hend) hdone
  have hlaunch := hpolled e he
  obtain ⟨p, -, rfl⟩ := Session.make_ok hs
  refine ⟨⟨rfl, rfl, rfl, mintUuid_ne_empty 0 w.minted, by rw [hlaunch], fun job hjob => ?_,
    ?_, ?_⟩, rfl⟩
  · rw [hlaunch] at hjob
    cases hjob
  · rw [hlaunch]
    exact ⟨fs₃, hw₃, hb₃, hknown₃⟩
  · rw [hlaunch]
    exact ⟨fs₃, hw₃, hdel₃⟩

/-- A session just made over a new healthy in-memory service is fresh, with no consumer: its
start creates the job of the next fresh id. -/
theorem Session.make_fresh (hs : Session.make sql config svc standalone = .ok s)
    (hP32 : config.pageSize < Nat.pow 2 32) (hb : b.Paged config.pageSize) (hh : b.Healthy)
    (hw : w.backend = .fake { behavior := b }) :
    s.Fresh b config.pageSize (Text.mintUuid 0 w.minted) w ∧ s.consumers = 0 := by
  obtain ⟨hlaunch, hknows, -⟩ := Session.launch_fresh svc hs hP32 hw rfl (by simp)
    (Behavior.pollsDone_first hh.polls hh.done _) (by simp [hh.noFailing]) (by simp [hh.noNull])
    hb.rows_lt
  obtain ⟨p, -, rfl⟩ := Session.make_ok hs
  exact ⟨⟨rfl, rfl, rfl, mintUuid_ne_empty 0 w.minted, hlaunch, hknows⟩, rfl⟩

end Made

end JobQuery
