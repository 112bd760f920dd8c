import JobQuery.Proofs.SplitPages

/-!
# JobQuery — a declined split changes nothing

A split fetches the midpoint page of the range *before* it touches the range, so it can only
decline before anything has changed. This module states that for every cursor, every session
and every service:

* a split that declines leaves the cursor as it was, except that a cursor that had not started
  is now started on the job its session holds ready; it attaches nobody, and of the session it
  changes at most the start phase (only for a cursor that had not started) and the last error;
* the last error changes only to the error of a start that failed (the one the phase then
  holds) or to an error met after the cursor was ready to fetch a midpoint page;
* when the fetch of the midpoint page fails, whatever it answered (an error status, a page
  without data, a cancelled session), the split declines with the cursor exactly as it was and
  the session as it was but for that error, recorded as its last.

`Session.Keeps` names "the session but for its phase and its last error", and
`Session.ready_keeps` says once what asking for the ready job can change.

The main result is `SplitCursor.trySplit_declined_changes_nothing`.
-/

namespace JobQuery

open InSession

/-! ## What a session step may change -/

namespace Session

/-- `s'` is `s` but for its start phase and its last error. -/
def Keeps (s s' : Session) : Prop :=
  { s' with phase := s.phase, lastError := s.lastError } = s

variable {s s₁ s₂ : Session} {w : World}

theorem Keeps.refl (s : Session) : s.Keeps s := rfl

theorem Keeps.trans (h₁ : s.Keeps s₁) (h₂ : s₁.Keeps s₂) : s.Keeps s₂ := by
  unfold Keeps at *
  rw [← h₁]
  conv_rhs => rw [← h₂]

theorem Keeps.consumers (h : s.Keeps s₁) : s₁.consumers = s.consumers := by
  unfold Keeps at h
  have hc := congrArg Session.consumers h
  exact hc

theorem keeps_recordError (s : Session) (e : QueryError) :
    s.Keeps { s with lastError := some e } := rfl

/-- Asking for the ready job changes only the phase and the last error: a job handed out is the
one the phase holds, with the last error as it was, and an error handed out is the one a failed
phase holds. -/
theorem ready_keeps :
    Session.ready.Holds s w fun r s' _ => s.Keeps s' ∧
      (∀ job, r = .ok job → s'.phase = .ready job ∧ s'.lastError = s.lastError) ∧
      (∀ e, r = .error e → ∃ id, s'.phase = .failed e id) := by
  unfold Session.ready
  simp only [holds_bind, holds_get]
  split
  · rename_i job hp
    refine ⟨.refl s, fun j hj => ?_, fun e he => ?_⟩
    · cases hj
      exact ⟨hp, rfl⟩
    · cases he
  · rename_i e id hp
    refine ⟨.refl s, fun j hj => ?_, fun e' he => ?_⟩
    · cases hj
    · cases he
      exact ⟨id, hp⟩
  · simp only [holds_bind, holds_lift]
    split
    · refine ⟨rfl, fun j hj => ?_, fun e he => ?_⟩
      · cases hj
        exact ⟨rfl, rfl⟩
      · cases he
    · refine ⟨rfl, fun j hj => ?_, fun e' he => ?_⟩
      · cases hj
      · cases he
        exact ⟨_, rfl⟩

end Session

/-! ## A declined split -/

namespace SplitCursor

variable {s : Session} {w : World} {c : SplitCursor}

/-- What a declined split may leave, from cursor `c` on session `s`, as cursor `c'` on session
`s'`. -/
structure Declined (c : SplitCursor) (s : Session) (c' : SplitCursor) (s' : Session) : Prop where
  /-- Of the session only the phase and the last error may change. -/
  keeps : s.Keeps s'
  /-- The cursor is as it was, or, when it had not started, started on the job its session
  holds ready. -/
  cursor : c' = c ∨ c.coverage = .pending ∧ ∃ job, s'.phase = .ready job ∧ c' = c.startedOn job
  /-- The phase changes only through the start of a cursor that had not started. -/
  phase : s'.phase = s.phase ∨ c.coverage = .pending
  /-- The last error is as it was, or the error of a failed start, which the phase holds, or
  an error met once the cursor had a midpoint page to fetch. -/
  recorded : s'.lastError = s.lastError ∨ (∃ e id, s'.phase = .failed e id ∧ s'.lastError = some e) ∨
    ∃ r id e, c'.coverage = .ranged r ∧ c'.jobId = some id ∧ r.current < r.stop ∧
      s'.lastError = some e

/-- Splitting a started cursor declines with everything as it was but the last error, which
only a failed midpoint fetch sets. -/
theorem splitStarted_declined (c : SplitCursor) :
    c.splitStarted.Holds s w fun out s' _ => out.1 = none →
      out.2 = c ∧ s.Keeps s' ∧ s'.phase = s.phase ∧ (s'.lastError = s.lastError ∨
        ∃ r id e, c.coverage = .ranged r ∧ c.jobId = some id ∧ r.current < r.stop ∧
          s'.lastError = some e) := by
  unfold splitStarted
  split
  · rename_i r id hcov hid
    split
    · exact fun _ => ⟨rfl, .refl s, rfl, Or.inl rfl⟩
    rename_i hmore
    simp only [holds_bind]
    refine (Session.fetch_keeps id _).mono ?_
    rintro (e | page) s₁ w₁ rfl <;> dsimp only
    · rw [holds_bind, Session.holds_recordError, holds_pure]
      exact fun _ => ⟨rfl, Session.keeps_recordError _ e, rfl,
        Or.inr ⟨r, id, e, hcov, hid, by omega, rfl⟩⟩
    · simp only [holds_bind, Session.holds_attach, holds_pure]
      intro hnone
      cases hnone
  · exact fun _ => ⟨rfl, .refl s, rfl, Or.inl rfl⟩

/-- **A declined split changes nothing.** For every cursor, session and service:

* a split that declines leaves what `Declined` allows: the cursor as it was or started on the
  session's ready job, the consumers as they were, and of the session only the phase (for a
  cursor that had not started) and the last error changed;
* when the fetch of a started cursor's midpoint page fails with `e`, however it fails, the split
  declines, the cursor is exactly as it was, and the session is as it was with `e` as its last
  error. -/
theorem trySplit_declined_changes_nothing :
    (∀ (c : SplitCursor) (s : Session) (w : World),
      c.trySplit.Holds s w fun out s' _ => out.1 = none →
        Declined c s out.2 s' ∧ s'.consumers = s.consumers) ∧
    (∀ (c : SplitCursor) (s : Session) (w : World) (r : PageRange) (id : String) (e : QueryError),
      c.leased = true → c.coverage = .ranged r → c.jobId = some id → r.current < r.stop →
      ((fetchPage s.service s.config.pageSize s.cancelled id (.number r.splitAt)).run.run w).1 =
        .error e →
      c.trySplit.Holds s w fun out s' w' => out = (none, c) ∧ s' = { s with lastError := some e } ∧
        w' = ((fetchPage s.service s.config.pageSize s.cancelled id (.number r.splitAt)).run.run w).2) := by
  refine ⟨fun c s w => ?_, fun c s w r id e hl hcov hid hlt hfetch => ?_⟩
  · rw [trySplit_eq]
    split
    · exact fun _ => ⟨⟨.refl s, Or.inl rfl, Or.inl rfl, Or.inl rfl⟩, rfl⟩
    rw [holds_bind]
    split
    · rename_i hpending
      have hcov : c.coverage = .pending := eq_pending_of_beq hpending
      rw [start_eq, holds_bind]
      refine Session.ready_keeps.mono ?_
      rintro (e | job) s₁ w₁ ⟨hk, hok, herr⟩ <;> dsimp only
      · -- the start failed: its error is recorded, and the phase holds it
        obtain ⟨id, hp⟩ := herr e rfl
        rw [holds_pure]
        dsimp only
        rw [holds_bind, Session.holds_recordError, holds_pure]
        have hk' := hk.trans (Session.keeps_recordError s₁ e)
        exact fun _ => ⟨⟨hk', Or.inl rfl, Or.inr hcov, Or.inr (Or.inl ⟨e, id, hp, rfl⟩)⟩,
          hk'.consumers⟩
      · -- the cursor starts on the job the phase now holds, then splits or declines
        obtain ⟨hp, hlast⟩ := hok job rfl
        rw [holds_pure]
        refine (splitStarted_declined (c.startedOn job)).mono ?_
        rintro out s' w' h hnone
        obtain ⟨hc', hk', hphase', hlast'⟩ := h hnone
        refine ⟨⟨hk.trans hk', Or.inr ⟨hcov, job, hphase'.trans hp, hc'⟩, Or.inr hcov, ?_⟩,
          (hk.trans hk').consumers⟩
        rcases hlast' with hsame | ⟨r, id, e, hr, hid, hlt, he⟩
        · exact Or.inl (hsame.trans hlast)
        · exact Or.inr (Or.inr ⟨r, id, e, hc' ▸ hr, hc' ▸ hid, hlt, he⟩)
    · rw [holds_pure]
      refine (splitStarted_declined c).mono ?_
      rintro out s' w' h hnone
      obtain ⟨hc', hk', hphase', hlast'⟩ := h hnone
      refine ⟨⟨hk', Or.inl hc', Or.inl hphase', ?_⟩, hk'.consumers⟩
      rcases hlast' with hsame | ⟨r, id, e, hr, hid, hlt, he⟩
      · exact Or.inl hsame
      · exact Or.inr (Or.inr ⟨r, id, e, hc' ▸ hr, hc' ▸ hid, hlt, he⟩)
  · -- the midpoint page is fetched before anything changes
    rw [trySplit_started (by simp [hcov]) hl]
    unfold splitStarted
    simp only [hcov, hid]
    rw [if_neg (by omega), holds_bind]
    unfold Session.fetch
    rw [holds_bind, holds_get, Session.holds_call]
    unfold PageRange.splitAt at hfetch ⊢
    rcases hrun : (fetchPage s.service s.config.pageSize s.cancelled id
        (.number (r.current + 1 + (r.stop - r.current) / 2))).run.run w with ⟨res, w'⟩
    rw [hrun] at hfetch
    dsimp only at hfetch
    subst hfetch
    dsimp only
    rw [holds_bind, Session.holds_recordError, holds_pure]
    exact ⟨rfl, rfl, rfl⟩

/-- On a cancelled session the split of pages `0 ..= 10` declines before it fetches the midpoint
page 6: the cursor keeps its range and its remainder, and the cancellation is the last error. -/
theorem trySplit_declined_when_cancelled :
    ((fetchPage (default : Session).service (default : Session).config.pageSize true "j"
        (.number (PageRange.splitAt ⟨0, 0, 10, 15⟩))).run.run (default : World)).1 = .error .cancelled ∧
      InSession.Holds (SplitCursor.trySplit { jobId := some "j", coverage := .ranged ⟨0, 0, 10, 15⟩ })
        { (default : Session) with cancelled := true } default fun out s' w' =>
          out = (none, { jobId := some "j", coverage := .ranged ⟨0, 0, 10, 15⟩ }) ∧
          s' = { (default : Session) with cancelled := true, lastError := some .cancelled } ∧
          w' = ((fetchPage (default : Session).service (default : Session).config.pageSize true "j"
            (.number (PageRange.splitAt ⟨0, 0, 10, 15⟩))).run.run (default : World)).2 :=
  ⟨rfl, trySplit_declined_changes_nothing.2 { jobId := some "j", coverage := .ranged ⟨0, 0, 10, 15⟩ }
    { (default : Session) with cancelled := true } default ⟨0, 0, 10, 15⟩ "j" .cancelled rfl rfl rfl
    (by decide) rfl⟩

end SplitCursor

end JobQuery
