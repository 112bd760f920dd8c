import JobQuery.Proofs.SessionSteps

/-!
# JobQuery — a sequential cursor reads its job as one stream

A reader of a sequential cursor asks for the next row, asks whether a row is available, or closes
the cursor, in any order (`SequentialCursor.drive`). What it sees is a stream of rows
(`RowStream`): the rows still to come, then at most one error, then the end for good. Asking
whether a row is available looks without taking it; closing ends the stream.

Over the in-memory service the stream is fixed by the service's behaviour (`RowStream.of`): the
rows `0, 1, 2, …` up to the first page the service breaks (`Behavior.brokenPage`), then that
page's error, when the pages before it lead there. A broken page 0 breaks the session's start:
the reader then gets no row, only the start's failure wrapped as a session failure.

One relation (`SequentialCursor.Tracks`) ties the cursor, its session and the world to the
stream the cursor still owes. Each operation keeps it and answers as the stream does
(`SequentialCursor.step_tracks`), hence so does every run (`SequentialCursor.run_tracks`). The
relation also counts the cursor's lease: the cursor holds it until the stream ends and gives it
back once, whoever else holds leases on the session.

## Results

* `Behavior.brokenPage_of_first` — the first broken page is the page the stream stops at.
* `SequentialCursor.follow_reading` — following page cursors finds the next row owed, or the
  end of the rows with the stream's error.
* `SequentialCursor.step_tracks`, `SequentialCursor.run_tracks` — every operation, and every
  run, answers as the stream does.
* `SequentialCursor.drive_streams` — the main statement, for a session just made.
-/

namespace JobQuery

open Json InSession

/-! ## The stream a reader sees -/

/-- What a reader does to a sequential cursor. -/
inductive CursorOp where
  /-- Ask for the next row. -/
  | next
  /-- Ask whether a row is available. -/
  | hasNext
  /-- Close the cursor. -/
  | close
  deriving Repr, DecidableEq

/-- What a sequential cursor answers: the next row (or the end, or an error), whether a row is
available, or that it has closed. -/
inductive CursorAnswer where
  | row (r : Except QueryError (Option Value))
  | more (available : Bool)
  | closed

/-- A stream of rows as a reader sees it: the rows still to come, the error reported after
them, and whether it has ended. -/
structure RowStream where
  rows : List Value
  last : Option QueryError
  ended : Bool := false

namespace RowStream

/-- The stream after its end. -/
def finished : RowStream := { rows := [], last := none, ended := true }

/-- One operation on the stream: rows come off the front; after the rows comes the error, if
any, and with it the end; asking whether a row is available looks without taking it; once
ended, the stream has no more rows. -/
def step (st : RowStream) : CursorOp → CursorAnswer × RowStream
  | .next =>
    if st.ended then (.row (.ok none), st)
    else match st.rows with
      | row :: rest => (.row (.ok (some row)), { st with rows := rest })
      | [] => (.row (st.last.elim (.ok none) .error), finished)
  | .hasNext =>
    if st.ended then (.more false, st)
    else match st.rows with
      | _ :: _ => (.more true, st)
      | [] => (.more false, finished)
  | .close => (.closed, finished)

/-- Asking whether a row is available says yes exactly when the next request for a row gets
one. -/
theorem more_iff_row (st : RowStream) :
    (st.step .hasNext).1 = .more true ↔
      ∃ row, ((st.step .hasNext).2.step .next).1 = .row (.ok (some row)) := by
  unfold step
  cases hend : st.ended <;> rcases hrows : st.rows with _ | ⟨row, rest⟩ <;>
    simp [hend, hrows, finished]

/-- Operations in order, with the answers in order. -/
def run (st : RowStream) : List CursorOp → List CursorAnswer × RowStream
  | [] => ([], st)
  | op :: ops =>
    let rest := (st.step op).2.run ops
    ((st.step op).1 :: rest.1, rest.2)

end RowStream

/-! ## What the in-memory service streams -/

namespace Behavior

variable (b : Behavior)

/-- The first page the service breaks, if any. -/
def brokenPage : Option Nat :=
  match b.failingPage, b.nullDataPage with
  | some f, some g => some (min f g)
  | some f, none => some f
  | none, g => g

/-- Where the rows a cursor reads stop, in pages of `P` rows: at the first broken page, else at
the end of the job. -/
def readTo (P : Nat) : Nat :=
  match b.brokenPage with
  | some f => b.pageStart P f
  | none => b.rows

/-- The error a cursor of job `J` reports after its rows: the start's failure, wrapped as a
session failure, when page 0 is broken; the error of a later broken page when the page before it
names it as the next one; none otherwise. -/
def streamError (P : Nat) (J : String) : Option QueryError :=
  match b.brokenPage with
  | none => none
  | some 0 => some (b.pageError 0 .first J).asSessionFailure
  | some (f + 1) =>
    if (f + 1) * P < b.rows then
      some (b.pageError (f + 1) (.cursor ("page-" ++ toString (f + 1))) J)
    else none

variable {b} {f m n P : Nat}

theorem breaks_of_brokenPage (h : b.brokenPage = some f) : b.Breaks f := by
  unfold brokenPage at h
  unfold Breaks
  rcases hf : b.failingPage with _ | x <;> rcases hg : b.nullDataPage with _ | y <;>
    simp only [hf, hg, Option.some.injEq, reduceCtorEq, false_or, or_false] at h ⊢ <;> omega

theorem not_breaks_of_lt_brokenPage (h : b.brokenPage = some f) (hm : m < f) : ¬ b.Breaks m := by
  unfold brokenPage at h
  unfold Breaks
  rcases hf : b.failingPage with _ | x <;> rcases hg : b.nullDataPage with _ | y <;>
    simp only [hf, hg, Option.some.injEq, reduceCtorEq, false_or, or_false] at h ⊢ <;> omega

theorem not_breaks_of_brokenPage_none (h : b.brokenPage = none) : ¬ b.Breaks m := by
  unfold brokenPage at h
  unfold Breaks
  rcases hf : b.failingPage with _ | x <;> rcases hg : b.nullDataPage with _ | y <;>
    simp only [hf, hg, reduceCtorEq, or_self, not_false_eq_true] at h ⊢

/-- A broken page with no broken page before it is the first broken page. -/
theorem brokenPage_of_first (hbreak : b.Breaks f) (hbefore : ∀ m < f, ¬ b.Breaks m) :
    b.brokenPage = some f := by
  rcases h : b.brokenPage with _ | f'
  · exact absurd hbreak (not_breaks_of_brokenPage_none h)
  · rcases Nat.lt_trichotomy f' f with hlt | rfl | hgt
    · exact absurd (breaks_of_brokenPage h) (hbefore f' hlt)
    · rfl
    · exact absurd hbreak (not_breaks_of_lt_brokenPage h hgt)

/-- After whole pages `0 .. n`, the first broken page comes later. -/
theorem lt_brokenPage (hwhole : ∀ m ≤ n, ¬ b.Breaks m) (h : b.brokenPage = some f) : n < f :=
  Nat.lt_of_not_le fun hle => hwhole f hle (breaks_of_brokenPage h)

theorem readTo_le_rows : b.readTo P ≤ b.rows := by
  unfold readTo
  split
  · exact b.pageStart_le_rows P _
  · exact Nat.le_refl _

/-- The rows a cursor reads reach at least to the page after whole pages. -/
theorem pageStart_le_readTo (hwhole : ∀ m ≤ n, ¬ b.Breaks m) :
    b.pageStart P (n + 1) ≤ b.readTo P := by
  unfold readTo
  rcases h : b.brokenPage with _ | f
  · exact b.pageStart_le_rows P (n + 1)
  · exact b.pageStart_mono (lt_brokenPage hwhole h)

/-- The rows a cursor reads stop at the first broken page. -/
theorem readTo_of_first (hbreak : b.Breaks f) (hbefore : ∀ m < f, ¬ b.Breaks m) :
    b.readTo P = b.pageStart P f := by
  rw [readTo, brokenPage_of_first hbreak hbefore]

/-- A broken page 0 breaks the session's start. -/
theorem streamError_of_breaks_zero (hbreak : b.Breaks 0) (J : String) :
    b.streamError P J = some (b.pageError 0 .first J).asSessionFailure := by
  rw [streamError, brokenPage_of_first hbreak fun m hm => absurd hm (Nat.not_lt_zero m)]

/-- A broken page after whole pages, which the last of them names, ends the stream with its
error. -/
theorem streamError_of_breaks (hwhole : ∀ m ≤ n, ¬ b.Breaks m) (hbreak : b.Breaks (n + 1))
    (hlt : (n + 1) * P < b.rows) (J : String) :
    b.streamError P J =
      some (b.pageError (n + 1) (.cursor ("page-" ++ toString (n + 1))) J) := by
  rw [streamError, brokenPage_of_first hbreak fun m hm => hwhole m (Nat.le_of_lt_succ hm)]
  exact if_pos hlt

/-- When whole pages reach the end of the rows, no broken page is ever asked for. -/
theorem streamError_of_end (hwhole : ∀ m ≤ n, ¬ b.Breaks m) (hend : b.rows ≤ (n + 1) * P)
    (J : String) : b.streamError P J = none := by
  unfold streamError
  rcases h : b.brokenPage with _ | _ | f
  · rfl
  · exact absurd (breaks_of_brokenPage h) (hwhole 0 (Nat.zero_le n))
  · have hmul : (n + 1) * P ≤ (f + 1) * P := Nat.mul_le_mul_right P (lt_brokenPage hwhole h)
    exact if_neg (by omega)

end Behavior

/-- The stream a sequential cursor of job `J` owes over the in-memory service behaving as `b`, in
pages of `P` rows. -/
def RowStream.of (b : Behavior) (P : Nat) (J : String) : RowStream :=
  { rows := FakeService.rowsBetween false 0 (b.readTo P), last := b.streamError P J }

/-! ## Reading with a sequential cursor -/

namespace SequentialCursor

/-- Apply one operation. -/
def step (c : SequentialCursor) : CursorOp → InSession (CursorAnswer × SequentialCursor)
  | .next => do
    let (r, c) ← c.next
    pure (.row r, c)
  | .hasNext => do
    let (available, c) ← c.hasNext
    pure (.more available, c)
  | .close => do
    let c ← c.close
    pure (.closed, c)

/-- Apply operations in order, with the answers in order. -/
def run (c : SequentialCursor) : List CursorOp → InSession (List CursorAnswer × SequentialCursor)
  | [] => pure ([], c)
  | op :: ops => do
    let (a, c) ← c.step op
    let (as, c) ← c.run ops
    pure (a :: as, c)

/-- Open a cursor on a session, which takes a lease, then apply the operations. -/
def drive (ops : List CursorOp) : InSession (List CursorAnswer × SequentialCursor) := do
  Session.attach
  ({} : SequentialCursor).run ops

/-! ## How a cursor stands for its stream -/

section Tracks

variable (b : Behavior) (P : Nat) (J : String) (k : Nat)

/-- A cursor reading job `J` of a live session, its lease held, after pages `0 .. n`, none of
them broken: it buffers what is left of page `n` and holds the service's cursor of page `n + 1`,
and the stream owes those rows, then the rows from page `n + 1` on. `k` other consumers hold
leases. -/
structure Reading (n : Nat) (c : SequentialCursor) (s : Session) (w : World) (st : RowStream) :
    Prop where
  live : s.Live b P J w
  consumers : s.consumers = k + 1
  leased : c.leased = true
  job : c.jobId = some J
  next : c.nextCursor = (b.page P n).nextCursor
  whole : ∀ m ≤ n, ¬ b.Breaks m
  rows : st.rows = c.rows ++ FakeService.rowsBetween false (b.pageStart P (n + 1)) (b.readTo P)
  last : st.last = b.streamError P J
  unended : st.ended = false

/-- How a cursor, its session and the world stand for the stream the cursor still owes, while `k`
other consumers hold leases. -/
inductive Tracks : SequentialCursor → Session → World → RowStream → Prop
  /-- Neither the cursor nor its session has started: the stream owes everything. -/
  | unstarted {c : SequentialCursor} {s : Session} {w : World} :
      c.leased = true → c.jobId = none → s.Starts b P J w → s.consumers = k + 1 →
      Tracks c s w (RowStream.of b P J)
  /-- The cursor is reading. -/
  | reading {c : SequentialCursor} {s : Session} {w : World} {st : RowStream} (n : Nat) :
      Reading b P J k n c s w st → Tracks c s w st
  /-- The stream has ended and the cursor has given its lease back. -/
  | ended {c : SequentialCursor} {s : Session} {w : World} {st : RowStream} :
      c.leased = false → s.consumers = k → st.ended = true → Tracks c s w st

/-- What making a row available ends with, against the stream `st` the cursor owes: a row at the
front of the stream, buffered by a cursor still reading; or the end of the rows, with the
stream's error if it has one, the lease still held. -/
def Preloaded (st : RowStream) (out : Except QueryError Bool × SequentialCursor) (s : Session)
    (w : World) : Prop :=
  (out.1 = .ok true ∧ out.2.rows ≠ [] ∧ ∃ n, Reading b P J k n out.2 s w st) ∨
  (st.rows = [] ∧ out.1 = st.last.elim (.ok false) .error ∧ out.2.leased = true ∧
    s.consumers = k + 1)

end Tracks

/-! ## Making a row available -/

section Preload

variable {b : Behavior} {P : Nat} {J : String} {k : Nat}

theorem follow_filled {c : SequentialCursor} (h : c.rows ≠ []) (fuel : Nat) :
    c.follow (fuel + 1) = pure (.ok true, c) := by
  unfold follow
  simp [h]

/-- Following page cursors from a reading cursor finds the next row the stream owes, or the end
of the rows with the stream's error. Two steps are always enough: a page the service names as
the next one holds rows. -/
theorem follow_reading (hb : b.Paged P) {n : Nat} {c : SequentialCursor} {s : Session}
    {w : World} {st : RowStream} (h : Reading b P J k n c s w st) (fuel : Nat) :
    (c.follow (fuel + 2)).Holds s w fun out s' w' => Preloaded b P J k st out s' w' := by
  by_cases hfull : c.rows = []
  swap
  · rw [follow_filled hfull]
    exact Or.inl ⟨rfl, hfull, n, h⟩
  unfold follow
  rw [if_neg (by simp [hfull]), h.job, h.next]
  by_cases hmore : b.pageStop P n < b.rows
  · -- page `n` names page `n + 1`, which the cursor fetches
    have hnext : (b.page P n).nextCursor = some ("page-" ++ toString (n + 1)) := by
      simp [Behavior.page, hmore]
    have hlt : (n + 1) * P < b.rows := by
      rw [← b.pageStart_lt_rows, ← b.pageStop_eq]
      exact hmore
    have hsel : (PageSelector.cursor ("page-" ++ toString (n + 1))).Reads (n + 1) :=
      .cursor (FakeService.pageNumber_cursor
        (lt_of_le_of_lt (Nat.le_mul_of_pos_right _ hb.pos) (lt_trans hlt hb.rows_lt)))
    rw [hnext]
    simp only [holds_bind]
    refine (Session.fetch_reached hb h.live hsel hlt.le).mono ?_
    rintro r s' w' ⟨rfl, rfl, hw'⟩
    by_cases hbreak : b.Breaks (n + 1)
    · -- a broken page ends the rows with its error
      rw [Behavior.served, if_pos hbreak]
      refine Or.inr ⟨?_, ?_, h.leased, h.consumers⟩
      · rw [h.rows, hfull, Behavior.readTo_of_first hbreak fun m hm => h.whole m (by omega),
          List.nil_append, FakeService.rowsBetween_of_le (Nat.le_refl _)]
      · rw [h.last, Behavior.streamError_of_breaks h.whole hbreak hlt]
        rfl
    · rw [Behavior.served, if_neg hbreak]
      -- the page holds rows, which with the pages after it are what the stream owes
      have hrows : (b.page P (n + 1)).rows ≠ [] := fun hnil =>
        absurd (b.page_rows_eq_nil hb.pos hnil) (Nat.not_le.mpr hlt)
      have hwhole : ∀ m ≤ n + 1, ¬ b.Breaks m := fun m hm =>
        (Nat.le_succ_iff.mp hm).elim (h.whole m) fun heq => heq ▸ hbreak
      dsimp only
      rw [follow_filled hrows, holds_pure]
      refine Or.inl ⟨rfl, hrows, n + 1, ⟨hw', h.consumers, h.leased, rfl, rfl, hwhole, ?_,
        h.last, h.unended⟩⟩
      rw [h.rows, hfull, List.nil_append, b.page_rows,
        FakeService.rowsBetween_append (b.pageStart_mono (by omega : n + 1 ≤ n + 1 + 1))
          (Behavior.pageStart_le_readTo hwhole)]
  · -- page `n` is the last: the rows end here, and no broken page is asked for
    have hnext : (b.page P n).nextCursor = none := by simp [Behavior.page, hmore]
    have hend : b.rows ≤ (n + 1) * P := by
      rw [← Nat.not_lt, ← b.pageStart_lt_rows, ← b.pageStop_eq]
      exact hmore
    rw [hnext]
    refine Or.inr ⟨?_, ?_, h.leased, h.consumers⟩
    · rw [h.rows, hfull, List.nil_append]
      apply FakeService.rowsBetween_of_le
      rw [← b.pageStop_eq]
      exact le_trans Behavior.readTo_le_rows (Nat.le_of_not_lt hmore)
    · rw [h.last, Behavior.streamError_of_end h.whole hend]
      rfl

/-- Making a row available from a cursor that still holds its lease finds a row at the front of
the stream, or the end of the rows with the stream's error. A cursor that has not started starts
its session first, which reads page 0 or fails with the stream's error. -/
theorem preload_tracks (hb : b.Paged P) {c : SequentialCursor} {s : Session} {w : World}
    {st : RowStream} (h : Tracks b P J k c s w st) (hl : c.leased = true) :
    c.preload.Holds s w fun out s' w' => Preloaded b P J k st out s' w' := by
  unfold preload
  cases h with
  | unstarted _ hjob hstarts hcons =>
    rw [hjob]
    simp only [holds_bind]
    refine (Session.ready_starts hstarts).mono ?_
    rintro r s' w' ⟨rfl, hcons', -, -, hlive⟩
    by_cases hbreak : b.Breaks 0
    · -- the start failed: no row, only its failure
      have hnone : ∀ m < 0, ¬ b.Breaks m := fun m hm => absurd hm (Nat.not_lt_zero m)
      rw [Behavior.start, if_pos hbreak]
      refine Or.inr ⟨?_, ?_, hl, hcons'.trans hcons⟩
      · rw [RowStream.of, Behavior.readTo_of_first hbreak hnone, Behavior.pageStart_zero]
        rfl
      · rw [RowStream.of, Behavior.streamError_of_breaks_zero hbreak]
        rfl
    · -- the cursor reads page 0, cached by the start, and follows it
      have hwhole : ∀ m ≤ 0, ¬ b.Breaks m := fun m hm => Nat.le_zero.mp hm ▸ hbreak
      rw [Behavior.start, if_neg hbreak]
      refine @follow_reading b P J k hb 0 _ _ _ _ ?_ 999998
      refine ⟨hlive hbreak, hcons'.trans hcons, hl, rfl, rfl, hwhole, ?_, rfl, rfl⟩
      rw [RowStream.of]
      dsimp only [Behavior.readyJob]
      rw [b.page_rows, Behavior.pageStart_zero,
        FakeService.rowsBetween_append (Nat.zero_le _) (Behavior.pageStart_le_readTo hwhole)]
  | reading n hread =>
    rw [hread.job]
    exact follow_reading hb hread 999998
  | ended hl' _ _ => exact absurd hl (by simp [hl'])

end Preload

/-! ## Each operation, and every run -/

section Steps

variable {b : Behavior} {P : Nat} {J : String} {k : Nat}

theorem Tracks.unended {c : SequentialCursor} {s : Session} {w : World} {st : RowStream}
    (h : Tracks b P J k c s w st) (hl : c.leased = true) : st.ended = false := by
  cases h with
  | unstarted => rfl
  | reading n hread => exact hread.unended
  | ended hl' => exact absurd hl (by simp [hl'])

/-- The cursor holds its lease exactly while the stream has not ended; the session counts it
among its consumers while it does. -/
theorem Tracks.lease {c : SequentialCursor} {s : Session} {w : World} {st : RowStream}
    (h : Tracks b P J k c s w st) :
    c.leased = !st.ended ∧ s.consumers = k + if st.ended then 0 else 1 := by
  cases h with
  | unstarted hl _ _ hcons => exact ⟨hl, hcons⟩
  | reading n hread => exact ⟨by rw [hread.leased, hread.unended]; rfl,
      by rw [hread.consumers, hread.unended]; rfl⟩
  | ended hl hcons hend => exact ⟨by rw [hl, hend]; rfl, by rw [hcons, hend]; rfl⟩

/-- Giving the lease back counts one consumer out. -/
theorem finish_released {c : SequentialCursor} (hl : c.leased = true) {s : Session}
    {w : World} :
    c.finish.Holds s w fun c' s' _ => c'.leased = false ∧ s'.consumers = s.consumers - 1 := by
  unfold finish
  rw [if_pos hl, holds_bind]
  exact Session.detach_consumers.mono fun _ _ _ hcons => ⟨rfl, hcons⟩

theorem fail_released {c : SequentialCursor} (hl : c.leased = true) (e : QueryError)
    {s : Session} {w : World} :
    (c.fail e).Holds s w fun c' s' _ => c'.leased = false ∧ s'.consumers = s.consumers - 1 := by
  unfold fail
  rw [holds_bind, Session.holds_recordError]
  exact finish_released (show ({ c with error := some e } : SequentialCursor).leased = true from hl)

/-- A cursor that has given its lease back answers that there is nothing more, whatever is asked,
and stays as it is. -/
theorem step_released {c : SequentialCursor} {s : Session} {w : World} {st : RowStream}
    (h : Tracks b P J k c s w st) (hl : c.leased = false) (op : CursorOp) :
    (c.step op).Holds s w fun out s' w' =>
      out.1 = (st.step op).1 ∧ Tracks b P J k out.2 s' w' (st.step op).2 := by
  obtain ⟨hleased, hcons⟩ := h.lease
  have hend : st.ended = true := by simpa [hl] using hleased
  rw [hend] at hcons
  have hfin : c.finished = true := by simp [finished, hl]
  cases op with
  | next =>
    simp only [step, SequentialCursor.next, hfin, if_true, holds_bind, holds_pure]
    rw [RowStream.step, if_pos hend]
    exact ⟨rfl, .ended hl hcons hend⟩
  | hasNext =>
    simp only [step, SequentialCursor.hasNext, hfin, if_true, holds_bind, holds_pure]
    rw [RowStream.step, if_pos hend]
    exact ⟨rfl, .ended hl hcons hend⟩
  | close =>
    simp only [step, SequentialCursor.close, finish, hl, holds_bind, holds_pure]
    exact ⟨rfl, .ended rfl hcons rfl⟩

/-- Asking for the next row answers as the stream does once making a row available has ended as
`Preloaded` says, whatever the cursor made it available from. -/
theorem next_preloaded {c : SequentialCursor} {s : Session} {w : World} {st : RowStream}
    (hfin : c.finished = false) (hend : st.ended = false)
    (hpre : c.preload.Holds s w fun out s' w' => Preloaded b P J k st out s' w') :
    (c.step .next).Holds s w fun out s' w' =>
      out.1 = (st.step .next).1 ∧ Tracks b P J k out.2 s' w' (st.step .next).2 := by
  simp only [step, SequentialCursor.next, hfin, Bool.false_eq_true, if_false, holds_bind]
  refine hpre.mono ?_
  rintro ⟨r, c₁⟩ s₁ w₁ (⟨rfl, hfull, n, hread⟩ | ⟨hnil, rfl, hl₁, hcons₁⟩)
  · -- a row is buffered: it comes off the front of the stream
    obtain ⟨row, rest, hrows⟩ := List.exists_cons_of_ne_nil hfull
    have hst : st.rows = row :: (rest ++
        FakeService.rowsBetween false (b.pageStart P (n + 1)) (b.readTo P)) := by
      rw [hread.rows, hrows, List.cons_append]
    dsimp only
    rw [hrows]
    simp only [holds_pure]
    rw [RowStream.step, if_neg (by simp [hend]), hst]
    exact ⟨rfl, .reading n ⟨hread.live, hread.consumers, hread.leased, hread.job, hread.next,
      hread.whole, rfl, hread.last, hread.unended⟩⟩
  · -- the rows have ended: the lease goes back, after the stream's error if it has one
    rw [RowStream.step, if_neg (by simp [hend]), hnil]
    rcases hlast : st.last with _ | e
    · simp only [Option.elim, holds_bind]
      refine (finish_released hl₁).mono ?_
      rintro c' s' w' ⟨hl', hcons'⟩
      exact ⟨rfl, .ended hl' (hcons'.trans (by rw [hcons₁]; rfl)) rfl⟩
    · simp only [Option.elim, holds_bind]
      refine (fail_released hl₁ e).mono ?_
      rintro c' s' w' ⟨hl', hcons'⟩
      exact ⟨rfl, .ended hl' (hcons'.trans (by rw [hcons₁]; rfl)) rfl⟩

/-- Asking a cursor that holds its lease for the next row answers as the stream does. -/
theorem next_tracks (hb : b.Paged P) {c : SequentialCursor} {s : Session} {w : World}
    {st : RowStream} (h : Tracks b P J k c s w st) (hl : c.leased = true) :
    (c.step .next).Holds s w fun out s' w' =>
      out.1 = (st.step .next).1 ∧ Tracks b P J k out.2 s' w' (st.step .next).2 := by
  have hfin : c.finished = false := by simp [finished, hl]
  exact next_preloaded hfin (h.unended hl) (preload_tracks hb h hl)

/-- Asking a cursor that holds its lease whether a row is available answers as the stream does:
a row is, and stays, at the front; or the stream ends, and the lease goes back. -/
theorem hasNext_tracks (hb : b.Paged P) {c : SequentialCursor} {s : Session} {w : World}
    {st : RowStream} (h : Tracks b P J k c s w st) (hl : c.leased = true) :
    (c.step .hasNext).Holds s w fun out s' w' =>
      out.1 = (st.step .hasNext).1 ∧ Tracks b P J k out.2 s' w' (st.step .hasNext).2 := by
  have hend := h.unended hl
  have hfin : c.finished = false := by simp [finished, hl]
  simp only [step, SequentialCursor.hasNext, hfin, Bool.false_eq_true, if_false, holds_bind]
  refine (preload_tracks hb h hl).mono ?_
  rintro ⟨r, c₁⟩ s₁ w₁ (⟨rfl, hfull, n, hread⟩ | ⟨hnil, rfl, hl₁, hcons₁⟩)
  · obtain ⟨row, rest, hrows⟩ := List.exists_cons_of_ne_nil hfull
    have hst : st.rows = row :: (rest ++
        FakeService.rowsBetween false (b.pageStart P (n + 1)) (b.readTo P)) := by
      rw [hread.rows, hrows, List.cons_append]
    simp only [holds_pure]
    rw [RowStream.step, if_neg (by simp [hend]), hst]
    exact ⟨rfl, .reading n hread⟩
  · rw [RowStream.step, if_neg (by simp [hend]), hnil]
    rcases hlast : st.last with _ | e
    · simp only [Option.elim, holds_bind]
      refine (finish_released hl₁).mono ?_
      rintro c' s' w' ⟨hl', hcons'⟩
      exact ⟨rfl, .ended hl' (hcons'.trans (by rw [hcons₁]; rfl)) rfl⟩
    · simp only [Option.elim, holds_bind]
      refine (fail_released hl₁ e).mono ?_
      rintro c' s' w' ⟨hl', hcons'⟩
      exact ⟨rfl, .ended hl' (hcons'.trans (by rw [hcons₁]; rfl)) rfl⟩

/-- Closing a cursor that holds its lease ends the stream and gives the lease back. -/
theorem close_tracks {c : SequentialCursor} {s : Session} {w : World} {st : RowStream}
    (h : Tracks b P J k c s w st) (hl : c.leased = true) :
    (c.step .close).Holds s w fun out s' w' =>
      out.1 = (st.step .close).1 ∧ Tracks b P J k out.2 s' w' (st.step .close).2 := by
  have hcons : s.consumers = k + 1 := by simpa [h.unended hl] using h.lease.2
  simp only [step, SequentialCursor.close, holds_bind]
  refine (finish_released hl).mono ?_
  rintro c' s' w' ⟨hl', hcons'⟩
  exact ⟨rfl, .ended hl' (hcons'.trans (by rw [hcons]; rfl)) rfl⟩

/-- Every operation on a cursor answers as the stream does, and keeps the cursor standing for
what the stream owes next. -/
theorem step_tracks (hb : b.Paged P) {c : SequentialCursor} {s : Session} {w : World}
    {st : RowStream} (h : Tracks b P J k c s w st) (op : CursorOp) :
    (c.step op).Holds s w fun out s' w' =>
      out.1 = (st.step op).1 ∧ Tracks b P J k out.2 s' w' (st.step op).2 := by
  cases hl : c.leased with
  | false => exact step_released h hl op
  | true =>
    cases op with
    | next => exact next_tracks hb h hl
    | hasNext => exact hasNext_tracks hb h hl
    | close => exact close_tracks h hl

/-- Every run of operations on a cursor answers as the stream does; by induction on the
operations, from `step_tracks`. -/
theorem run_tracks (hb : b.Paged P) (ops : List CursorOp) :
    ∀ {c : SequentialCursor} {s : Session} {w : World} {st : RowStream},
      Tracks b P J k c s w st →
      (c.run ops).Holds s w fun out s' w' =>
        out.1 = (st.run ops).1 ∧ Tracks b P J k out.2 s' w' (st.run ops).2 := by
  induction ops with
  | nil => exact fun h => ⟨rfl, h⟩
  | cons op ops ih =>
    intro c s w st h
    rw [run, holds_bind]
    refine (step_tracks hb h op).mono ?_
    rintro ⟨a, c₁⟩ s₁ w₁ ⟨ha, h₁⟩
    rw [holds_bind]
    refine (ih h₁).mono ?_
    rintro ⟨as, c₂⟩ s₂ w₂ ⟨has, h₂⟩
    exact ⟨by rw [RowStream.run, ← ha, ← has]; rfl, h₂⟩

end Steps

/-! ## A cursor of a session just made -/

/-- Whatever a reader does with a sequential cursor of a session just made over a new in-memory
service that finishes jobs at their first check (`R` rows in pages of `P`, with any failing or
null-data page, and `k` other leases held on the session), the cursor answers as the stream
`RowStream.of` does. It hands out the rows `0, 1, 2, …` in order, up to the first broken page
`f`: `min (f * P) R` rows, none when `f` is page 0. Then comes that page's error, once, when the
page before it names it as the next page, as a session failure for page 0. Then no more rows, for
good. Asking whether a row is available takes nothing and says yes exactly when the next request
gets a row (`RowStream.more_iff_row`). The cursor holds its lease until the stream ends, then
gives it back once: the session counts `k` consumers, and one more while the stream has not
ended. -/
theorem drive_streams {sql : String} {config : SessionConfig} {svc : QueryService}
    {standalone : Bool} {s : Session} (hs : Session.make sql config svc standalone = .ok s)
    (hP32 : config.pageSize < Nat.pow 2 32) {b : Behavior}
    (hfit : b.rows + config.pageSize < Nat.pow 2 64) (hpolls : b.pollsBeforeDone = 0)
    (hfinal : b.finalState = .done) {w : World} (hw : w.backend = .fake { behavior := b })
    (k : Nat) (ops : List CursorOp) :
    (drive ops).Holds { s with consumers := k } w fun out s' _ =>
      let spec := (RowStream.of b config.pageSize (Text.mintUuid 0 w.minted)).run ops
      out.1 = spec.1 ∧ out.2.leased = !spec.2.ended ∧
        s'.consumers = k + if spec.2.ended then 0 else 1 := by
  obtain ⟨p, hparams, -⟩ := Session.make_ok hs
  obtain ⟨-, -, hP0⟩ := SessionConfig.params_eq hparams
  have hb : b.Paged config.pageSize := ⟨hP0, hfit⟩
  obtain ⟨hstarts, -⟩ :=
    Session.make_starts hs hP32 hb (Behavior.pollsDone_first hpolls hfinal _) hw
  -- opening the cursor counts its lease; neither the cursor nor the session has started
  unfold drive
  rw [holds_bind, Session.holds_attach]
  refine (run_tracks hb ops (.unstarted rfl rfl (hstarts.recount (k + 1)) rfl)).mono ?_
  rintro out s' w' ⟨hout, htracks⟩
  exact ⟨hout, htracks.lease.1, htracks.lease.2⟩

/-- Five rows in pages of two, page 1 failing: the reader looks, reads the rows of page 0, gets
the failure of page 1 and then the end. -/
theorem drive_streams_failing_second_page :
    ∃ s, Session.make "SELECT * FROM t" { pageSize := 2 } {} false = .ok s ∧
      (2 : Nat) < Nat.pow 2 32 ∧ 5 + 2 < Nat.pow 2 64 ∧
      (drive [.hasNext, .next, .next, .next, .next]).Holds { s with consumers := 0 }
        { backend := .fake { behavior := { rows := 5, failingPage := some 1 } } } fun out s' _ =>
        let spec := (RowStream.of { rows := 5, failingPage := some 1 } 2 (Text.mintUuid 0 0)).run
          [.hasNext, .next, .next, .next, .next]
        out.1 = spec.1 ∧ out.2.leased = !spec.2.ended ∧
          s'.consumers = 0 + if spec.2.ended then 0 else 1 :=
  ⟨_, rfl, by decide, by decide, @drive_streams "SELECT * FROM t" { pageSize := 2 } {} false _ rfl
    (by decide) { rows := 5, failingPage := some 1 } (by decide) rfl rfl _ rfl 0 _⟩

/-- A failing page 0 hands a reader no row at all: the first request for a row is answered with
the start's failure, as a session failure. -/
theorem failing_first_page_yields_no_row :
    ∃ s, Session.make "SELECT * FROM t" { pageSize := 1 } {} false = .ok s ∧
      (drive [.next]).Holds s
        { backend := .fake { behavior := { rows := 3, failingPage := some 0 } } } fun out _ _ =>
        out.1 = [.row (.error (.sessionFailed
          (.api 500 (FakeService.errorResponse 500 ("page " ++ toString 0 ++ " exploded")).body)))] := by
  obtain ⟨s, hs⟩ : ∃ s, Session.make "SELECT * FROM t" { pageSize := 1 } {} false = .ok s :=
    ⟨_, rfl⟩
  have hb : Behavior.Paged { rows := 3, failingPage := some 0 } 1 := ⟨by decide, by decide⟩
  have hw : ({ backend := .fake { behavior := { rows := 3, failingPage := some 0 } } } :
      World).backend = .fake { behavior := { rows := 3, failingPage := some 0 } } := rfl
  obtain ⟨hstarts, h0⟩ :=
    Session.make_starts hs (by decide) hb (Behavior.pollsDone_first rfl rfl _) hw
  refine ⟨s, hs, ?_⟩
  unfold drive
  rw [holds_bind, Session.holds_attach]
  refine (run_tracks hb [.next] (.unstarted rfl rfl (hstarts.recount _) (by rw [h0]))).mono ?_
  rintro out s' w' ⟨hout, -⟩
  rw [hout]
  rfl

end SequentialCursor

end JobQuery
