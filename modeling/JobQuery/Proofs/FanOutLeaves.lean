import JobQuery.Proofs.FanOutCarried
import JobQuery.Proofs.SplitPieces

/-!
# JobQuery — how many cursors a parallel read ends with

A worker that forks with a budget of `k` workers, over a cursor that can become `n` cursors (its
pieces, `SplitCursor.pieces`), ends as at most `min k n` workers: a split gives the sibling
`k / 2` of the budget and `n / 2` of the pieces and leaves `k - k / 2` and `n - n / 2` to the
worker, and `min_halves` says that the two halves add up to `min k n` again. A worker that does
not fork ends as itself. The leaves of a read (`State.leaves`) add this up over its workers:

* no step raises them (`stepWorker_leaves_le`): a split that is made keeps them, and one that
  declines, like a budget of one, can only lower them;
* a split fetches the page at the middle of the cursor's range first, so the splits of a worker
  fetch the pages `midpoints k cur stop`; when the service serves those pages and the start of
  the session succeeds, no step changes the leaves (`stepWorker_leaves_served`), since a cursor
  of two pieces or more is then always split, whatever the service does with the other pages;
* once the read is over every worker is done and counts for one, and the first worker's tally
  counts every worker.

So the tally of a parallel read of a new session counts at most `min (max parallelism 1) n`
cursors, `n` being the number of pages of the job when the service reports its row count and
one otherwise, and exactly that many when the start succeeds and every midpoint page is served:
`collectParallel_cursors`.
-/

namespace JobQuery

/-! ## A session whose start does not fail -/

section Unfailed

open InSession

/-- A session that has not failed to start job `J`: its start is still ahead and succeeds, it
reads the job, or it has no consumer left. -/
def Session.Unfailed (b : Behavior) (P : Nat) (J : String) (s : Session) (w : World) : Prop :=
  s.Fresh b P J w ∨ s.Live b P J w ∨ s.consumers = 0

variable {b : Behavior} {P : Nat} {J : String} {s : Session} {w : World} {c : SplitCursor}

/-- A cursor that holds a lease of a leased family whose session has not failed can start and
read: the session reads the job and the cursor reads it too or has not started, or neither the
session nor the cursor has started and the session's start succeeds. -/
theorem Session.Unfailed.startable (hu : s.Unfailed b P J w) {cs : List SplitCursor}
    (h : Family.Leased b P J cs s w) (hc : c ∈ cs) (hl : c.leased = true) :
    (s.Live b P J w ∧ (c.Reading b P J ∨ c.Unstarted)) ∨ (c.Unstarted ∧ s.Fresh b P J w) := by
  obtain ⟨hcount, -, p, hp, hadm⟩ := h
  have hpos : 0 < s.consumers := by
    rw [hcount]
    exact List.countP_pos_iff.mpr ⟨c, hc, by simpa using hl⟩
  -- the place of the family says how far the session has got; a failed start is ruled out
  cases p with
  | starting =>
    rcases hu with hfresh | hlive | hzero
    · exact Or.inr ⟨hadm c hc hl, hfresh⟩
    · have hun := hp.1.unstarted
      rw [hlive.ready] at hun
      cases hun
    · omega
  | reading => exact Or.inl ⟨hp.1, hadm c hc hl⟩
  | failed =>
    obtain ⟨⟨e, hphase⟩, -⟩ := hp
    rcases hu with hfresh | hlive | hzero
    · rw [hfresh.unstarted] at hphase
      cases hphase
    · rw [hlive.ready] at hphase
      cases hphase
    · omega
  | drained =>
    have hfree : c.leased = false := hadm c hc
    rw [hfree] at hl
    cases hl

/-- A read of a cursor that can start and read keeps its session live, unless it gives back the
last lease, whatever the service does with the pages. -/
theorem SplitCursor.next_unfailed (hb : b.Paged P) (hl : c.leased = true)
    (h : (s.Live b P J w ∧ (c.Reading b P J ∨ c.Unstarted)) ∨ (c.Unstarted ∧ s.Fresh b P J w)) :
    c.next.Holds s w fun _ s' w' => s'.Unfailed b P J w' := by
  -- moving through the pages of a cursor that reads the job fetches pages only
  have hpages : ∀ {s₁ : Session} {w₁ : World} {c₁ : SplitCursor}, s₁.Live b P J w₁ →
      c₁.Reading b P J → (c₁.advancePages pageBudget).Holds s₁ w₁ fun out s' w' =>
        s'.Live b P J w' ∧ s'.consumers = s₁.consumers ∧ out.2.leased = c₁.leased := by
    intro s₁ w₁ c₁ hlive hread
    obtain ⟨fs, hfs, -, -⟩ := hlive.knows
    refine (SplitCursor.advancePages_counted hb hlive (⟨fs, hfs, rfl⟩ : w₁.Deletes fs.calls.deletes)
      hread 999998).mono ?_
    rintro out s' w' ⟨rfl, hw', -, -, hlo, -⟩
    exact ⟨hw', rfl, hlo⟩
  -- making a row available starts the session if it must, and leaves it live
  have hpre : c.preload.Holds s w fun out s' w' =>
      s'.Live b P J w' ∧ out.2.leased = true := by
    rcases h with ⟨hlive, hread | hun⟩ | ⟨hun, hfresh⟩
    · rw [SplitCursor.preload_started hread.started]
      exact (hpages hlive hread).mono fun _ _ _ h' => ⟨h'.1, h'.2.2.trans hl⟩
    · rw [SplitCursor.preload_of_ready hun.pending hlive.ready]
      exact (hpages hlive (SplitCursor.startedOn_ready hb c J).1).mono
        fun _ _ _ h' => ⟨h'.1, h'.2.2.trans hl⟩
    · unfold SplitCursor.preload
      rw [if_pos (by rw [hun.pending]; rfl), holds_bind]
      refine (SplitCursor.start_fresh hb hfresh c).mono ?_
      rintro r s₁ w₁ ⟨c₁, rfl, hlive, -, hread, hl₁, -⟩
      exact (hpages hlive hread).mono fun _ _ _ h' => ⟨h'.1, h'.2.2.trans (hl₁.trans hl)⟩
  -- giving the lease back keeps the session live unless it was the last one
  have hfinish : ∀ {s₁ : Session} {w₁ : World} {c₁ : SplitCursor}, s₁.Live b P J w₁ →
      c₁.leased = true → c₁.finish.Holds s₁ w₁ fun _ s' w' => s'.Unfailed b P J w' := by
    intro s₁ w₁ c₁ hlive hl₁
    refine (SplitCursor.finish_live hlive hl₁).mono ?_
    rintro _ s' w' ⟨-, hcons, hlive'⟩
    by_cases hz : s₁.consumers - 1 = 0
    · exact Or.inr (Or.inr (hcons.trans hz))
    · exact Or.inr (Or.inl (hlive' hz))
  unfold SplitCursor.next
  rw [if_neg (by simp [SplitCursor.finished, hl]), holds_bind]
  refine hpre.mono ?_
  rintro ⟨r, c₁⟩ s₁ w₁ ⟨hlive, hl₁⟩
  rcases r with e | _ | _ <;> dsimp only
  · -- a failure is recorded, and the lease given back
    rw [holds_bind, Session.holds_recordError]
    exact hfinish ⟨hlive.pageSize, hlive.running, hlive.ready, hlive.named, hlive.knows⟩ hl₁
  · exact hfinish hlive hl₁
  · split <;> exact Or.inr (Or.inl hlive)

/-- A split of a cursor that can start and read starts the session if it must, then splits, on
the live session, the cursor itself or the one its start made of it. -/
theorem SplitCursor.trySplit_unfailed (hb : b.Paged P) (hl : c.leased = true)
    (h : (s.Live b P J w ∧ (c.Reading b P J ∨ c.Unstarted)) ∨ (c.Unstarted ∧ s.Fresh b P J w))
    {Q : Option SplitCursor × SplitCursor → Session → World → Prop}
    (hQ : ∀ {s₀ : Session} {w₀ : World} {c₀ : SplitCursor}, s₀.Live b P J w₀ →
      c₀.Reading b P J → (c₀ = c ∨ (c.coverage = .pending ∧ c₀ = c.startedOn (b.readyJob P J))) →
      c₀.splitStarted.Holds s₀ w₀ Q) :
    c.trySplit.Holds s w Q := by
  rcases h with ⟨hlive, hread | hun⟩ | ⟨hun, hfresh⟩
  · rw [SplitCursor.trySplit_started hread.started hl]
    exact hQ hlive hread (Or.inl rfl)
  · rw [SplitCursor.trySplit_of_ready hun.pending hl hlive.ready]
    exact hQ hlive (SplitCursor.startedOn_ready hb c J).1 (Or.inr ⟨hun.pending, rfl⟩)
  · rw [SplitCursor.trySplit_eq, if_neg (by simp [SplitCursor.finished, hl]), holds_bind,
      if_pos (by rw [hun.pending]; rfl), SplitCursor.start_eq, holds_bind]
    refine (Session.ready_fresh hfresh).mono ?_
    rintro r s₁ w₁ ⟨rfl, hlive, -⟩
    rw [holds_pure]
    exact hQ hlive (SplitCursor.startedOn_ready hb c J).1 (Or.inr ⟨hun.pending, rfl⟩)

end Unfailed

namespace FanOut

open InSession

/-! ## Leaves -/

section Leaves

variable (b : Behavior) (P : Nat)

/-- How many workers a worker ends as at most: one that forks with budget `k` over a cursor of
`n` pieces ends as `min k n` of them (at least one), any other as itself. -/
def Worker.leaves (wk : Worker) : Nat :=
  match wk.stage with
  | .forking k => min (max k 1) (max (wk.cursor.pieces b P) 1)
  | _ => 1

/-- How many workers the read ends with at most, from this state on. -/
def State.leaves (st : State) : Nat := (st.workers.toList.map (Worker.leaves b P)).sum

variable {b P} {st st' : State} {i : Nat}

theorem Worker.leaves_of_not_forking {wk : Worker} (h : ∀ k, wk.stage ≠ .forking k) :
    wk.leaves b P = 1 := by
  unfold Worker.leaves
  split
  · rename_i k hk
    exact absurd hk (h k)
  · rfl

theorem State.leaves_put (hi : i < st.workers.size) (wk : Worker) :
    (st.put i wk).leaves b P + (st.get i).leaves b P = st.leaves b P + wk.leaves b P :=
  State.sum_put hi wk _

/-- A worker that neither forked nor forks keeps the leaves. -/
theorem State.leaves_put_one (hi : i < st.workers.size) {wk : Worker}
    (hold : ∀ k, (st.get i).stage ≠ .forking k) (hnew : ∀ k, wk.stage ≠ .forking k) :
    (st.put i wk).leaves b P = st.leaves b P := by
  have h := State.leaves_put (b := b) (P := P) hi wk
  rw [Worker.leaves_of_not_forking hold, Worker.leaves_of_not_forking hnew] at h
  omega

theorem State.leaves_forked (hi : i < st.workers.size) (wk : Worker) (x : SplitCursor)
    (half : Nat) :
    (st.forked i wk x half).leaves b P + (st.get i).leaves b P =
      st.leaves b P + wk.leaves b P + min (max half 1) (max (x.pieces b P) 1) :=
  State.sum_forked hi _

/-- The leaves depend on the workers' lanes alone. -/
theorem State.leaves_of_lanes (h : st'.lanes = st.lanes) : st'.leaves b P = st.leaves b P := by
  have hlanes : ∀ st : State, st.leaves b P =
      (st.lanes.map fun l => Worker.leaves b P { cursor := l.2, stage := l.1 }).sum := by
    intro st
    simp only [State.leaves, State.lanes, List.map_map]
    rfl
  rw [hlanes, hlanes st, h]

/-- So do the cursors. -/
theorem State.cursors_of_lanes (h : st'.lanes = st.lanes) : st'.cursors = st.cursors := by
  have hlanes : ∀ st : State, st.cursors = st.lanes.map Prod.snd := by
    intro st
    simp [State.cursors, State.lanes, List.map_map, Function.comp_def]
  rw [hlanes, hlanes st, h]

theorem State.lanes_woken (st : State) (j : Option Joiner) : (st.woken j).lanes = st.lanes := by
  rcases j with _ | (_ | _) <;> rfl

/-- A read starts with the leaves of its one worker. -/
theorem State.leaves_initial (c : SplitCursor) (parallelism capacity : Nat) :
    (State.initial c parallelism capacity none).leaves b P =
      min (max parallelism 1) (max (c.pieces b P) 1) := by
  simp [State.leaves, State.initial, Worker.leaves]

/-- Once every worker is done, each counts for one. -/
theorem State.leaves_of_done (h : ∀ i < st.workers.size, (st.get i).stage = .done) :
    st.leaves b P = st.workers.size := by
  have hone : st.workers.toList.map (Worker.leaves b P) = st.workers.toList.map fun _ => 1 :=
    List.map_congr_left fun wk hwk => by
      obtain ⟨k, hk, rfl⟩ := State.exists_of_mem_toList hwk
      exact Worker.leaves_of_not_forking (by rw [h k hk]; simp)
  rw [State.leaves, hone]
  simp

end Leaves

/-! ## The pages the splits ahead fetch -/

section Midpoints

/-- The pages the splits of a worker that forks with a budget of `k` workers over the pages
`cur ..= stop` fetch first: each split fetches the page after the lower half of the range, then
the worker forks over the lower half with `k - k / 2` workers and its sibling over the rest with
`k / 2`. -/
def midpoints (k cur stop : Nat) : List Nat :=
  if 1 < k ∧ cur < stop then
    (cur + 1 + (stop - cur) / 2) :: (midpoints (k - k / 2) cur (cur + 1 + (stop - cur) / 2 - 1) ++
      midpoints (k / 2) (cur + 1 + (stop - cur) / 2) stop)
  else []
termination_by k
decreasing_by all_goals omega

/-- The first split of a range fetches its split point. -/
theorem splitAt_mem_midpoints {k : Nat} (hk : 1 < k) {r : PageRange} (hlt : r.current < r.stop) :
    r.splitAt ∈ midpoints k r.current r.stop := by
  rw [midpoints, if_pos ⟨hk, hlt⟩]
  exact List.mem_cons_self

/-- After the first split, the worker's splits over the pages it kept and the sibling's over the
pages handed off fetch pages the first worker's splits fetch. -/
theorem mem_midpoints_of_halves {k : Nat} (hk : 1 < k) {r : PageRange} (hlt : r.current < r.stop)
    {m : Nat} (hm : m ∈ midpoints (k - k / 2) r.kept.current r.kept.stop ∨
      m ∈ midpoints (k / 2) r.handedOff.current r.handedOff.stop) :
    m ∈ midpoints k r.current r.stop := by
  rw [midpoints, if_pos ⟨hk, hlt⟩]
  simp only [PageRange.kept, PageRange.handedOff, PageRange.splitAt] at hm
  exact List.mem_cons_of_mem _ (List.mem_append.mpr hm)

variable (b : Behavior) (P : Nat)

/-- The pages the splits still ahead of a worker at `stage` over cursor `c` fetch first: none
unless it forks; before its start a cursor owns every page of the job when the service reports
the row count, and a chain of page cursors is never split. -/
def splitPages : Stage → SplitCursor → List Nat
  | .forking k, c =>
    match c.coverage with
    | .pending => if b.reportRowsInJob then midpoints k 0 (b.rows / P) else []
    | .ranged r => midpoints k r.current r.stop
    | .chained _ => []
  | _, _ => []

/-- The service serves every page that the splits still ahead of the workers fetch first. -/
def State.Served (st : State) : Prop :=
  ∀ l ∈ st.lanes, ∀ m ∈ splitPages b P l.1 l.2, ¬ b.Breaks m

variable {b P} {st st' : State} {i : Nat}

/-- Every worker of `st'` is a worker of `st`, at the same stage over the same cursor, or one
that does not fork. -/
def State.LanesFrom (st st' : State) : Prop :=
  ∀ l ∈ st'.lanes, l ∈ st.lanes ∨ ∀ k, l.1 ≠ .forking k

theorem splitPages_of_not_forking {stage : Stage} (h : ∀ k, stage ≠ .forking k)
    (c : SplitCursor) : splitPages b P stage c = [] := by
  cases stage with
  | forking k => exact absurd rfl (h k)
  | reading _ => rfl
  | joining => rfl
  | done => rfl

theorem splitPages_ranged {k : Nat} {c : SplitCursor} {r : PageRange}
    (h : c.coverage = .ranged r) : splitPages b P (.forking k) c = midpoints k r.current r.stop := by
  simp [splitPages, h]

/-- The cursor a start makes of a cursor that has not started has the same splits ahead. -/
theorem splitPages_startedOn (hP : 0 < P) {c : SplitCursor} (hc : c.coverage = .pending)
    (J : String) (k : Nat) :
    splitPages b P (.forking k) (c.startedOn (b.readyJob P J)) = splitPages b P (.forking k) c := by
  unfold SplitCursor.startedOn
  rw [Behavior.readyJob_layout]
  by_cases hrep : b.reportRowsInJob
  · simp [splitPages, hc, hrep, PageLayout.make, Nat.max_eq_left hP]
  · simp [splitPages, hc, hrep]

theorem State.lane_mem (hi : i < st.workers.size) :
    ((st.get i).stage, (st.get i).cursor) ∈ st.lanes :=
  List.mem_map_of_mem (List.mem_of_getElem? (State.getElem?_toList hi))

theorem State.lanesFrom_of_lanes (h : st'.lanes = st.lanes) : st.LanesFrom st' :=
  fun _ hl => Or.inl (h ▸ hl)

/-- Replacing a worker by one that does not fork keeps every other worker, in a state whose
workers are those of `st`. -/
theorem State.lanesFrom_put {st₀ : State} (hw : st₀.workers = st.workers) {wk : Worker}
    (hwk : ∀ k, wk.stage ≠ .forking k) : st.LanesFrom (st₀.put i wk) := by
  intro l hl
  simp only [State.lanes, toList_put, hw, List.map_set] at hl
  rcases List.mem_or_eq_of_mem_set hl with hold | rfl
  · exact Or.inl hold
  · exact Or.inr hwk

/-- A worker that stops reading joins, and keeps every other worker. -/
theorem State.lanesFrom_stopped {wk : Worker} : st.LanesFrom (st.stopped i wk) := by
  have h : st.LanesFrom (st.put i { wk with stage := .joining }) :=
    State.lanesFrom_put rfl (by simp)
  exact h

theorem State.lanes_forked (hi : i < st.workers.size) (wk : Worker) (x : SplitCursor)
    (half : Nat) :
    (st.forked i wk x half).lanes = st.lanes.set i (wk.stage, wk.cursor) ++ [(.forking half, x)] := by
  rw [State.lanes, toList_forked hi, List.map_append, List.map_set]
  rfl

theorem State.Served.of_lanesFrom (h : st.Served b P) (hl : st.LanesFrom st') : st'.Served b P := by
  intro l hmem m hm
  rcases hl l hmem with hold | hnot
  · exact h l hold m hm
  · rw [splitPages_of_not_forking hnot] at hm
    cases hm

/-- A fork keeps the pages served when the splits ahead of the worker and of its sibling are
splits that were ahead of the worker. -/
theorem State.Served.forked (h : st.Served b P) (hi : i < st.workers.size) {c x : SplitCursor}
    {k half : Nat} (hlanes : st'.lanes = st.lanes.set i (.forking k, c) ++ [(.forking half, x)])
    (hnew : ∀ m, m ∈ splitPages b P (.forking k) c ∨ m ∈ splitPages b P (.forking half) x →
      m ∈ splitPages b P (st.get i).stage (st.get i).cursor) :
    st'.Served b P := by
  intro l hmem m hm
  rw [hlanes] at hmem
  rcases List.mem_append.mp hmem with hset | hsib
  · rcases List.mem_or_eq_of_mem_set hset with hold | rfl
    · exact h l hold m hm
    · exact h _ (State.lane_mem hi) m (hnew m (Or.inl hm))
  · rw [List.mem_singleton] at hsib
    subst hsib
    exact h _ (State.lane_mem hi) m (hnew m (Or.inr hm))

end Midpoints

/-! ## The steps of a worker -/

section Steps

variable {b : Behavior} {P : Nat} {J : String} {st : State} {s : Session} {w : World} {i : Nat}

/-- A worker that forks or reads holds the lease of its cursor. -/
theorem Inv.cursor_leased {turn : Turn} (h : Inv b P J turn st s w) (hi : i < st.workers.size)
    (hreads : (st.get i).reads = true) : (st.get i).cursor.leased = true :=
  (h.sane i hi).leased.trans hreads

/-- The start of a leased cursor of a read hands out a job that leaves the cursor its pieces,
whatever the service does. -/
theorem Inv.ready_pieces (hb : b.Paged P) {turn : Turn} (h : Inv b P J turn st s w)
    (hi : i < st.workers.size) (hl : (st.get i).cursor.leased = true) :
    (st.get i).cursor.coverage = .pending → Session.ready.Holds s w fun r _ _ =>
      ∀ job, r = .ok job →
        ((st.get i).cursor.startedOn job).pieces b P = (st.get i).cursor.pieces b P := by
  intro hpend
  obtain ⟨p, hp, hadm⟩ := h.leased.place
  exact SplitCursor.ready_pieces_of_place hb hp
    (hadm _ (List.mem_of_getElem? (State.getElem?_cursors hi))) hl hpend

/-- A worker that hands over a row, waits for a sibling or is done touches neither the session
nor the world, and keeps every cursor and the leaves; it forks neither before nor after. -/
theorem stepWorker_quiet (h : Inv b P J (.worker i) st s w) (hi : i < st.workers.size)
    (hs : (∃ row, (st.get i).stage = .reading (some row)) ∨ (st.get i).stage = .joining ∨
      (st.get i).stage = .done) :
    Holds (stepWorker i) st s w fun _ st' s' w' =>
      s' = s ∧ w' = w ∧ st'.cursors = st.cursors ∧ st'.leaves b P = st.leaves b P ∧
        st.LanesFrom st' := by
  rcases hs with ⟨row, hs⟩ | hs | hs
  · have hrecv := h.receiving_rows hi (by simp [Worker.reads, hs])
    have hopen : st.receiverOpen = true := by rw [h.opened, hrecv]; rfl
    rw [holds_stepWorker_reading_some hs, holds_handOver_open hopen]
    split
    · -- the row goes into the channel: the worker reads again, with the same cursor
      refine ⟨rfl, rfl, ?_, State.leaves_put_one hi (by simp [hs]) (by simp),
        State.lanesFrom_put rfl (by simp)⟩
      rw [State.cursors_put]
      exact State.cursors_set_self hi
    · exact ⟨rfl, rfl, rfl, rfl, State.lanesFrom_of_lanes rfl⟩
  · rw [holds_stepWorker_joining hs]
    rcases hsib : (st.get i).siblings with _ | ⟨j, rest⟩
    · rw [holds_join_nil hsib]
      have hlanes : ((st.put i { st.get i with stage := .done }).woken (st.get i).joiner).lanes =
          (st.put i { st.get i with stage := .done }).lanes := State.lanes_woken _ _
      refine ⟨rfl, rfl, ?_, ?_, fun l hl => State.lanesFrom_put rfl (by simp) l (hlanes ▸ hl)⟩
      · rw [State.cursors_of_lanes hlanes, State.cursors_put]
        exact State.cursors_set_self hi
      · rw [State.leaves_of_lanes hlanes]
        exact State.leaves_put_one hi (by simp [hs]) (by simp)
    · have hj := ((h.sane i hi).siblings j (by simp [hsib])).2
      by_cases hd : (st.get j).stage = .done
      · rw [holds_join_merge hsib hd]
        have hlanes : (st.put i
            { st.get i with siblings := rest, report := (st.get i).report.merge (st.get j).report
            }).lanes = st.lanes :=
          State.lanes_put hi rfl rfl
        exact ⟨rfl, rfl, State.cursors_of_lanes hlanes, State.leaves_of_lanes hlanes,
          State.lanesFrom_of_lanes hlanes⟩
      · rw [holds_join_wait hsib hd]
        have hlanes : (st.put j { st.get j with joiner := some (.worker i) }).lanes = st.lanes :=
          State.lanes_put hj rfl rfl
        exact ⟨rfl, rfl, State.cursors_of_lanes hlanes, State.leaves_of_lanes hlanes,
          State.lanesFrom_of_lanes hlanes⟩
  · rw [holds_stepWorker_done hs]
    exact ⟨rfl, rfl, rfl, rfl, State.lanesFrom_of_lanes rfl⟩

/-- A worker that reads takes the next row of its cursor, which changes that cursor alone and
keeps the leaves: whatever the read of the cursor ends with, the step ends with. -/
theorem stepWorker_reading_of_next (hi : i < st.workers.size)
    (hs : (st.get i).stage = .reading none) {R : SplitCursor → Session → World → Prop}
    (hnext : (st.get i).cursor.next.Holds s w fun out s' w' => R out.2 s' w') :
    Holds (stepWorker i) st s w fun _ st' s' w' =>
      st'.leaves b P = st.leaves b P ∧ st.LanesFrom st' ∧
        ∃ c, st'.cursors = st.cursors.set i c ∧ R c s' w' := by
  rw [holds_stepWorker_reading_none hs]
  refine hnext.mono ?_
  rintro ⟨e | (_ | row), c⟩ s' w' hR <;> dsimp only
  · -- a failed read: the worker stops reading
    exact ⟨State.leaves_put_one hi (by simp [hs]) (by simp), State.lanesFrom_stopped, c,
      State.cursors_put _ _ _, hR⟩
  · exact ⟨State.leaves_put_one hi (by simp [hs]) (by simp), State.lanesFrom_stopped, c,
      State.cursors_put _ _ _, hR⟩
  · exact ⟨State.leaves_put_one hi (by simp [hs]) (by simp), State.lanesFrom_put rfl (by simp), c,
      State.cursors_put _ _ _, hR⟩

/-- A worker that forks with a budget of one or none reads, and changes nothing else. -/
theorem stepWorker_forking_one (hi : i < st.workers.size) {k : Nat}
    (hs : (st.get i).stage = .forking k) (hk : ¬ 1 < k) :
    Holds (stepWorker i) st s w fun _ st' s' w' =>
      s' = s ∧ w' = w ∧ st'.cursors = st.cursors ∧ st'.leaves b P = st.leaves b P ∧
        st.LanesFrom st' := by
  rw [holds_stepWorker_forking hs, if_neg hk]
  refine ⟨rfl, rfl, ?_, ?_, State.lanesFrom_put rfl (by simp)⟩
  · rw [State.cursors_put]
    exact State.cursors_set_self hi
  · -- the worker counted for `min 1 n`, that is one, and counts for one
    have h := State.leaves_put (b := b) (P := P) hi { st.get i with stage := .reading none }
    have hone : (st.get i).leaves b P = 1 := by
      simp only [Worker.leaves, hs]
      omega
    rw [hone, Worker.leaves_of_not_forking (by simp)] at h
    omega

/-- A step that touches neither the session nor the world, and keeps the leaves and every worker
but ones that do not fork, keeps the pages served and the session unfailed. -/
theorem Holds.served_of_quiet {α : Type} {x : InFanOut α} (hserved : st.Served b P)
    (hu : s.Unfailed b P J w)
    (hx : Holds x st s w fun _ st' s' w' => s' = s ∧ w' = w ∧ st'.cursors = st.cursors ∧
      st'.leaves b P = st.leaves b P ∧ st.LanesFrom st') :
    Holds x st s w fun _ st' s' w' =>
      st'.leaves b P = st.leaves b P ∧ st'.Served b P ∧ s'.Unfailed b P J w' := by
  refine hx.mono ?_
  rintro _ st' s' w' ⟨rfl, rfl, -, hleaves, hfrom⟩
  exact ⟨hleaves, hserved.of_lanesFrom hfrom, hu⟩

/-- A worker that forks with a budget above one splits its cursor. A split that declines
changes that cursor alone, and the worker counts for one from then on and forks no more; a split
that is made adds the sibling, and the worker and the sibling share the budget. -/
theorem stepWorker_forking_of_trySplit (hi : i < st.workers.size) {k : Nat}
    (hs : (st.get i).stage = .forking k) (hk : 1 < k)
    {R : Option SplitCursor × SplitCursor → Session → World → Prop}
    (hsplit : (st.get i).cursor.trySplit.Holds s w R) :
    Holds (stepWorker i) st s w fun _ st' s' w' => ∃ out, R out s' w' ∧
      ((out.1 = none ∧ st'.cursors = st.cursors.set i out.2 ∧
          st'.leaves b P + (st.get i).leaves b P = st.leaves b P + 1 ∧ st.LanesFrom st') ∨
        ∃ x, out.1 = some x ∧ st'.cursors = st.cursors.set i out.2 ++ [x] ∧
          st'.leaves b P + (st.get i).leaves b P = st.leaves b P +
            min (max (k - k / 2) 1) (max (out.2.pieces b P) 1) +
              min (max (k / 2) 1) (max (x.pieces b P) 1) ∧
          st'.lanes = st.lanes.set i (.forking (k - k / 2), out.2) ++ [(.forking (k / 2), x)]) := by
  rw [holds_stepWorker_forking hs, if_pos hk]
  refine hsplit.mono ?_
  rintro ⟨_ | x, c⟩ s' w' hR <;> dsimp only
  · refine ⟨(none, c), hR, Or.inl ⟨rfl, State.cursors_put _ _ _, ?_,
      State.lanesFrom_put rfl (by simp)⟩⟩
    rw [State.leaves_put hi, Worker.leaves_of_not_forking (by simp)]
  · exact ⟨(some x, c), hR, Or.inr ⟨x, rfl, State.cursors_forked hi,
      State.leaves_forked hi _ x (k / 2), State.lanes_forked hi _ x (k / 2)⟩⟩

/-- **No step of a worker raises the leaves**, whatever the service does: a split that is made
halves the budget and the pieces alike, and one that declines leaves a worker that counts for
one, where it counted for at least one. -/
theorem stepWorker_leaves_le (hb : b.Paged P) (h : Inv b P J (.worker i) st s w)
    (hi : i < st.workers.size) :
    Holds (stepWorker i) st s w fun _ st' _ _ => st'.leaves b P ≤ st.leaves b P := by
  rcases hs : (st.get i).stage with k | (_ | row) | _ | _
  · by_cases hk : 1 < k
    · have hl := h.cursor_leased hi (by simp [Worker.reads, hs])
      have hlv : (st.get i).leaves b P =
          min (max k 1) (max ((st.get i).cursor.pieces b P) 1) := by
        simp only [Worker.leaves, hs]
      refine (stepWorker_forking_of_trySplit (b := b) (P := P) hi hs hk
        (SplitCursor.trySplit_halves _ (h.ready_pieces hb hi hl))).mono ?_
      rintro _ st' s' w' ⟨out, hhalves, ⟨-, -, hsum, -⟩ | ⟨x, hx, -, hsum, -⟩⟩
      · omega
      · obtain ⟨h2, hkept, hsib⟩ := hhalves x hx
        rw [hkept, hsib] at hsum
        omega
    · exact (stepWorker_forking_one hi hs hk).mono fun _ _ _ _ h' => h'.2.2.2.1.le
  · exact (stepWorker_reading_of_next (R := fun _ _ _ => True) hi hs
      (Session.holds_of_forall fun _ _ _ => trivial)).mono fun _ _ _ _ h' => h'.1.le
  · exact (stepWorker_quiet h hi (Or.inl ⟨row, hs⟩)).mono fun _ _ _ _ h' => h'.2.2.2.1.le
  · exact (stepWorker_quiet h hi (Or.inr (Or.inl hs))).mono fun _ _ _ _ h' => h'.2.2.2.1.le
  · exact (stepWorker_quiet h hi (Or.inr (Or.inr hs))).mono fun _ _ _ _ h' => h'.2.2.2.1.le

/-- A split of a leased cursor whose session has not failed, when the service serves the pages
the splits of budget `k` fetch first, ends on a live session: it declines only on a cursor of
one piece, and a split it makes leaves the splits ahead of the two halves among those that were
ahead of the cursor. -/
theorem trySplit_served (hb : b.Paged P) {c : SplitCursor} (hl : c.leased = true)
    (hready : (s.Live b P J w ∧ (c.Reading b P J ∨ c.Unstarted)) ∨ (c.Unstarted ∧ s.Fresh b P J w))
    {k : Nat} (hk : 1 < k) (hmine : ∀ m ∈ splitPages b P (.forking k) c, ¬ b.Breaks m) :
    c.trySplit.Holds s w fun out s' w' => s'.Live b P J w' ∧
      ((out.1 = none ∧ c.pieces b P ≤ 1) ∨
        (∃ x, out.1 = some x ∧ ∀ m, m ∈ splitPages b P (.forking (k - k / 2)) out.2 ∨
          m ∈ splitPages b P (.forking (k / 2)) x → m ∈ splitPages b P (.forking k) c)) := by
  refine SplitCursor.trySplit_unfailed hb hl hready ?_
  intro s₀ w₀ c₀ hlive hread hc₀
  -- the cursor the start made has the splits and the pieces of the cursor
  have hsame : splitPages b P (.forking k) c₀ = splitPages b P (.forking k) c ∧
      c₀.pieces b P = c.pieces b P := by
    rcases hc₀ with rfl | ⟨hpend, rfl⟩
    · exact ⟨rfl, rfl⟩
    · exact ⟨splitPages_startedOn hb.pos hpend J k,
        SplitCursor.pieces_startedOn_ready hb.pos hpend J⟩
  have hfirst : ∀ r, c₀.coverage = .ranged r → r.current < r.stop → ¬ b.Breaks r.splitAt :=
    fun r hcov hlt => hmine _ (by
      rw [← hsame.1, splitPages_ranged hcov]
      exact splitAt_mem_midpoints hk hlt)
  refine (SplitCursor.splitStarted_served hb hlive hread hfirst).mono ?_
  rintro out s' w' ⟨hlive', ⟨hnone, -, hpieces⟩ | ⟨r, x, hcov, hlt, hsome, hkept, hx⟩⟩
  · exact ⟨hlive', Or.inl ⟨hnone, hsame.2 ▸ hpieces⟩⟩
  · refine ⟨hlive', Or.inr ⟨x, hsome, fun m hm => ?_⟩⟩
    rw [← hsame.1, splitPages_ranged hcov]
    rw [hkept, splitPages_ranged rfl, splitPages_ranged hx] at hm
    exact mem_midpoints_of_halves hk hlt hm

/-- A fork of a worker whose session has not failed, when the service serves the pages the
worker's splits fetch first, keeps the leaves and those pages served: a cursor of two pieces or
more is always split, the halves share the budget and the pieces, and a split that declines
leaves a cursor of one piece, whose worker counted for one already. -/
theorem stepWorker_forking_served (hb : b.Paged P) (h : Inv b P J (.worker i) st s w)
    (hi : i < st.workers.size) {k : Nat} (hs : (st.get i).stage = .forking k) (hk : 1 < k)
    (hserved : st.Served b P)
    (hready : (s.Live b P J w ∧ ((st.get i).cursor.Reading b P J ∨ (st.get i).cursor.Unstarted)) ∨
      ((st.get i).cursor.Unstarted ∧ s.Fresh b P J w)) :
    Holds (stepWorker i) st s w fun _ st' s' w' =>
      st'.leaves b P = st.leaves b P ∧ st'.Served b P ∧ s'.Unfailed b P J w' := by
  have hl := h.cursor_leased hi (by simp [Worker.reads, hs])
  have hmine : ∀ m ∈ splitPages b P (.forking k) (st.get i).cursor, ¬ b.Breaks m := by
    have hlane := hserved _ (State.lane_mem hi)
    rwa [hs] at hlane
  have hsplit := trySplit_served hb hl hready hk hmine
  have hlv : (st.get i).leaves b P =
      min (max k 1) (max ((st.get i).cursor.pieces b P) 1) := by
    simp only [Worker.leaves, hs]
  refine (stepWorker_forking_of_trySplit (b := b) (P := P) hi hs hk
    (hsplit.and (SplitCursor.trySplit_halves _ (h.ready_pieces hb hi hl)))).mono ?_
  rintro _ st' s' w' ⟨out, ⟨⟨hlive, hcases⟩, hhalves⟩,
    ⟨hnone, -, hsum, hfrom⟩ | ⟨x, hx, -, hsum, hlanes⟩⟩
  · -- declined: the cursor had one piece, and its worker counted for one
    rcases hcases with ⟨-, hpieces⟩ | ⟨y, hy, -⟩
    · exact ⟨by omega, hserved.of_lanesFrom hfrom, Or.inr (Or.inl hlive)⟩
    · rw [hnone] at hy
      cases hy
  · -- made: the worker and the sibling share the budget and the pieces
    obtain ⟨h2, hkept, hsib⟩ := hhalves x hx
    rw [hkept, hsib] at hsum
    rcases hcases with ⟨hnone, -⟩ | ⟨y, hy, hpages⟩
    · rw [hnone] at hx
      cases hx
    rw [hx] at hy
    cases hy
    refine ⟨by omega, hserved.forked hi hlanes fun m hm => ?_, Or.inr (Or.inl hlive)⟩
    rw [hs]
    exact hpages m hm

/-- **When the start succeeds and the service serves the pages the splits ahead fetch first, no
step of a worker changes the leaves**, whatever the service does with the other pages: the
session stays unfailed, and the splits ahead stay served. -/
theorem stepWorker_leaves_served (hb : b.Paged P) (h : Inv b P J (.worker i) st s w)
    (hi : i < st.workers.size) (hserved : st.Served b P) (hu : s.Unfailed b P J w) :
    Holds (stepWorker i) st s w fun _ st' s' w' =>
      st'.leaves b P = st.leaves b P ∧ st'.Served b P ∧ s'.Unfailed b P J w' := by
  have hc := List.mem_of_getElem? (State.getElem?_cursors hi)
  rcases hs : (st.get i).stage with k | (_ | row) | _ | _
  · have hready := hu.startable h.leased hc (h.cursor_leased hi (by simp [Worker.reads, hs]))
    by_cases hk : 1 < k
    · exact stepWorker_forking_served hb h hi hs hk hserved hready
    · exact (stepWorker_forking_one hi hs hk).served_of_quiet hserved hu
  · -- a read keeps the session unfailed, whatever it meets
    have hl := h.cursor_leased hi (by simp [Worker.reads, hs])
    refine (stepWorker_reading_of_next (b := b) (P := P) (R := fun _ s' w' => s'.Unfailed b P J w')
      hi hs (SplitCursor.next_unfailed hb hl (hu.startable h.leased hc hl))).mono ?_
    rintro _ st' s' w' ⟨hleaves, hfrom, -, -, hu'⟩
    exact ⟨hleaves, hserved.of_lanesFrom hfrom, hu'⟩
  · exact (stepWorker_quiet h hi (Or.inl ⟨row, hs⟩)).served_of_quiet hserved hu
  · exact (stepWorker_quiet h hi (Or.inr (Or.inl hs))).served_of_quiet hserved hu
  · exact (stepWorker_quiet h hi (Or.inr (Or.inr hs))).served_of_quiet hserved hu

end Steps

/-! ## Whole reads -/

section Read

variable {b : Behavior} {P : Nat} {J : String}

/-- The leaves never rise above a bound they start under. -/
theorem carried_leaves_le (hb : b.Paged P) (L : Nat) :
    Carried b P J fun st _ _ => st.leaves b P ≤ L where
  frame hx hlanes := by
    rw [State.leaves_of_lanes hlanes]
    exact hx
  step h hi hx := (stepWorker_leaves_le hb h hi).mono fun _ _ _ _ h' => h'.trans hx

/-- When the start succeeds and the service serves the pages the splits ahead fetch first, the
leaves stay what they start as, and so does that. -/
theorem carried_leaves_served (hb : b.Paged P) (L : Nat) :
    Carried b P J fun st s w => st.leaves b P = L ∧ st.Served b P ∧ s.Unfailed b P J w where
  frame hx hlanes := ⟨(State.leaves_of_lanes hlanes).trans hx.1,
    hx.2.1.of_lanesFrom (State.lanesFrom_of_lanes hlanes), hx.2.2⟩
  step h hi hx :=
    (stepWorker_leaves_served hb h hi hx.2.1 hx.2.2).mono fun _ _ _ _ h' => ⟨h'.1.trans hx.1, h'.2⟩

/-- When the receiver is finished, the first worker's tally counts every worker, and so do the
leaves, each worker being done. -/
theorem Inv.cursors_finished {turn : Turn} {st : State} {s : Session} {w : World}
    (h : Inv b P J turn st s w) (hf : st.receiving = .finished) :
    (st.get 0).report.cursors = st.workers.size ∧ st.leaves b P = st.workers.size := by
  have hc := h.cursors
  rw [State.tally, h.roots_finished hf] at hc
  exact ⟨by simpa using hc, State.leaves_of_done (h.all_done (h.rootDone (Or.inr hf)))⟩

variable {s : Session} {w : World}

/-- **Whatever order the runtime takes, a finished parallel read has no more cursors than its
budget and its root's pieces allow**, and one at least, whatever the service does. -/
theorem reachable_cursors_le (hb : b.Paged P) {c : SplitCursor} (hc : c.Unstarted)
    (hl : c.leased = true) (h : Family.Leased b P J [c] s w) (parallelism capacity : Nat)
    {st : State} {s' : Session} {w' : World}
    (hr : Reachable (State.initial c parallelism capacity none, s, w) (st, s', w'))
    (hf : st.receiving = .finished) :
    1 ≤ (st.get 0).report.cursors ∧
      (st.get 0).report.cursors ≤ min (max parallelism 1) (max (c.pieces b P) 1) := by
  have hinit := Inv.initial hc hl h parallelism capacity
  have hbudget := potential_initial_lt hb hc parallelism capacity
  have hinv := (hr.inv hb hinit hbudget).1
  have hle := hr.carried hb (carried_leaves_le hb _) hinit hbudget
    (le_refl ((State.initial c parallelism capacity none).leaves b P))
  obtain ⟨hcur, hleaves⟩ := hinv.cursors_finished hf
  rw [State.leaves_initial, hleaves] at hle
  exact ⟨hcur ▸ hinv.size_pos, hcur ▸ hle⟩

/-- **Whatever order the runtime takes, a finished parallel read whose start succeeds, over a
service that serves the pages its splits fetch first, has exactly as many cursors as its budget
and its root's pieces allow**, whatever the service does with the other pages. -/
theorem reachable_cursors_served (hb : b.Paged P) (hfresh : s.Fresh b P J w)
    (h : Family.Leased b P J [{}] s w) (parallelism capacity : Nat)
    (hserved : ∀ m ∈ splitPages b P (.forking (max parallelism 1)) {}, ¬ b.Breaks m)
    {st : State} {s' : Session} {w' : World}
    (hr : Reachable (State.initial {} parallelism capacity none, s, w) (st, s', w'))
    (hf : st.receiving = .finished) :
    (st.get 0).report.cursors = min (max parallelism 1) (max (({} : SplitCursor).pieces b P) 1) := by
  have hstart : (State.initial {} parallelism capacity none).Served b P := by
    intro l hl
    simp only [State.initial, State.lanes, List.map_cons, List.map_nil,
      List.toList_toArray, List.mem_singleton] at hl
    subst hl
    exact hserved
  have hc : ({} : SplitCursor).Unstarted := ⟨rfl, rfl⟩
  have hinit := Inv.initial hc rfl h parallelism capacity
  have hbudget := potential_initial_lt hb hc parallelism capacity
  obtain ⟨hleaves', -⟩ := hr.carried hb (carried_leaves_served hb _) hinit hbudget
    ⟨rfl, hstart, Or.inl hfresh⟩
  obtain ⟨hcur, hleaves⟩ := (hr.inv hb hinit hbudget).1.cursors_finished hf
  rw [State.leaves_initial, hleaves] at hleaves'
  exact hcur.trans hleaves'

/-- A parallel read ends with no more cursors than its budget and its root's pieces allow, and
with one at least, whatever the service does. -/
theorem fanOut_cursors_le (hb : b.Paged P) {c : SplitCursor} (hc : c.Unstarted)
    (hl : c.leased = true) (h : Family.Leased b P J [c] s w) (parallelism capacity : Nat) :
    (fanOut c parallelism capacity none).Holds s w fun out _ _ =>
      1 ≤ out.2.cursors ∧ out.2.cursors ≤ min (max parallelism 1) (max (c.pieces b P) 1) := by
  refine (fanOut_reachable hb hc hl h parallelism capacity).mono ?_
  rintro _ s' w' ⟨st, hr, hf, rfl⟩
  exact reachable_cursors_le hb hc hl h parallelism capacity hr hf

/-- A parallel read whose start succeeds, over a service that serves the pages its splits fetch
first, ends with exactly as many cursors as its budget and its root's pieces allow. -/
theorem fanOut_cursors_served (hb : b.Paged P) (hfresh : s.Fresh b P J w)
    (h : Family.Leased b P J [{}] s w) (parallelism capacity : Nat)
    (hserved : ∀ m ∈ splitPages b P (.forking (max parallelism 1)) {}, ¬ b.Breaks m) :
    (fanOut {} parallelism capacity none).Holds s w fun out _ _ =>
      out.2.cursors = min (max parallelism 1) (max (({} : SplitCursor).pieces b P) 1) := by
  refine (fanOut_reachable hb ⟨rfl, rfl⟩ rfl h parallelism capacity).mono ?_
  rintro _ s' w' ⟨st, hr, hf, rfl⟩
  exact reachable_cursors_served hb hfresh h parallelism capacity hserved hr hf

end Read

end FanOut

/-- A session that starts as the service says, on a service that serves page 0, starts without
a failure. -/
theorem Session.Starts.fresh {b : Behavior} {P : Nat} {J : String} {s : Session} {w : World}
    (h : s.Starts b P J w) (hb : ¬ b.Breaks 0) : s.Fresh b P J w :=
  ⟨h.pageSize, h.running, h.unstarted, h.named, by rw [h.launches, Behavior.start, if_neg hb],
    h.knows⟩

/-- Before its start the root cursor's splits fetch first the midpoints of every page of the job
when the service reports its row count, and nothing otherwise. -/
theorem FanOut.splitPages_root (b : Behavior) (P k : Nat) :
    FanOut.splitPages b P (.forking k) {} =
      if b.reportRowsInJob then FanOut.midpoints k 0 (b.rows / P) else [] := rfl

/-- Reading every row of the job of a session just made, over a new in-memory service, with up
to `parallelism` workers through a channel of `capacity` rows: the first worker's tally counts at
least one cursor, and at most `min (max parallelism 1) n`, where `n` is the number of pages of
the job when the service reports its row count and one otherwise, whatever the service does;
exactly that many when the start succeeds and the service serves the first page each split
fetches, the midpoints of the budget's halvings. -/
theorem collectParallel_cursors {sql : String} {config : SessionConfig} {svc : QueryService}
    {standalone : Bool} {s : Session} (hs : Session.make sql config svc standalone = .ok s)
    (hP32 : config.pageSize < Nat.pow 2 32) {b : Behavior}
    (hfit : b.rows + config.pageSize < Nat.pow 2 64) {w : World}
    (hw : w.backend = .fake { behavior := b }) (parallelism capacity : Nat) :
    (do Session.attach; collectParallel {} parallelism capacity).Holds s w fun out _ _ =>
      1 ≤ out.2.cursors ∧
        out.2.cursors ≤ min (max parallelism 1)
          (if b.reportRowsInJob then b.rows / config.pageSize + 1 else 1) ∧
        (b.PollsDone config.maxPollAttempts → ¬ b.Breaks 0 →
          (b.reportRowsInJob = true → ∀ m ∈ FanOut.midpoints (max parallelism 1) 0
            (b.rows / config.pageSize), ¬ b.Breaks m) →
          out.2.cursors = min (max parallelism 1)
            (if b.reportRowsInJob then b.rows / config.pageSize + 1 else 1)) := by
  obtain ⟨p, hparams, -⟩ := Session.make_ok hs
  obtain ⟨-, -, hP0⟩ := SessionConfig.params_eq hparams
  have hb : b.Paged config.pageSize := ⟨hP0, hfit⟩
  obtain ⟨hbegins, hcons⟩ := Session.make_begins hs hP32 hb hw
  -- the root cursor is the session's one consumer, and has as many pieces as the job has pages
  have hone : ({ s with consumers := s.consumers + 1 } : Session) = { s with consumers := 1 } := by
    rw [hcons]
  have hpieces : max (({} : SplitCursor).pieces b config.pageSize) 1 =
      if b.reportRowsInJob then b.rows / config.pageSize + 1 else 1 := by
    rw [SplitCursor.pieces_pending rfl]
    by_cases hr : b.reportRowsInJob <;> simp [hr]
  rw [InSession.holds_bind, Session.holds_attach, hone]
  -- the exact count needs a start that succeeds, and the midpoints served
  have hexact : (collectParallel {} parallelism capacity).Holds { s with consumers := 1 } w
      fun out _ _ => b.PollsDone config.maxPollAttempts → ¬ b.Breaks 0 →
        (b.reportRowsInJob = true → ∀ m ∈ FanOut.midpoints (max parallelism 1) 0
          (b.rows / config.pageSize), ¬ b.Breaks m) →
        out.2.cursors = min (max parallelism 1)
          (max (({} : SplitCursor).pieces b config.pageSize) 1) := by
    by_cases hok : b.PollsDone config.maxPollAttempts ∧ ¬ b.Breaks 0 ∧
        (b.reportRowsInJob = true → ∀ m ∈ FanOut.midpoints (max parallelism 1) 0
          (b.rows / config.pageSize), ¬ b.Breaks m)
    · obtain ⟨hdone, hfirst, hmid⟩ := hok
      have hstarts := (Session.make_starts hs hP32 hb hdone hw).1
      have hserved : ∀ m ∈ FanOut.splitPages b config.pageSize (.forking (max parallelism 1)) {},
          ¬ b.Breaks m := by
        rw [FanOut.splitPages_root]
        by_cases hr : b.reportRowsInJob
        · rw [if_pos hr]
          exact hmid hr
        · simp [hr]
      exact (FanOut.fanOut_cursors_served hb ((hstarts.recount 1).fresh hfirst)
        (Family.Leased.root_starting hstarts.begins) parallelism capacity hserved).mono
          fun _ _ _ h' _ _ _ => h'
    · exact Session.holds_of_forall fun _ _ _ hd hf hm => absurd ⟨hd, hf, hm⟩ hok
  refine ((FanOut.fanOut_cursors_le hb ⟨rfl, rfl⟩ rfl
    (Family.Leased.root_starting hbegins) parallelism capacity).and hexact).mono ?_
  rintro out s' w' ⟨⟨hpos, hle⟩, heq⟩
  rw [hpieces] at hle heq
  exact ⟨hpos, hle, heq⟩

/-- Ten rows in pages of two are six pages, and four workers fetch first the pages 3, 2 and 5 of
them: when page 4 fails, they still end as four cursors. -/
theorem collectParallel_cursors_failing_page :
    ∃ s, Session.make "SELECT * FROM t" { pageSize := 2 } {} false = .ok s ∧
      (do Session.attach; collectParallel {} 4 0).Holds s
        { backend := .fake { behavior := { rows := 10, failingPage := some 4 } } }
        fun out _ _ => out.2.cursors = 4 :=
  ⟨_, rfl, InSession.Holds.mono (@collectParallel_cursors "SELECT * FROM t" { pageSize := 2 } {}
    false _ rfl (by decide) { rows := 10, failingPage := some 4 } (by decide) _ rfl 4 0)
    fun _ _ _ h => (h.2.2 (Behavior.pollsDone_first rfl rfl _) (by decide)
      (fun _ m hm => by simp [FanOut.midpoints] at hm; rcases hm with rfl | rfl | rfl <;> decide)).trans
        (by decide)⟩

end JobQuery
