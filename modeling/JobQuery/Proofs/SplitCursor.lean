import JobQuery.Proofs.SessionSteps

/-!
# JobQuery — what a split cursor owes its reader

A split cursor over the in-memory service holds some rows and knows which pages it has still to
fetch: none before it starts (then it owes every row), a numbered range of pages, or the page a
page cursor names and everything after it. `SplitCursor.unread` is the rows it has still to hand
out, in order; `SplitCursor.owed` is the same while the cursor holds its lease, and nothing once
it has released it.

Along every run each operation on a cursor hands out rows only from the front of what it owes,
and a split divides what it owes between the cursor and its sibling: what it owes afterwards,
with the rows it handed out, is a part of what it owed before (`next_sound`, `trySplit_sound`).
When nothing fails (`Session.Live`, `Session.Fresh`), nothing is lost either: a read hands out
the first row owed or finds nothing is owed, and a split divides what is owed exactly
(`next_exact`, `trySplit_exact`).
-/

namespace JobQuery

open Json InSession

open scoped List

/-! ## What a cursor owes -/

namespace Coverage

/-- The rows of the pages a coverage has still to fetch: every row before the start, the pages
after the current one to the end of a range, or the rows from the page a page cursor names to
the end of the job. -/
def unfetched (b : Behavior) (P : Nat) : Coverage → List Value
  | .pending => b.allRows
  | .ranged r =>
    FakeService.rowsBetween false (b.pageStart P (r.current + 1)) (b.pageStart P (r.stop + 1))
  | .chained none => []
  | .chained (some cursor) =>
    match FakeService.pageNumber [("pageCursor", cursor)] with
    | .ok n => FakeService.rowsBetween false (b.pageStart P n) b.rows
    | .error _ => []

/-- What a coverage promises: a range exists only when the row count is reported and ends at
the last page, and a page cursor names a page that holds rows. -/
def Sound (b : Behavior) (P : Nat) : Coverage → Prop
  | .pending => True
  | .ranged r => b.reportRowsInJob = true ∧ r.stop ≤ b.rows / P
  | .chained none => True
  | .chained (some cursor) =>
    ∃ n, FakeService.pageNumber [("pageCursor", cursor)] = .ok n ∧ n * P < b.rows

variable {b : Behavior} {P : Nat}

/-- The page at the front of a range, with the rest of the range, runs to the end of the range. -/
theorem page_ranged (r : PageRange) (h : r.current ≤ r.stop) :
    (b.page P r.current).rows ++ (Coverage.ranged r).unfetched b P =
      FakeService.rowsBetween false (b.pageStart P r.current) (b.pageStart P (r.stop + 1)) := by
  rw [Behavior.page_rows, unfetched, FakeService.rowsBetween_append (b.pageStart_mono (by omega))
    (b.pageStart_mono (by omega))]

/-- Moving to the next page of a range: its rows, with the rest of the range, are what the range
had still to fetch. -/
theorem next_ranged (r : PageRange) (h : r.current < r.stop) :
    (b.page P (r.current + 1)).rows ++
        (Coverage.ranged { r with current := r.current + 1 }).unfetched b P =
      (Coverage.ranged r).unfetched b P :=
  page_ranged { r with current := r.current + 1 } h

/-- A page with the pages its cursor leads to runs to the end of the job. -/
theorem page_chained {n : Nat} (hfits : b.PageFits P n) :
    (b.page P n).rows ++ (Coverage.chained (b.page P n).nextCursor).unfetched b P =
      FakeService.rowsBetween false (b.pageStart P n) b.rows := by
  rw [Behavior.page_rows]
  by_cases hlast : b.pageStop P n < b.rows
  · have hcursor := FakeService.pageNumber_cursor (hfits.2.2 hlast)
    simp only [Behavior.page, hlast, if_true, unfetched, hcursor]
    rw [FakeService.rowsBetween_append (b.pageStart_mono (by omega)) (b.pageStart_le_rows P _)]
  · have hend : b.pageStart P (n + 1) = b.rows := by
      have := b.pageStart_le_rows P (n + 1)
      rw [Behavior.pageStop_eq] at hlast
      omega
    simp only [Behavior.page, hlast, if_false, unfetched, List.append_nil, hend]

/-- The cursor of a served page names a page that holds rows. -/
theorem sound_chained {n : Nat} (hfits : b.PageFits P n) :
    (Coverage.chained (b.page P n).nextCursor).Sound b P := by
  by_cases hlast : b.pageStop P n < b.rows
  · simp only [Behavior.page, hlast, if_true, Sound]
    refine ⟨n + 1, FakeService.pageNumber_cursor (hfits.2.2 hlast), ?_⟩
    rw [Behavior.pageStop_eq, Behavior.pageStart_lt_rows] at hlast
    exact hlast
  · simp only [Behavior.page, hlast, if_false, Sound]

/-- Splitting a range at `split`: the shrunk range, then the page at `split` with the sibling's
range, are what the range had still to fetch. -/
theorem split_ranged (r : PageRange) (h : r.current < r.stop) :
    let split := r.current + 1 + (r.stop - r.current) / 2
    (Coverage.ranged { r with stop := split - 1, remainder := 0 }).unfetched b P ++
        ((b.page P split).rows ++
          (Coverage.ranged { start := split, current := split, stop := r.stop,
                             remainder := r.remainder }).unfetched b P) =
      (Coverage.ranged r).unfetched b P := by
  intro split
  have hsplit : r.current < split ∧ split ≤ r.stop := by omega
  rw [page_ranged { start := split, current := split, stop := r.stop, remainder := r.remainder }
    hsplit.2]
  simp only [unfetched, Nat.sub_add_cancel (by omega : 1 ≤ split)]
  exact FakeService.rowsBetween_append (b.pageStart_mono (by omega)) (b.pageStart_mono (by omega))

end Coverage

namespace SplitCursor

variable (b : Behavior) (P : Nat)

/-- The rows a cursor has still to hand out: its buffered rows, then the pages it has yet to
fetch. -/
def unread (c : SplitCursor) : List Value := c.rows ++ c.coverage.unfetched b P

/-- The rows a cursor owes its reader: what it has still to hand out while it holds its lease,
nothing once it has released it. -/
def owed (c : SplitCursor) : List Value := if c.leased then c.unread b P else []

/-- A cursor reading job `J`: started on it, with a sound coverage. -/
structure Reading (J : String) (c : SplitCursor) : Prop where
  job : c.jobId = some J
  started : c.coverage ≠ .pending
  sound : c.coverage.Sound b P

/-- The cursor a start makes of `c` once the session hands it `job`. -/
def startedOn (c : SplitCursor) (job : ReadyJob) : SplitCursor :=
  { c with
    rows := job.firstPage.rows
    coverage := match job.layout with
      | some l => .ranged { start := 0, current := 0, stop := l.lastPage, remainder := l.remainder }
      | none => .chained job.firstPage.nextCursor
    jobId := some job.jobId }

variable {b P}

theorem start_eq (c : SplitCursor) :
    c.start = (do
      match ← Session.ready with
      | .error e => pure (.error e)
      | .ok job => pure (.ok (c.startedOn job))) :=
  rfl

/-- A cursor started on the job the service started reads it, and has every row still to hand
out. -/
theorem startedOn_ready (hb : b.Paged P) (c : SplitCursor) (J : String) :
    (c.startedOn (b.readyJob P J)).Reading b P J ∧
      (c.startedOn (b.readyJob P J)).unread b P = b.allRows := by
  have hfits : b.PageFits P 0 := Behavior.pageFits_zero b hb.size_lt
  unfold startedOn unread
  rw [Behavior.readyJob_layout]
  simp only [Behavior.readyJob]
  by_cases hrep : b.reportRowsInJob
  · -- the row count is reported: the range of pages `0 ..= rows / P`
    rw [if_pos hrep]
    simp only [PageLayout.make, Nat.max_eq_left hb.pos]
    refine ⟨⟨rfl, by simp, by simp [Coverage.Sound, hrep]⟩, ?_⟩
    rw [@Coverage.page_ranged b P ⟨0, 0, b.rows / P, b.rows % P⟩ (Nat.zero_le _),
      Behavior.pageStart_zero, Behavior.pageStart_last b hb.pos, Behavior.allRows]
  · rw [if_neg hrep]
    refine ⟨⟨rfl, by simp, Coverage.sound_chained hfits⟩, ?_⟩
    rw [Coverage.page_chained hfits, Behavior.pageStart_zero, Behavior.allRows]

/-- What a split does once the cursor has started: split the range that remains at its
midpoint, fetching the midpoint page first. -/
def splitStarted (c : SplitCursor) : InSession (Option SplitCursor × SplitCursor) :=
  match c.coverage, c.jobId with
  | .ranged r, some id =>
    if r.stop ≤ r.current then pure (none, c)
    else do
      let split := r.current + 1 + (r.stop - r.current) / 2
      match ← Session.fetch id (.number split) with
      | .error e => do
        Session.recordError e
        pure (none, c)
      | .ok page => do
        Session.attach
        pure (some { jobId := some id, rows := page.rows,
                     coverage := .ranged { start := split, current := split, stop := r.stop,
                                           remainder := r.remainder } },
          { c with coverage := .ranged { r with stop := split - 1, remainder := 0 } })
  | _, _ => pure (none, c)

theorem trySplit_eq (c : SplitCursor) :
    c.trySplit =
      if c.finished then pure (none, c)
      else (if c.coverage == .pending then c.start else pure (.ok c)) >>= fun started =>
        match started with
        | .error e => do
          Session.recordError e
          pure (none, c)
        | .ok c => c.splitStarted := by
  unfold trySplit splitStarted
  split
  · rfl
  · split <;> rfl

theorem eq_pending_of_beq {cov : Coverage} (h : (cov == .pending) = true) : cov = .pending := by
  cases cov with
  | pending => rfl
  | ranged r => cases h
  | chained next => cases h

theorem beq_pending_of_ne {cov : Coverage} (h : cov ≠ .pending) : (cov == .pending) = false := by
  cases cov with
  | pending => exact absurd rfl h
  | ranged r => rfl
  | chained next => rfl

end SplitCursor

/-! ## Along every run -/

namespace SplitCursor

section Sound

variable {b : Behavior} {P : Nat}

/-- Starting keeps the session sound; a started cursor keeps its lease and is sound, and it has
every row still to hand out. -/
theorem start_sound (hb : b.Paged P) {s : Session} {w : World} (h : s.Sound b P w)
    (c : SplitCursor) :
    c.start.Holds s w fun r s' w' => s'.Sound b P w' ∧ ∀ c', r = .ok c' →
      c'.leased = c.leased ∧ c'.coverage.Sound b P ∧ c'.coverage ≠ .pending ∧
        c'.unread b P = b.allRows := by
  rw [start_eq, holds_bind]
  refine (Session.ready_sound hb h).mono ?_
  rintro (e | job) s' w' ⟨hs', hjob⟩
  · exact ⟨hs', fun c' hc' => by cases hc'⟩
  · obtain ⟨hread, hunread⟩ := startedOn_ready hb c job.jobId
    rw [← hjob job rfl] at hread hunread
    refine ⟨hs', fun c' hc' => ?_⟩
    cases hc'
    exact ⟨rfl, hread.sound, hread.started, hunread⟩

/-- Moving through pages keeps the session and the cursor sound and the lease as it is, and the
cursor has afterwards a part of what it had still to hand out; a move that finds rows leaves
some buffered. -/
theorem advancePages_sound (hb : b.Paged P) (fuel : Nat) :
    ∀ (c : SplitCursor) (s : Session) (w : World), s.Sound b P w → c.coverage.Sound b P →
      (c.advancePages fuel).Holds s w fun out s' w' =>
        s'.Sound b P w' ∧ out.2.coverage.Sound b P ∧ out.2.leased = c.leased ∧
          out.2.unread b P <+ c.unread b P ∧ (out.1 = .ok true → out.2.rows ≠ []) := by
  induction fuel with
  | zero =>
    intro c s w h hc
    exact ⟨h, hc, rfl, List.Sublist.refl _, fun hr => by cases hr⟩
  | succ fuel ih =>
    intro c s w h hc
    unfold advancePages
    split
    · rename_i hfull
      exact ⟨h, hc, rfl, List.Sublist.refl _, fun _ => by simpa using hfull⟩
    rename_i hempty
    have hrows : c.rows = [] := by simpa using hempty
    split
    · -- a range: fetch the next page by number, unless the range is used up
      rename_i id r hid hcov
      rw [hcov] at hc
      split
      · exact ⟨h, hcov ▸ hc, rfl, List.Sublist.refl _, fun hr => by cases hr⟩
      rename_i hmore
      have hnext : r.current + 1 ≤ b.rows / P := by simp only [Coverage.Sound] at hc; omega
      have hsel : (PageSelector.number (r.current + 1)).Reads (r.current + 1) :=
        .number (lt_of_le_of_lt (le_trans hnext (Nat.div_le_self _ _)) hb.rows_lt)
      simp only [holds_bind]
      refine (Session.fetch_sound hb h hsel).mono ?_
      rintro (e | page) s' w' ⟨hs', hw, hpage⟩
      · refine ⟨hs' ▸ h.follows hw, hc, rfl, ?_, fun hr => by cases hr⟩
        simp only [unread, hrows, hcov, List.nil_append, Coverage.unfetched]
        exact FakeService.rowsBetween_sublist (b.pageStart_mono (by dsimp only; omega))
      · obtain ⟨rfl, -⟩ := hpage _ rfl
        refine (ih _ s' w' (hs' ▸ h.follows hw) hc).mono ?_
        rintro out s'' w'' ⟨hs, hcv, hl, hsub, htrue⟩
        refine ⟨hs, hcv, hl, hsub.trans ?_, htrue⟩
        simp only [unread, hrows, hcov, List.nil_append, Coverage.next_ranged r (by omega),
          List.Sublist.refl]
    · -- a chain: fetch the page the cursor names
      rename_i id cursor hid hcov
      rw [hcov] at hc
      obtain ⟨n, hn, -⟩ := hc
      simp only [holds_bind]
      refine (Session.fetch_sound hb h (.cursor hn)).mono ?_
      rintro (e | page) s' w' ⟨hs', hw, hpage⟩
      · refine ⟨hs' ▸ h.follows hw, trivial, rfl, ?_, fun hr => by cases hr⟩
        simp only [unread, hrows, List.nil_append, Coverage.unfetched]
        exact List.nil_sublist _
      · obtain ⟨rfl, hfits⟩ := hpage _ rfl
        refine (ih _ s' w' (hs' ▸ h.follows hw) (Coverage.sound_chained hfits)).mono ?_
        rintro out s'' w'' ⟨hs, hcv, hl, hsub, htrue⟩
        refine ⟨hs, hcv, hl, hsub.trans ?_, htrue⟩
        simp only [unread, hrows, hcov, List.nil_append]
        rw [Coverage.page_chained hfits]
        simp only [Coverage.unfetched, hn, List.Sublist.refl]
    · exact ⟨h, hc, rfl, List.Sublist.refl _, fun hr => by cases hr⟩

/-- Making a row available keeps the session and the cursor sound and the lease as it is, and
the cursor has afterwards a part of what it had still to hand out. -/
theorem preload_sound (hb : b.Paged P) {s : Session} {w : World} (h : s.Sound b P w)
    {c : SplitCursor} (hc : c.coverage.Sound b P) :
    c.preload.Holds s w fun out s' w' =>
      s'.Sound b P w' ∧ out.2.coverage.Sound b P ∧ out.2.leased = c.leased ∧
        out.2.unread b P <+ c.unread b P ∧ (out.1 = .ok true → out.2.rows ≠ []) := by
  unfold preload
  split
  · rename_i hpending
    have hcov : c.coverage = .pending := eq_pending_of_beq hpending
    simp only [holds_bind]
    refine (start_sound hb h c).mono ?_
    rintro (e | c₁) s₁ w₁ ⟨hs₁, hc₁⟩
    · exact ⟨hs₁, hc, rfl, List.Sublist.refl _, fun hr => by cases hr⟩
    · obtain ⟨hl, hsound, -, hall⟩ := hc₁ c₁ rfl
      refine (advancePages_sound hb _ c₁ s₁ w₁ hs₁ hsound).mono ?_
      rintro out s' w' ⟨hs', hcv, hl', hsub, htrue⟩
      refine ⟨hs', hcv, hl'.trans hl, hsub.trans ?_, htrue⟩
      -- a cursor that has not started owes every row
      rw [hall, unread, hcov, Coverage.unfetched]
      exact List.sublist_append_right _ _
  · exact advancePages_sound hb _ c s w h hc

/-- Releasing the lease keeps the session sound; the cursor drops its rows. -/
theorem finish_sound {s : Session} {w : World} (h : s.Sound b P w) (c : SplitCursor) :
    c.finish.Holds s w fun c' s' w' =>
      s'.Sound b P w' ∧ c' = { c with rows := [], leased := false } := by
  unfold finish
  split
  · simp only [holds_bind]
    exact (Session.detach_sound h).mono fun _ s' w' hs' => ⟨hs', rfl⟩
  · exact ⟨h, rfl⟩

theorem owed_eq_unread {c : SplitCursor} (h : c.leased = true) : c.owed b P = c.unread b P := by
  simp [owed, h]

theorem leased_of_not_finished {c : SplitCursor} (h : ¬c.finished = true) : c.leased = true := by
  simpa [finished] using h

/-- A released cursor has no more rows and splits no more. -/
theorem next_released {c : SplitCursor} (h : c.leased = false) : c.next = pure (.ok none, c) := by
  unfold next
  rw [if_pos (by simp [finished, h])]

theorem trySplit_released {c : SplitCursor} (h : c.leased = false) :
    c.trySplit = pure (none, c) := by
  rw [trySplit_eq, if_pos (by simp [finished, h])]

/-- The rows an answer hands out. -/
def handedOut : Except QueryError (Option Value) → List Value
  | .ok (some row) => [row]
  | _ => []

/-- Along every run, a read keeps the session and the cursor sound, and the row it hands out,
with what the cursor owes afterwards, is a part of what the cursor owed before. -/
theorem next_sound (hb : b.Paged P) {s : Session} {w : World} (h : s.Sound b P w)
    {c : SplitCursor} (hc : c.coverage.Sound b P) :
    c.next.Holds s w fun out s' w' =>
      s'.Sound b P w' ∧ out.2.coverage.Sound b P ∧
        handedOut out.1 ++ out.2.owed b P <+ c.owed b P := by
  unfold next
  split
  · exact ⟨h, hc, List.Sublist.refl _⟩
  rename_i hfin
  have hl := leased_of_not_finished hfin
  simp only [holds_bind]
  refine (preload_sound hb h hc).mono ?_
  rintro ⟨e | (_ | _), c₁⟩ s₁ w₁ ⟨hs₁, hc₁, hl₁, hsub, -⟩ <;> dsimp only at hc₁ hl₁ hsub ⊢
  · -- an error: recorded, and the lease released
    simp only [holds_bind, Session.holds_recordError]
    refine (finish_sound (hs₁.recordError e) _).mono ?_
    rintro c' s' w' ⟨hs', rfl⟩
    exact ⟨hs', hc₁, by simp [handedOut, owed]⟩
  · -- the range is used up: the lease is released
    simp only [holds_bind]
    refine (finish_sound hs₁ c₁).mono ?_
    rintro c' s' w' ⟨hs', rfl⟩
    exact ⟨hs', hc₁, by simp [handedOut, owed]⟩
  · -- rows are buffered: the first is handed out
    split <;> simp only [holds_pure]
    · rename_i row rest hrows
      refine ⟨hs₁, hc₁, ?_⟩
      rw [owed_eq_unread hl]
      simpa [owed, hl₁, hl, handedOut, unread, hrows] using hsub
    · refine ⟨hs₁, hc₁, ?_⟩
      rw [owed_eq_unread hl, owed_eq_unread (hl₁.trans hl)]
      exact hsub

/-- Along every run, splitting a started cursor keeps the session and every coverage sound and
the cursor's lease as it is; a sibling holds a lease, and what the cursor and its sibling have
to hand out afterwards is a part of what the cursor had before. -/
theorem splitStarted_sound (hb : b.Paged P) {s : Session} {w : World} (h : s.Sound b P w)
    {c : SplitCursor} (hc : c.coverage.Sound b P) :
    c.splitStarted.Holds s w fun out s' w' =>
      s'.Sound b P w' ∧ out.2.coverage.Sound b P ∧ out.2.leased = c.leased ∧
        (∀ x ∈ out.1, x.leased = true ∧ x.coverage.Sound b P) ∧
        out.2.unread b P ++ out.1.toList.flatMap (unread b P) <+ c.unread b P := by
  unfold splitStarted
  split
  · rename_i r id hcov hid
    rw [hcov] at hc
    split
    · exact ⟨h, hcov ▸ hc, rfl, by simp, by simp⟩
    rename_i hmore
    -- the midpoint page is fetched first; only a fetched page makes a sibling
    have hsplit : r.current + 1 + (r.stop - r.current) / 2 ≤ b.rows / P := by
      simp only [Coverage.Sound] at hc
      omega
    have hsel : (PageSelector.number (r.current + 1 + (r.stop - r.current) / 2)).Reads
        (r.current + 1 + (r.stop - r.current) / 2) :=
      .number (lt_of_le_of_lt (le_trans hsplit (Nat.div_le_self _ _)) hb.rows_lt)
    simp only [holds_bind]
    refine (Session.fetch_sound hb h hsel).mono ?_
    rintro (e | page) s' w' ⟨hs', hw, hpage⟩ <;> dsimp only
    · simp only [holds_bind, Session.holds_recordError, holds_pure]
      have hsnd : s'.Sound b P w' := hs' ▸ h.follows hw
      exact ⟨hsnd.recordError e, hcov ▸ hc, trivial, by simp, by simp⟩
    · obtain ⟨rfl, -⟩ := hpage _ rfl
      simp only [holds_bind, Session.holds_attach, holds_pure]
      have hsnd : s'.Sound b P w' := hs' ▸ h.follows hw
      simp only [Coverage.Sound] at hc
      refine ⟨hsnd.attach, ⟨hc.1, by dsimp only; omega⟩, trivial, ?_, ?_⟩
      · simp only [Option.mem_def, Option.some.injEq]
        rintro x rfl
        exact ⟨rfl, hc.1, hc.2⟩
      · -- the cursor keeps the pages before the midpoint, the sibling the rest
        refine List.Sublist.trans ?_ (List.Sublist.refl (c.unread b P))
        simp only [unread, Option.toList_some, List.flatMap_cons, List.flatMap_nil,
          List.append_nil, List.append_assoc]
        rw [@Coverage.split_ranged b P r (by omega), hcov]
  · exact ⟨h, hc, rfl, by simp, by simp⟩

/-- Along every run, a split keeps the session sound and every cursor's coverage sound, and what
the cursor and its sibling owe afterwards is a part of what the cursor owed before. -/
theorem trySplit_sound (hb : b.Paged P) {s : Session} {w : World} (h : s.Sound b P w)
    {c : SplitCursor} (hc : c.coverage.Sound b P) :
    c.trySplit.Holds s w fun out s' w' =>
      s'.Sound b P w' ∧ out.2.coverage.Sound b P ∧ (∀ x ∈ out.1, x.coverage.Sound b P) ∧
        out.2.owed b P ++ out.1.toList.flatMap (owed b P) <+ c.owed b P := by
  rw [trySplit_eq]
  split
  · exact ⟨h, hc, by simp, by simp⟩
  rename_i hfin
  have hl := leased_of_not_finished hfin
  -- starting first, if needed, leaves a sound cursor with a part of what `c` had to hand out
  have hstarted : (if c.coverage == .pending then c.start else pure (.ok c)).Holds s w
      fun r s' w' => s'.Sound b P w' ∧ ∀ c', r = .ok c' →
        c'.leased = c.leased ∧ c'.coverage.Sound b P ∧ c'.unread b P <+ c.unread b P := by
    split
    · rename_i hpending
      have hcov : c.coverage = .pending := eq_pending_of_beq hpending
      refine (start_sound hb h c).mono ?_
      rintro r s' w' ⟨hs', hr⟩
      refine ⟨hs', fun c' hc' => ?_⟩
      obtain ⟨hl', hsound, -, hall⟩ := hr c' hc'
      refine ⟨hl', hsound, ?_⟩
      rw [hall, unread, hcov, Coverage.unfetched]
      exact List.sublist_append_right _ _
    · exact ⟨h, fun c' hc' => by cases hc'; exact ⟨rfl, hc, List.Sublist.refl _⟩⟩
  rw [holds_bind]
  refine hstarted.mono ?_
  rintro (e | c₁) s₁ w₁ ⟨hs₁, hc₁⟩ <;> dsimp only
  · simp only [holds_bind, Session.holds_recordError, holds_pure]
    exact ⟨hs₁.recordError e, hc, by simp, by simp⟩
  obtain ⟨hl₁, hsound, hsub⟩ := hc₁ c₁ rfl
  refine (splitStarted_sound hb hs₁ hsound).mono ?_
  rintro out s' w' ⟨hs', hcv, hl', hsib, hsplit⟩
  refine ⟨hs', hcv, fun x hx => (hsib x hx).2, ?_⟩
  -- a cursor and a sibling that hold their leases owe what they have to hand out
  have hown : out.1.toList.flatMap (owed b P) = out.1.toList.flatMap (unread b P) := by
    rcases hout : out.1 with _ | x
    · rfl
    · simp [owed_eq_unread (hsib x (by simp [hout])).1]
  rw [owed_eq_unread (hl'.trans (hl₁.trans hl)), owed_eq_unread hl, hown]
  exact hsplit.trans hsub

end Sound

/-! ## When nothing fails -/

section Live

variable {b : Behavior} {P : Nat} {J : String}

theorem advancePages_filled {c : SplitCursor} (h : c.rows ≠ []) (fuel : Nat) :
    c.advancePages (fuel + 1) = pure (.ok true, c) := by
  unfold advancePages
  simp [h]

theorem advancePages_ranged_end {c : SplitCursor} {r : PageRange} {id : String}
    (hrows : c.rows = []) (hcov : c.coverage = .ranged r) (hid : c.jobId = some id)
    (hend : r.stop ≤ r.current) (fuel : Nat) :
    c.advancePages (fuel + 1) = pure (.ok false, c) := by
  unfold advancePages
  simp [hrows, hcov, hid, hend]

/-- On a healthy service, moving through the pages of a cursor that reads a live job fails
nowhere and loses nothing: it finds rows at the front of what the cursor has to hand out, or
finds that nothing is left. Two steps are always enough, as only the page right after the last
full page can be empty. -/
theorem advancePages_live (hb : b.Paged P) (hh : b.Healthy) {s : Session} {w : World}
    (h : s.Live b P J w) {c : SplitCursor} (hc : c.Reading b P J) (fuel : Nat) :
    (c.advancePages (fuel + 2)).Holds s w fun out s' w' =>
      s' = s ∧ s.Live b P J w' ∧ out.2.Reading b P J ∧ out.2.leased = c.leased ∧
        ((out.1 = .ok true ∧ out.2.rows ≠ [] ∧ out.2.unread b P = c.unread b P) ∨
          (out.1 = .ok false ∧ c.unread b P = [])) := by
  unfold advancePages
  split
  · rename_i hfull
    exact ⟨rfl, h, hc, rfl, Or.inl ⟨rfl, by simpa using hfull, rfl⟩⟩
  rename_i hempty
  have hrows : c.rows = [] := by simpa using hempty
  split
  · -- a range
    rename_i id r hid hcov
    have hJ : id = J := Option.some.inj (hid.symm.trans hc.job)
    subst hJ
    have hsound := hc.sound
    rw [hcov] at hsound
    split
    · -- used up: nothing is left
      rename_i hend
      refine ⟨rfl, h, hc, rfl, Or.inr ⟨rfl, ?_⟩⟩
      simp only [unread, hrows, hcov, List.nil_append, Coverage.unfetched]
      exact FakeService.rowsBetween_of_le (b.pageStart_mono (by omega))
    rename_i hmore
    have hnext : (r.current + 1) * P ≤ b.rows :=
      (Nat.le_div_iff_mul_le hb.pos).mp (by simp only [Coverage.Sound] at hsound; omega)
    have hsel : (PageSelector.number (r.current + 1)).Reads (r.current + 1) :=
      .number (lt_of_le_of_lt (le_trans (Nat.le_mul_of_pos_right _ hb.pos) hnext) hb.rows_lt)
    simp only [holds_bind]
    refine (Session.fetch_live hb hh h hsel hnext).mono ?_
    rintro _ s' w' ⟨rfl, rfl, hw'⟩
    dsimp only
    -- the cursor now buffers page `current + 1`, which with the rest of the range is what the
    -- range had to fetch
    generalize hc₃ : ({ c with coverage := .ranged { r with current := r.current + 1 },
                               rows := (b.page P (r.current + 1)).rows } : SplitCursor) = c₃
    have hrows₃ : c₃.rows = (b.page P (r.current + 1)).rows := by rw [← hc₃]
    have hcov₃ : c₃.coverage = .ranged { r with current := r.current + 1 } := by rw [← hc₃]
    have hunread : c₃.unread b P = c.unread b P := by
      rw [← hc₃]
      simp only [unread, hrows, hcov, List.nil_append]
      exact Coverage.next_ranged r (by omega)
    have hread : c₃.Reading b P id := by
      rw [← hc₃]
      exact ⟨hc.job, by simp, hsound⟩
    have hleased : c₃.leased = c.leased := by rw [← hc₃]
    by_cases hfilled : c₃.rows = []
    · -- an empty page is the page after the last full one, which ends the range
      have hlast : r.stop ≤ r.current + 1 := by
        have hmul := b.page_rows_eq_nil hb.pos (hrows₃ ▸ hfilled)
        simp only [Coverage.Sound] at hsound
        have hdiv : b.rows / P ≤ r.current + 1 :=
          Nat.div_le_of_le_mul (by rw [Nat.mul_comm]; exact hmul)
        omega
      have hnothing : c.unread b P = [] := by
        rw [← hunread]
        simp only [unread, hfilled, hcov₃, List.nil_append, Coverage.unfetched]
        exact FakeService.rowsBetween_of_le (b.pageStart_mono (by omega))
      rw [advancePages_ranged_end hfilled hcov₃ hread.job hlast]
      exact ⟨rfl, hw', hread, hleased, Or.inr ⟨rfl, hnothing⟩⟩
    · rw [advancePages_filled hfilled]
      exact ⟨rfl, hw', hread, hleased, Or.inl ⟨rfl, hfilled, hunread⟩⟩
  · -- a chain: the page the cursor names holds rows
    rename_i id cursor hid hcov
    have hJ : id = J := Option.some.inj (hid.symm.trans hc.job)
    subst hJ
    have hsound := hc.sound
    rw [hcov] at hsound
    obtain ⟨n, hn, hnrows⟩ := hsound
    have hfits : b.PageFits P n := b.pageFits_of_le hb.pos hb.fits (Nat.le_of_lt hnrows)
    simp only [holds_bind]
    refine (Session.fetch_live hb hh h (.cursor hn) (Nat.le_of_lt hnrows)).mono ?_
    rintro _ s' w' ⟨rfl, rfl, hw'⟩
    dsimp only
    generalize hc₃ : ({ c with rows := (b.page P n).rows,
                               coverage := .chained (b.page P n).nextCursor } : SplitCursor) = c₃
    have hfilled : c₃.rows ≠ [] := fun hnil =>
      absurd (b.page_rows_eq_nil hb.pos (by rw [← hnil, ← hc₃])) (Nat.not_le.mpr hnrows)
    have hunread : c₃.unread b P = c.unread b P := by
      rw [← hc₃]
      simp only [unread, hrows, hcov, List.nil_append]
      rw [Coverage.page_chained hfits]
      simp only [Coverage.unfetched, hn]
    have hread : c₃.Reading b P id := by
      rw [← hc₃]
      exact ⟨hc.job, by simp, Coverage.sound_chained hfits⟩
    have hleased : c₃.leased = c.leased := by rw [← hc₃]
    rw [advancePages_filled hfilled]
    exact ⟨rfl, hw', hread, hleased, Or.inl ⟨rfl, hfilled, hunread⟩⟩
  · -- a chain with no next page: nothing is left
    rename_i hnotRanged hnotChained
    refine ⟨rfl, h, hc, rfl, Or.inr ⟨rfl, ?_⟩⟩
    rcases hcov : c.coverage with _ | r | _ | cursor
    · exact absurd hcov hc.started
    · exact (hnotRanged J r hc.job hcov).elim
    · simp [unread, hrows, hcov, Coverage.unfetched]
    · exact (hnotChained J cursor hc.job hcov).elim

/-- A cursor that can be read without a failure: it reads the job `J` of a live session, or
neither it nor its session has started and the session's start will make job `J`. -/
def Readable (b : Behavior) (P : Nat) (J : String) (c : SplitCursor) (s : Session) (w : World) :
    Prop :=
  (s.Live b P J w ∧ c.Reading b P J) ∨ (c.coverage = .pending ∧ c.rows = [] ∧ s.Fresh b P J w)

/-- The first start of a fresh session succeeds: the cursor then reads its job and has every row
still to hand out. -/
theorem start_fresh (hb : b.Paged P) {s : Session} {w : World} (h : s.Fresh b P J w)
    (c : SplitCursor) :
    c.start.Holds s w fun r s' w' => ∃ c', r = .ok c' ∧ s'.Live b P J w' ∧
      s'.consumers = s.consumers ∧ c'.Reading b P J ∧ c'.leased = c.leased ∧
        c'.unread b P = b.allRows := by
  rw [start_eq, holds_bind]
  refine (Session.ready_fresh h).mono ?_
  rintro r s' w' ⟨rfl, hlive, hcons⟩
  obtain ⟨hread, hunread⟩ := startedOn_ready hb c J
  exact ⟨_, rfl, hlive, hcons, hread, rfl, hunread⟩

/-- When nothing fails, making a row available finds one at the front of what the cursor has to
hand out, or finds that nothing is left; the session is then live. -/
theorem preload_exact (hb : b.Paged P) (hh : b.Healthy) {s : Session} {w : World}
    {c : SplitCursor} (h : c.Readable b P J s w) :
    c.preload.Holds s w fun out s' w' =>
      s'.Live b P J w' ∧ s'.consumers = s.consumers ∧ out.2.Reading b P J ∧
        out.2.leased = c.leased ∧
        ((out.1 = .ok true ∧ out.2.rows ≠ [] ∧ out.2.unread b P = c.unread b P) ∨
          (out.1 = .ok false ∧ c.unread b P = [])) := by
  unfold preload
  rcases h with ⟨hlive, hread⟩ | ⟨hpend, hrows, hfresh⟩
  · rw [if_neg (by simp [beq_pending_of_ne hread.started])]
    -- the page budget is far more than the two steps a read needs
    refine (advancePages_live hb hh hlive hread 999998).mono ?_
    rintro out s' w' ⟨rfl, hw', hr, hl, hcases⟩
    exact ⟨hw', rfl, hr, hl, hcases⟩
  · rw [if_pos (by rw [hpend]; rfl), holds_bind]
    refine (start_fresh hb hfresh c).mono ?_
    rintro r s₁ w₁ ⟨c₁, rfl, hlive, hcons, hread, hl, hall⟩
    refine (advancePages_live hb hh hlive hread 999998).mono ?_
    rintro out s' w' ⟨rfl, hw', hr, hl', hcases⟩
    have hc : c.unread b P = b.allRows := by simp [unread, hrows, hpend, Coverage.unfetched]
    rw [hc, ← hall]
    exact ⟨hw', hcons, hr, hl'.trans hl, hcases⟩

/-- Releasing the lease of a live session's cursor: one consumer less, and the session stays live
while a consumer is left. -/
theorem finish_live {s : Session} {w : World} (h : s.Live b P J w) {c : SplitCursor}
    (hl : c.leased = true) :
    c.finish.Holds s w fun c' s' w' =>
      c' = { c with rows := [], leased := false } ∧ s'.consumers = s.consumers - 1 ∧
        (s.consumers - 1 ≠ 0 → s'.Live b P J w') := by
  unfold finish
  rw [if_pos hl, holds_bind]
  refine (Session.detach_live h).mono ?_
  rintro _ s' w' ⟨hcons, hlive⟩
  exact ⟨rfl, hcons, hlive⟩

/-- When nothing fails, a read hands out the first row the cursor has to hand out, or finds that
nothing is left and releases the lease. -/
theorem next_exact (hb : b.Paged P) (hh : b.Healthy) {s : Session} {w : World}
    {c : SplitCursor} (h : c.Readable b P J s w) (hl : c.leased = true) :
    c.next.Holds s w fun out s' w' =>
      (∃ row, out.1 = .ok (some row) ∧ row :: out.2.unread b P = c.unread b P ∧
        out.2.leased = true ∧ out.2.Reading b P J ∧ s'.Live b P J w' ∧
        s'.consumers = s.consumers) ∨
      (out.1 = .ok none ∧ out.2.leased = false ∧ c.unread b P = [] ∧
        s'.consumers = s.consumers - 1 ∧ (s.consumers - 1 ≠ 0 → s'.Live b P J w')) := by
  unfold next
  rw [if_neg (by simp [finished, hl]), holds_bind]
  refine (preload_exact hb hh h).mono ?_
  rintro ⟨r, c₁⟩ s₁ w₁ ⟨hlive, hcons, hread, hl₁, hcases⟩
  rcases hcases with ⟨rfl, hfull, hunread⟩ | ⟨rfl, hnothing⟩
  · -- rows are buffered: the first is handed out
    dsimp only
    split
    · rename_i row rest hrows
      refine Or.inl ⟨row, rfl, ?_, hl₁.trans hl, ⟨hread.job, hread.started, hread.sound⟩,
        hlive, hcons⟩
      rw [← hunread]
      simp [unread, hrows]
    · exact absurd ‹c₁.rows = []› hfull
  · -- nothing is left: the lease is released
    dsimp only
    rw [holds_bind]
    refine (finish_live hlive (hl₁.trans hl)).mono ?_
    rintro c' s' w' ⟨rfl, hcons', hlive'⟩
    rw [hcons] at hcons' hlive'
    exact Or.inr ⟨rfl, rfl, hnothing, hcons', hlive'⟩

/-- When nothing fails, splitting a cursor that reads a live job either declines and changes
nothing, or divides what the cursor has to hand out between it and a sibling that reads the same
job and holds a lease of its own; only a range, that is a reported row count, is ever split. -/
theorem splitStarted_live (hb : b.Paged P) (hh : b.Healthy) {s : Session} {w : World}
    (h : s.Live b P J w) {c : SplitCursor} (hc : c.Reading b P J) :
    c.splitStarted.Holds s w fun out s' w' =>
      s'.Live b P J w' ∧ out.2.Reading b P J ∧ out.2.leased = c.leased ∧
        ((out.1 = none ∧ out.2.unread b P = c.unread b P ∧ s'.consumers = s.consumers) ∨
          (∃ x, out.1 = some x ∧ b.reportRowsInJob = true ∧ x.Reading b P J ∧ x.leased = true ∧
            out.2.unread b P ++ x.unread b P = c.unread b P ∧
            s'.consumers = s.consumers + 1)) := by
  unfold splitStarted
  split
  · rename_i r id hcov hid
    have hJ : id = J := Option.some.inj (hid.symm.trans hc.job)
    subst hJ
    have hsound := hc.sound
    rw [hcov] at hsound
    simp only [Coverage.Sound] at hsound
    split
    · exact ⟨h, hc, rfl, Or.inl ⟨rfl, rfl, rfl⟩⟩
    rename_i hmore
    have hmul : (r.current + 1 + (r.stop - r.current) / 2) * P ≤ b.rows :=
      (Nat.le_div_iff_mul_le hb.pos).mp (by omega)
    have hsel : (PageSelector.number (r.current + 1 + (r.stop - r.current) / 2)).Reads
        (r.current + 1 + (r.stop - r.current) / 2) :=
      .number (lt_of_le_of_lt (le_trans (Nat.le_mul_of_pos_right _ hb.pos) hmul) hb.rows_lt)
    rw [holds_bind]
    refine (Session.fetch_live hb hh h hsel hmul).mono ?_
    rintro _ s' w' ⟨rfl, rfl, hw'⟩
    dsimp only
    rw [holds_bind, Session.holds_attach, holds_pure]
    refine ⟨hw'.attach, ⟨hc.job, by simp, hsound.1, by dsimp only; omega⟩, rfl,
      Or.inr ⟨_, rfl, hsound.1, ⟨rfl, by simp, hsound⟩, rfl, ?_, rfl⟩⟩
    -- the cursor keeps the pages before the midpoint, the sibling the rest
    simp only [unread, List.append_assoc]
    rw [Coverage.split_ranged r (by omega), hcov]
  · exact ⟨h, hc, rfl, Or.inl ⟨rfl, rfl, rfl⟩⟩

/-- When nothing fails, a split of a readable cursor starts it if needed, then declines and keeps
what the cursor has to hand out, or divides it exactly between the cursor and a sibling. -/
theorem trySplit_exact (hb : b.Paged P) (hh : b.Healthy) {s : Session} {w : World}
    {c : SplitCursor} (h : c.Readable b P J s w) (hl : c.leased = true) :
    c.trySplit.Holds s w fun out s' w' =>
      s'.Live b P J w' ∧ out.2.Reading b P J ∧ out.2.leased = c.leased ∧
        ((out.1 = none ∧ out.2.unread b P = c.unread b P ∧ s'.consumers = s.consumers) ∨
          (∃ x, out.1 = some x ∧ b.reportRowsInJob = true ∧ x.Reading b P J ∧ x.leased = true ∧
            out.2.unread b P ++ x.unread b P = c.unread b P ∧
            s'.consumers = s.consumers + 1)) := by
  rw [trySplit_eq, if_neg (by simp [finished, hl]), holds_bind]
  rcases h with ⟨hlive, hread⟩ | ⟨hpend, hrows, hfresh⟩
  · rw [if_neg (by simp [beq_pending_of_ne hread.started]), holds_pure]
    exact splitStarted_live hb hh hlive hread
  · rw [if_pos (by rw [hpend]; rfl)]
    refine (start_fresh hb hfresh c).mono ?_
    rintro r s₁ w₁ ⟨c₁, rfl, hlive, hcons, hread, hl₁, hall⟩
    refine (splitStarted_live hb hh hlive hread).mono ?_
    rintro out s' w' ⟨hw', hr, hl', hcases⟩
    -- a cursor that has not started has every row still to hand out, as the started one has
    have hc : c.unread b P = c₁.unread b P := by
      rw [hall]
      simp [unread, hrows, hpend, Coverage.unfetched]
    rw [hc, ← hcons]
    exact ⟨hw', hr, hl'.trans hl₁, hcases⟩

end Live

end SplitCursor

end JobQuery
