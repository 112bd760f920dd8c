import JobQuery.Proofs.SplitFamily

/-!
# JobQuery — a family of split cursors divides the pages of its job

When the session hands a root split cursor a job whose row count is known, the root owns the
pages `0 ..= L` of the job's layout, `L` its last page and `m` the rows on it. From then on,
whatever the reader does to the family (reads, splits, closing cursors, cancelling or closing
the session) and whatever the service answers:

* every cursor has a range with `start ≤ current ≤ stop`, so its size estimate never takes
  `stop - current` below zero;
* the pages `start ..= stop` of the cursors, finished ones included, are the pages `0 ..= L`,
  each once (`Family.Partitioned`);
* the cursor whose range ends at `L` carries the remainder `m` and is the only one to end
  there; every other cursor carries 0.

The ranges only ever change in three ways, each stated once for any session and any service:
a read moves the current page forward within the range (`SplitCursor.next_moves`), a split
cuts the range at its midpoint into a kept part and a part handed to the sibling
(`SplitCursor.splitStarted_ranges`), and closing changes nothing. A split that hands out a
sibling attaches exactly one consumer to the session, and one that declines attaches none
(`SplitCursor.trySplit_consumers`).

The main result is `Family.drive_pages_partitioned`.
-/

namespace JobQuery

open InSession

open scoped List

/-! ## Ranges of pages -/

namespace PageRange

/-- The pages a range was given: `start ..= stop`. -/
def pages (r : PageRange) : List Nat := List.range' r.start (r.stop + 1 - r.start)

/-- The page a split of the range hands to the sibling first. -/
def splitAt (r : PageRange) : Nat := r.current + 1 + (r.stop - r.current) / 2

/-- What a split keeps: the pages below the split point, without the remainder. -/
def kept (r : PageRange) : PageRange := { r with stop := r.splitAt - 1, remainder := 0 }

/-- What a split hands to the sibling: the pages from the split point on, with the
remainder. -/
def handedOff (r : PageRange) : PageRange :=
  { start := r.splitAt, current := r.splitAt, stop := r.stop, remainder := r.remainder }

/-- A range as the cursors of a family over the pages `0 ..= L`, with `m` rows on page `L`,
keep it: it has not read past its end, it ends within the job, and it carries the remainder
exactly when it ends at page `L`. -/
structure Fits (L m : Nat) (r : PageRange) : Prop where
  started : r.start ≤ r.current
  within : r.current ≤ r.stop
  bounded : r.stop ≤ L
  remainder : r.remainder = if r.stop = L then m else 0

variable {L m : Nat} {r : PageRange}

theorem mem_pages {p : Nat} : p ∈ r.pages ↔ r.start ≤ p ∧ p ≤ r.stop := by
  rw [pages, List.mem_range'_1]
  omega

@[simp] theorem pages_current (k : Nat) : ({ r with current := k } : PageRange).pages = r.pages :=
  rfl

/-- The kept part of a split, then the part handed off, are the pages of the range. -/
theorem pages_split (h : r.start ≤ r.current) (hlt : r.current < r.stop) :
    r.kept.pages ++ r.handedOff.pages = r.pages := by
  have hsplit : r.current < r.splitAt ∧ r.splitAt ≤ r.stop := by
    simp only [splitAt]
    omega
  have hrange := @List.range'_append_1 r.start (r.splitAt - r.start) (r.stop + 1 - r.splitAt)
  rw [show r.start + (r.splitAt - r.start) = r.splitAt by omega,
    show r.splitAt - r.start + (r.stop + 1 - r.splitAt) = r.stop + 1 - r.start by omega] at hrange
  simp only [pages, kept, handedOff]
  rw [show r.splitAt - 1 + 1 - r.start = r.splitAt - r.start by omega]
  exact hrange

/-- Moving the current page forward within the range keeps it fitting. -/
theorem Fits.move (h : r.Fits L m) {k : Nat} (hlo : r.current ≤ k) (hhi : k ≤ max r.current r.stop) :
    ({ r with current := k } : PageRange).Fits L m :=
  ⟨by have := h.started; dsimp only; omega, by have := h.within; dsimp only; omega, h.bounded,
    h.remainder⟩

/-- The part a split keeps fits, without the remainder: it ends before the split point. -/
theorem Fits.kept (h : r.Fits L m) (hlt : r.current < r.stop) : r.kept.Fits L m := by
  have hsplit : r.current < r.splitAt ∧ r.splitAt ≤ r.stop := by
    simp only [splitAt]
    omega
  have hbound := h.bounded
  have hstop : r.kept.stop = r.splitAt - 1 := rfl
  refine ⟨h.started, ?_, ?_, ?_⟩
  · rw [hstop]
    exact Nat.le_sub_one_of_lt hsplit.1
  · rw [hstop]
    omega
  · rw [if_neg (by rw [hstop]; omega)]
    rfl

/-- The part a split hands off fits, and takes the remainder with the end of the range. -/
theorem Fits.handedOff (h : r.Fits L m) (hlt : r.current < r.stop) : r.handedOff.Fits L m := by
  have hsplit : r.splitAt ≤ r.stop := by
    simp only [splitAt]
    omega
  exact ⟨le_refl _, hsplit, h.bounded, h.remainder⟩

/-- A range that fits holds page `L` once if it ends there, and not at all otherwise. -/
theorem Fits.count_last (h : r.Fits L m) : r.pages.count L = if r.stop = L then 1 else 0 := by
  have hnodup : r.pages.Nodup := List.nodup_range' ..
  have := h.started
  have := h.within
  have := h.bounded
  rw [List.Nodup.count hnodup]
  by_cases hL : r.stop = L
  · rw [if_pos (mem_pages.mpr ⟨by omega, by omega⟩), if_pos hL]
  · rw [if_neg (fun hmem => by have := mem_pages.mp hmem; omega), if_neg hL]

end PageRange

/-! ## How a cursor's range changes -/

namespace Coverage

/-- A read moves the current page of a range forward, never past the end the range had, and
keeps the rest of the range; a coverage without a range may become anything. -/
def Moves (cov cov' : Coverage) : Prop :=
  ∀ r, cov = .ranged r →
    ∃ k, cov' = .ranged { r with current := k } ∧ r.current ≤ k ∧ k ≤ max r.current r.stop

theorem Moves.refl (cov : Coverage) : cov.Moves cov :=
  fun r h => ⟨r.current, by rw [h], le_refl _, le_max_left _ _⟩

theorem Moves.trans {cov₁ cov₂ cov₃ : Coverage} (h₁ : cov₁.Moves cov₂) (h₂ : cov₂.Moves cov₃) :
    cov₁.Moves cov₃ := by
  intro r hr
  obtain ⟨k₁, hk₁, hlo₁, hhi₁⟩ := h₁ r hr
  obtain ⟨k₂, hk₂, hlo₂, hhi₂⟩ := h₂ _ hk₁
  exact ⟨k₂, hk₂, by dsimp only at hlo₂; omega, by dsimp only at hhi₂; omega⟩

/-- Moving to the next page of a range that is not used up. -/
theorem moves_next {r : PageRange} (h : r.current < r.stop) :
    (Coverage.ranged r).Moves (.ranged { r with current := r.current + 1 }) := by
  intro r' hr
  injection hr with hr
  subst hr
  exact ⟨_, rfl, Nat.le_succ _, by omega⟩

theorem moves_of_not_ranged {cov : Coverage} (h : ∀ r, cov ≠ .ranged r) (cov' : Coverage) :
    cov.Moves cov' :=
  fun r hr => absurd hr (h r)

end Coverage

namespace SplitCursor

/-- The pages a cursor's range was given; none before it starts or without a range. -/
def pages (c : SplitCursor) : List Nat := (c.range.map PageRange.pages).getD []

/-- The cursor's range ends at page `L`. -/
def endsAt (L : Nat) (c : SplitCursor) : Bool := c.range.any fun r => decide (r.stop = L)

theorem range_eq_some {c : SplitCursor} {r : PageRange} : c.range = some r ↔ c.coverage = .ranged r := by
  unfold range
  split <;> simp_all

theorem pages_of_range {c : SplitCursor} {r : PageRange} (h : c.range = some r) :
    c.pages = r.pages := by
  simp [pages, h]

theorem endsAt_of_range {c : SplitCursor} {r : PageRange} (h : c.range = some r) (L : Nat) :
    c.endsAt L = decide (r.stop = L) := by
  simp [endsAt, h]

end SplitCursor

/-! ## What session steps leave of the session -/

namespace Session

variable {s : Session} {w : World} {α : Type}

theorem holds_of_forall {x : InSession α} {Q : α → Session → World → Prop}
    (h : ∀ a s' w', Q a s' w') : x.Holds s w Q :=
  h _ _ _

/-- A fetch leaves the session as it was. -/
theorem fetch_keeps (id : String) (sel : PageSelector) :
    (Session.fetch id sel).Holds s w fun _ s' _ => s' = s := by
  unfold Session.fetch
  simp only [holds_bind, holds_get, holds_call]

/-- A ready session hands out its job and changes nothing. -/
theorem holds_ready_of_ready {job : ReadyJob} (hp : s.phase = .ready job)
    {Q : Except QueryError ReadyJob → Session → World → Prop} :
    Session.ready.Holds s w Q ↔ Q (.ok job) s w := by
  unfold Session.ready
  simp only [holds_bind, holds_get, hp, holds_pure]

/-- A failed session hands out its error and changes nothing. -/
theorem holds_ready_of_failed {e : QueryError} {id : Option String} (hp : s.phase = .failed e id)
    {Q : Except QueryError ReadyJob → Session → World → Prop} :
    Session.ready.Holds s w Q ↔ Q (.error e) s w := by
  unfold Session.ready
  simp only [holds_bind, holds_get, hp, holds_pure]

/-- Asking for the ready job never changes the number of consumers. -/
theorem ready_consumers :
    Session.ready.Holds s w fun _ s' _ => s'.consumers = s.consumers := by
  unfold Session.ready
  simp only [holds_bind, holds_get]
  split
  · rfl
  · rfl
  · simp only [holds_bind, holds_lift]
    split <;> rfl

/-- Closing a session leaves it failed for good. -/
theorem close_phase :
    Session.close.Holds s w fun _ s' _ => s'.phase = .failed QueryError.cancelled.asSessionFailure none := by
  unfold Session.close
  simp only [holds_bind, holds_modify, holds_get, holds_set]
  split
  · exact (deleteJob_follows _).mono fun _ s' _ h => by rw [h.1]
  · rfl

end Session

/-! ## What a cursor's operations do to its range -/

namespace SplitCursor

variable {s : Session} {w : World} {c : SplitCursor}

/-- Releasing the lease drops the buffered rows and nothing else. -/
theorem finish_result (c : SplitCursor) :
    c.finish.Holds s w fun c' _ _ => c' = { c with rows := [], leased := false } := by
  unfold finish
  split
  · simp only [holds_bind]
    exact Session.holds_of_forall fun _ _ _ => rfl
  · rfl

/-- Moving through pages only moves the current page of a range forward, within the range. -/
theorem advancePages_moves (fuel : Nat) :
    ∀ (c : SplitCursor) (s : Session) (w : World),
      (c.advancePages fuel).Holds s w fun out _ _ => c.coverage.Moves out.2.coverage := by
  induction fuel with
  | zero => exact fun c _ _ => Coverage.Moves.refl _
  | succ fuel ih =>
    intro c s w
    unfold advancePages
    split
    · exact Coverage.Moves.refl _
    split
    · rename_i id r hid hcov
      split
      · exact Coverage.Moves.refl _
      rename_i hmore
      -- the current page moves on before the fetch, whatever the fetch answers
      have hnext : c.coverage.Moves (.ranged { r with current := r.current + 1 }) :=
        hcov ▸ Coverage.moves_next (by omega)
      simp only [holds_bind]
      refine Session.holds_of_forall ?_
      rintro (e | page) s' w' <;> dsimp only
      · exact hnext
      · exact hnext.trans
          (ih { c with coverage := .ranged { r with current := r.current + 1 }, rows := page.rows } s' w')
    · rename_i id cursor hid hcov
      exact Coverage.moves_of_not_ranged (by simp [hcov]) _
    · exact Coverage.Moves.refl _

theorem preload_started (hc : c.coverage ≠ .pending) {Q : Except QueryError Bool × SplitCursor → Session → World → Prop} :
    c.preload.Holds s w Q ↔ (c.advancePages pageBudget).Holds s w Q := by
  unfold preload
  rw [if_neg (by simp [beq_pending_of_ne hc])]

theorem start_of_ready {job : ReadyJob} (hp : s.phase = .ready job) (c : SplitCursor)
    {Q : Except QueryError SplitCursor → Session → World → Prop} :
    c.start.Holds s w Q ↔ Q (.ok (c.startedOn job)) s w := by
  rw [start_eq, holds_bind, Session.holds_ready_of_ready hp]
  exact Iff.rfl

theorem start_of_failed {e : QueryError} {id : Option String} (hp : s.phase = .failed e id)
    (c : SplitCursor) {Q : Except QueryError SplitCursor → Session → World → Prop} :
    c.start.Holds s w Q ↔ Q (.error e) s w := by
  rw [start_eq, holds_bind, Session.holds_ready_of_failed hp]
  exact Iff.rfl

theorem preload_of_ready {job : ReadyJob} (hc : c.coverage = .pending) (hp : s.phase = .ready job)
    {Q : Except QueryError Bool × SplitCursor → Session → World → Prop} :
    c.preload.Holds s w Q ↔ ((c.startedOn job).advancePages pageBudget).Holds s w Q := by
  unfold preload
  rw [if_pos (by rw [hc]; rfl), holds_bind, start_of_ready hp]

theorem preload_of_failed {e : QueryError} {id : Option String} (hc : c.coverage = .pending)
    (hp : s.phase = .failed e id) {Q : Except QueryError Bool × SplitCursor → Session → World → Prop} :
    c.preload.Holds s w Q ↔ Q (.error e, c) s w := by
  unfold preload
  rw [if_pos (by rw [hc]; rfl), holds_bind, start_of_failed hp]
  exact Iff.rfl

/-- A read leaves its cursor with the coverage that making a row available left it: it then
hands out a buffered row, or releases the lease. -/
theorem next_coverage {P : Coverage → Prop} (hl : c.leased = true)
    (h : c.preload.Holds s w fun out _ _ => P out.2.coverage) :
    c.next.Holds s w fun out _ _ => P out.2.coverage := by
  unfold next
  rw [if_neg (by simp [finished, hl]), holds_bind]
  refine h.mono ?_
  rintro ⟨r, c₁⟩ s₁ w₁ hP
  rcases r with e | (_ | _) <;> dsimp only at hP ⊢
  · simp only [holds_bind, Session.holds_recordError]
    exact (finish_result _).mono fun c' _ _ h => by rw [h]; exact hP
  · simp only [holds_bind]
    exact (finish_result _).mono fun c' _ _ h => by rw [h]; exact hP
  · split <;> exact hP

/-- A read of a started cursor only moves its current page forward, within its range. -/
theorem next_moves (hc : c.coverage ≠ .pending) :
    c.next.Holds s w fun out _ _ => c.coverage.Moves out.2.coverage := by
  cases hl : c.leased with
  | false =>
    rw [next_released hl, holds_pure]
    exact Coverage.Moves.refl _
  | true => exact next_coverage hl ((preload_started hc).mpr (advancePages_moves _ c s w))

/-- The first read of a root whose session serves `job` starts it on `job`, then moves forward
within the range that gives. -/
theorem next_moves_of_ready {job : ReadyJob} (hc : c.coverage = .pending) (hl : c.leased = true)
    (hp : s.phase = .ready job) :
    c.next.Holds s w fun out _ _ => (c.startedOn job).coverage.Moves out.2.coverage :=
  next_coverage hl ((preload_of_ready hc hp).mpr (advancePages_moves _ _ s w))

/-- A root whose session has failed stays unstarted, and a read releases it. -/
theorem next_of_failed {e : QueryError} {id : Option String} (hc : c.coverage = .pending)
    (hp : s.phase = .failed e id) :
    c.next.Holds s w fun out _ _ => out.2.coverage = .pending ∧ out.2.leased = false := by
  cases hl : c.leased with
  | false =>
    rw [next_released hl, holds_pure]
    exact ⟨hc, hl⟩
  | true =>
    unfold next
    rw [if_neg (by simp [finished, hl]), holds_bind, preload_of_failed hc hp]
    simp only [holds_bind, Session.holds_recordError]
    exact (finish_result _).mono fun c' _ _ h => by rw [h]; exact ⟨hc, rfl⟩

/-- Splitting a started cursor declines and changes nothing, or cuts its range at the split
point: the cursor keeps the pages below it and the sibling, which holds a lease, takes the rest
with the remainder. Only a split that hands out a sibling attaches a consumer, exactly one. -/
theorem splitStarted_ranges (c : SplitCursor) :
    c.splitStarted.Holds s w fun out s' _ =>
      (out.1 = none ∧ out.2 = c ∧ s'.consumers = s.consumers) ∨
      (∃ r x, c.coverage = .ranged r ∧ r.current < r.stop ∧ out.1 = some x ∧
        out.2 = { c with coverage := .ranged r.kept } ∧ x.coverage = .ranged r.handedOff ∧
        x.leased = true ∧ s'.consumers = s.consumers + 1) := by
  unfold splitStarted
  split
  · rename_i r id hcov hid
    split
    · exact Or.inl ⟨rfl, rfl, rfl⟩
    rename_i hmore
    simp only [holds_bind]
    refine (Session.fetch_keeps id _).mono ?_
    rintro (e | page) s' w' rfl <;> dsimp only
    · exact Or.inl ⟨rfl, rfl, rfl⟩
    · exact Or.inr ⟨r, _, hcov, by omega, rfl, rfl, rfl, rfl, rfl⟩
  · exact Or.inl ⟨rfl, rfl, rfl⟩

theorem trySplit_started (hc : c.coverage ≠ .pending) (hl : c.leased = true)
    {Q : Option SplitCursor × SplitCursor → Session → World → Prop} :
    c.trySplit.Holds s w Q ↔ c.splitStarted.Holds s w Q := by
  rw [trySplit_eq, if_neg (by simp [finished, hl]), holds_bind,
    if_neg (by simp [beq_pending_of_ne hc]), holds_pure]

theorem trySplit_of_ready {job : ReadyJob} (hc : c.coverage = .pending) (hl : c.leased = true)
    (hp : s.phase = .ready job) {Q : Option SplitCursor × SplitCursor → Session → World → Prop} :
    c.trySplit.Holds s w Q ↔ (c.startedOn job).splitStarted.Holds s w Q := by
  rw [trySplit_eq, if_neg (by simp [finished, hl]), holds_bind, if_pos (by rw [hc]; rfl),
    start_of_ready hp]

theorem trySplit_of_failed {e : QueryError} {id : Option String} (hc : c.coverage = .pending)
    (hl : c.leased = true) (hp : s.phase = .failed e id)
    {Q : Option SplitCursor × SplitCursor → Session → World → Prop} :
    c.trySplit.Holds s w Q ↔ Q (none, c) { s with lastError := some e } w := by
  rw [trySplit_eq, if_neg (by simp [finished, hl]), holds_bind, if_pos (by rw [hc]; rfl),
    start_of_failed hp]
  exact Iff.rfl

/-- A split that hands out a sibling attaches exactly one consumer to the session, and a split
that declines attaches none, whatever the cursor, the session and the service. -/
theorem trySplit_consumers (c : SplitCursor) :
    c.trySplit.Holds s w fun out s' _ =>
      s'.consumers = s.consumers + if out.1.isSome then 1 else 0 := by
  rw [trySplit_eq]
  split
  · rfl
  rw [holds_bind]
  -- starting first, if needed, attaches nobody
  have hstarted : (if c.coverage == .pending then c.start else pure (.ok c)).Holds s w
      fun _ s₁ _ => s₁.consumers = s.consumers := by
    split
    · rw [start_eq, holds_bind]
      exact Session.ready_consumers.mono fun r s₁ w₁ h => by
        rcases r with e | job <;> exact h
    · rfl
  refine hstarted.mono ?_
  rintro (e | c₁) s₁ w₁ h₁ <;> dsimp only
  · simp only [holds_bind, Session.holds_recordError, holds_pure]
    simpa using h₁
  · refine (splitStarted_ranges c₁).mono ?_
    rintro out s' w' (⟨hnone, -, hs'⟩ | ⟨r, x, -, -, hsome, -, -, -, hs'⟩)
    · simp [hnone, hs', h₁]
    · simp [hsome, hs', h₁]

end SplitCursor

/-! ## Families that divide the pages -/

namespace Family

variable {L m : Nat}

/-- The cursors divide the pages `0 ..= L` among them: each has a range that fits, and their
pages together are the pages `0 ..= L`, each once. -/
structure Partitioned (L m : Nat) (cs : List SplitCursor) : Prop where
  fits : ∀ c ∈ cs, ∃ r, c.range = some r ∧ r.Fits L m
  pages : cs.flatMap SplitCursor.pages ~ List.range (L + 1)

/-- The root has not started: it is alone, and while it holds its lease its session still
serves `job`, or has failed for good. -/
def Unstarted (job : ReadyJob) (cs : List SplitCursor) (s : Session) : Prop :=
  ∃ c, cs = [c] ∧ c.coverage = .pending ∧
    (c.leased = true → s.phase = .ready job ∨ ∃ e id, s.phase = .failed e id)

variable {cs : List SplitCursor} {i : Nat} {c c' : SplitCursor}

/-- A root started on a job with layout `l` alone divides the pages of the layout, its current
page anywhere in the range. -/
theorem partitioned_root {job : ReadyJob} {l : PageLayout} (hl : job.layout = some l) :
    Partitioned l.lastPage l.remainder [c.startedOn job] := by
  have hr : (c.startedOn job).range =
      some { start := 0, current := 0, stop := l.lastPage, remainder := l.remainder } := by
    simp [SplitCursor.startedOn, SplitCursor.range, hl]
  refine ⟨?_, ?_⟩
  · intro d hd
    rw [List.mem_singleton.mp hd]
    exact ⟨_, hr, le_refl _, Nat.zero_le _, le_refl _, by simp⟩
  · simp [SplitCursor.pages_of_range hr, PageRange.pages, List.range_eq_range']

/-- Moving the current page of one cursor keeps the pages divided. -/
theorem Partitioned.set_moves (h : Partitioned L m cs) (hc : cs[i]? = some c)
    (hmove : c.coverage.Moves c'.coverage) : Partitioned L m (cs.set i c') := by
  obtain ⟨r, hr, hfits⟩ := h.fits c (List.mem_of_getElem? hc)
  obtain ⟨k, hk, hlo, hhi⟩ := hmove r (SplitCursor.range_eq_some.mp hr)
  have hr' : c'.range = some { r with current := k } := SplitCursor.range_eq_some.mpr hk
  refine ⟨fun d hd => ?_, ?_⟩
  · rcases List.mem_or_eq_of_mem_set hd with hd | rfl
    · exact h.fits d hd
    · exact ⟨_, hr', hfits.move hlo hhi⟩
  · -- the cursor's pages are those of its range, which keeps its ends
    obtain ⟨A, B, hold, hnew⟩ := flatMap_set hc c' SplitCursor.pages
    rw [hnew, SplitCursor.pages_of_range hr', PageRange.pages_current, ← SplitCursor.pages_of_range hr,
      ← hold]
    exact h.pages

/-- Cutting one cursor's range into what it keeps and what a new sibling takes keeps the pages
divided. -/
theorem Partitioned.split (h : Partitioned L m cs) (hc : cs[i]? = some c) {r : PageRange}
    (hr : c.range = some r) (hlt : r.current < r.stop) (hc' : c'.range = some r.kept)
    {x : SplitCursor} (hx : x.range = some r.handedOff) : Partitioned L m (cs.set i c' ++ [x]) := by
  obtain ⟨r₀, hr₀, hfits⟩ := h.fits c (List.mem_of_getElem? hc)
  obtain rfl : r₀ = r := Option.some.inj (hr₀.symm.trans hr)
  refine ⟨fun d hd => ?_, ?_⟩
  · rcases List.mem_append.mp hd with hd | hd
    · rcases List.mem_or_eq_of_mem_set hd with hd | rfl
      · exact h.fits d hd
      · exact ⟨_, hc', hfits.kept hlt⟩
    · rw [List.mem_singleton.mp hd]
      exact ⟨_, hx, hfits.handedOff hlt⟩
  · -- the sibling's pages move next to the kept ones, and together they are the range's
    obtain ⟨A, B, hold, hnew⟩ := flatMap_set hc c' SplitCursor.pages
    have hsplit := PageRange.pages_split hfits.started hlt
    rw [List.flatMap_append, hnew, List.flatMap_singleton, SplitCursor.pages_of_range hc',
      SplitCursor.pages_of_range hx]
    refine List.Perm.trans ?_ h.pages
    rw [hold, SplitCursor.pages_of_range hr, ← hsplit]
    simp only [List.append_assoc]
    exact ((List.perm_append_comm.append_left _).append_left _)

/-- In a family that divides the pages, exactly one cursor ends at the last page. -/
theorem Partitioned.countP_endsAt (h : Partitioned L m cs) :
    cs.countP (SplitCursor.endsAt L) = 1 := by
  -- each cursor holds page `L` once if it ends there and not at all otherwise
  have hcount : ∀ ds : List SplitCursor, (∀ d ∈ ds, ∃ r, d.range = some r ∧ r.Fits L m) →
      (ds.flatMap SplitCursor.pages).count L = ds.countP (SplitCursor.endsAt L) := by
    intro ds hds
    induction ds with
    | nil => rfl
    | cons d ds ih =>
      obtain ⟨r, hr, hfits⟩ := hds d (by simp)
      rw [List.flatMap_cons, List.count_append, List.countP_cons, SplitCursor.pages_of_range hr,
        hfits.count_last, SplitCursor.endsAt_of_range hr, ih fun e he => hds e (by simp [he])]
      by_cases hL : r.stop = L <;> simp [hL, Nat.add_comm]
  rw [← hcount cs h.fits, h.pages.count_eq, List.count_eq_one_of_mem List.nodup_range
    (List.mem_range.mpr (Nat.lt_succ_self L))]

variable {s : Session} {w : World}

/-- Every operation keeps the pages divided. -/
theorem step_partitioned {F : Family} (h : Partitioned L m F.cursors) (op : FamilyOp) :
    (F.step op).Holds s w fun F' _ _ => Partitioned L m F'.cursors := by
  cases op with
  | next i =>
    rcases hc : F.cursors[i]? with _ | c
    · exact (holds_step_missing hc).1.mpr h
    rw [holds_step_next hc]
    obtain ⟨r, hr, -⟩ := h.fits c (List.mem_of_getElem? hc)
    have hstarted : c.coverage ≠ .pending := by simp [SplitCursor.range_eq_some.mp hr]
    exact (SplitCursor.next_moves hstarted).mono fun out _ _ hmove => h.set_moves hc hmove
  | split i =>
    rcases hc : F.cursors[i]? with _ | c
    · exact (holds_step_missing hc).2.1.mpr h
    rw [holds_step_split hc]
    cases hl : c.leased with
    | false =>
      rw [SplitCursor.trySplit_released hl, holds_pure]
      simpa [set_self_of_getElem? hc] using h
    | true =>
      obtain ⟨r, hr, -⟩ := h.fits c (List.mem_of_getElem? hc)
      have hstarted : c.coverage ≠ .pending := by simp [SplitCursor.range_eq_some.mp hr]
      rw [SplitCursor.trySplit_started hstarted hl]
      refine (SplitCursor.splitStarted_ranges c).mono ?_
      rintro ⟨sib, c'⟩ _ _ (⟨rfl, rfl, -⟩ | ⟨r', x, hcov, hlt, rfl, rfl, hx, -, -⟩)
      · simpa [set_self_of_getElem? hc] using h
      · obtain rfl : r' = r := by
          rw [SplitCursor.range_eq_some.mp hr] at hcov
          exact (Coverage.ranged.inj hcov).symm
        exact h.split hc hr hlt (SplitCursor.range_eq_some.mpr rfl)
          (SplitCursor.range_eq_some.mpr hx)
  | close i =>
    rcases hc : F.cursors[i]? with _ | c
    · exact (holds_step_missing hc).2.2.mpr h
    rw [holds_step_close hc]
    exact (SplitCursor.finish_result c).mono fun c' _ _ hc' =>
      h.set_moves hc (by rw [hc']; exact Coverage.Moves.refl _)
  | cancel =>
    simp only [step, holds_bind, Session.holds_cancel, holds_pure]
    exact h
  | closeSession =>
    simp only [step, holds_bind]
    exact Session.holds_of_forall fun _ _ _ => h

theorem eq_zero_of_singleton {α : Type} {a b : α} {i : Nat} (h : [a][i]? = some b) :
    i = 0 ∧ b = a := by
  cases i with
  | zero => exact ⟨rfl, (Option.some.inj h).symm⟩
  | succ i => simp at h

/-- Until the root starts, every operation leaves it unstarted, or starts it on the job its
session serves, which divides the pages of the job's layout. -/
theorem step_unstarted {job : ReadyJob} {l : PageLayout} (hl : job.layout = some l) {F : Family}
    (h : Unstarted job F.cursors s) (op : FamilyOp) :
    (F.step op).Holds s w fun F' s' _ =>
      Unstarted job F'.cursors s' ∨ Partitioned l.lastPage l.remainder F'.cursors := by
  obtain ⟨c, hcs, hpend, hphase⟩ := h
  -- the root, once started, divides the pages alone
  have hroot : Partitioned l.lastPage l.remainder [c.startedOn job] := partitioned_root hl
  cases op with
  | next i =>
    rcases hc : F.cursors[i]? with _ | d
    · exact (holds_step_missing hc).1.mpr (Or.inl ⟨c, hcs, hpend, hphase⟩)
    rw [hcs] at hc
    obtain ⟨rfl, rfl⟩ := eq_zero_of_singleton hc
    rw [holds_step_next (by rw [hcs]; rfl), hcs]
    cases hleased : d.leased with
    | false =>
      rw [SplitCursor.next_released hleased, holds_pure]
      exact Or.inl ⟨d, rfl, hpend, fun h => absurd h (by simp [hleased])⟩
    | true =>
      rcases hphase hleased with hready | ⟨e, id, hfailed⟩
      · refine (SplitCursor.next_moves_of_ready hpend hleased hready).mono fun out _ _ hmove => ?_
        exact Or.inr (hroot.set_moves (i := 0) rfl hmove)
      · refine (SplitCursor.next_of_failed hpend hfailed).mono ?_
        rintro out _ _ ⟨hpend', hleased'⟩
        exact Or.inl ⟨out.2, rfl, hpend', fun h => absurd h (by simp [hleased'])⟩
  | split i =>
    rcases hc : F.cursors[i]? with _ | d
    · exact (holds_step_missing hc).2.1.mpr (Or.inl ⟨c, hcs, hpend, hphase⟩)
    rw [hcs] at hc
    obtain ⟨rfl, rfl⟩ := eq_zero_of_singleton hc
    rw [holds_step_split (by rw [hcs]; rfl), hcs]
    cases hleased : d.leased with
    | false =>
      rw [SplitCursor.trySplit_released hleased, holds_pure]
      exact Or.inl ⟨d, rfl, hpend, fun h => absurd h (by simp [hleased])⟩
    | true =>
      rcases hphase hleased with hready | ⟨e, id, hfailed⟩
      · rw [SplitCursor.trySplit_of_ready hpend hleased hready]
        refine (SplitCursor.splitStarted_ranges _).mono ?_
        rintro ⟨sib, c'⟩ _ _ (⟨rfl, rfl, -⟩ | ⟨r, x, hcov, hlt, rfl, rfl, hx, -, -⟩)
        · exact Or.inr (by simpa using hroot)
        · have hsplit := hroot.split (i := 0) rfl (SplitCursor.range_eq_some.mpr hcov) hlt
            ((SplitCursor.range_eq_some (c := { d.startedOn job with coverage := .ranged r.kept })).mpr
              rfl) (SplitCursor.range_eq_some.mpr hx)
          exact Or.inr (by simpa using hsplit)
      · rw [SplitCursor.trySplit_of_failed hpend hleased hfailed]
        exact Or.inl ⟨d, rfl, hpend, fun _ => Or.inr ⟨e, id, hfailed⟩⟩
  | close i =>
    rcases hc : F.cursors[i]? with _ | d
    · exact (holds_step_missing hc).2.2.mpr (Or.inl ⟨c, hcs, hpend, hphase⟩)
    rw [hcs] at hc
    obtain ⟨rfl, rfl⟩ := eq_zero_of_singleton hc
    rw [holds_step_close (by rw [hcs]; rfl), hcs]
    refine (SplitCursor.finish_result d).mono fun c' _ _ hc' => ?_
    exact Or.inl ⟨c', rfl, by rw [hc']; exact hpend, fun h => absurd h (by simp [hc'])⟩
  | cancel =>
    simp only [step, holds_bind, Session.holds_cancel, holds_pure]
    exact Or.inl ⟨c, hcs, hpend, hphase⟩
  | closeSession =>
    simp only [step, holds_bind]
    refine Session.close_phase.mono fun _ s' _ hs' => ?_
    exact Or.inl ⟨c, hcs, hpend, fun _ => Or.inr ⟨_, _, hs'⟩⟩

/-- A family of split cursors opened on a ready session divides the pages of its job. Take a
session that serves a job whose layout has last page `L` and `m` rows on it, open a root split
cursor on it and run any operations on the root and on every cursor split from it, whatever
the service answers. Then either the root has not started and is alone, or:

* every cursor has a range `start ..= stop` with `start ≤ current ≤ stop` (so its size estimate
  never takes `stop - current` below zero) and `stop ≤ L`;
* the pages of the cursors, finished ones included, are the pages `0 ..= L`, each once;
* exactly one cursor ends at page `L`; it carries the remainder `m`, every other cursor 0.

Moreover a split of any cursor, on any session, attaches exactly one consumer when it hands out
a sibling and none when it declines. -/
theorem drive_pages_partitioned {s : Session} {job : ReadyJob} {l : PageLayout}
    (hready : s.phase = .ready job) (hl : job.layout = some l) (w : World) (ops : List FamilyOp) :
    (drive ops).Holds s w (fun F _ _ =>
      (∃ c, F.cursors = [c] ∧ c.coverage = .pending) ∨
      (Partitioned l.lastPage l.remainder F.cursors ∧
        F.cursors.countP (SplitCursor.endsAt l.lastPage) = 1)) ∧
    ∀ (c : SplitCursor) (s' : Session) (w' : World), c.trySplit.Holds s' w' fun out s'' _ =>
      s''.consumers = s'.consumers + if out.1.isSome then 1 else 0 := by
  refine ⟨?_, fun c s' w' => SplitCursor.trySplit_consumers c⟩
  rw [drive, holds_bind, Session.holds_attach]
  have hrun := run_invariant
    (fun F s _ => Unstarted job F.cursors s ∨ Partitioned l.lastPage l.remainder F.cursors)
    (fun _ => True)
    (fun F s w op _ hF => hF.elim (fun hu => step_unstarted hl hu op)
      (fun hp => (step_partitioned hp op).mono fun _ _ _ h => Or.inr h))
    ops root { s with consumers := s.consumers + 1 } w (fun _ _ => trivial) (Or.inl ⟨{}, rfl, rfl, fun _ => Or.inl hready⟩)
  refine hrun.mono ?_
  rintro F _ _ (⟨c, hcs, hpend, -⟩ | hp)
  · exact Or.inl ⟨c, hcs, hpend⟩
  · exact Or.inr ⟨hp, hp.countP_endsAt⟩

/-- A ready job of 1015 rows in pages of 100 (ten full pages, 15 rows on page 10): the root
splits, the sibling reads, the root splits again and the newest sibling is closed. -/
theorem drive_pages_partitioned_1015 :
    ({ params := { query := "SELECT 1" }, config := { pageSize := 100 }, service := {},
       phase := .ready { jobId := "j", firstPage := { rows := [] },
                         layout := some (PageLayout.make 1015 100) } } : Session).phase =
      .ready { jobId := "j", firstPage := { rows := [] }, layout := some (PageLayout.make 1015 100) } ∧
    ({ jobId := "j", firstPage := { rows := [] }, layout := some (PageLayout.make 1015 100) } :
      ReadyJob).layout = some (PageLayout.make 1015 100) ∧
    ((drive [.split 0, .next 1, .split 0, .close 2]).Holds
      { params := { query := "SELECT 1" }, config := { pageSize := 100 }, service := {},
        phase := .ready { jobId := "j", firstPage := { rows := [] },
                          layout := some (PageLayout.make 1015 100) } }
      { backend := .fake { behavior := { rows := 1015 } } } (fun F _ _ =>
        (∃ c, F.cursors = [c] ∧ c.coverage = .pending) ∨
        (Partitioned (PageLayout.make 1015 100).lastPage (PageLayout.make 1015 100).remainder
            F.cursors ∧
          F.cursors.countP (SplitCursor.endsAt (PageLayout.make 1015 100).lastPage) = 1)) ∧
      ∀ (c : SplitCursor) (s' : Session) (w' : World), c.trySplit.Holds s' w' fun out s'' _ =>
        s''.consumers = s'.consumers + if out.1.isSome then 1 else 0) :=
  ⟨rfl, rfl, drive_pages_partitioned rfl rfl _ _⟩

end Family

end JobQuery
