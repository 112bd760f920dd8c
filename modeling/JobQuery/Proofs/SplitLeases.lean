import JobQuery.Proofs.SplitPages

/-!
# JobQuery — the leases of split cursors over a service that breaks a page

A family of split cursors reads one job of the in-memory service, which may refuse a page or
serve it without data. Whatever it does, the family's cursors hold the session's leases one
each, and the session stands in one of four places (`Family.Standing`): before its start,
reading the job, after a start that failed at page 0 with the job still kept for deletion, or
with every lease released and the job deleted exactly once.

Each operation of one cursor moves the family between these places and says what it did to the
rows the cursor has still to hand out:

* a read hands out the first of them, finds there are none left and releases the lease, or
  fails and releases the lease (`SplitCursor.next_counted`);
* a split keeps them, or divides them between the cursor and a sibling that holds a lease of
  its own, with one split fewer left to make (`SplitCursor.trySplit_counted`).

The release that takes the last lease deletes the job, with the one delete the service counts
(`Session.deleteJob_dropped`).
-/

namespace JobQuery

open InSession

/-! ## Deleting the job -/

namespace FakeService

/-- Deleting a job the service keeps forgets it and counts one delete more. -/
theorem delete_found {s : FakeService} {J : String} (h : (s.find? J).isSome) :
    (s.delete J).2.find? J = none ∧ (s.delete J).2.calls.deletes = s.calls.deletes + 1 := by
  obtain ⟨job, hjob⟩ := Option.isSome_iff_exists.mp h
  have hfind : ({ s with calls := { s.calls with deletes := s.calls.deletes + 1 } } :
      FakeService).find? J = some job := hjob
  simp only [delete, hfind]
  simp [find?, List.find?_filter]

end FakeService

/-- A delete of a job named by a non-empty id reaches the in-memory service, whatever it answers. -/
theorem QueryService.deleteJob_fake {w : World} {fs : FakeService} (svc : QueryService) {J : String}
    (hw : w.backend = .fake fs) (hJ : J ≠ "") :
    ((svc.deleteJob J).run.run w).2.backend = .fake (fs.delete J).2 := by
  have hh := FakeService.handle_delete fs J svc.credential
  have hJ' : J.isEmpty = false := by simpa [String.isEmpty_iff] using hJ
  rcases hd : fs.delete J with ⟨resp, fs'⟩
  rw [hd] at hh
  simp only [QueryService.deleteJob, QueryService.checked, QueryService.jobRequest, hJ',
    Bool.false_eq_true, if_false, Call.run_bind, Call.run_pure, QueryService.call,
    World.send_fake hh hw]
  -- the answer is decoded or refused; either way nothing more is sent
  rcases resp.intoSuccess with e | body
  · rfl
  · simp only [Call.run_pure]
    unfold QueryService.expect
    split <;> rfl

/-- The in-memory service has dropped job `J`: it no longer knows it, and it has received one
delete. -/
def World.Dropped (J : String) (w : World) : Prop :=
  ∃ fs, w.backend = .fake fs ∧ fs.find? J = none ∧ fs.calls.deletes = 1

namespace Session

variable {b : Behavior} {P : Nat} {J : String} {s : Session} {w : World}

/-- Deleting job `J`, which the service keeps and before which it deleted nothing, drops it with
one delete. -/
theorem deleteJob_dropped (hk : w.Knows b J) (hd : w.Deletes 0) (hJ : J ≠ "") :
    (Session.deleteJob J).Holds s w fun _ s' w' => s' = s ∧ w'.Dropped J := by
  obtain ⟨fs, hfs, -, hfound⟩ := hk
  obtain ⟨fs₀, hfs₀, hzero⟩ := hd
  rw [hfs] at hfs₀
  cases hfs₀
  obtain ⟨hgone, hcount⟩ := FakeService.delete_found hfound
  unfold Session.deleteJob
  simp only [holds_bind, holds_get, holds_lift]
  refine ⟨trivial, (fs.delete J).2, ?_, hgone, by rw [hcount, hzero]⟩
  exact QueryService.deleteJob_fake s.service hfs hJ

/-- A live session fetches any page that starts within the rows as the service answers it; it
stays live, and the fetch deletes nothing. -/
theorem fetch_counted (hb : b.Paged P) (h : s.Live b P J w) {n k : Nat} (hd : w.Deletes k)
    {sel : PageSelector} (hsel : sel.Reads n) (hn : n * P ≤ b.rows) :
    (Session.fetch J sel).Holds s w fun r s' w' =>
      r = b.served P n sel J ∧ s' = s ∧ s.Live b P J w' ∧ w'.Deletes k := by
  obtain ⟨fs, hfs, hbeh, hknown⟩ := h.knows
  obtain ⟨job, hjob⟩ := Option.isSome_iff_exists.mp hknown
  obtain ⟨fs₀, hfs₀, hk⟩ := hd
  rw [hfs] at hfs₀
  cases hfs₀
  subst hbeh
  unfold Session.fetch
  simp only [holds_bind, holds_get, holds_call, h.running, h.pageSize]
  obtain ⟨q, hq⟩ := @fetchPage_reached w fs s.service _ _ _ _ hfs hsel h.named _ hjob hb.pos
    hb.size_lt hb.rows_lt (fs.behavior.pageFits_of_le hb.pos hb.fits hn)
  rw [hq]
  exact ⟨rfl, trivial, ⟨h.pageSize, h.running, h.ready, h.named, fs.countResults, rfl, rfl,
    by rw [FakeService.find?_countResults, hjob]; rfl⟩, fs.countResults, rfl, hk⟩

end Session

/-! ## One cursor on a live session -/

namespace SplitCursor

variable {b : Behavior} {P : Nat} {J : String}

/-- A cursor that has not started: no range yet and no buffered rows. -/
structure Unstarted (c : SplitCursor) : Prop where
  pending : c.coverage = .pending
  empty : c.rows = []

variable (b P) in
/-- How many more splits a cursor can make: one per page after the current one of its range;
before its start, as many as any range of the job allows; none for a chain of page cursors. -/
def splits (c : SplitCursor) : Nat :=
  match c.coverage with
  | .pending => b.rows / P
  | .ranged r => r.stop - r.current
  | .chained _ => 0

/-- A cursor that has not started has every row still to hand out. -/
theorem Unstarted.unread_eq {c : SplitCursor} (h : c.Unstarted) : c.unread b P = b.allRows := by
  simp [SplitCursor.unread, h.pending, h.empty, Coverage.unfetched]

/-- A started cursor can make no more splits than a cursor that has not started. -/
theorem Reading.splits_le {c : SplitCursor} (h : c.Reading b P J) : c.splits b P ≤ b.rows / P := by
  have hsound := h.sound
  unfold splits
  split
  · exact le_rfl
  · rename_i r hcov
    rw [hcov] at hsound
    exact le_trans (Nat.sub_le _ _) hsound.2
  · exact Nat.zero_le _

section Live

variable {s : Session} {w : World} {k : Nat}

/-- Moving through the pages of a cursor that reads a live job: it finds rows at the front of
what it has to hand out, finds nothing is left, or meets a page the service breaks. Two steps
are always enough, as only the page right after the last full page can be empty. -/
theorem advancePages_counted (hb : b.Paged P) (h : s.Live b P J w) (hd : w.Deletes k)
    {c : SplitCursor} (hc : c.Reading b P J) (fuel : Nat) :
    (c.advancePages (fuel + 2)).Holds s w fun out s' w' =>
      s' = s ∧ s.Live b P J w' ∧ w'.Deletes k ∧ out.2.Reading b P J ∧
        out.2.leased = c.leased ∧ out.2.error = c.error ∧
        ((out.1 = .ok true ∧ out.2.rows ≠ [] ∧ out.2.unread b P = c.unread b P) ∨
          (out.1 = .ok false ∧ c.unread b P = []) ∨ (∃ e, out.1 = .error e)) := by
  unfold advancePages
  split
  · rename_i hfull
    exact ⟨rfl, h, hd, hc, rfl, rfl, Or.inl ⟨rfl, by simpa using hfull, rfl⟩⟩
  rename_i hempty
  have hrows : c.rows = [] := by simpa using hempty
  split
  · -- a range
    rename_i id r hid hcov
    have hJ : id = J := Option.some.inj (hid.symm.trans hc.job)
    subst hJ
    have hsound := hc.sound
    rw [hcov] at hsound
    split
    · -- used up: nothing is left
      rename_i hend
      refine ⟨rfl, h, hd, hc, rfl, rfl, Or.inr (Or.inl ⟨rfl, ?_⟩)⟩
      simp only [unread, hrows, hcov, List.nil_append, Coverage.unfetched]
      exact FakeService.rowsBetween_of_le (b.pageStart_mono (by omega))
    rename_i hmore
    have hnext : (r.current + 1) * P ≤ b.rows :=
      (Nat.le_div_iff_mul_le hb.pos).mp (by simp only [Coverage.Sound] at hsound; omega)
    have hsel : (PageSelector.number (r.current + 1)).Reads (r.current + 1) :=
      .number (lt_of_le_of_lt (le_trans (Nat.le_mul_of_pos_right _ hb.pos) hnext) hb.rows_lt)
    simp only [holds_bind]
    refine (Session.fetch_counted hb h hd hsel hnext).mono ?_
    rintro _ s' w' ⟨rfl, rfl, hw', hd'⟩
    -- the cursor has moved to page `current + 1`, which is what the range had to fetch next
    have hread : ({ c with coverage := .ranged { r with current := r.current + 1 } } :
        SplitCursor).Reading b P id := ⟨hc.job, by simp, hsound⟩
    by_cases hbreak : b.Breaks (r.current + 1)
    · simp only [Behavior.served, hbreak, if_true]
      exact ⟨rfl, hw', hd', hread, rfl, rfl, Or.inr (Or.inr ⟨_, rfl⟩)⟩
    simp only [Behavior.served, hbreak, if_false]
    generalize hc₃ : ({ c with coverage := .ranged { r with current := r.current + 1 },
                               rows := (b.page P (r.current + 1)).rows } : SplitCursor) = c₃
    have hrows₃ : c₃.rows = (b.page P (r.current + 1)).rows := by rw [← hc₃]
    have hcov₃ : c₃.coverage = .ranged { r with current := r.current + 1 } := by rw [← hc₃]
    have hunread : c₃.unread b P = c.unread b P := by
      rw [← hc₃]
      simp only [unread, hrows, hcov, List.nil_append]
      exact Coverage.next_ranged r (by omega)
    have hread₃ : c₃.Reading b P id := by
      rw [← hc₃]
      exact ⟨hc.job, by simp, hsound⟩
    have hleased : c₃.leased = c.leased := by rw [← hc₃]
    have herror : c₃.error = c.error := by rw [← hc₃]
    by_cases hfilled : c₃.rows = []
    · -- an empty page is the page after the last full one, which ends the range
      have hlast : r.stop ≤ r.current + 1 := by
        have hmul := b.page_rows_eq_nil hb.pos (hrows₃ ▸ hfilled)
        simp only [Coverage.Sound] at hsound
        have hdiv : b.rows / P ≤ r.current + 1 :=
          Nat.div_le_of_le_mul (by rw [Nat.mul_comm]; exact hmul)
        omega
      have hnothing : c.unread b P = [] := by
        rw [← hunread]
        simp only [unread, hfilled, hcov₃, List.nil_append, Coverage.unfetched]
        exact FakeService.rowsBetween_of_le (b.pageStart_mono (by omega))
      rw [SplitCursor.advancePages_ranged_end hfilled hcov₃ hread₃.job hlast]
      exact ⟨rfl, hw', hd', hread₃, hleased, herror, Or.inr (Or.inl ⟨rfl, hnothing⟩)⟩
    · rw [SplitCursor.advancePages_filled hfilled]
      exact ⟨rfl, hw', hd', hread₃, hleased, herror, Or.inl ⟨rfl, hfilled, hunread⟩⟩
  · -- a chain: the page the cursor names holds rows
    rename_i id cursor hid hcov
    have hJ : id = J := Option.some.inj (hid.symm.trans hc.job)
    subst hJ
    have hsound := hc.sound
    rw [hcov] at hsound
    obtain ⟨n, hn, hnrows⟩ := hsound
    have hfits : b.PageFits P n := b.pageFits_of_le hb.pos hb.fits (Nat.le_of_lt hnrows)
    simp only [holds_bind]
    refine (Session.fetch_counted hb h hd (.cursor hn) (Nat.le_of_lt hnrows)).mono ?_
    rintro _ s' w' ⟨rfl, rfl, hw', hd'⟩
    by_cases hbreak : b.Breaks n
    · simp only [Behavior.served, hbreak, if_true]
      exact ⟨rfl, hw', hd', ⟨hc.job, by simp, trivial⟩, rfl, rfl, Or.inr (Or.inr ⟨_, rfl⟩)⟩
    simp only [Behavior.served, hbreak, if_false]
    generalize hc₃ : ({ c with rows := (b.page P n).rows,
                               coverage := .chained (b.page P n).nextCursor } : SplitCursor) = c₃
    have hfilled : c₃.rows ≠ [] := fun hnil =>
      absurd (b.page_rows_eq_nil hb.pos (by rw [← hnil, ← hc₃])) (Nat.not_le.mpr hnrows)
    have hunread : c₃.unread b P = c.unread b P := by
      rw [← hc₃]
      simp only [unread, hrows, hcov, List.nil_append]
      rw [Coverage.page_chained hfits]
      simp only [Coverage.unfetched, hn]
    have hread : c₃.Reading b P id := by
      rw [← hc₃]
      exact ⟨hc.job, by simp, Coverage.sound_chained hfits⟩
    have hleased : c₃.leased = c.leased := by rw [← hc₃]
    have herror : c₃.error = c.error := by rw [← hc₃]
    rw [SplitCursor.advancePages_filled hfilled]
    exact ⟨rfl, hw', hd', hread, hleased, herror, Or.inl ⟨rfl, hfilled, hunread⟩⟩
  · -- a chain with no next page: nothing is left
    rename_i hnotRanged hnotChained
    refine ⟨rfl, h, hd, hc, rfl, rfl, Or.inr (Or.inl ⟨rfl, ?_⟩)⟩
    rcases hcov : c.coverage with _ | r | _ | cursor
    · exact absurd hcov hc.started
    · exact (hnotRanged J r hc.job hcov).elim
    · simp [unread, hrows, hcov, Coverage.unfetched]
    · exact (hnotChained J cursor hc.job hcov).elim

/-- Splitting a cursor that reads a live job: it declines and keeps everything, or divides what
the cursor has to hand out between it and a sibling that reads the same job and holds a lease of
its own, with one split fewer left between them; only a range is ever split. A split page the
service breaks is declined. -/
theorem splitStarted_counted (hb : b.Paged P) (h : s.Live b P J w) (hd : w.Deletes k)
    {c : SplitCursor} (hc : c.Reading b P J) :
    c.splitStarted.Holds s w fun out s' w' =>
      s'.Live b P J w' ∧ w'.Deletes k ∧ out.2.Reading b P J ∧ out.2.leased = c.leased ∧
        out.2.error = c.error ∧
        ((out.1 = none ∧ out.2.unread b P = c.unread b P ∧ out.2.splits b P = c.splits b P ∧
            s'.consumers = s.consumers) ∨
          (∃ x, out.1 = some x ∧ x.Reading b P J ∧ x.leased = true ∧ x.error = none ∧
            out.2.unread b P ++ x.unread b P = c.unread b P ∧
            out.2.splits b P + x.splits b P + 1 ≤ c.splits b P ∧
            s'.consumers = s.consumers + 1)) := by
  unfold splitStarted
  split
  · rename_i r id hcov hid
    have hJ : id = J := Option.some.inj (hid.symm.trans hc.job)
    subst hJ
    have hsound := hc.sound
    rw [hcov] at hsound
    simp only [Coverage.Sound] at hsound
    split
    · exact ⟨h, hd, hc, rfl, rfl, Or.inl ⟨rfl, rfl, rfl, rfl⟩⟩
    rename_i hmore
    have hmul : (r.current + 1 + (r.stop - r.current) / 2) * P ≤ b.rows :=
      (Nat.le_div_iff_mul_le hb.pos).mp (by omega)
    have hsel : (PageSelector.number (r.current + 1 + (r.stop - r.current) / 2)).Reads
        (r.current + 1 + (r.stop - r.current) / 2) :=
      .number (lt_of_le_of_lt (le_trans (Nat.le_mul_of_pos_right _ hb.pos) hmul) hb.rows_lt)
    rw [holds_bind]
    refine (Session.fetch_counted hb h hd hsel hmul).mono ?_
    rintro _ s' w' ⟨rfl, rfl, hw', hd'⟩
    by_cases hbreak : b.Breaks (r.current + 1 + (r.stop - r.current) / 2)
    · -- the split page is refused: the error is recorded and the split declined
      simp only [Behavior.served, hbreak, if_true]
      exact ⟨⟨hw'.pageSize, hw'.running, hw'.ready, hw'.named, hw'.knows⟩, hd', hc, rfl, rfl,
        Or.inl ⟨rfl, rfl, rfl, rfl⟩⟩
    simp only [Behavior.served, hbreak, if_false]
    rw [holds_bind, Session.holds_attach, holds_pure]
    refine ⟨hw'.attach, hd', ⟨hc.job, by simp, hsound.1, by dsimp only; omega⟩, rfl, rfl,
      Or.inr ⟨_, rfl, ⟨rfl, by simp, hsound⟩, rfl, rfl, ?_, ?_, rfl⟩⟩
    · -- the cursor keeps the pages before the midpoint, the sibling the rest
      simp only [unread, List.append_assoc]
      rw [Coverage.split_ranged r (by omega), hcov]
    · simp only [splits, hcov]
      omega
  · exact ⟨h, hd, hc, rfl, rfl, Or.inl ⟨rfl, rfl, rfl, rfl⟩⟩

end Live

end SplitCursor

/-! ## The places of a family's session -/

namespace Family

/-- Where the session of a family of split cursors stands. -/
inductive Place where
  /-- Not started yet: its start creates the job. -/
  | starting
  /-- Reading the job, which the service keeps. -/
  | reading
  /-- Its start failed after creating the job, which the service keeps for the last release. -/
  | failed
  /-- Every lease released, and the job deleted. -/
  | drained
  deriving DecidableEq

variable (b : Behavior) (P : Nat) (J : String)

/-- What a place asks of the session and the world: the session holds a lease for each cursor
of the family that holds one, and the service has received no delete until the last release,
exactly one after it. -/
def Place.Holds : Place → Session → World → Prop
  | .starting, s, w => s.Begins b P J w ∧ 0 < s.consumers
  | .reading, s, w => s.Live b P J w ∧ w.Deletes 0 ∧ 0 < s.consumers
  | .failed, s, w =>
    (∃ e, s.phase = .failed e (some J)) ∧ J ≠ "" ∧ w.Knows b J ∧ w.Deletes 0 ∧ 0 < s.consumers
  | .drained, s, w => (Session.takeJobId s.phase).1 = none ∧ w.Dropped J

/-- What a place asks of a cursor of the family: before the start, or after a failed one, a
cursor that holds a lease has not started; while the job is read, it reads it or has not
started; once drained, it holds no lease. -/
def Place.Admits : Place → SplitCursor → Prop
  | .starting, c => c.leased = true → c.Unstarted
  | .reading, c => c.leased = true → c.Reading b P J ∨ c.Unstarted
  | .failed, c => c.leased = true → c.Unstarted
  | .drained, c => c.leased = false

/-- The cursors `cs` of a family hold the session's leases, one each; none that holds one has
failed; and the session stands at one place, which admits every cursor. -/
structure Leased (cs : List SplitCursor) (s : Session) (w : World) : Prop where
  consumers : s.consumers = cs.countP (·.leased)
  unerred : ∀ c ∈ cs, c.leased = true → c.error = none
  place : ∃ p : Place, p.Holds b P J s w ∧ ∀ c ∈ cs, p.Admits b P J c

variable {b P J}

/-- A cursor without a lease fits every place. -/
theorem Place.admits_released (p : Place) {c : SplitCursor} (hc : c.leased = false) :
    p.Admits b P J c := by
  cases p <;> simp [Place.Admits, hc]

theorem Place.admits_set {p : Place} {cs : List SplitCursor} (h : ∀ c ∈ cs, p.Admits b P J c)
    {c' : SplitCursor} (hc' : p.Admits b P J c') (i : Nat) :
    ∀ c ∈ cs.set i c', p.Admits b P J c := fun c hc =>
  (List.mem_or_eq_of_mem_set hc).elim (h c) fun h' => h' ▸ hc'

/-- Recording an error changes no place. -/
theorem Place.Holds.recordError {p : Place} {s : Session} {w : World} (h : p.Holds b P J s w)
    (e : QueryError) : p.Holds b P J { s with lastError := some e } w := by
  cases p with
  | starting =>
    exact ⟨⟨h.1.pageSize, h.1.running, h.1.unstarted, h.1.named, h.1.creates, h.1.launches,
      h.1.knows, h.1.clean⟩, h.2⟩
  | reading => exact ⟨⟨h.1.pageSize, h.1.running, h.1.ready, h.1.named, h.1.knows⟩, h.2⟩
  | failed => exact h
  | drained => exact h

/-- Releasing a lease, with a lease still held, changes no place. -/
theorem Place.Holds.release {p : Place} {s : Session} {w : World} (h : p.Holds b P J s w)
    (hp : p ≠ .drained) {n : Nat} (hn : 0 < n) : p.Holds b P J { s with consumers := n } w := by
  cases p with
  | starting => exact ⟨h.1.recount n, hn⟩
  | reading => exact ⟨⟨h.1.pageSize, h.1.running, h.1.ready, h.1.named, h.1.knows⟩, h.2.1, hn⟩
  | failed => exact ⟨h.1, h.2.1, h.2.2.1, h.2.2.2.1, hn⟩
  | drained => exact absurd rfl hp

/-! ## Releasing a lease -/

section Release

variable {cs : List SplitCursor} {s : Session} {w : World} {p : Place}

/-- A started session holds its job for deletion; the service keeps it, named by a non-empty id,
and has deleted nothing yet. -/
theorem Place.Holds.held (hp : p = .reading ∨ p = .failed) (hs : p.Holds b P J s w) :
    (Session.takeJobId s.phase).1 = some J ∧ w.Knows b J ∧ w.Deletes 0 ∧ J ≠ "" := by
  rcases hp with rfl | rfl
  · obtain ⟨hlive, hd, -⟩ := hs
    exact ⟨by rw [hlive.ready]; rfl, hlive.knows, hd, hlive.named⟩
  · obtain ⟨⟨e, hphase⟩, hJ, hk, hd, -⟩ := hs
    exact ⟨by rw [hphase]; rfl, hk, hd, hJ⟩

/-- Taking the job out of a phase twice finds nothing the second time. -/
theorem takeJobId_twice (ph : Phase) : (Session.takeJobId (Session.takeJobId ph).2).1 = none := by
  cases ph <;> rfl

/-- A release on a started session counts one consumer out; the release of the last lease
deletes the job, and any other changes nothing else. -/
theorem detach_counted (hp : p = .reading ∨ p = .failed) (hs : p.Holds b P J s w) :
    Session.detach.Holds s w fun _ s' w' =>
      s'.consumers = s.consumers - 1 ∧
        (s.consumers - 1 = 0 → (Session.takeJobId s'.phase).1 = none ∧ w'.Dropped J) ∧
        (s.consumers - 1 ≠ 0 → s' = { s with consumers := s.consumers - 1 } ∧ w' = w) := by
  obtain ⟨hjob, hknows, hdel, hJ⟩ := hs.held hp
  unfold Session.detach
  simp only [holds_bind, holds_modify, holds_get]
  split
  · -- the last lease: the job is taken out of the phase and deleted
    rename_i hzero
    simp only [beq_iff_eq] at hzero
    simp only [holds_bind, holds_set, hjob]
    refine (Session.deleteJob_dropped hknows hdel hJ).mono ?_
    rintro _ s' w' ⟨rfl, hdrop⟩
    exact ⟨rfl, fun _ => ⟨takeJobId_twice s.phase, hdrop⟩, fun hne => absurd hzero hne⟩
  · rename_i hleft
    simp only [beq_iff_eq] at hleft
    exact ⟨rfl, fun hz => absurd hz hleft, fun _ => ⟨rfl, rfl⟩⟩

/-- Releasing the lease of a cursor of a family whose session has started: one consumer less, at
the same place while a lease is left; the release of the last lease deletes the job and drains
the family. -/
theorem finish_counted (hp : p = .reading ∨ p = .failed) (hs : p.Holds b P J s w)
    (hadm : ∀ c ∈ cs, p.Admits b P J c) (hcount : s.consumers = cs.countP (·.leased)) {i : Nat}
    {c : SplitCursor} (hc : cs[i]? = some c) (hl : c.leased = true) :
    c.finish.Holds s w fun c' s' w' =>
      c' = { c with rows := [], leased := false } ∧
        s'.consumers = (cs.set i c').countP (·.leased) ∧
        ∃ p' : Place, p'.Holds b P J s' w' ∧ ∀ d ∈ cs.set i c', p'.Admits b P J d := by
  have hcount' : (cs.set i { c with rows := [], leased := false }).countP (·.leased) + 1 =
      s.consumers := by
    have := Family.leases_set hc { c with rows := [], leased := false }
    simp only [hl, if_true, Bool.false_eq_true, if_false] at this
    omega
  have hdrained : p ≠ .drained := by rcases hp with rfl | rfl <;> simp
  unfold SplitCursor.finish
  rw [if_pos hl, holds_bind]
  refine (detach_counted hp hs).mono ?_
  rintro _ s' w' ⟨hcons, hlast, hleft⟩
  rw [holds_pure]
  refine ⟨rfl, by omega, ?_⟩
  by_cases hzero : s.consumers - 1 = 0
  · -- no lease is left: every cursor is released and the job is gone
    obtain ⟨hnone, hdrop⟩ := hlast hzero
    refine ⟨.drained, ⟨hnone, hdrop⟩, fun d hd => ?_⟩
    have hnil : (cs.set i { c with rows := [], leased := false }).countP (·.leased) = 0 := by
      omega
    simpa [Place.Admits] using List.countP_eq_zero.mp hnil d hd
  · obtain ⟨rfl, rfl⟩ := hleft hzero
    exact ⟨p, hs.release hdrained (by omega), Place.admits_set hadm (p.admits_released rfl) i⟩

end Release

/-! ## Reading and splitting -/

section Steps

variable {cs : List SplitCursor} {s : Session} {w : World} {p : Place}

theorem Place.leased_admits {c : SplitCursor} (hl : c.leased = true) (h : p.Admits b P J c) :
    p ≠ .drained := by
  rintro rfl
  simp [Place.Admits, hl] at h

/-- Making a row available on a cursor of a family, which starts the session if needed: the
session has then started, or failed at its start; the cursor finds rows at the front of what it
has to hand out, finds nothing is left, or fails. -/
theorem preload_counted (hb : b.Paged P) (hs : p.Holds b P J s w)
    (hadm : ∀ c ∈ cs, p.Admits b P J c) {i : Nat} {c : SplitCursor} (hc : cs[i]? = some c)
    (hl : c.leased = true) :
    c.preload.Holds s w fun out s' w' =>
      out.2.leased = true ∧ out.2.error = c.error ∧ s'.consumers = s.consumers ∧
        ∃ p' : Place, (p' = .reading ∨ p' = .failed) ∧ p'.Holds b P J s' w' ∧
          (∀ d ∈ cs.set i out.2, p'.Admits b P J d) ∧
          ((out.1 = .ok true ∧ out.2.rows ≠ [] ∧ out.2.Reading b P J ∧
              out.2.unread b P = c.unread b P ∧ p' = .reading) ∨
            (out.1 = .ok false ∧ c.unread b P = []) ∨ (∃ e, out.1 = .error e)) := by
  have hadmc := hadm c (List.mem_of_getElem? hc)
  have hself : cs.set i c = cs := Family.set_self_of_getElem? hc
  -- a cursor that reads a live job moves through its pages
  have hlive : ∀ {s : Session} {w : World} {c' : SplitCursor}, s.Live b P J w → w.Deletes 0 →
      0 < s.consumers → c'.Reading b P J → c'.leased = true → c'.error = c.error →
      c'.unread b P = c.unread b P → (∀ d ∈ cs, Place.reading.Admits b P J d) →
      (c'.advancePages pageBudget).Holds s w fun out s' w' =>
        out.2.leased = true ∧ out.2.error = c.error ∧ s'.consumers = s.consumers ∧
          ∃ p' : Place, (p' = .reading ∨ p' = .failed) ∧ p'.Holds b P J s' w' ∧
            (∀ d ∈ cs.set i out.2, p'.Admits b P J d) ∧
            ((out.1 = .ok true ∧ out.2.rows ≠ [] ∧ out.2.Reading b P J ∧
                out.2.unread b P = c.unread b P ∧ p' = .reading) ∨
              (out.1 = .ok false ∧ c.unread b P = []) ∨ (∃ e, out.1 = .error e)) := by
    intro s w c' hlive hd hpos hread hl' he' hunread hothers
    refine (SplitCursor.advancePages_counted hb hlive hd hread 999998).mono ?_
    rintro out s' w' ⟨rfl, hw', hd', hr', hlo, heo, hcases⟩
    refine ⟨hlo.trans hl', heo.trans he', rfl, .reading, Or.inl rfl, ⟨hw', hd', hpos⟩,
      Place.admits_set hothers (fun _ => Or.inl hr') i, ?_⟩
    rcases hcases with ⟨h1, h2, h3⟩ | ⟨h1, h2⟩ | h
    · exact Or.inl ⟨h1, h2, hr', h3.trans hunread, rfl⟩
    · exact Or.inr (Or.inl ⟨h1, hunread ▸ h2⟩)
    · exact Or.inr (Or.inr h)
  cases p with
  | drained => exact absurd rfl (Place.leased_admits hl hadmc)
  | starting =>
    obtain ⟨hbegins, hpos⟩ := hs
    obtain ⟨hpend, hempty⟩ := hadmc hl
    -- the first read starts the session
    unfold SplitCursor.preload
    rw [if_pos (by rw [hpend]; rfl), holds_bind, SplitCursor.start_eq, holds_bind]
    refine (Session.ready_begins hbegins).mono ?_
    rintro r s₁ w₁ ⟨hcons, hknows, hdel, ⟨e, rfl, hfailed⟩ | ⟨rfl, -, hlive₁⟩⟩
    · -- the start fails, polling or at page 0, and keeps the job for deletion
      refine ⟨hl, rfl, hcons, .failed, Or.inr rfl,
        ⟨⟨_, hfailed⟩, hbegins.named, hknows, hdel, hcons ▸ hpos⟩, ?_,
        Or.inr (Or.inr ⟨_, rfl⟩)⟩
      show ∀ d ∈ cs.set i c, Place.Admits b P J .failed d
      rw [hself]
      exact hadm
    · obtain ⟨hread, hunread⟩ := SplitCursor.startedOn_ready hb c J
      rw [holds_pure]
      exact (hlive hlive₁ hdel (hcons ▸ hpos) hread hl rfl
        (hunread.trans (SplitCursor.Unstarted.unread_eq ⟨hpend, hempty⟩).symm)
        (fun d hd hld => Or.inr (hadm d hd hld))).mono
        fun _ _ _ h => ⟨h.1, h.2.1, h.2.2.1.trans hcons, h.2.2.2⟩
  | reading =>
    obtain ⟨hlv, hd, hpos⟩ := hs
    rcases hadmc hl with hread | ⟨hpend, hempty⟩
    · rw [SplitCursor.preload_started hread.started]
      exact hlive hlv hd hpos hread hl rfl rfl hadm
    · rw [SplitCursor.preload_of_ready hpend hlv.ready]
      obtain ⟨hread, hunread⟩ := SplitCursor.startedOn_ready hb c J
      exact hlive hlv hd hpos hread hl rfl
        (hunread.trans (SplitCursor.Unstarted.unread_eq ⟨hpend, hempty⟩).symm) hadm
  | failed =>
    obtain ⟨⟨e, hphase⟩, hJ, hk, hd, hpos⟩ := hs
    obtain ⟨hpend, -⟩ := hadmc hl
    rw [SplitCursor.preload_of_failed hpend hphase]
    refine ⟨hl, rfl, rfl, .failed, Or.inr rfl, ⟨⟨e, hphase⟩, hJ, hk, hd, hpos⟩, ?_,
      Or.inr (Or.inr ⟨e, rfl⟩)⟩
    rw [hself]
    exact hadm

/-- Whether a cursor failed does not change where it fits. -/
theorem Place.admits_error {c : SplitCursor} (h : p.Admits b P J c) (e : Option QueryError) :
    p.Admits b P J { c with error := e } := by
  cases p with
  | starting => exact fun hl => ⟨(h hl).pending, (h hl).empty⟩
  | reading =>
    exact fun hl => (h hl).imp (fun hr => ⟨hr.job, hr.started, hr.sound⟩)
      fun hu => ⟨hu.pending, hu.empty⟩
  | failed => exact fun hl => ⟨(h hl).pending, (h hl).empty⟩
  | drained => exact h

/-- Replacing a cursor by one that holds the same lease keeps the count of leases. -/
theorem countP_set_leased {i : Nat} {c : SplitCursor} (c' : SplitCursor) (hc : cs[i]? = some c)
    (hl : c'.leased = c.leased) : (cs.set i c').countP (·.leased) = cs.countP (·.leased) := by
  have := Family.leases_set hc c'
  rw [hl] at this
  omega

/-- The family after a read or a split of cursor `i`: only cursor `i` is new, and it has not
failed while it holds its lease. -/
theorem unerred_set (h : ∀ d ∈ cs, d.leased = true → d.error = none) (c' : SplitCursor)
    (hc' : c'.leased = true → c'.error = none) (i : Nat) :
    ∀ d ∈ cs.set i c', d.leased = true → d.error = none := fun d hd =>
  (List.mem_or_eq_of_mem_set hd).elim (h d) fun h' => h' ▸ hc'

/-- A read of a cursor of a family that holds a lease hands out the first row the cursor has
still to hand out; or it finds nothing is left, or fails, and releases the lease. Either way the
family stays leased, at a place that admits every cursor. -/
theorem next_counted (hb : b.Paged P) (h : Leased b P J cs s w) {i : Nat} {c : SplitCursor}
    (hc : cs[i]? = some c) (hl : c.leased = true) :
    c.next.Holds s w fun out s' w' =>
      Leased b P J (cs.set i out.2) s' w' ∧
        ((∃ row, out.1 = .ok (some row) ∧ out.2.leased = true ∧
            row :: out.2.unread b P = c.unread b P) ∨
          (out.1 = .ok none ∧ out.2.leased = false ∧ out.2.error = none ∧ c.unread b P = []) ∨
          (∃ e, out.1 = .error e ∧ out.2.leased = false ∧ out.2.error = some e)) := by
  obtain ⟨hcount, hunerred, p, hs, hadm⟩ := h
  have herr : c.error = none := hunerred c (List.mem_of_getElem? hc) hl
  have hlen : i < cs.length := (List.getElem?_eq_some_iff.mp hc).1
  unfold SplitCursor.next
  rw [if_neg (by simp [SplitCursor.finished, hl]), holds_bind]
  refine (preload_counted hb hs hadm hc hl).mono ?_
  rintro ⟨r, c₁⟩ s₁ w₁ ⟨hl₁, he₁, hcons, p', hstarted, hs₁, hadm₁, hcases⟩
  dsimp only at hl₁ he₁ hadm₁
  have hc₁ : (cs.set i c₁)[i]? = some c₁ := List.getElem?_set_self hlen
  have hcount₁ : s₁.consumers = (cs.set i c₁).countP (·.leased) := by
    rw [hcons, hcount, countP_set_leased _ hc (hl₁.trans hl.symm)]
  -- whatever the cursor becomes, the rest of the family is as it was
  have hrest : ∀ {x : SplitCursor}, p'.Admits b P J x →
      ∀ d ∈ cs.set i x, p'.Admits b P J d := fun hx => by
    rw [← List.set_set c₁]
    exact Place.admits_set hadm₁ hx i
  rcases hcases with ⟨rfl, hfull, hread, hunread, rfl⟩ | ⟨rfl, hnothing⟩ | ⟨e, rfl⟩
  · -- rows are buffered: the first is handed out
    dsimp only
    split
    · rename_i row rest hrows
      show Leased b P J (cs.set i { c₁ with rows := rest }) s₁ w₁ ∧ _
      refine ⟨⟨?_, unerred_set hunerred { c₁ with rows := rest }
        (fun _ => he₁.trans herr) i, .reading, hs₁,
        hrest fun _ => Or.inl ⟨hread.job, hread.started, hread.sound⟩⟩,
        Or.inl ⟨row, rfl, hl₁, ?_⟩⟩
      · rw [hcons, hcount]
        exact (countP_set_leased { c₁ with rows := rest } hc (hl₁.trans hl.symm)).symm
      · rw [← hunread]
        simp [SplitCursor.unread, hrows]
    · exact absurd ‹c₁.rows = []› hfull
  · -- nothing is left: the lease is released
    dsimp only
    rw [holds_bind]
    refine (finish_counted hstarted hs₁ hadm₁ hcount₁ hc₁ hl₁).mono ?_
    rintro c' s' w' ⟨rfl, hcons', p'', hs', hadm'⟩
    rw [List.set_set] at hcons' hadm'
    exact ⟨⟨hcons', unerred_set hunerred _ (fun h => by simp at h) i, p'', hs', hadm'⟩,
      Or.inr (Or.inl ⟨rfl, rfl, he₁.trans herr, hnothing⟩)⟩
  · -- a failure: it is recorded, and the lease released
    dsimp only
    rw [holds_bind, Session.holds_recordError, holds_bind]
    have hadmₑ : ∀ d ∈ cs.set i { c₁ with error := some e }, p'.Admits b P J d :=
      hrest (Place.admits_error (hadm₁ c₁ (List.mem_of_getElem? hc₁)) _)
    refine (finish_counted hstarted (hs₁.recordError e) hadmₑ
      (by rw [hcount₁, countP_set_leased _ hc (hl₁.trans hl.symm),
        countP_set_leased { c₁ with error := some e } hc (hl₁.trans hl.symm)])
      (List.getElem?_set_self (by simpa using hlen)) hl₁).mono ?_
    rintro c' s' w' ⟨rfl, hcons', p'', hs', hadm'⟩
    rw [List.set_set] at hcons' hadm'
    exact ⟨⟨hcons', unerred_set hunerred _ (fun h => by simp at h) i, p'', hs', hadm'⟩,
      Or.inr (Or.inr ⟨e, rfl, rfl, rfl⟩)⟩

/-- A split of a cursor of a family that holds a lease, which starts the session if needed: it
declines and keeps what the cursor has to hand out, with no more splits left than before; or it
divides that between the cursor and a sibling that joins the family holding a lease of its own,
with one split fewer left between them. Either way the family stays leased, at a place that
admits every cursor. -/
theorem trySplit_counted (hb : b.Paged P) (h : Leased b P J cs s w) {i : Nat} {c : SplitCursor}
    (hc : cs[i]? = some c) (hl : c.leased = true) :
    c.trySplit.Holds s w fun out s' w' =>
      Leased b P J (cs.set i out.2 ++ out.1.toList) s' w' ∧ out.2.leased = true ∧
        ((out.1 = none ∧ out.2.unread b P = c.unread b P ∧ out.2.splits b P ≤ c.splits b P) ∨
          (∃ x, out.1 = some x ∧ x.leased = true ∧
            out.2.unread b P ++ x.unread b P = c.unread b P ∧
            out.2.splits b P + x.splits b P + 1 ≤ c.splits b P)) := by
  obtain ⟨hcount, hunerred, p, hs, hadm⟩ := h
  have herr : c.error = none := hunerred c (List.mem_of_getElem? hc) hl
  have hadmc := hadm c (List.mem_of_getElem? hc)
  have hself : cs.set i c = cs := Family.set_self_of_getElem? hc
  -- a declined split that starts nothing leaves the family as it was
  have hkept : ∀ {s' : Session} {w' : World} (p' : Place), p'.Holds b P J s' w' →
      s'.consumers = s.consumers → (∀ d ∈ cs, p'.Admits b P J d) →
      Leased b P J (cs.set i c ++ (none : Option SplitCursor).toList) s' w' ∧ c.leased = true ∧
        (((none : Option SplitCursor) = none ∧ c.unread b P = c.unread b P ∧
            c.splits b P ≤ c.splits b P) ∨
          (∃ x, (none : Option SplitCursor) = some x ∧ x.leased = true ∧
            c.unread b P ++ x.unread b P = c.unread b P ∧
            c.splits b P + x.splits b P + 1 ≤ c.splits b P)) := fun p' hs' hcons hadm' => by
    rw [hself, Option.toList_none, List.append_nil]
    exact ⟨⟨hcons.trans hcount, hunerred, _, hs', hadm'⟩, hl, Or.inl ⟨rfl, rfl, le_rfl⟩⟩
  -- a cursor that reads a live job splits there
  have hlive : ∀ {s₁ : Session} {w₁ : World} {c₁ : SplitCursor}, s₁.Live b P J w₁ →
      w₁.Deletes 0 → s₁.consumers = s.consumers → 0 < s.consumers → c₁.Reading b P J →
      c₁.leased = true → c₁.error = c.error → c₁.unread b P = c.unread b P →
      c₁.splits b P ≤ c.splits b P → (∀ d ∈ cs, Place.reading.Admits b P J d) →
      c₁.splitStarted.Holds s₁ w₁ fun out s' w' =>
        Leased b P J (cs.set i out.2 ++ out.1.toList) s' w' ∧ out.2.leased = true ∧
          ((out.1 = none ∧ out.2.unread b P = c.unread b P ∧ out.2.splits b P ≤ c.splits b P) ∨
            (∃ x, out.1 = some x ∧ x.leased = true ∧
              out.2.unread b P ++ x.unread b P = c.unread b P ∧
              out.2.splits b P + x.splits b P + 1 ≤ c.splits b P)) := by
    intro s₁ w₁ c₁ hlv hd hcons hpos hread hl₁ he₁ hunread hsplits hothers
    refine (SplitCursor.splitStarted_counted hb hlv hd hread).mono ?_
    rintro ⟨sib, c'⟩ s' w' ⟨hlv', hd', hread', hl', he', hcases⟩
    dsimp only at hread' hl' he' hcases ⊢
    have hcount' : (cs.set i c').countP (·.leased) = cs.countP (·.leased) :=
      countP_set_leased _ hc (hl'.trans (hl₁.trans hl.symm))
    have hunerred' := unerred_set hunerred _ (fun _ => he'.trans (he₁.trans herr)) i
    have hadm' := Place.admits_set hothers (fun _ => Or.inl hread') i
    rcases hcases with ⟨rfl, hun, hsp, hcons'⟩ | ⟨x, rfl, hx, hlx, hex, hun, hsp, hcons'⟩
    · refine ⟨⟨?_, by simpa using hunerred', .reading, ⟨hlv', hd', by omega⟩,
        by simpa using hadm'⟩, hl'.trans hl₁, Or.inl ⟨rfl, hun.trans hunread, by omega⟩⟩
      simp only [Option.toList_none, List.append_nil]
      omega
    · refine ⟨⟨?_, ?_, .reading, ⟨hlv', hd', by omega⟩, ?_⟩, hl'.trans hl₁,
        Or.inr ⟨x, rfl, hlx, hun.trans hunread, by omega⟩⟩
      · simp only [Option.toList_some, List.countP_append, hcount', List.countP_singleton, hlx,
          if_true]
        omega
      · simp only [Option.toList_some, List.mem_append, List.mem_singleton]
        rintro d (hd | rfl)
        · exact hunerred' d hd
        · exact fun _ => hex
      · simp only [Option.toList_some, List.mem_append, List.mem_singleton]
        rintro d (hd | rfl)
        · exact hadm' d hd
        · exact fun _ => Or.inl hx
  cases p with
  | drained => exact absurd rfl (Place.leased_admits hl hadmc)
  | starting =>
    obtain ⟨hbegins, hpos⟩ := hs
    obtain ⟨hpend, hempty⟩ := hadmc hl
    -- the first split starts the session
    rw [SplitCursor.trySplit_eq, if_neg (by simp [SplitCursor.finished, hl]), holds_bind,
      if_pos (by rw [hpend]; rfl), SplitCursor.start_eq, holds_bind]
    refine (Session.ready_begins hbegins).mono ?_
    rintro r s₁ w₁ ⟨hcons, hknows, hdel, ⟨e, rfl, hfailed⟩ | ⟨rfl, -, hlive₁⟩⟩
    · -- the start fails, polling or at page 0: the failure is recorded and the split declined
      rw [holds_pure]
      dsimp only
      rw [holds_bind, Session.holds_recordError, holds_pure]
      exact hkept .failed ⟨⟨_, hfailed⟩, hbegins.named, hknows, hdel, hcons ▸ hpos⟩
        hcons hadm
    · rw [holds_pure]
      obtain ⟨hread, hunread⟩ := SplitCursor.startedOn_ready hb c J
      exact hlive hlive₁ hdel hcons hpos hread hl rfl
        (hunread.trans (SplitCursor.Unstarted.unread_eq ⟨hpend, hempty⟩).symm)
        (by simpa [SplitCursor.splits, hpend] using hread.splits_le)
        (fun d hd hld => Or.inr (hadm d hd hld))
  | reading =>
    obtain ⟨hlv, hd, hpos⟩ := hs
    rcases hadmc hl with hread | ⟨hpend, hempty⟩
    · rw [SplitCursor.trySplit_started hread.started hl]
      exact hlive hlv hd rfl hpos hread hl rfl rfl le_rfl hadm
    · rw [SplitCursor.trySplit_of_ready hpend hl hlv.ready]
      obtain ⟨hread, hunread⟩ := SplitCursor.startedOn_ready hb c J
      exact hlive hlv hd rfl hpos hread hl rfl
        (hunread.trans (SplitCursor.Unstarted.unread_eq ⟨hpend, hempty⟩).symm)
        (by simpa [SplitCursor.splits, hpend] using hread.splits_le) hadm
  | failed =>
    obtain ⟨⟨e, hphase⟩, hJ, hk, hd, hpos⟩ := hs
    obtain ⟨hpend, -⟩ := hadmc hl
    rw [SplitCursor.trySplit_of_failed hpend hl hphase]
    exact hkept .failed ⟨⟨e, hphase⟩, hJ, hk, hd, hpos⟩ rfl hadm

end Steps

/-! ## Opening and draining -/

section Ends

variable {s : Session} {w : World}

/-- A root cursor opened on a session that has not started, as its only consumer. -/
theorem Leased.root_starting (h : s.Begins b P J w) :
    Leased b P J [{}] { s with consumers := 1 } w :=
  ⟨rfl, by simp, .starting, ⟨h.recount 1, Nat.one_pos⟩, by
    simp [Place.Admits, SplitCursor.Unstarted.mk]⟩

/-- Once no cursor of a leased family holds a lease, the session has no consumer left and the
job is deleted, with the one delete the service counts. -/
theorem Leased.dropped {cs : List SplitCursor} (h : Leased b P J cs s w)
    (hall : ∀ c ∈ cs, c.leased = false) :
    s.consumers = 0 ∧ (Session.takeJobId s.phase).1 = none ∧ w.Dropped J := by
  have hzero : s.consumers = 0 := by
    rw [h.consumers, List.countP_eq_zero]
    simpa using hall
  obtain ⟨p, hs, -⟩ := h.place
  cases p with
  | starting => exact absurd hs.2 (by omega)
  | reading => exact absurd hs.2.2 (by omega)
  | failed => exact absurd hs.2.2.2.2 (by omega)
  | drained => exact ⟨hzero, hs⟩

end Ends

end Family

end JobQuery
