import JobQuery.Proofs.SplitLeases

/-!
# JobQuery — how many cursors a split cursor can become

A split cursor owns a range of pages `current ..= stop`, and a split hands the upper half of it
to a sibling: of `n` pages the cursor keeps `n - n / 2` and the sibling takes `n / 2`. So a
cursor can become at most as many cursors as it has pages left: its *pieces*. Before its start
a cursor has as many pieces as the job has pages when the service reports the row count
(`rows / P + 1`), and one otherwise; a chain of page cursors is one piece.

* `splitStarted_halves`, `trySplit_halves`: a split that is made divides the pieces exactly
  so, whatever the session and the service, once the start hands out the job the service
  started (`ready_pieces_of_place`);
* `splitStarted_served`: on a live session, a cursor of two pieces or more is always split when
  the service serves the midpoint page of its range, whatever it does with the others.

The halving of the pieces and the halving of a budget of workers line up:
`min_halves` says that `min (k - k / 2) (n - n / 2) + min (k / 2) (n / 2) = min k n`.
-/

namespace JobQuery

open InSession

/-- Splitting `k` workers and `n` pieces in halves the same way, the two halves together end as
as many cursors as the whole. -/
theorem min_halves (k n : Nat) :
    min (k - k / 2) (n - n / 2) + min (k / 2) (n / 2) = min k n := by
  omega

namespace SplitCursor

variable (b : Behavior) (P : Nat)

/-- How many cursors `c` can become by splitting: the pages left in its range, or before its
start the pages of the job when the service reports the row count; a chain is one. -/
def pieces (c : SplitCursor) : Nat :=
  match c.coverage with
  | .pending => if b.reportRowsInJob then b.rows / P + 1 else 1
  | .ranged r => r.stop + 1 - r.current
  | .chained _ => 1

/-- A split made of a cursor of `n` pieces: at least two, of which the cursor keeps `n - n / 2`
and the sibling takes `n / 2`. -/
structure Halves (n : Nat) (kept sibling : SplitCursor) : Prop where
  two_le : 2 ≤ n
  kept : kept.pieces b P = n - n / 2
  sibling : sibling.pieces b P = n / 2

variable {b P}

theorem pieces_pending {c : SplitCursor} (h : c.coverage = .pending) :
    c.pieces b P = if b.reportRowsInJob then b.rows / P + 1 else 1 := by
  simp [pieces, h]

theorem pieces_ranged {c : SplitCursor} {r : PageRange} (h : c.coverage = .ranged r) :
    c.pieces b P = r.stop + 1 - r.current := by
  simp [pieces, h]

/-- A cursor started on the job the service starts has the pieces it had before its start. -/
theorem pieces_startedOn_ready (hP : 0 < P) {c : SplitCursor} (hc : c.coverage = .pending)
    (J : String) : (c.startedOn (b.readyJob P J)).pieces b P = c.pieces b P := by
  unfold startedOn
  rw [Behavior.readyJob_layout]
  by_cases hrep : b.reportRowsInJob
  · simp [pieces, hc, hrep, PageLayout.make, Nat.max_eq_left hP]
  · simp [pieces, hc, hrep]

/-- **A split made of a started cursor halves its pieces.** -/
theorem splitStarted_halves {s : Session} {w : World} (c : SplitCursor) :
    c.splitStarted.Holds s w fun out _ _ => ∀ x, out.1 = some x → Halves b P (c.pieces b P) out.2 x := by
  refine (splitStarted_ranges c).mono ?_
  rintro out s' w' (⟨hnone, -, -⟩ | ⟨r, x, hcov, hlt, hsome, hkept, hx, -, -⟩) y hy
  · rw [hnone] at hy
    cases hy
  · rw [hsome] at hy
    cases hy
    have hn := pieces_ranged (b := b) (P := P) hcov
    refine ⟨by omega, ?_, ?_⟩
    · rw [hkept, pieces_ranged (c := { c with coverage := .ranged r.kept }) rfl, hn]
      simp only [PageRange.kept, PageRange.splitAt]
      omega
    · rw [pieces_ranged hx, hn]
      simp only [PageRange.handedOff, PageRange.splitAt]
      omega

/-- **A split that is made halves the pieces**, for every session and service, as long as the
start of a cursor that has not started hands out a job that leaves it its pieces. -/
theorem trySplit_halves {s : Session} {w : World} (c : SplitCursor)
    (hstart : c.coverage = .pending → Session.ready.Holds s w fun r _ _ =>
      ∀ job, r = .ok job → (c.startedOn job).pieces b P = c.pieces b P) :
    c.trySplit.Holds s w fun out _ _ => ∀ x, out.1 = some x → Halves b P (c.pieces b P) out.2 x := by
  rw [trySplit_eq]
  split
  · exact fun x hx => by cases hx
  rw [holds_bind]
  split
  · -- the cursor starts first: a failed start declines, a made one splits the started cursor
    rename_i hpend
    rw [start_eq, holds_bind]
    refine (hstart (eq_pending_of_beq hpend)).mono ?_
    rintro (e | job) s₁ w₁ hjob <;> rw [holds_pure] <;> dsimp only
    · rw [holds_bind, Session.holds_recordError, holds_pure]
      exact fun x hx => by cases hx
    · rw [← hjob job rfl]
      exact splitStarted_halves _
  · rw [holds_pure]
    exact splitStarted_halves c

variable {J : String} {s : Session} {w : World}

/-- On a place of a family, the start of a leased cursor that has not started hands out the job
the service started, or fails: either way the cursor keeps its pieces. -/
theorem ready_pieces_of_place (hb : b.Paged P) {p : Family.Place} (hs : p.Holds b P J s w)
    {c : SplitCursor} (hadm : p.Admits b P J c) (hl : c.leased = true)
    (hc : c.coverage = .pending) :
    Session.ready.Holds s w fun r _ _ =>
      ∀ job, r = .ok job → (c.startedOn job).pieces b P = c.pieces b P := by
  cases p with
  | starting =>
    refine (Session.ready_begins hs.1).mono ?_
    rintro r s' w' ⟨-, -, -, ⟨e, rfl, -⟩ | ⟨rfl, -, -⟩⟩ job hjob
    · cases hjob
    · cases hjob
      exact pieces_startedOn_ready hb.pos hc J
  | reading =>
    rw [Session.holds_ready_of_ready hs.1.ready]
    rintro job hjob
    cases hjob
    exact pieces_startedOn_ready hb.pos hc J
  | failed =>
    obtain ⟨⟨e, hphase⟩, -⟩ := hs
    rw [Session.holds_ready_of_failed hphase]
    exact fun job hjob => by cases hjob
  | drained =>
    rw [Family.Place.Admits] at hadm
    rw [hadm] at hl
    cases hl

/-- **A split whose midpoint page is served is made**: on a live session, a cursor that reads the
job with two pages or more left hands out a sibling when the service serves the page its split
fetches first, whatever the service does with its other pages. -/
theorem splitStarted_made (hb : b.Paged P) (h : s.Live b P J w) {c : SplitCursor}
    (hc : c.Reading b P J) {r : PageRange} (hcov : c.coverage = .ranged r) (hlt : r.current < r.stop)
    (hserved : ¬ b.Breaks r.splitAt) :
    c.splitStarted.Holds s w fun out _ _ => out.1.isSome := by
  have hsound := hc.sound
  rw [hcov] at hsound
  simp only [Coverage.Sound] at hsound
  have hmul : r.splitAt * P ≤ b.rows :=
    (Nat.le_div_iff_mul_le hb.pos).mp (by simp only [PageRange.splitAt]; omega)
  have hsel : (PageSelector.number r.splitAt).Reads r.splitAt :=
    .number (lt_of_le_of_lt (le_trans (Nat.le_mul_of_pos_right _ hb.pos) hmul) hb.rows_lt)
  unfold splitStarted
  simp only [hcov, hc.job]
  rw [if_neg (by omega), holds_bind]
  refine (Session.fetch_reached hb h hsel hmul).mono ?_
  rintro _ s' w' ⟨rfl, rfl, -⟩
  simp only [Behavior.served, hserved, if_false]
  rw [holds_bind, Session.holds_attach, holds_pure]
  rfl

/-- **On a live session, a split declines only a cursor of one page or none** when the service
serves the midpoint page of its range: otherwise it cuts the range there, the cursor keeping the
pages below the midpoint and the sibling taking the rest. The session stays live either way. -/
theorem splitStarted_served (hb : b.Paged P) (h : s.Live b P J w) {c : SplitCursor}
    (hc : c.Reading b P J)
    (hserved : ∀ r, c.coverage = .ranged r → r.current < r.stop → ¬ b.Breaks r.splitAt) :
    c.splitStarted.Holds s w fun out s' w' => s'.Live b P J w' ∧
      ((out.1 = none ∧ out.2 = c ∧ c.pieces b P ≤ 1) ∨
        (∃ r x, c.coverage = .ranged r ∧ r.current < r.stop ∧ out.1 = some x ∧
          out.2 = { c with coverage := .ranged r.kept } ∧ x.coverage = .ranged r.handedOff)) := by
  obtain ⟨fs, hfs, -, -⟩ := h.knows
  have hshape := (splitStarted_counted hb h (⟨fs, hfs, rfl⟩ : w.Deletes fs.calls.deletes) hc).and
    (splitStarted_ranges (s := s) (w := w) c)
  -- a split that declines leaves the cursor as it was, which then has one page left or none
  have hdeclined : ∀ {out : Option SplitCursor × SplitCursor}, out.1 = none → out.2 = c →
      (∀ r, c.coverage = .ranged r → ¬ r.current < r.stop) → c.pieces b P ≤ 1 := by
    intro out _ _ hend
    rcases hcov : c.coverage with _ | r | next
    · exact absurd hcov hc.started
    · have := hend r hcov
      rw [pieces_ranged hcov]
      omega
    · simp [pieces, hcov]
  by_cases hmore : ∃ r, c.coverage = .ranged r ∧ r.current < r.stop
  · obtain ⟨r, hcov, hlt⟩ := hmore
    refine (hshape.and (splitStarted_made hb h hc hcov hlt (hserved r hcov hlt))).mono ?_
    rintro out s' w' ⟨⟨⟨hlive, -⟩, ⟨hnone, -, -⟩ | ⟨r', x, hcov', hlt', hsome, hkept, hx, -, -⟩⟩, hmade⟩
    · rw [hnone] at hmade
      cases hmade
    · exact ⟨hlive, Or.inr ⟨r', x, hcov', hlt', hsome, hkept, hx⟩⟩
  · have hend : ∀ r, c.coverage = .ranged r → ¬ r.current < r.stop :=
      fun r hcov hlt => hmore ⟨r, hcov, hlt⟩
    refine hshape.mono ?_
    rintro out s' w' ⟨⟨hlive, -⟩, ⟨hnone, hkept, -⟩ | ⟨r', x, hcov', hlt', -⟩⟩
    · exact ⟨hlive, Or.inl ⟨hnone, hkept, hdeclined hnone hkept hend⟩⟩
    · exact absurd hlt' (hend r' hcov')

end SplitCursor

end JobQuery
