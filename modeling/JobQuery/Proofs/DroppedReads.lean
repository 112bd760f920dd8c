import Mathlib
import JobQuery.Proofs.SplitFamily

/-!
# JobQuery — what a dropped read leaves of a family of split cursors

A read of a split cursor that finds nothing buffered moves the cursor's range past the next page
and only then awaits that page (`SplitCursor.advancePages_claims`): across the fetch it carries
`SplitCursor.pageClaimed`. A read dropped there, by a timeout or a `select` around it, leaves the
cursor so, and the page it was fetching is lost to the family:

* what the family has handed out and still owes is what it had before the read, less the rows of
  that page (`Family.ledger_dropRead`);
* along every run of operations afterwards, over the in-memory service whatever it does, no
  cursor of the family hands out a row of that page, though the cursor owed them all before the
  read (`Family.drive_drop_read_loses_page`).
-/

namespace JobQuery

open Json InSession

open scoped List

namespace SplitCursor

variable {c : SplitCursor} {r : PageRange}

/-- A read that finds nothing buffered and pages left in its range fetches the next page and goes
on from the cursor with that page claimed, whatever the fetch answers: what holds of the read is
what holds after the fetch of the claimed cursor, failed or given the page. `pageClaimed` is all
the read carries across the fetch. -/
theorem advancePages_claims {id : String} (hrows : c.rows = []) (hid : c.jobId = some id)
    (hr : c.coverage = .ranged r) (hlt : r.current < r.stop) (fuel : Nat) {s : Session}
    {w : World} {Q : Except QueryError Bool × SplitCursor → Session → World → Prop}
    (h : (Session.fetch id (.number (r.current + 1))).Holds s w fun res s' w' =>
      (∀ e, res = .error e → Q (.error e, c.pageClaimed r) s' w') ∧
      ∀ page, res = .ok page →
        ({ c.pageClaimed r with rows := page.rows }.advancePages fuel).Holds s' w' Q) :
    (c.advancePages (fuel + 1)).Holds s w Q := by
  -- the fields the read looks at are known; the others are carried as they are
  obtain ⟨leased, jobId, coverage, rows, error⟩ := c
  subst hid hr hrows
  unfold advancePages
  simp only [List.isEmpty_nil, Bool.not_true, Bool.false_eq_true, ↓reduceIte, ge_iff_le,
    Nat.not_le.mpr hlt, holds_bind]
  refine h.mono ?_
  rintro (e | page) s' w' ⟨herr, hok⟩
  · exact herr e rfl
  · exact hok page rfl

variable (b : Behavior) (P : Nat)

/-- The rows of the claimed page, then what the cursor with the page claimed has still to hand
out, are what the cursor had still to hand out. -/
theorem unread_pageClaimed (hrows : c.rows = []) (hr : c.coverage = .ranged r)
    (hlt : r.current < r.stop) :
    (b.page P (r.current + 1)).rows ++ (c.pageClaimed r).unread b P = c.unread b P := by
  simp only [unread, pageClaimed, hrows, hr, List.nil_append]
  exact Coverage.next_ranged r hlt

end SplitCursor

namespace Family

/-- The family a read of cursor `c`, number `i`, leaves when it is dropped while it fetches the
page after the current one of range `r`. -/
def dropRead (F : Family) (i : Nat) (c : SplitCursor) (r : PageRange) : Family :=
  { F with cursors := F.cursors.set i (c.pageClaimed r) }

variable {b : Behavior} {P : Nat} {F : Family} {i : Nat} {c : SplitCursor} {r : PageRange}

section Dropped

variable (hc : F.cursors[i]? = some c) (hl : c.leased = true) (hrows : c.rows = [])
  (hr : c.coverage = .ranged r) (hlt : r.current < r.stop)

include hc hl hrows hr hlt

/-- A read dropped at its page fetch loses the page: what the family has handed out and still
owes afterwards, with the rows of that page, is what it had before. -/
theorem ledger_dropRead :
    (F.dropRead i c r).ledger b P ++ (b.page P (r.current + 1)).rows ~ F.ledger b P := by
  obtain ⟨A, B, hold, hnew⟩ := flatMap_set hc (c.pageClaimed r) (SplitCursor.owed b P)
  have hown : c.owed b P = (b.page P (r.current + 1)).rows ++ (c.pageClaimed r).owed b P := by
    rw [SplitCursor.owed_eq_unread hl, SplitCursor.owed_eq_unread (c := c.pageClaimed r) hl,
      SplitCursor.unread_pageClaimed b P hrows hr hlt]
  simp only [ledger, dropRead, returned_cursors, hnew, hold, hown, List.append_assoc]
  -- the two sides differ only in where the page's rows stand
  have hmove : (c.pageClaimed r).owed b P ++ (B ++ (b.page P (r.current + 1)).rows) ~
      (b.page P (r.current + 1)).rows ++ ((c.pageClaimed r).owed b P ++ B) := by
    rw [← List.append_assoc]
    exact List.perm_append_comm
  exact (hmove.append_left A).append_left F.returned

/-- The family a dropped read leaves is sound over every sound session. -/
theorem Sound.dropRead {s : Session} {w : World} (h : F.Sound b P s w) {s' : Session}
    {w' : World} (hs' : s'.Sound b P w') : (F.dropRead i c r).Sound b P s' w' where
  session := hs'
  cursors := by
    -- the range only moved its current page
    have hcov := h.cursors c (List.mem_of_getElem? hc)
    rw [hr] at hcov
    exact Sound.set h.cursors hcov
  ledger := (List.sublist_append_left _ _).subperm.trans
    ((ledger_dropRead hc hl hrows hr hlt).subperm.trans h.ledger)

end Dropped

/-- Along every run of a sound family, what it has handed out and still owes stays a part of what
it had at the start. -/
theorem run_shrinks (hb : b.Paged P) {s : Session} {w : World} (h : F.Sound b P s w)
    (ops : List FamilyOp) : (F.run ops).Holds s w fun G _ _ => G.ledger b P <+~ F.ledger b P := by
  -- the run keeps the family sound and its ledger inside the one it started with
  refine (run_invariant (fun G s w => G.Sound b P s w ∧ G.ledger b P <+~ F.ledger b P)
    (fun _ => True) (fun G s w op _ hG => ?_) ops F s w (fun _ _ => trivial)
    ⟨h, List.Subperm.refl _⟩).mono fun _ _ _ h' => h'.2
  exact (step_shrinks hb G s w op hG.1).mono fun _ _ _ h' => ⟨h'.1, h'.2.trans hG.2⟩

/-- A read of cursor `i` of a sound family, dropped while it fetches the page after its range's
current one: the cursor owed that page's rows, and along every run afterwards no cursor of the
family hands one out. -/
theorem Sound.drop_read_loses_page (hb : b.Paged P) {s : Session} {w : World}
    (h : F.Sound b P s w) (hc : F.cursors[i]? = some c) (hl : c.leased = true)
    (hrows : c.rows = []) (hr : c.coverage = .ranged r) (hlt : r.current < r.stop) :
    (∀ x ∈ (b.page P (r.current + 1)).rows, x ∈ c.owed b P) ∧
      ∀ (s' : Session) (w' : World), s'.Sound b P w' → ∀ ops : List FamilyOp,
        ((F.dropRead i c r).run ops).Holds s' w' fun G _ _ =>
          ∀ x ∈ (b.page P (r.current + 1)).rows, x ∉ G.returned := by
  -- the family's ledger has no row twice, so the page's rows are not among the rest
  have hnd : ((F.dropRead i c r).ledger b P ++ (b.page P (r.current + 1)).rows).Nodup :=
    (ledger_dropRead hc hl hrows hr hlt).nodup_iff.mpr (nodup_of_subperm h.ledger b.allRows_nodup)
  refine ⟨fun x hx => ?_, fun s' w' hs' ops => ?_⟩
  · rw [SplitCursor.owed_eq_unread hl, ← SplitCursor.unread_pageClaimed b P hrows hr hlt]
    exact List.mem_append_left _ hx
  · refine (run_shrinks hb (h.dropRead hc hl hrows hr hlt hs') ops).mono
      fun G _ _ hG x hx hret => ?_
    have hin : x ∈ (F.dropRead i c r).ledger b P :=
      hG.subset (List.mem_append_left _ hret)
    exact List.disjoint_of_nodup_append hnd hin hx

/-- Open a root split cursor on a session made by `Session.make`, over a new in-memory service
whose rows and one more page fit in 64 bits, and run any operations on the family. A read of any
cursor that has nothing buffered and pages left in its range, dropped while it fetches the next
page, loses that page: the cursor owed its rows, and whatever is done afterwards, whatever the
service does, no cursor of the family hands one out. -/
theorem drive_drop_read_loses_page {sql : String} {config : SessionConfig} {svc : QueryService}
    {standalone : Bool} {s : Session} (hs : Session.make sql config svc standalone = .ok s)
    {b : Behavior} (hfit : b.rows + config.pageSize < Nat.pow 2 64) {w : World}
    (hw : w.backend = .fake { behavior := b }) (ops : List FamilyOp) :
    (drive ops).Holds s w fun F _ _ =>
      ∀ (i : Nat) (c : SplitCursor) (r : PageRange), F.cursors[i]? = some c →
        c.leased = true → c.rows = [] → c.coverage = .ranged r → r.current < r.stop →
        (∀ x ∈ (b.page config.pageSize (r.current + 1)).rows, x ∈ c.owed b config.pageSize) ∧
        ∀ (s' : Session) (w' : World), s'.Sound b config.pageSize w' →
          ∀ ops' : List FamilyOp, ((F.dropRead i c r).run ops').Holds s' w' fun G _ _ =>
            ∀ x ∈ (b.page config.pageSize (r.current + 1)).rows, x ∉ G.returned := by
  obtain ⟨p, hparams, -⟩ := Session.make_ok hs
  obtain ⟨-, -, hP0⟩ := SessionConfig.params_eq hparams
  have hb : b.Paged config.pageSize := ⟨hP0, hfit⟩
  refine (drive_sound hb (Session.make_sound hs ⟨_, hw, rfl⟩) ops).mono ?_
  intro F _ _ hF i c r hc hl hrows hr hlt
  exact hF.drop_read_loses_page hb hc hl hrows hr hlt

/-- Three rows in pages of one: the root hands out row 0, and a read of it is dropped while it
fetches page 1. -/
theorem drive_drop_read_loses_page_three_rows :
    ∃ s, Session.make "SELECT * FROM t" { pageSize := 1 } {} false = .ok s ∧
      (drive [.next 0]).Holds s { backend := .fake { behavior := { rows := 3 } } } fun F _ _ =>
        ∀ (i : Nat) (c : SplitCursor) (r : PageRange), F.cursors[i]? = some c →
          c.leased = true → c.rows = [] → c.coverage = .ranged r → r.current < r.stop →
          (∀ x ∈ (Behavior.page { rows := 3 } 1 (r.current + 1)).rows,
            x ∈ c.owed { rows := 3 } 1) ∧
          ∀ (s' : Session) (w' : World), s'.Sound { rows := 3 } 1 w' →
            ∀ ops' : List FamilyOp, ((F.dropRead i c r).run ops').Holds s' w' fun G _ _ =>
              ∀ x ∈ (Behavior.page { rows := 3 } 1 (r.current + 1)).rows, x ∉ G.returned :=
  ⟨_, rfl, @drive_drop_read_loses_page "SELECT * FROM t" { pageSize := 1 } {} false _ rfl
    { rows := 3 } (by decide) _ rfl _⟩

end Family

end JobQuery
