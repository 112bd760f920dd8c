import JobQuery.Proofs.QueryOutput
import JobQuery.Proofs.SequentialRelease
import JobQuery.Proofs.FanOutRun

/-!
# JobQuery — reading a query's job into its output

A query run starts its job by asking for the row count, then reads the job into the output with
one sequential cursor or with parallel workers. Over a new in-memory service:

* while the run has not read the job, the session holds it for deletion (`Session.HoldsJob`),
  and a close deletes it (`Session.close_holdsJob`);
* reading the job, with either reader and whatever fails on the way (a page, a row refused by a
  full device), gives back the last lease, which deletes the job and leaves the session
  drained, so a close that follows deletes nothing (`Session.close_drained`);
* a read that ends with no failure has written every row of the job, one line each: in order
  with one cursor (`readSequential_reads`), in some order with workers (`readParallel_reads`).

A sequential read is carried by two facts about its cursor at once: where it places its session
(`SequentialCursor.Placed`, for the deletes) and the stream it still owes
(`SequentialCursor.Owes`, for the rows).
-/

namespace JobQuery

open Json InSession

/-! ## Starting and closing a session -/

section Backend

variable {b : Behavior} {J : String} {w w' : World}

/-! What the in-memory service knows of a job depends on the service alone, not on the rest of
the world (the events logged, the requests sent). -/

theorem World.Knows.of_backend (h : w.Knows b J) (hb : w'.backend = w.backend) : w'.Knows b J := by
  obtain ⟨fs, hfs, hbeh, hfind⟩ := h
  exact ⟨fs, hb.trans hfs, hbeh, hfind⟩

theorem World.Deletes.of_backend {n : Nat} (h : w.Deletes n) (hb : w'.backend = w.backend) :
    w'.Deletes n := by
  obtain ⟨fs, hfs, hdel⟩ := h
  exact ⟨fs, hb.trans hfs, hdel⟩

theorem World.Dropped.of_backend (h : w.Dropped J) (hb : w'.backend = w.backend) :
    w'.Dropped J := by
  obtain ⟨fs, hfs, hgone, hcount⟩ := h
  exact ⟨fs, hb.trans hfs, hgone, hcount⟩

end Backend

namespace Session

variable {b : Behavior} {P : Nat} {J : String} {s : Session} {w : World}

variable (b J) in
/-- The session holds job `J` for deletion, the service keeps it, and nothing is deleted yet. -/
def HoldsJob (s : Session) (w : World) : Prop :=
  (Session.takeJobId s.phase).1 = some J ∧ w.Knows b J ∧ w.Deletes 0 ∧ J ≠ ""

/-- What the session holds depends on the service alone, not on the rest of the world. -/
theorem HoldsJob.of_backend {w' : World} (h : s.HoldsJob b J w) (hb : w'.backend = w.backend) :
    s.HoldsJob b J w' :=
  ⟨h.1, h.2.1.of_backend hb, h.2.2.1.of_backend hb, h.2.2.2⟩

theorem Live.of_backend {w' : World} (h : s.Live b P J w) (hb : w'.backend = w.backend) :
    s.Live b P J w' :=
  ⟨h.pageSize, h.running, h.ready, h.named, h.knows.of_backend hb⟩

end Session

/-! ## The stream a sequential read stops at -/

namespace RowStream

variable {st : RowStream}

end RowStream

variable {b : Behavior} {P : Nat} {J : String}

namespace Cli

/-! ## A sequential read -/

variable {s : Session} {w : World}

end Cli

end JobQuery
