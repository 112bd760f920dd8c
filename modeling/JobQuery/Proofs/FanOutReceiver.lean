import JobQuery.Proofs.FanOutEvents

/-!
# JobQuery — the receiver's steps and the runtime's keep the invariant

The receiver takes the oldest row of the channel and tells the first waiting worker not told
yet; once every worker has stopped reading it goes away, waits for the first worker's tally and
for the leases given back, and finishes. The runtime wakes the receiver when it was woken, and
runs queued workers; in whatever order it picks them, and wherever it puts one aside to run
another, each of these keeps `Inv`, with the turn passing to whoever runs next.
-/

namespace JobQuery

namespace FanOut

open Json

open scoped List

variable {b : Behavior} {P : Nat} {J : String} {st : State} {s : Session} {w : World}

/-! ## The receiver -/

section Receiver

/-- The line is empty once no worker reads: a waiting worker holds a row, and so reads. -/
theorem Inv.waiting_nil {turn : Turn} (h : Inv b P J turn st s w) (hs : st.senders = 0) :
    st.waiting = [] := by
  refine List.eq_nil_iff_forall_not_mem.mpr fun p hp => ?_
  obtain ⟨hlt, hsome⟩ := h.line p hp
  have hreads : (st.get p.1).reads = true := by
    revert hsome
    simp only [Worker.pending, Worker.reads]
    split <;> simp_all
  exact absurd hs (Nat.pos_iff_ne_zero.mp (h.senders_pos hlt hreads))

/-- The receiver takes the oldest row of the channel and tells the first waiting worker not told
yet: the row moves from the channel to the rows received. -/
theorem Inv.takeRow (h : Inv b P J .receiver st s w) (hr : st.receiving = .rows) {row : Value}
    {rest : List Value} (hc : st.channel = row :: rest) :
    Inv b P J .receiver ({ st with channel := rest, received := row :: st.received } : State).notified
      s w := by
  set st' := ({ st with channel := rest, received := row :: st.received } : State).notified with hst'
  have hW : st'.workers = st.workers := rfl
  have hledger : st'.ledger b P ~ st.ledger b P := by
    show row :: st.received ++ rest ++ st.held b P ~ st.received ++ st.channel ++ st.held b P
    rw [hc]
    exact (List.perm_middle.symm.append_right _)
  refine
    { h with
      queue := fun t ht => ?_
      rows := by
        rw [State.tally_of_workers hW, h.rows, hc]
        simp [hst', Nat.add_comm, Nat.add_left_comm]
      ledger := hledger.subperm.trans h.ledger
      exact := fun he => hledger.trans (h.exact he)
      line := fun p hp => ?_
      room := fun _ hne => (tellFirst_told_or_nil _).resolve_left hne
      scheduled := fun k hk => (h.scheduled k hk).frame id rfl
        (fun hq => State.mem_wakeQueue.mpr (Or.inl hq))
        (fun t ht => exists_mem_tellFirst.mpr ⟨t, ht⟩) told_tellFirst
        (fun hb => Or.inl (hb.of_workers hW))
      closed := fun hne => absurd hr hne
      woken := fun ht => absurd rfl ht
      report := fun ht => absurd rfl ht
      cleanup := fun ht => absurd rfl ht
      rootDone := fun hr' => by rcases hr' with hr' | hr' <;> exact absurd (hr.symm.trans hr') (by simp) }
  · rcases mem_wakeQueue_tellFirst ht with ht | ⟨k, u, hk, rfl⟩
    · exact h.queue t ht
    · exact ⟨k, (h.line _ hk).1, rfl⟩
  · obtain ⟨t, hpt⟩ := exists_mem_tellFirst.mp ⟨p.2, hp⟩
    exact h.line (p.1, t) hpt

/-- With the channel empty and no worker reading, the receiver goes away: it closes, and waits
for the first worker's tally. -/
theorem Inv.close (h : Inv b P J .receiver st s w) (hc : st.channel = []) (hs : st.senders = 0) :
    Inv b P J .receiver { st with receiverOpen := false, receiving := .report } s w :=
  { h with
    opened := rfl
    closed := fun _ => ⟨hs, hc⟩
    woken := fun ht => absurd rfl ht
    report := fun ht => absurd rfl ht
    cleanup := fun ht => absurd rfl ht
    rootDone := fun hr => by rcases hr with hr | hr <;> cases hr
    scheduled := fun k hk => (h.scheduled k hk).frame id rfl id (fun t ht => ⟨t, ht⟩) Or.inl
      (fun hb => Or.inl (hb.of_workers rfl)) }

/-- Once the first worker is done, the receiver has its tally, and turns to the leases still to
be given back. -/
theorem Inv.reportDone (h : Inv b P J .receiver st s w) (hr : st.receiving = .report)
    (hd : (st.get 0).stage = .done) :
    Inv b P J .receiver { st with receiving := .cleanup } s w :=
  { h with
    opened := by rw [h.opened, hr]; rfl
    closed := fun _ => h.closed (by rw [hr]; exact fun h => by cases h)
    rootDone := fun _ => hd
    woken := fun ht => absurd rfl ht
    report := fun ht => absurd rfl ht
    cleanup := fun ht => absurd rfl ht
    scheduled := fun k hk => (h.scheduled k hk).frame id rfl id (fun t ht => ⟨t, ht⟩) Or.inl
      (fun hb => Or.inl (hb.of_workers rfl)) }

/-- While the first worker is not done, the receiver asks it to wake it, and waits. -/
theorem Inv.reportWait (h : Inv b P J .receiver st s w) (hr : st.receiving = .report)
    (hd : (st.get 0).stage ≠ .done) :
    Inv b P J .idle (st.put 0 { st.get 0 with joiner := some .receiver }) s w := by
  set wk : Worker := { st.get 0 with joiner := some .receiver } with hwk
  have h0 : 0 < st.workers.size := h.size_pos
  have hother : ∀ {k}, k ≠ 0 → (st.put 0 wk).get k = st.get k := fun hk => State.get_put_ne wk hk
  have hself : (st.put 0 wk).get 0 = wk := State.get_put_self h0 wk
  have hsame : ∀ k, ((st.put 0 wk).get k).stage = (st.get k).stage ∧
      ((st.put 0 wk).get k).siblings = (st.get k).siblings := by
    intro k
    by_cases hk : k = 0
    · rw [hk, hself]
      exact ⟨rfl, rfl⟩
    · rw [hother hk]
      exact ⟨rfl, rfl⟩
  have hroots : (st.put 0 wk).roots = st.roots := State.roots_put h0 rfl
  have htally : ∀ f, (st.put 0 wk).tally f = st.tally f := @State.tally_put st 0 wk h0 rfl rfl
  have herrored : (st.put 0 wk).errored = st.errored := State.errored_put h0 rfl
  have hreading : (st.put 0 wk).reading = st.reading := State.reading_put h0 rfl
  have hledger : (st.put 0 wk).ledger b P = st.ledger b P := by
    simp only [State.ledger, State.put_received, State.put_channel,
      @State.held_put st 0 wk b P h0 rfl]
  have hpend : ∀ k, ((st.put 0 wk).get k).pending = (st.get k).pending := fun k => by
    simp only [Worker.pending, (hsame k).1]
  refine
    { size_pos := by rw [State.size_put]; exact h0
      capacity_pos := h.capacity_pos
      take := h.take
      releases := h.releases
      queue := by simpa using h.queue
      sane := fun k hk => ?_
      roots_nodup := hroots ▸ h.roots_nodup
      unmerged := fun k hk hnd => by
        rw [State.size_put] at hk
        rw [hroots]
        exact h.unmerged k hk (by rwa [(hsame k).1] at hnd)
      cursors := by rw [htally, State.size_put]; exact h.cursors
      rows := by rw [htally]; exact h.rows
      failures := by rw [htally, herrored]; exact h.failures
      senders := hreading ▸ h.senders
      ledger := hledger ▸ h.ledger
      exact := fun he => hledger ▸ h.exact (herrored ▸ he)
      leased := (@State.cursors_put_self st 0 wk h0 rfl).symm ▸ h.leased
      line := fun p hp => by
        obtain ⟨hlt, hsome⟩ := h.line p hp
        exact ⟨by simpa using hlt, by rwa [hpend]⟩
      room := h.room
      scheduled := fun k hk => ?_
      opened := h.opened
      closed := h.closed
      woken := fun _ hr' => absurd (hr.symm.trans hr') (by simp)
      report := fun _ _ => Or.inr ⟨by rw [hself]; exact hd, by rw [hself]⟩
      cleanup := fun _ => by rw [State.put_receiving, hr]; simp
      rootDone := fun hr' => by rcases hr' with hr' | hr' <;> exact absurd (hr.symm.trans hr') (by simp)
      quiet := fun ht => absurd ht (by simp) }
  · rw [State.size_put] at hk ⊢
    by_cases hk0 : k = 0
    · subst hk0
      rw [hself]
      have hsane := h.sane 0 h0
      exact ⟨hsane.siblings, hsane.leased, hsane.merged, fun _ hj => by simp [hwk] at hj⟩
    · rw [hother hk0]
      exact h.sane k hk
  · rw [State.size_put] at hk
    -- the first worker is nobody's sibling, so every wait on a sibling is as it was
    refine (h.scheduled k hk).frame (fun _ => by simp) (hsame k).1 id (fun t ht => ⟨t, ht⟩) Or.inl
      (fun hb => Or.inl ?_)
    obtain ⟨j, rest, hsib, hnd, hjw⟩ := hb
    have hj0 : j ≠ 0 := by
      have := ((h.sane k hk).siblings j (by simp [hsib])).1
      omega
    exact ⟨j, rest, by rw [(hsame k).2]; exact hsib, by rw [hother hj0]; exact hnd,
      by rw [hother hj0]; exact hjw⟩

/-- With the first worker's tally in and every lease given back, the receiver finishes. -/
theorem Inv.cleanupDone (h : Inv b P J .receiver st s w) (hr : st.receiving = .cleanup) :
    Inv b P J .receiver { st with receiving := .finished } s w :=
  { h with
    opened := by rw [h.opened, hr]; rfl
    closed := fun _ => h.closed (by rw [hr]; exact fun h => by cases h)
    rootDone := fun _ => h.rootDone (Or.inl hr)
    woken := fun ht => absurd rfl ht
    report := fun ht => absurd rfl ht
    cleanup := fun ht => absurd rfl ht
    scheduled := fun k hk => (h.scheduled k hk).frame id rfl id (fun t ht => ⟨t, ht⟩) Or.inl
      (fun hb => Or.inl (hb.of_workers rfl)) }

/-- The receiver stops, finished or with nothing to take yet, and waits to be woken. -/
theorem Inv.idle_of_receiver (h : Inv b P J .receiver st s w)
    (hr : st.receiving = .rows ∨ st.receiving = .finished)
    (hwait : st.receiving = .rows → st.channel = [] ∧ st.senders ≠ 0) :
    Inv b P J .idle st s w :=
  { h with
    scheduled := fun k hk => (h.scheduled k hk).frame (fun _ => by simp) rfl id
      (fun t ht => ⟨t, ht⟩) Or.inl Or.inl
    woken := fun _ hrows hc => by
      obtain ⟨hc', hs⟩ := hwait hrows
      rcases hc with hc | hc
      · exact absurd hc' hc
      · exact absurd hc hs
    report := fun _ hrep => by rcases hr with hr | hr <;> exact absurd (hr.symm.trans hrep) (by simp)
    cleanup := fun _ hcl => by rcases hr with hr | hr <;> exact absurd (hr.symm.trans hcl) (by simp)
    quiet := fun ht => absurd ht (by simp) }

end Receiver

/-! ## The runtime -/

section Runtime

/-- The runtime wakes the receiver it was asked to wake. -/
theorem Inv.wakeReceiver (h : Inv b P J .idle st s w) :
    Inv b P J .receiver { st with receiverWoken := false } s w :=
  { h with
    scheduled := fun k hk => (h.scheduled k hk).frame (fun _ => by simp) rfl id
      (fun t ht => ⟨t, ht⟩) Or.inl (fun hb => Or.inl (hb.of_workers rfl))
    woken := fun ht => absurd rfl ht
    report := fun ht => absurd rfl ht
    cleanup := fun ht => absurd rfl ht
    quiet := fun _ => rfl }

/-- The runtime runs a queued task, whichever it picks: a worker of the read, every other worker
staying scheduled. -/
theorem Inv.pick (h : Inv b P J .idle st s w) {t : Task} (ht : t ∈ st.queue) :
    ∃ i, t = .worker i ∧ i < st.workers.size ∧
      Inv b P J (.worker i) { st with queue := st.queue.erase t } s w := by
  obtain ⟨i, hi, rfl⟩ := h.queue t ht
  refine ⟨i, rfl, hi,
    { h with
      queue := fun t ht => h.queue t (List.mem_of_mem_erase ht)
      scheduled := fun k hk => ?_
      woken := fun _ => h.woken (by simp)
      report := fun _ => h.report (by simp)
      cleanup := fun _ => h.cleanup (by simp)
      quiet := fun ht => absurd ht (by simp) }⟩
  by_cases hki : k = i
  · subst hki
    exact ⟨fun ht => absurd rfl ht, fun ht => absurd rfl ht, fun ht => absurd rfl ht,
      fun ht => absurd rfl ht⟩
  · -- every other queued worker is still queued
    have hkeep : Task.worker k ∈ st.queue → Task.worker k ∈ st.queue.erase (.worker i) :=
      (List.mem_erase_of_ne (by simpa using hki)).mpr
    exact (h.scheduled k hk).frame (fun _ => by simp) rfl hkeep (fun t ht => ⟨t, ht⟩)
      (fun ht => Or.inl ht) (fun hb => Or.inl (hb.of_workers rfl))

/-- The runtime runs the next queued task, which is a worker of the read. -/
theorem Inv.pop (h : Inv b P J .idle st s w) {t : Task} {rest : List Task}
    (hq : st.queue = t :: rest) :
    ∃ i, t = .worker i ∧ i < st.workers.size ∧ Inv b P J (.worker i) { st with queue := rest } s w := by
  have herase : st.queue.erase t = rest := by rw [hq, List.erase_cons_head]
  rw [← herase]
  exact h.pick (by simp [hq])

/-- A worker put aside while it runs, or woken with nothing to do, is queued: every worker stays
scheduled. -/
theorem Inv.requeue {turn : Turn} {i : Nat} (h : Inv b P J turn st s w)
    (hturn : turn = .idle ∨ turn = .worker i) (hi : i < st.workers.size) :
    Inv b P J .idle (st.wake i) s w := by
  have hq : Task.worker i ∈ (st.wake i).queue := State.mem_wakeQueue.mpr (Or.inr ⟨i, rfl, rfl⟩)
  have hrecv : turn ≠ .receiver := by rcases hturn with rfl | rfl <;> simp
  refine
    { h with
      queue := fun t ht => ?_
      scheduled := fun k hk => ?_
      woken := fun _ => h.woken hrecv
      report := fun _ => h.report hrecv
      cleanup := fun _ => h.cleanup hrecv
      quiet := fun ht => absurd ht (by simp) }
  · rcases (@State.mem_wakeQueue st.queue (some i) t).mp ht with ht | ⟨j, hj, rfl⟩
    · exact h.queue t ht
    · cases hj
      exact ⟨i, hi, rfl⟩
  · by_cases hki : k = i
    · -- the worker woken is queued, whatever it does next
      subst hki
      exact ⟨fun _ _ => hq, fun _ _ => Or.inr hq, fun _ _ => Or.inl hq, fun _ _ => hq⟩
    · exact (h.scheduled k hk).frame (fun _ => by rcases hturn with rfl | rfl <;> simp [Ne.symm hki])
        rfl (fun hk' => (@State.mem_wakeQueue st.queue (some i) _).mpr (Or.inl hk'))
        (fun t ht => ⟨t, ht⟩)
        (fun ht => Or.inl ht) (fun hb => Or.inl (hb.of_workers rfl))

/-- The receiver put aside while it runs, or woken with nothing to do, is woken: the read keeps
its invariant. -/
theorem Inv.rewake {turn : Turn} (h : Inv b P J turn st s w)
    (hturn : turn = .idle ∨ turn = .receiver) :
    Inv b P J .idle { st with receiverWoken := true } s w :=
  { h with
    scheduled := fun k hk => (h.scheduled k hk).frame
      (fun _ => by rcases hturn with rfl | rfl <;> simp) rfl id (fun t ht => ⟨t, ht⟩) Or.inl
      (fun hb => Or.inl (hb.of_workers rfl))
    woken := fun _ _ _ => rfl
    report := fun _ _ => Or.inl rfl
    cleanup := fun _ _ => rfl
    quiet := fun ht => absurd ht (by simp) }

end Runtime

end FanOut

end JobQuery
