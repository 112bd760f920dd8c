import JobQuery.Proofs.FanOutInvariant

/-!
# JobQuery — every step of a parallel read keeps its invariant

One lemma for each thing a step of the scheduler can do: a worker forks, declines to split,
reads a row, stops reading, hands a row over or waits for room, merges a sibling's tally, waits
for a sibling or finishes; the receiver takes a row, goes away, waits for the first worker's
tally or finishes; the runtime wakes the receiver or runs a queued worker. Each keeps `Inv`, with
the turn passing to whoever runs next, and each step that goes on lowers `State.potential`,
while one that waits does not raise it.
-/

namespace JobQuery

namespace FanOut

open Json

open scoped List

/-! ## Frames -/

section Frames

variable {st st' : State} {i k : Nat}

theorem State.get_of_workers (h : st'.workers = st.workers) (k : Nat) : st'.get k = st.get k := by
  simp [State.get, h]

theorem State.roots_of_workers (h : st'.workers = st.workers) : st'.roots = st.roots := by
  simp [State.roots, h]

theorem State.tally_of_workers (h : st'.workers = st.workers) (f : ParallelReport → Nat) :
    st'.tally f = st.tally f := by
  simp [State.tally, State.roots_of_workers h, State.get_of_workers h]

theorem State.errored_of_workers (h : st'.workers = st.workers) : st'.errored = st.errored := by
  simp [State.errored, h]

theorem State.reading_of_workers (h : st'.workers = st.workers) : st'.reading = st.reading := by
  simp [State.reading, h]

theorem State.cursors_of_workers (h : st'.workers = st.workers) : st'.cursors = st.cursors := by
  simp [State.cursors, h]

theorem State.held_of_workers (h : st'.workers = st.workers) (b : Behavior) (P : Nat) :
    st'.held b P = st.held b P := by
  simp [State.held, h]

/-- A worker whose siblings, and whose next sibling's progress and joiner, are as they were stays
blocked. -/
theorem Blocked.of_get (hb : Blocked st k) (hk : (st'.get k).siblings = (st.get k).siblings)
    (hj : ∀ j, (st.get j).stage ≠ .done → (st'.get j).stage ≠ .done ∧
      (st'.get j).joiner = (st.get j).joiner) : Blocked st' k := by
  obtain ⟨j, rest, hsib, hnd, hjw⟩ := hb
  obtain ⟨hnd', hjw'⟩ := hj j hnd
  exact ⟨j, rest, hk ▸ hsib, hnd', hjw'.trans hjw⟩

theorem Blocked.of_workers (h : st'.workers = st.workers) (hb : Blocked st k) : Blocked st' k :=
  hb.of_get (by rw [State.get_of_workers h k]) fun j hnd => by simp [State.get_of_workers h j, hnd]

/-- Replacing a worker keeps every other worker blocked, as long as the one replaced, when it
was not done, stays not done and keeps who waits for it. -/
theorem Blocked.put (hb : Blocked st k) (hk : k ≠ i) {wk : Worker}
    (hstage : (st.get i).stage ≠ .done → wk.stage ≠ .done) (hjoiner : wk.joiner = (st.get i).joiner) :
    Blocked (st.put i wk) k := by
  refine hb.of_get (by rw [State.get_put_ne wk hk]) fun j hnd => ?_
  by_cases hji : j = i
  · subst hji
    by_cases hj : j < st.workers.size
    · rw [State.get_put_self hj]
      exact ⟨hstage hnd, hjoiner⟩
    · -- out of range, the state keeps its workers
      have hw : (st.put j wk).workers = st.workers := by
        simp [State.put, Array.set!, Array.setIfInBounds, hj]
      simp [State.get_of_workers hw j, hnd]
  · simp [State.get_put_ne wk hji, hnd]

/-- A worker replaced by one with the same cursor keeps the cursors. -/
theorem State.cursors_put_self {wk : Worker} (hi : i < st.workers.size)
    (h : wk.cursor = (st.get i).cursor) : (st.put i wk).cursors = st.cursors := by
  rw [State.cursors_put]
  refine List.ext_getElem? fun k => ?_
  by_cases hk : k = i
  · subst hk
    have hlen : k < st.cursors.length := by simpa [State.cursors] using hi
    have hc := State.getElem?_cursors hi
    rw [List.getElem?_eq_getElem hlen] at hc
    simp [hlen, h, Option.some.inj hc]
  · simp [Ne.symm hk]

/-- A worker whose progress does not change, in a step that keeps the queue and the line for it
and keeps it blocked, stays scheduled. -/
theorem Scheduled.frame {turn turn' : Turn} (h : Scheduled turn st k)
    (hturn : turn' ≠ .worker k → turn ≠ .worker k) (hstage : (st'.get k).stage = (st.get k).stage)
    (hqueue : .worker k ∈ st.queue → .worker k ∈ st'.queue)
    (hwaits : ∀ t, (k, t) ∈ st.waiting → ∃ t', (k, t') ∈ st'.waiting)
    (htold : (k, true) ∈ st'.waiting → (k, true) ∈ st.waiting ∨ .worker k ∈ st'.queue)
    (hblocked : Blocked st k → Blocked st' k ∨ .worker k ∈ st'.queue) :
    Scheduled turn' st' k where
  runs ht hr := hqueue (h.runs (hturn ht) (by simpa only [Worker.runnable, hstage] using hr))
  waits ht hp := by
    rcases h.waits (hturn ht) (by simpa only [Worker.pending, hstage] using hp) with ⟨t, ht'⟩ | hq
    · exact Or.inl (hwaits t ht')
    · exact Or.inr (hqueue hq)
  joins ht hj := by
    rcases h.joins (hturn ht) (hstage.symm.trans hj) with hq | hb
    · exact Or.inl (hqueue hq)
    · exact (hblocked hb).symm
  told ht hw := by
    rcases htold hw with hw' | hq
    · exact hqueue (h.told (hturn ht) hw')
    · exact hq

end Frames

/-! ## A worker that goes on in place -/

section Put

variable {b : Behavior} {P : Nat} {J : String} {st : State} {s s' : Session} {w w' : World}
  {i : Nat}

/-- A worker that can take a step reads, and so the receiver still takes rows. -/
theorem Inv.receiving_rows {turn : Turn} (h : Inv b P J turn st s w) (hi : i < st.workers.size)
    (hr : (st.get i).reads = true) : st.receiving = .rows := by
  by_contra hne
  exact absurd (h.closed hne).1 (Nat.pos_iff_ne_zero.mp (h.senders_pos hi hr))

theorem Worker.reads_of_runnable {wk : Worker} (h : wk.runnable = true) : wk.reads = true := by
  revert h
  simp only [Worker.runnable, Worker.reads]
  split <;> simp_all

theorem Worker.pending_of_runnable {wk : Worker} (h : wk.runnable = true) : wk.pending = none := by
  revert h
  simp only [Worker.runnable, Worker.pending]
  split <;> simp_all

theorem Worker.stage_of_runnable {wk : Worker} (h : wk.runnable = true) : wk.stage ≠ .done := by
  revert h
  simp only [Worker.runnable]
  split <;> simp_all

/-- Worker `i`, running and able to take a step, becomes `wk`, which reads as it did, keeps its
siblings, its tally and who waits for it, holds the same rows and is not done; with the leases
of the new cursors as `hleased` says, the read keeps its invariant. -/
theorem Inv.put (h : Inv b P J (.worker i) st s w) (hi : i < st.workers.size)
    (hrun : (st.get i).runnable = true) {wk : Worker} (hsane : wk.Sane st.workers.size i)
    (hstage : wk.stage ≠ .done) (hsib : wk.siblings = (st.get i).siblings)
    (hreport : wk.report = (st.get i).report) (hjoiner : wk.joiner = (st.get i).joiner)
    (hreads : wk.reads = (st.get i).reads)
    (herr : wk.cursor.error.isSome = (st.get i).cursor.error.isSome)
    (hheld : wk.holding b P = (st.get i).holding b P)
    (hleased : Family.Leased b P J (st.cursors.set i wk.cursor) s' w') :
    Inv b P J (.worker i) (st.put i wk) s' w' := by
  have hrows := h.receiving_rows hi (Worker.reads_of_runnable hrun)
  have hpend := Worker.pending_of_runnable hrun
  have hroots := State.roots_put hi hsib
  have htally := State.tally_put hi hsib hreport
  have hledger : (st.put i wk).ledger b P = st.ledger b P := by
    simp only [State.ledger, State.put_received, State.put_channel, State.held_put b P hi hheld]
  -- every other worker is as it was
  have hother : ∀ {k}, k ≠ i → (st.put i wk).get k = st.get k := State.get_put_ne wk
  exact
    { size_pos := by simpa using h.size_pos
      capacity_pos := h.capacity_pos
      take := h.take
      releases := h.releases
      queue := by simpa using h.queue
      sane := fun k hk => by
        rw [State.size_put] at hk ⊢
        by_cases hki : k = i
        · subst hki
          rw [State.get_put_self hi]
          exact hsane
        · rw [hother hki]
          exact h.sane k hk
      roots_nodup := hroots ▸ h.roots_nodup
      unmerged := fun k hk hnd => by
        rw [State.size_put] at hk
        rw [hroots]
        by_cases hki : k = i
        · subst hki
          exact h.unmerged k hk (Worker.stage_of_runnable hrun)
        · exact h.unmerged k hk (hother hki ▸ hnd)
      cursors := by rw [htally, State.size_put]; exact h.cursors
      rows := by rw [htally]; exact h.rows
      failures := by rw [htally, State.errored_put hi herr]; exact h.failures
      senders := by rw [State.reading_put hi hreads]; exact h.senders
      ledger := hledger ▸ h.ledger
      exact := fun he => hledger ▸ h.exact (State.errored_put hi herr ▸ he)
      leased := State.cursors_put st i wk ▸ hleased
      line := fun p hp => by
        obtain ⟨hlt, hsome⟩ := h.line p hp
        have hpi : p.1 ≠ i := fun he => by simp [he, hpend] at hsome
        exact ⟨by simpa using hlt, by rwa [hother hpi]⟩
      room := h.room
      scheduled := fun k hk => by
        rw [State.size_put] at hk
        by_cases hki : k = i
        · subst hki
          exact ⟨fun ht => absurd rfl ht, fun ht => absurd rfl ht, fun ht => absurd rfl ht,
            fun ht => absurd rfl ht⟩
        · exact (h.scheduled k hk).frame (fun _ => by simpa using Ne.symm hki) (by rw [hother hki]) id
            (fun t ht => ⟨t, ht⟩) Or.inl
            (fun hb => Or.inl (hb.put hki (fun _ => hstage) hjoiner))
      opened := h.opened
      closed := h.closed
      woken := h.woken
      report := fun _ hr => absurd (hrows.symm.trans hr) (by simp)
      cleanup := h.cleanup
      rootDone := fun hr => by rcases hr with hr | hr <;> exact absurd (hrows.symm.trans hr) (by simp)
      quiet := h.quiet }

end Put

/-! ## A fork -/

section Fork

variable {b : Behavior} {P : Nat} {J : String} {st : State} {s s' : Session} {w w' : World}
  {i : Nat}

theorem Inv.roots_lt {turn : Turn} (h : Inv b P J turn st s w) {k : Nat} (hk : k ∈ st.roots) :
    k < st.workers.size := by
  rcases State.mem_roots.mp hk with rfl | ⟨j, hj, hmem⟩
  · exact h.size_pos
  · exact ((h.sane j hj).siblings k hmem).2

theorem Inv.error_none {turn : Turn} (h : Inv b P J turn st s w) {k : Nat}
    (hk : k < st.workers.size) (hl : (st.get k).cursor.leased = true) :
    (st.get k).cursor.error = none :=
  h.leased.unerred _ (List.mem_of_getElem? (State.getElem?_cursors hk)) hl

/-- Worker `i`, forking, splits its cursor into `c` and a sibling `x`, both holding leases, which
divide what the cursor owed between them; the sibling starts as worker `st.workers.size`, queued.
With the leases as `hleased` says, the read keeps its invariant. -/
theorem Inv.fork (h : Inv b P J (.worker i) st s w) (hi : i < st.workers.size) {budget : Nat}
    (hs : (st.get i).stage = .forking budget) {c x : SplitCursor} (hcl : c.leased = true)
    (hxl : x.leased = true) (hunread : c.unread b P ++ x.unread b P = (st.get i).cursor.unread b P)
    (hleased : Family.Leased b P J (st.cursors.set i c ++ [x]) s' w') (rest half : Nat) :
    Inv b P J (.worker i)
      (st.forked i
        { st.get i with
          cursor := c
          siblings := st.workers.size :: (st.get i).siblings
          stage := .forking rest } x half) s' w' := by
  set wk : Worker :=
    { st.get i with
      cursor := c
      siblings := st.workers.size :: (st.get i).siblings
      stage := .forking rest } with hwk
  set xw : Worker := { cursor := x, stage := .forking half } with hxw
  have hreads : (st.get i).reads = true := by simp [Worker.reads, hs]
  have hold : (st.get i).cursor.leased = true := (h.sane i hi).leased.trans hreads
  have herr : (st.get i).cursor.error = none := h.error_none hi hold
  have hlen : i < st.cursors.length := by simpa [State.cursors] using hi
  have hcerr : c.error = none := hleased.unerred c
    (List.mem_append_left _ (List.mem_of_getElem? (List.getElem?_set_self hlen))) hcl
  have hxerr : x.error = none :=
    hleased.unerred x (List.mem_append_right _ (List.mem_singleton_self x)) hxl
  have hrows := h.receiving_rows hi hreads
  have hget := @State.get_forked st i wk x half hi
  have hroots := @State.roots_forked st i wk x half hi rfl
  have hni : st.workers.size ≠ i := Nat.ne_of_gt hi
  -- the workers that were there keep their entries, but for worker `i`
  have hother : ∀ {k}, k ≠ i → k < st.workers.size → (st.forked i wk x half).get k = st.get k :=
    fun hki hk => by rw [hget, if_neg hki, if_neg (Nat.ne_of_lt hk)]
  have htally : ∀ f : ParallelReport → Nat,
      (st.forked i wk x half).tally f = f xw.report + st.tally f := by
    intro f
    have hcongr : st.roots.map (fun k => f ((st.forked i wk x half).get k).report) =
        st.roots.map (fun k => f (st.get k).report) :=
      List.map_congr_left fun k hk => by
        by_cases hki : k = i
        · rw [hki, hget, if_pos rfl]
        · rw [hother hki (h.roots_lt hk)]
    rw [State.tally, (hroots.map _).sum_eq, List.map_cons, List.sum_cons, hcongr, hget,
      if_neg hni, if_pos rfl]
    rfl
  have herrored : (st.forked i wk x half).errored = st.errored := by
    have := @State.countP_forked st i wk x half hi
      fun wk => wk.cursor.error.isSome
    simp only [herr, hcerr, hxerr, hwk, Option.isSome_none] at this
    simpa [State.errored] using this
  have hreading : (st.forked i wk x half).reading = st.reading + 1 := by
    have := @State.countP_forked st i wk x half hi Worker.reads
    have hwr : wk.reads = true := rfl
    have hxr : Worker.reads { cursor := x, stage := .forking half } = true := rfl
    rw [hreads, hwr, hxr, if_pos rfl] at this
    simp only [State.reading]
    omega
  have hheld : (st.forked i wk x half).held b P ~ st.held b P := by
    obtain ⟨A, B, h₁, h₂⟩ := State.held_forked b P hi wk x half
    have hwkh : wk.holding b P = c.unread b P := by
      simp [Worker.holding, Worker.pending, hwk, SplitCursor.owed, hcl]
    have hxh : xw.holding b P = x.unread b P := by
      simp [Worker.holding, Worker.pending, hxw, SplitCursor.owed, hxl]
    have hih : (st.get i).holding b P = c.unread b P ++ x.unread b P := by
      simp [Worker.holding, Worker.pending, hs, SplitCursor.owed, hold, hunread]
    rw [h₁, h₂, hwkh, hxh, hih]
    -- the sibling's rows move back next to the cursor's
    simpa only [List.append_assoc] using
      (@List.perm_append_comm _ B (x.unread b P)).append_left (A ++ c.unread b P)
  have hledger : (st.forked i wk x half).ledger b P ~ st.ledger b P := by
    simpa only [State.ledger, State.forked_received, State.forked_channel] using
      hheld.append_left (st.received ++ st.channel)
  refine
    { size_pos := by simp
      capacity_pos := h.capacity_pos
      take := h.take
      releases := h.releases
      queue := fun t ht => ?_
      sane := fun k hk => ?_
      roots_nodup := hroots.nodup_iff.mpr (List.nodup_cons.mpr
        ⟨fun hn => absurd (h.roots_lt hn) (lt_irrefl _), h.roots_nodup⟩)
      unmerged := fun k hk hnd => ?_
      cursors := by rw [htally, h.cursors, State.size_forked]; simp [hxw, Nat.add_comm]
      rows := by rw [htally, h.rows]; simp [hxw]
      failures := by rw [htally, h.failures, herrored]; simp [hxw]
      senders := by rw [hreading, ← h.senders]; rfl
      ledger := hledger.subperm.trans h.ledger
      exact := fun he => hledger.trans (h.exact (herrored ▸ he))
      leased := State.cursors_forked hi ▸ hleased
      line := fun p hp => ?_
      room := h.room
      scheduled := fun k hk => ?_
      opened := h.opened
      closed := fun hr => absurd (by simp [hrows]) hr
      woken := fun ht hr hc => h.woken ht hr (hc.imp_right fun h0 => absurd h0 (by simp))
      report := fun _ hr => absurd (hrows.symm.trans hr) (by simp)
      cleanup := h.cleanup
      rootDone := fun hr => by rcases hr with hr | hr <;> exact absurd (hrows.symm.trans hr) (by simp)
      quiet := fun ht => absurd ht (by simp) }
  · -- the queue gains the new sibling
    rw [State.forked_queue] at ht
    rcases State.mem_wakeQueue.mp ht with ht | ⟨_, ⟨⟩, rfl⟩
    · obtain ⟨k, hk, rfl⟩ := h.queue t ht
      exact ⟨k, by simp; omega, rfl⟩
    · exact ⟨st.workers.size, by simp, rfl⟩
  · rw [State.size_forked] at hk ⊢
    rw [hget]
    by_cases hki : k = i
    · rw [if_pos hki]
      subst hki
      have hsane := h.sane k hi
      refine ⟨fun j hj => ?_, by simp [hwk, hcl, Worker.reads], by simp [hwk],
        fun j hj => by have := hsane.joiner j hj; omega⟩
      rcases List.mem_cons.mp hj with rfl | hj
      · exact ⟨hi, by omega⟩
      · have := hsane.siblings j hj
        omega
    · rw [if_neg hki]
      by_cases hkn : k = st.workers.size
      · rw [if_pos hkn]
        exact ⟨by simp, by simp [hxl, Worker.reads], by simp, fun _ h => by cases h⟩
      · rw [if_neg hkn]
        have hsane := h.sane k (by omega)
        exact ⟨fun j hj => by have := hsane.siblings j hj; omega, hsane.leased, hsane.merged,
          fun j hj => by have := hsane.joiner j hj; omega⟩
  · rw [State.size_forked] at hk
    rw [hroots.mem_iff, List.mem_cons]
    by_cases hkn : k = st.workers.size
    · exact Or.inl hkn
    · refine Or.inr (h.unmerged k (by omega) ?_)
      by_cases hki : k = i
      · rw [hki, hs]
        simp
      · rwa [hother hki (by omega)] at hnd
  · obtain ⟨hlt, hsome⟩ := h.line p hp
    have hpi : p.1 ≠ i := fun he => by simp [he, Worker.pending, hs] at hsome
    exact ⟨by simp; omega, by rwa [hother hpi hlt]⟩
  · rw [State.size_forked] at hk
    have hnew : Task.worker st.workers.size ∈ (st.forked i wk x half).queue :=
      State.mem_wakeQueue.mpr (Or.inr ⟨_, rfl, rfl⟩)
    by_cases hki : k = i
    · subst hki
      exact ⟨fun ht => absurd rfl ht, fun ht => absurd rfl ht, fun ht => absurd rfl ht,
        fun ht => absurd rfl ht⟩
    by_cases hkn : k = st.workers.size
    · subst hkn
      refine ⟨fun _ _ => hnew, fun _ hp => ?_, fun _ hj => ?_, fun _ _ => hnew⟩
      · rw [hget, if_neg hki, if_pos rfl] at hp
        simp [Worker.pending] at hp
      · rw [hget, if_neg hki, if_pos rfl] at hj
        simp at hj
    · have hk' : k < st.workers.size := by omega
      refine (h.scheduled k hk').frame (fun _ => by simpa using Ne.symm hki) (by rw [hother hki hk'])
        (fun hq => by rw [State.forked_queue]; exact State.mem_wakeQueue.mpr (Or.inl hq))
        (fun t ht => ⟨t, ht⟩) Or.inl
        (fun hb => Or.inl (hb.of_get (by rw [hother hki hk']) fun j hnd => ?_))
      rw [hget]
      by_cases hji : j = i
      · subst hji
        simp [hwk]
      · rw [if_neg hji]
        by_cases hjn : j = st.workers.size
        · -- past the last worker, the entry was the default one, with nobody waiting for it
          have hdef : st.get j = default := by simp [State.get, hjn]
          rw [if_pos hjn, hdef]
          simp
          rfl
        · rw [if_neg hjn]
          exact ⟨hnd, rfl⟩

end Fork

/-! ## Stopping to read -/

section Stop

variable {b : Behavior} {P : Nat} {J : String} {st : State} {s s' : Session} {w w' : World}
  {i : Nat}

/-- Worker `i`, reading with no row in hand, stops reading: its cursor `c` has given its lease
back, owing nothing unless it failed, and its tally `r` counts the failure, if any. The read
keeps its invariant, and the last worker to stop wakes the receiver. -/
theorem Inv.stopped (h : Inv b P J (.worker i) st s w) (hi : i < st.workers.size)
    (hs : (st.get i).stage = .reading none) {c : SplitCursor} (hl : c.leased = false)
    (hdrained : c.error = none → (st.get i).cursor.unread b P = []) {r : ParallelReport}
    (hrows : r.rows = (st.get i).report.rows) (hcursors : r.cursors = (st.get i).report.cursors)
    (hfailures : r.failures.length =
      (st.get i).report.failures.length + (if c.error.isSome then 1 else 0))
    (hleased : Family.Leased b P J (st.cursors.set i c) s' w') :
    Inv b P J (.worker i) (st.stopped i { st.get i with cursor := c, report := r }) s' w' := by
  set wk : Worker := { st.get i with cursor := c, report := r, stage := .joining } with hwk
  have hreads : (st.get i).reads = true := by simp [Worker.reads, hs]
  have hold : (st.get i).cursor.leased = true := (h.sane i hi).leased.trans hreads
  have herr : (st.get i).cursor.error = none := h.error_none hi hold
  have hrecv := h.receiving_rows hi hreads
  have hsib : wk.siblings = (st.get i).siblings := rfl
  -- the workers are those of `st.put i wk`
  have hget : ∀ k, (st.stopped i { st.get i with cursor := c, report := r }).get k =
      (st.put i wk).get k := fun _ => rfl
  have hother : ∀ {k}, k ≠ i →
      (st.stopped i { st.get i with cursor := c, report := r }).get k = st.get k :=
    fun hki => (hget _).trans (State.get_put_ne wk hki)
  have hroots : (st.stopped i { st.get i with cursor := c, report := r }).roots = st.roots :=
    State.roots_put hi hsib
  have hmem : i ∈ st.roots := h.unmerged i hi (by simp [hs])
  have htally := fun f => @State.tally_put_update st i wk hi hsib h.roots_nodup hmem f
  have herrored : (st.put i wk).errored = st.errored + (if c.error.isSome then 1 else 0) := by
    have := State.countP_put hi wk fun wk => wk.cursor.error.isSome
    have hw : wk.cursor.error.isSome = c.error.isSome := rfl
    simp only [herr, Option.isSome_none, Bool.false_eq_true, if_false, hw, Nat.add_zero] at this
    simpa only [State.errored] using this
  have hreading : (st.put i wk).reading + 1 = st.reading := by
    have := State.countP_put hi wk Worker.reads
    have hw : wk.reads = false := rfl
    simp only [hreads, hw, Bool.false_eq_true, if_false, if_true, Nat.add_zero] at this
    simpa only [State.reading] using this
  obtain ⟨A, B, hheld, hheld'⟩ := State.held_put_eq b P hi wk
  have hwkh : wk.holding b P = [] := by simp [Worker.holding, Worker.pending, hwk, SplitCursor.owed, hl]
  have hsub : (st.stopped i { st.get i with cursor := c, report := r }).ledger b P <+ st.ledger b P := by
    have : (st.put i wk).held b P <+ st.held b P := by
      rw [hheld, hheld', hwkh, List.append_nil]
      exact (List.sublist_append_left A _).append_right B
    exact this.append_left _
  refine
    { size_pos := by simpa using h.size_pos
      capacity_pos := h.capacity_pos
      take := h.take
      releases := h.releases
      queue := by simpa using h.queue
      sane := fun k hk => ?_
      roots_nodup := hroots ▸ h.roots_nodup
      unmerged := fun k hk hnd => ?_
      cursors := by
        have := htally (·.cursors)
        simp only [hwk, hcursors] at this
        show (st.put i wk).tally _ = (st.put i wk).workers.size
        rw [State.size_put, ← h.cursors]
        exact Nat.add_right_cancel this
      rows := by
        have := htally (·.rows)
        simp only [hwk, hrows] at this
        show (st.put i wk).tally _ = st.received.length + st.channel.length
        rw [← h.rows]
        exact Nat.add_right_cancel this
      failures := by
        have := htally (·.failures.length)
        have hwf : wk.report.failures.length = r.failures.length := rfl
        rw [hwf, hfailures] at this
        have hf := h.failures
        show (st.put i wk).tally (·.failures.length) = (st.put i wk).errored
        omega
      senders := by
        have := h.senders_pos hi hreads
        have hs' := h.senders
        show st.senders - 1 = (st.put i wk).reading
        omega
      ledger := hsub.subperm.trans h.ledger
      exact := fun he => by
        have he' : (st.put i wk).errored = 0 := he
        have hc : c.error = none := by
          cases hce : c.error with
          | none => rfl
          | some e => simp [hce] at herrored; omega
        have heq : (st.stopped i { st.get i with cursor := c, report := r }).ledger b P =
            st.ledger b P := by
          have hnil : (st.get i).holding b P = [] := by
            simp [Worker.holding, Worker.pending, hs, SplitCursor.owed, hold, hdrained hc]
          show st.received ++ st.channel ++ (st.put i wk).held b P = _
          rw [hheld', hwkh, State.ledger, hheld, hnil]
        rw [heq]
        exact h.exact (by simp [hc] at herrored; omega)
      leased := State.cursors_put st i wk ▸ hleased
      line := fun p hp => by
        obtain ⟨hlt, hsome⟩ := h.line p hp
        have hpi : p.1 ≠ i := fun he => by simp [he, Worker.pending, hs] at hsome
        exact ⟨by simpa using hlt, by rwa [hother hpi]⟩
      room := h.room
      scheduled := fun k hk => ?_
      opened := h.opened
      closed := fun hr => absurd (by simp [hrecv]) hr
      woken := fun _ _ hc => by
        simp only [State.stopped_receiverWoken, Bool.or_eq_true, beq_iff_eq]
        rcases hc with hc | hc
        · exact Or.inl (h.woken (by simp) hrecv (Or.inl hc))
        · exact Or.inr hc
      report := fun _ hr => absurd (hrecv.symm.trans hr) (by simp)
      cleanup := fun _ hr => absurd (hrecv.symm.trans hr) (by simp)
      rootDone := fun hr => by rcases hr with hr | hr <;> exact absurd (hrecv.symm.trans hr) (by simp)
      quiet := fun ht => absurd ht (by simp) }
  · simp only [State.stopped_workers, State.size_put] at hk ⊢
    rw [hget]
    by_cases hki : k = i
    · subst hki
      rw [State.get_put_self hi]
      have hsane := h.sane k hi
      exact ⟨hsane.siblings, by simp [hwk, hl, Worker.reads], by simp [hwk], hsane.joiner⟩
    · rw [State.get_put_ne wk hki]
      exact h.sane k hk
  · simp only [State.stopped_workers, State.size_put] at hk
    rw [hroots]
    by_cases hki : k = i
    · exact hki ▸ hmem
    · exact h.unmerged k hk (by rwa [hother hki] at hnd)
  · simp only [State.stopped_workers, State.size_put] at hk
    by_cases hki : k = i
    · subst hki
      exact ⟨fun ht => absurd rfl ht, fun ht => absurd rfl ht, fun ht => absurd rfl ht,
        fun ht => absurd rfl ht⟩
    · exact (h.scheduled k hk).frame (fun _ => by simpa using Ne.symm hki) (by rw [hother hki]) id
        (fun t ht => ⟨t, ht⟩) Or.inl
        (fun hb => Or.inl (hb.put hki (fun _ => by simp) rfl))

end Stop

/-! ## The line of waiting workers -/

section Line

variable {l : List (Nat × Bool)} {q : List Task} {k : Nat}

theorem exists_mem_tellFirst : (∃ t, (k, t) ∈ (tellFirst l).2) ↔ ∃ t, (k, t) ∈ l := by
  simpa using congrArg (k ∈ ·) (tellFirst_keeps l)

/-- A worker told now was told before, or is queued. -/
theorem told_tellFirst (h : (k, true) ∈ (tellFirst l).2) :
    (k, true) ∈ l ∨ .worker k ∈ State.wakeQueue q (tellFirst l).1 :=
  (tellFirst_told h).imp_right fun h' => State.mem_wakeQueue.mpr (Or.inr ⟨k, h', rfl⟩)

/-- Telling a worker queues at most that worker, which waited. -/
theorem mem_wakeQueue_tellFirst {t : Task} (ht : t ∈ State.wakeQueue q (tellFirst l).1) :
    t ∈ q ∨ ∃ k u, (k, u) ∈ l ∧ t = .worker k := by
  rcases State.mem_wakeQueue.mp ht with ht | ⟨k, hk, rfl⟩
  · exact Or.inl ht
  · exact Or.inr ⟨k, false, (tellFirst_some_told hk).1, rfl⟩

variable {st : State} {i : Nat} {passOn : Bool}

/-- Leaving the line takes worker `i` out of it and keeps the others. -/
theorem State.exists_mem_left :
    (∃ t, (k, t) ∈ (st.left i passOn).waiting) ↔ k ≠ i ∧ ∃ t, (k, t) ∈ st.waiting := by
  simp only [State.left_waiting]
  split
  · rw [exists_mem_tellFirst]
    simp [List.mem_filter]
    tauto
  · simp [List.mem_filter]
    tauto

theorem State.told_left (hk : (k, true) ∈ (st.left i passOn).waiting) :
    (k, true) ∈ st.waiting ∨ .worker k ∈ (st.left i passOn).queue := by
  revert hk
  simp only [State.left_waiting, State.left_queue]
  split
  · intro hk
    exact (told_tellFirst hk).imp_left fun h => (List.mem_filter.mp h).1
  · exact fun hk => Or.inl (List.mem_filter.mp hk).1

theorem State.mem_left_queue {t : Task} (ht : t ∈ (st.left i passOn).queue) :
    t ∈ st.queue ∨ ∃ k u, (k, u) ∈ st.waiting ∧ t = .worker k := by
  revert ht
  simp only [State.left_queue]
  split
  · intro ht
    exact (mem_wakeQueue_tellFirst ht).imp_right fun ⟨k, u, hk, he⟩ =>
      ⟨k, u, (List.mem_filter.mp hk).1, he⟩
  · exact Or.inl

theorem State.left_queue_of_mem {t : Task} (ht : t ∈ st.queue) : t ∈ (st.left i passOn).queue := by
  simp only [State.left_queue]
  split
  · exact State.mem_wakeQueue.mpr (Or.inl ht)
  · exact ht

theorem State.length_left_queue : (st.left i passOn).queue.length ≤ st.queue.length + 1 := by
  simp only [State.left_queue]
  split
  · exact State.length_wakeQueue _ _
  · omega

/-- A worker leaving the line and passing the word on leaves someone told, if anyone waits. -/
theorem State.room_left (h : st.waiting ≠ [] → ∃ j, (j, true) ∈ st.waiting) :
    (st.left i true).waiting ≠ [] → ∃ j, (j, true) ∈ (st.left i true).waiting := by
  simp only [State.left_waiting]
  split
  · intro hne
    exact (tellFirst_told_or_nil _).resolve_left hne
  · rename_i hnot
    intro hne
    obtain ⟨j, hj⟩ := h fun he => hne (by simp [he])
    -- worker `i` was not told, so the one told is another
    have hji : j ≠ i := by
      rintro rfl
      exact hnot (by simp only [Bool.and_true, List.any_eq_true]; exact ⟨(j, true), hj, by simp⟩)
    exact ⟨j, List.mem_filter.mpr ⟨hj, by simpa using hji⟩⟩

end Line

/-! ## A row handed over, or a wait for room -/

section HandOver

variable {b : Behavior} {P : Nat} {J : String} {st : State} {s : Session} {w : World} {i : Nat}

/-- Worker `i` hands its row to a channel with room: the row moves from its hand to the channel,
its tally counts it, it leaves the line passing the word on, and the receiver is woken. -/
theorem Inv.handOver (h : Inv b P J (.worker i) st s w) (hi : i < st.workers.size) {row : Value}
    (hs : (st.get i).stage = .reading (some row)) (hroom : st.channel.length < st.capacity) :
    Inv b P J (.worker i)
      ((({ st with channel := st.channel ++ [row], receiverWoken := true } : State).left i true).put i
        { st.get i with
          stage := .reading none
          report := { (st.get i).report with rows := (st.get i).report.rows + 1 } }) s w := by
  set wk : Worker :=
    { st.get i with
      stage := .reading none
      report := { (st.get i).report with rows := (st.get i).report.rows + 1 } } with hwk
  set st₁ : State := ({ st with channel := st.channel ++ [row], receiverWoken := true } : State).left
    i true with hst₁
  have hreads : (st.get i).reads = true := by simp [Worker.reads, hs]
  have hrecv := h.receiving_rows hi hreads
  have hother : ∀ {k}, k ≠ i → (st₁.put i wk).get k = st.get k := fun hki => State.get_put_ne wk hki
  have hroots : (st₁.put i wk).roots = st.roots := @State.roots_put st₁ i wk hi rfl
  have hmem : i ∈ st.roots := h.unmerged i hi (by simp [hs])
  have htally : ∀ f, (st₁.put i wk).tally f + f (st.get i).report = st.tally f + f wk.report :=
    fun f => @State.tally_put_update st₁ i wk hi rfl h.roots_nodup hmem f
  have herrored : (st₁.put i wk).errored = st.errored := @State.errored_put st₁ i wk hi rfl
  have hreading : (st₁.put i wk).reading = st.reading :=
    @State.reading_put st₁ i wk hi ((show wk.reads = true by simp [hwk, Worker.reads]).trans hreads.symm)
  -- the row moves from the worker's hand to the end of the channel
  have hledger : (st₁.put i wk).ledger b P ~ st.ledger b P := by
    obtain ⟨A, B, hheld, hheld'⟩ := @State.held_put_eq st₁ i b P hi wk
    have hwk' : wk.holding b P = (st.get i).cursor.owed b P := by simp [Worker.holding, Worker.pending, hwk]
    have hold : (st₁.get i).holding b P = row :: (st.get i).cursor.owed b P := by
      show (st.get i).holding b P = _
      simp [Worker.holding, Worker.pending, hs]
    show st.received ++ (st.channel ++ [row]) ++ (st₁.put i wk).held b P ~
      st.received ++ st.channel ++ st₁.held b P
    rw [hheld', hheld, hwk', hold]
    simp only [List.append_assoc, List.singleton_append]
    exact ((List.perm_middle).symm.append_left _).append_left _
  refine
    { size_pos := by rw [State.size_put]; exact h.size_pos
      capacity_pos := h.capacity_pos
      take := h.take
      releases := h.releases
      queue := fun t ht => ?_
      sane := fun k hk => ?_
      roots_nodup := hroots ▸ h.roots_nodup
      unmerged := fun k hk hnd => ?_
      cursors := by
        have := htally (·.cursors)
        rw [State.size_put]
        exact (Nat.add_right_cancel this).trans h.cursors
      rows := by
        have := htally (·.rows)
        have hr := h.rows
        have hwr : wk.report.rows = (st.get i).report.rows + 1 := rfl
        show _ = st.received.length + (st.channel ++ [row]).length
        simp only [List.length_append, List.length_singleton]
        rw [hwr] at this
        omega
      failures := by
        have := htally (·.failures.length)
        rw [herrored]
        exact (Nat.add_right_cancel this).trans h.failures
      senders := hreading ▸ h.senders
      ledger := hledger.subperm.trans h.ledger
      exact := fun he => hledger.trans (h.exact (herrored ▸ he))
      leased := (@State.cursors_put_self st₁ i wk hi rfl).symm ▸ h.leased
      line := fun p hp => ?_
      room := fun _ => State.room_left (h.room hroom)
      scheduled := fun k hk => ?_
      opened := h.opened
      closed := fun hr => absurd hrecv hr
      woken := fun _ _ _ => rfl
      report := fun _ hr => absurd (hrecv.symm.trans hr) (by simp)
      cleanup := fun _ hr => absurd (hrecv.symm.trans hr) (by simp)
      rootDone := fun hr => by rcases hr with hr | hr <;> exact absurd (hrecv.symm.trans hr) (by simp)
      quiet := fun ht => absurd ht (by simp) }
  · rw [State.put_queue] at ht
    rw [State.size_put]
    rcases State.mem_left_queue ht with ht | ⟨k, u, hk, rfl⟩
    · exact h.queue t ht
    · exact ⟨k, (h.line _ hk).1, rfl⟩
  · rw [State.size_put] at hk ⊢
    by_cases hki : k = i
    · subst hki
      rw [@State.get_put_self st₁ k hi wk]
      exact ⟨(h.sane k hi).siblings, (h.sane k hi).leased.trans (by simp [hwk, Worker.reads, hs]),
        by simp [hwk], (h.sane k hi).joiner⟩
    · rw [hother hki]
      exact h.sane k hk
  · rw [State.size_put] at hk
    rw [hroots]
    by_cases hki : k = i
    · exact hki ▸ hmem
    · exact h.unmerged k hk (by rwa [hother hki] at hnd)
  · obtain ⟨hpi, t, hpt⟩ := State.exists_mem_left.mp ⟨p.2, hp⟩
    obtain ⟨hlt, hsome⟩ := h.line _ hpt
    exact ⟨by rw [State.size_put]; exact hlt, by rwa [hother hpi]⟩
  · rw [State.size_put] at hk
    by_cases hki : k = i
    · subst hki
      exact ⟨fun ht => absurd rfl ht, fun ht => absurd rfl ht, fun ht => absurd rfl ht,
        fun ht => absurd rfl ht⟩
    · exact (h.scheduled k hk).frame (fun _ => by simpa using Ne.symm hki) (by rw [hother hki])
        State.left_queue_of_mem (fun t ht => State.exists_mem_left.mpr ⟨hki, t, ht⟩) State.told_left
        (fun hb => Or.inl ((hb.of_workers rfl).put hki (fun _ => by simp [hwk]) rfl))

/-- Worker `i` finds the channel full: it goes to the back of the line, not told, and waits. -/
theorem Inv.waitRoom (h : Inv b P J (.worker i) st s w) (hi : i < st.workers.size) {row : Value}
    (hs : (st.get i).stage = .reading (some row)) (hfull : ¬st.channel.length < st.capacity) :
    Inv b P J .idle { st.left i false with waiting := (st.left i false).waiting ++ [(i, false)] } s w := by
  have hget : ∀ k, ({ st.left i false with waiting := (st.left i false).waiting ++ [(i, false)] } :
      State).get k = st.get k := fun _ => rfl
  have hqueue : (st.left i false).queue = st.queue := by simp
  refine
    { size_pos := h.size_pos
      capacity_pos := h.capacity_pos
      take := h.take
      releases := h.releases
      queue := fun t ht => h.queue t (hqueue ▸ ht)
      sane := h.sane
      roots_nodup := h.roots_nodup
      unmerged := h.unmerged
      cursors := h.cursors
      rows := h.rows
      failures := h.failures
      senders := h.senders
      ledger := h.ledger
      exact := h.exact
      leased := h.leased
      line := fun p hp => ?_
      room := fun hroom => absurd hroom hfull
      scheduled := fun k hk => ?_
      opened := h.opened
      closed := h.closed
      woken := fun _ => h.woken (by simp)
      report := fun _ => h.report (by simp)
      cleanup := fun _ => h.cleanup (by simp)
      rootDone := h.rootDone
      quiet := fun ht => absurd ht (by simp) }
  · rcases List.mem_append.mp hp with hp | hp
    · obtain ⟨-, t, hpt⟩ := State.exists_mem_left.mp ⟨p.2, hp⟩
      exact h.line (p.1, t) hpt
    · rw [List.mem_singleton.mp hp]
      exact ⟨hi, (by simp [Worker.pending, hs] : (st.get i).pending.isSome = true)⟩
  · by_cases hki : k = i
    · subst hki
      have hk : (st.get k).runnable = false := by simp [Worker.runnable, hs]
      refine ⟨fun _ hr => absurd (hr.symm.trans hk) (by simp), fun _ _ => Or.inl ⟨false, by simp⟩,
        fun _ hj => absurd ((hs.symm.trans hj : Stage.reading (some row) = .joining)) (by simp),
        fun _ ht => ?_⟩
      rcases List.mem_append.mp ht with ht | ht
      · exact absurd rfl (State.exists_mem_left.mp ⟨true, ht⟩).1
      · simp at ht
    · refine (h.scheduled k hk).frame (fun _ => by simpa using Ne.symm hki) (by rw [hget k])
        (fun hq => hqueue ▸ hq) (fun t ht => ?_) (fun ht => ?_) (fun hb => Or.inl (hb.of_workers rfl))
      · obtain ⟨t', ht'⟩ := State.exists_mem_left.mpr ⟨hki, t, ht⟩
        exact ⟨t', List.mem_append_left _ ht'⟩
      · rcases List.mem_append.mp ht with ht | ht
        · exact State.told_left ht
        · simp at ht

end HandOver

/-! ## Siblings joined -/

section Join

variable {b : Behavior} {P : Nat} {J : String} {st : State} {s : Session} {w : World} {i : Nat}

/-- The roots hold no worker twice, so a worker is the sibling of at most one other. -/
theorem Inv.sibling_unique {turn : Turn} (h : Inv b P J turn st s w) {j k₁ k₂ : Nat}
    (hk₁ : k₁ < st.workers.size) (hk₂ : k₂ < st.workers.size) (h₁ : j ∈ (st.get k₁).siblings)
    (h₂ : j ∈ (st.get k₂).siblings) : k₁ = k₂ := by
  have hnd := (List.nodup_flatMap.mp (List.nodup_cons.mp h.roots_nodup).2).2
  have hget : ∀ k (hk : k < st.workers.toList.length), st.workers.toList[k] = st.get k :=
    fun k hk => by
      have hk' : k < st.workers.size := by simpa using hk
      simp [State.get, hk']
  by_contra hne
  rcases Nat.lt_or_gt_of_ne hne with hlt | hlt
  · have := List.pairwise_iff_getElem.mp hnd k₁ k₂ (by simpa using hk₁) (by simpa using hk₂) hlt
    rw [Function.onFun, hget k₁ (by simpa using hk₁), hget k₂ (by simpa using hk₂)] at this
    exact this h₁ h₂
  · have := List.pairwise_iff_getElem.mp hnd k₂ k₁ (by simpa using hk₂) (by simpa using hk₁) hlt
    rw [Function.onFun, hget k₁ (by simpa using hk₁), hget k₂ (by simpa using hk₂)] at this
    exact this h₂ h₁

/-- Dropping the next sibling of a worker takes it out of the roots. -/
theorem State.roots_perm_put {wk : Worker} {j : Nat} (hi : i < st.workers.size)
    (hsib : (st.get i).siblings = j :: wk.siblings) : st.roots ~ j :: (st.put i wk).roots := by
  obtain ⟨A, B, h₁, h₂⟩ := Family.flatMap_set (State.getElem?_toList hi) wk (·.siblings)
  simp only [State.roots, State.toList_put, h₁, h₂, hsib, List.append_assoc, List.cons_append]
  exact (List.perm_middle.cons 0).trans (List.Perm.swap j 0 _)

/-- Merging its next sibling's tally into a worker's keeps every count of the tallies that adds
up. -/
theorem State.tally_merge {j : Nat} {rest : List Nat} (hi : i < st.workers.size)
    (hsib : (st.get i).siblings = j :: rest) (hnodup : st.roots.Nodup) (hmem : i ∈ st.roots)
    (hij : i ≠ j) {f : ParallelReport → Nat} (hf : ∀ a b, f (a.merge b) = f a + f b) :
    (st.put i { st.get i with
      siblings := rest, report := (st.get i).report.merge (st.get j).report }).tally f = st.tally f := by
  set wk : Worker :=
    { st.get i with siblings := rest, report := (st.get i).report.merge (st.get j).report }
  have hperm := @State.roots_perm_put st i wk j hi hsib
  have hnodup' := (List.nodup_cons.mp (hperm.nodup_iff.mp hnodup)).2
  have hmem' : i ∈ (st.put i wk).roots := by
    rcases List.mem_cons.mp (hperm.mem_iff.mp hmem) with he | hm
    · exact absurd he hij
    · exact hm
  have hj : j ∉ (st.put i wk).roots := (List.nodup_cons.mp (hperm.nodup_iff.mp hnodup)).1
  have := @sum_map_update _ hnodup' _ hmem' (fun k => f (st.get k).report)
    (fun k => f ((st.put i wk).get k).report) fun k hk => by rw [State.get_put_ne wk hk]
  have hwr : f wk.report = f (st.get i).report + f (st.get j).report := hf _ _
  simp only [State.get_put_self hi, hwr] at this
  have hsum := (hperm.map fun k => f (st.get k).report).sum_eq
  simp only [List.map_cons, List.sum_cons] at hsum
  simp only [State.tally]
  omega

theorem ParallelReport.merge_rows (a b : ParallelReport) : (a.merge b).rows = a.rows + b.rows := rfl

theorem ParallelReport.merge_cursors (a b : ParallelReport) :
    (a.merge b).cursors = a.cursors + b.cursors := rfl

theorem ParallelReport.length_merge_failures (a b : ParallelReport) :
    (a.merge b).failures.length = a.failures.length + b.failures.length := by
  simp [ParallelReport.merge]

/-- Worker `i` merges the tally of its next sibling `j`, which is done, and goes on. -/
theorem Inv.merge (h : Inv b P J (.worker i) st s w) (hi : i < st.workers.size)
    (hs : (st.get i).stage = .joining) {j : Nat} {rest : List Nat}
    (hsib : (st.get i).siblings = j :: rest) (hd : (st.get j).stage = .done) :
    Inv b P J (.worker i)
      (st.put i { st.get i with
        siblings := rest, report := (st.get i).report.merge (st.get j).report }) s w := by
  set wk : Worker :=
    { st.get i with siblings := rest, report := (st.get i).report.merge (st.get j).report } with hwk
  have hij := ((h.sane i hi).siblings j (by simp [hsib]))
  have hne : i ≠ j := by omega
  have hmem : i ∈ st.roots := h.unmerged i hi (by simp [hs])
  have hperm := @State.roots_perm_put st i wk j hi hsib
  have hother : ∀ {k}, k ≠ i → (st.put i wk).get k = st.get k := fun hki => State.get_put_ne wk hki
  have htally := fun {f : ParallelReport → Nat} (hf : ∀ a b, f (a.merge b) = f a + f b) =>
    State.tally_merge hi hsib h.roots_nodup hmem hne hf
  have herrored : (st.put i wk).errored = st.errored := State.errored_put hi rfl
  have hreading : (st.put i wk).reading = st.reading := State.reading_put hi rfl
  have hledger : (st.put i wk).ledger b P = st.ledger b P := by
    simp only [State.ledger, State.put_received, State.put_channel, @State.held_put st i wk b P hi rfl]
  have hpend : (st.get i).pending = none := by simp [Worker.pending, hs]
  refine
    { size_pos := by rw [State.size_put]; exact h.size_pos
      capacity_pos := h.capacity_pos
      take := h.take
      releases := h.releases
      queue := by simpa using h.queue
      sane := fun k hk => ?_
      roots_nodup := (List.nodup_cons.mp (hperm.nodup_iff.mp h.roots_nodup)).2
      unmerged := fun k hk hnd => ?_
      cursors := by
        rw [htally ParallelReport.merge_cursors, State.size_put]
        exact h.cursors
      rows := by rw [htally ParallelReport.merge_rows]; exact h.rows
      failures := by rw [htally ParallelReport.length_merge_failures, herrored]; exact h.failures
      senders := hreading ▸ h.senders
      ledger := hledger ▸ h.ledger
      exact := fun he => hledger ▸ h.exact (herrored ▸ he)
      leased := (@State.cursors_put_self st i wk hi rfl).symm ▸ h.leased
      line := fun p hp => by
        obtain ⟨hlt, hsome⟩ := h.line p hp
        have hpi : p.1 ≠ i := fun he => by simp [he, hpend] at hsome
        exact ⟨by simpa using hlt, by rwa [hother hpi]⟩
      room := h.room
      scheduled := fun k hk => ?_
      opened := h.opened
      closed := h.closed
      woken := h.woken
      report := fun ht hr => ?_
      cleanup := h.cleanup
      rootDone := fun hr => ?_
      quiet := h.quiet }
  · rw [State.size_put] at hk ⊢
    by_cases hki : k = i
    · subst hki
      rw [State.get_put_self hi]
      have hsane := h.sane k hi
      exact ⟨fun l hl => hsane.siblings l (by rw [hsib]; exact List.mem_cons_of_mem j hl), hsane.leased,
        fun hd' => absurd (hd'.symm.trans hs : Stage.done = .joining) (by simp), hsane.joiner⟩
    · rw [hother hki]
      exact h.sane k hk
  · rw [State.size_put] at hk
    -- every worker not done was a root, and `j`, the one root taken out, is done
    have hroot : k ∈ st.roots := by
      by_cases hki : k = i
      · exact hki ▸ hmem
      · exact h.unmerged k hk (by rwa [hother hki] at hnd)
    rcases List.mem_cons.mp (hperm.mem_iff.mp hroot) with rfl | hm
    · exact absurd (by rw [hother (Ne.symm hne)]; exact hd) hnd
    · exact hm
  · rw [State.size_put] at hk
    by_cases hki : k = i
    · subst hki
      exact ⟨fun ht => absurd rfl ht, fun ht => absurd rfl ht, fun ht => absurd rfl ht,
        fun ht => absurd rfl ht⟩
    · exact (h.scheduled k hk).frame (fun _ => by simpa using Ne.symm hki) (by rw [hother hki]) id
        (fun t ht => ⟨t, ht⟩) Or.inl
        (fun hb => Or.inl (hb.put hki (fun _ => by simp [hwk, hs]) rfl))
  · rcases h.report ht hr with hw | ⟨hnd, hjr⟩
    · exact Or.inl hw
    · by_cases h0 : (0 : Nat) = i
      · rw [h0, State.get_put_self hi]
        exact Or.inr ⟨by simp [hwk, hs], by show (st.get i).joiner = _; rw [← h0]; exact hjr⟩
      · rw [hother h0]
        exact Or.inr ⟨hnd, hjr⟩
  · -- the first worker is not `i`'s sibling, so it keeps its progress
    have h0 : (0 : Nat) ≠ i ∨ (st.get i).stage = .done := by
      by_cases h0 : (0 : Nat) = i
      · exact absurd (h.rootDone hr) (by rw [h0, hs]; simp)
      · exact Or.inl h0
    rcases h0 with h0 | h0
    · rw [hother h0]; exact h.rootDone hr
    · exact absurd (h0.symm.trans hs) (by simp)

/-- Worker `i` waits for its next sibling `j`, which is not done, and tells it so. -/
theorem Inv.waitSibling (h : Inv b P J (.worker i) st s w) (hi : i < st.workers.size)
    (hs : (st.get i).stage = .joining) {j : Nat} {rest : List Nat}
    (hsib : (st.get i).siblings = j :: rest) (hd : (st.get j).stage ≠ .done) :
    Inv b P J .idle (st.put j { st.get j with joiner := some (.worker i) }) s w := by
  set wk : Worker := { st.get j with joiner := some (.worker i) } with hwk
  have hij := ((h.sane i hi).siblings j (by simp [hsib]))
  have hj : j < st.workers.size := hij.2
  have hne : i ≠ j := by omega
  have hother : ∀ {k}, k ≠ j → (st.put j wk).get k = st.get k := fun hkj => State.get_put_ne wk hkj
  have hroots : (st.put j wk).roots = st.roots := State.roots_put hj rfl
  have htally := fun f => @State.tally_put st j wk hj rfl rfl f
  have herrored : (st.put j wk).errored = st.errored := State.errored_put hj rfl
  have hreading : (st.put j wk).reading = st.reading := State.reading_put hj rfl
  have hledger : (st.put j wk).ledger b P = st.ledger b P := by
    simp only [State.ledger, State.put_received, State.put_channel, @State.held_put st j wk b P hj rfl]
  have hpend : (st.get i).pending = none := by simp [Worker.pending, hs]
  refine
    { size_pos := by rw [State.size_put]; exact h.size_pos
      capacity_pos := h.capacity_pos
      take := h.take
      releases := h.releases
      queue := by simpa using h.queue
      sane := fun k hk => ?_
      roots_nodup := hroots ▸ h.roots_nodup
      unmerged := fun k hk hnd => ?_
      cursors := by rw [htally, State.size_put]; exact h.cursors
      rows := by rw [htally]; exact h.rows
      failures := by rw [htally, herrored]; exact h.failures
      senders := hreading ▸ h.senders
      ledger := hledger ▸ h.ledger
      exact := fun he => hledger ▸ h.exact (herrored ▸ he)
      leased := (@State.cursors_put_self st j wk hj rfl).symm ▸ h.leased
      line := fun p hp => by
        obtain ⟨hlt, hsome⟩ := h.line p hp
        refine ⟨by simpa using hlt, ?_⟩
        by_cases hpj : p.1 = j
        · rw [hpj, State.get_put_self hj]; rw [hpj] at hsome; exact hsome
        · rwa [hother hpj]
      room := h.room
      scheduled := fun k hk => ?_
      opened := h.opened
      closed := h.closed
      woken := fun _ => h.woken (by simp)
      report := fun _ hr => ?_
      cleanup := fun _ => h.cleanup (by simp)
      rootDone := fun hr => ?_
      quiet := fun ht => absurd ht (by simp) }
  · rw [State.size_put] at hk ⊢
    by_cases hkj : k = j
    · subst hkj
      rw [State.get_put_self hj]
      have hsane := h.sane k hj
      exact ⟨hsane.siblings, hsane.leased, hsane.merged, fun l hl => by
        obtain rfl : i = l := by simpa [hwk] using hl
        exact hi⟩
    · rw [hother hkj]
      exact h.sane k hk
  · rw [State.size_put] at hk
    rw [hroots]
    by_cases hkj : k = j
    · exact h.unmerged k hk (by rw [hkj]; exact hd)
    · exact h.unmerged k hk (by rwa [hother hkj] at hnd)
  · rw [State.size_put] at hk
    by_cases hki : k = i
    · -- worker `i` now waits for `j`
      subst hki
      have hget : (st.put j wk).get k = st.get k := hother hne
      refine ⟨fun _ hr => absurd hr (by simp [hget, Worker.runnable, hs]),
        fun _ hp => absurd hp (by simp [hget, hpend]), fun _ _ => Or.inr ?_, fun _ ht => ?_⟩
      · exact ⟨j, rest, by rw [hget, hsib], by rw [State.get_put_self hj]; exact hd,
          by rw [State.get_put_self hj]⟩
      · exact absurd (h.line _ ht).2 (by simp [hpend])
    · -- another worker blocked on `j` would share the sibling `j` with `i`
      have hget : ((st.put j wk).get k).stage = (st.get k).stage ∧
          ((st.put j wk).get k).siblings = (st.get k).siblings := by
        by_cases hkj : k = j
        · rw [hkj, State.get_put_self hj]
          exact ⟨rfl, rfl⟩
        · rw [hother hkj]
          exact ⟨rfl, rfl⟩
      refine (h.scheduled k hk).frame (fun _ => by simpa using Ne.symm hki) hget.1 id
        (fun t ht => ⟨t, ht⟩) Or.inl (fun hb => Or.inl ?_)
      obtain ⟨j', rest', hsib', hnd', hjw'⟩ := hb
      have hjj : j' ≠ j := by
        rintro rfl
        exact hki (h.sibling_unique (j := j') hk hi (by simp [hsib']) (by simp [hsib]))
      exact ⟨j', rest', by rw [hget.2]; exact hsib', by rw [hother hjj]; exact hnd',
        by rw [hother hjj]; exact hjw'⟩
  · rcases h.report (by simp) hr with hw | ⟨hnd, hjr⟩
    · exact Or.inl hw
    · by_cases h0 : (0 : Nat) = j
      · subst h0
        omega
      · exact Or.inr ⟨by rw [hother h0]; exact hnd, by rw [hother h0]; exact hjr⟩
  · by_cases h0 : (0 : Nat) = j
    · rw [h0, State.get_put_self hj]
      exact (h0 ▸ h.rootDone hr : (st.get j).stage = .done)
    · rw [hother h0]; exact h.rootDone hr

/-- A done worker holds no row, so it is not in the line, and it is scheduled whoever runs. -/
theorem Scheduled.of_done {turn : Turn} (hd : (st.get i).stage = .done)
    (hline : ∀ p ∈ st.waiting, (st.get p.1).pending.isSome) : Scheduled turn st i where
  runs _ hr := absurd hr (by simp [Worker.runnable, hd])
  waits _ hp := absurd hp (by simp [Worker.pending, hd])
  joins _ hj := absurd (hd.symm.trans hj) (by simp)
  told _ ht := absurd (hline _ ht) (by simp [Worker.pending, hd])

/-- A done worker that is run again goes back to waiting, and nothing changes. -/
theorem Inv.idle_of_done (h : Inv b P J (.worker i) st s w) (hd : (st.get i).stage = .done) :
    Inv b P J .idle st s w :=
  { h with
    scheduled := fun k hk => by
      by_cases hki : k = i
      · exact hki ▸ Scheduled.of_done hd fun p hp => (h.line p hp).2
      · exact (h.scheduled k hk).frame (fun _ => by simpa using Ne.symm hki) rfl id
          (fun t ht => ⟨t, ht⟩) Or.inl Or.inl
    woken := fun _ => h.woken (by simp)
    report := fun _ => h.report (by simp)
    cleanup := fun _ => h.cleanup (by simp)
    quiet := fun ht => absurd ht (by simp) }

section Woken

variable {jn : Option Joiner}

/-- Waking whoever waits touches only the queue and the receiver's wake-up. -/
theorem State.woken_eq (st : State) (jn : Option Joiner) :
    st.woken jn =
      { st with queue := (st.woken jn).queue, receiverWoken := (st.woken jn).receiverWoken } := by
  rcases jn with _ | (_ | _) <;> rfl

theorem State.mem_woken_queue {t : Task} :
    t ∈ (st.woken jn).queue ↔ t ∈ st.queue ∨ ∃ j, jn = some (.worker j) ∧ t = .worker j := by
  rcases jn with _ | (j | _)
  · simp [State.woken]
  · simp [State.woken, State.mem_wakeQueue]
  · simp [State.woken]

theorem State.woken_receiverWoken (h : st.receiverWoken = true ∨ jn = some .receiver) :
    (st.woken jn).receiverWoken = true := by
  rcases jn with _ | (j | _) <;> simp_all [State.woken]

/-- Waking whoever waits adds at most one queued task or the receiver's wake-up. -/
theorem State.woken_wakes :
    (st.woken jn).queue.length + (if (st.woken jn).receiverWoken then 1 else 0) ≤
      st.queue.length + (if st.receiverWoken then 1 else 0) + 1 := by
  have := State.length_wakeQueue st.queue
  rcases jn with _ | (j | _) <;> cases hw : st.receiverWoken <;>
    simp only [State.woken, State.wake_queue, State.wake_receiverWoken, hw] <;> grind

end Woken

/-- Worker `i`, with no sibling left, is done, and wakes whoever waits for it. -/
theorem Inv.finish (h : Inv b P J (.worker i) st s w) (hi : i < st.workers.size)
    (hs : (st.get i).stage = .joining) (hsib : (st.get i).siblings = []) :
    Inv b P J .idle ((st.put i { st.get i with stage := .done }).woken (st.get i).joiner) s w := by
  set wk : Worker := { st.get i with stage := .done } with hwk
  rw [State.woken_eq]
  set jn := (st.get i).joiner with hjn
  -- only the queue and the receiver's wake-up differ from `st.put i wk`
  set st' : State :=
    { st.put i wk with
      queue := ((st.put i wk).woken jn).queue
      receiverWoken := ((st.put i wk).woken jn).receiverWoken } with hst'
  have hother : ∀ {k}, k ≠ i → st'.get k = st.get k := fun hki => State.get_put_ne wk hki
  have hself : st'.get i = wk := State.get_put_self hi wk
  have hsize : st'.workers.size = st.workers.size := State.size_put st i wk
  have hroots : st'.roots = st.roots := State.roots_put hi rfl
  have htally : ∀ f, st'.tally f = st.tally f := @State.tally_put st i wk hi rfl rfl
  have herrored : st'.errored = st.errored := State.errored_put hi rfl
  have hreading : st'.reading = st.reading :=
    State.reading_put hi (by simp [hwk, Worker.reads, hs] : wk.reads = (st.get i).reads)
  have hledger : st'.ledger b P = st.ledger b P := by
    have hheld : wk.holding b P = (st.get i).holding b P := by
      simp [hwk, Worker.holding, Worker.pending, hs]
    simp only [State.ledger, hst', State.put_received, State.put_channel]
    rw [← State.held_put b P hi hheld]
    rfl
  have hcursors : st'.cursors = st.cursors := @State.cursors_put_self st i wk hi rfl
  have hpend : (st.get i).pending = none := by simp [Worker.pending, hs]
  have hline : ∀ p ∈ st'.waiting, p.1 < st'.workers.size ∧ (st'.get p.1).pending.isSome := by
    intro p hp
    obtain ⟨hlt, hsome⟩ := h.line p hp
    have hpi : p.1 ≠ i := fun he => by simp [he, hpend] at hsome
    exact ⟨hsize ▸ hlt, by rwa [hother hpi]⟩
  refine
    { size_pos := hsize ▸ h.size_pos
      capacity_pos := h.capacity_pos
      take := h.take
      releases := h.releases
      queue := fun t ht => ?_
      sane := fun k hk => ?_
      roots_nodup := hroots ▸ h.roots_nodup
      unmerged := fun k hk hnd => ?_
      cursors := by rw [htally, hsize]; exact h.cursors
      rows := by rw [htally]; exact h.rows
      failures := by rw [htally, herrored]; exact h.failures
      senders := by rw [hreading]; exact h.senders
      ledger := hledger ▸ h.ledger
      exact := fun he => hledger ▸ h.exact (herrored ▸ he)
      leased := hcursors ▸ h.leased
      line := hline
      room := h.room
      scheduled := fun k hk => ?_
      opened := h.opened
      closed := h.closed
      woken := fun _ hr hc => State.woken_receiverWoken (Or.inl (h.woken (by simp) hr hc))
      report := fun _ hr => ?_
      cleanup := fun _ hr => State.woken_receiverWoken (Or.inl (h.cleanup (by simp) hr))
      rootDone := fun hr => ?_
      quiet := fun ht => absurd ht (by simp) }
  · rcases State.mem_woken_queue.mp ht with ht | ⟨j, hj, rfl⟩
    · obtain ⟨k, hk, rfl⟩ := h.queue t ht
      exact ⟨k, hsize ▸ hk, rfl⟩
    · exact ⟨j, hsize ▸ (h.sane i hi).joiner j hj, rfl⟩
  · rw [hsize] at hk ⊢
    by_cases hki : k = i
    · subst hki
      rw [hself]
      have hsane := h.sane k hi
      exact ⟨hsane.siblings, hsane.leased.trans (by simp [hwk, Worker.reads, hs]), fun _ => hsib,
        hsane.joiner⟩
    · rw [hother hki]
      exact h.sane k hk
  · rw [hsize] at hk
    rw [hroots]
    by_cases hki : k = i
    · exact absurd (by rw [hki, hself]) hnd
    · exact h.unmerged k hk (by rwa [hother hki] at hnd)
  · rw [hsize] at hk
    by_cases hki : k = i
    · exact hki ▸ Scheduled.of_done (by rw [hself]) fun p hp => (hline p hp).2
    · -- a worker blocked on `i` was woken by it
      refine (h.scheduled k hk).frame (fun _ => by simpa using Ne.symm hki) (by rw [hother hki])
        (fun hq => State.mem_woken_queue.mpr (Or.inl hq)) (fun t ht => ⟨t, ht⟩) Or.inl (fun hb => ?_)
      obtain ⟨j, rest, hsib', hnd', hjw'⟩ := hb
      by_cases hji : j = i
      · subst hji
        exact Or.inr (State.mem_woken_queue.mpr (Or.inr ⟨k, hjw', rfl⟩))
      · exact Or.inl ⟨j, rest, by rw [hother hki]; exact hsib', by rw [hother hji]; exact hnd',
          by rw [hother hji]; exact hjw'⟩
  · rcases h.report (by simp) hr with hw | ⟨hnd, hjr⟩
    · exact Or.inl (State.woken_receiverWoken (Or.inl hw))
    · by_cases h0 : (0 : Nat) = i
      · exact Or.inl (State.woken_receiverWoken (Or.inr (by rw [hjn, ← h0]; exact hjr)))
      · exact Or.inr ⟨by rw [hother h0]; exact hnd, by rw [hother h0]; exact hjr⟩
  · by_cases h0 : (0 : Nat) = i
    · rw [h0, hself]
    · rw [hother h0]
      exact h.rootDone hr

end Join

end FanOut

end JobQuery
