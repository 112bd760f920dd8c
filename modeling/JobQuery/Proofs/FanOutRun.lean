import JobQuery.Proofs.FanOutReceiver

/-!
# JobQuery — a parallel read runs to its end

Every step of a parallel read keeps `Inv` (`FanOutEvents`, `FanOutReceiver`); here every step
that goes on also lowers `State.potential`, and one that waits does not raise it. Since a read
starts with a potential far below the fuel of each of the scheduler's loops, no loop runs out of
fuel: a worker runs until it waits, the receiver until it waits or is finished, the queue until
it is empty or its turn is over, and the scheduler until the receiver is finished
(`schedule_finished`). `fanOut_read` then reads the result off the finished state.
-/

namespace JobQuery

namespace FanOut

open Json

open scoped List

/-! ## The potential of each step -/

section Potential

variable {b : Behavior} {P : Nat} {st : State} {i : Nat} {wk : Worker}

/-- The cost of the workers, as `State.potential` counts it. -/
private theorem potential_eq (st : State) :
    st.potential b P = (st.workers.toList.map (Worker.cost b P)).sum + 2 * st.channel.length +
      st.queue.length + (if st.receiverWoken then 1 else 0) + st.receiving.left :=
  rfl

theorem potential_put_lt (hi : i < st.workers.size) (h : wk.cost b P < (st.get i).cost b P) :
    (st.put i wk).potential b P < st.potential b P := by
  have := State.potential_put b P hi wk
  omega

theorem potential_put_le (hi : i < st.workers.size) (h : wk.cost b P ≤ (st.get i).cost b P) :
    (st.put i wk).potential b P ≤ st.potential b P := by
  have := State.potential_put b P hi wk
  omega

/-- A fork lowers the potential when the worker, the sibling it starts and the sibling's place in
the queue cost less than the worker did. -/
theorem potential_forked_lt (hi : i < st.workers.size) {x : SplitCursor} {half : Nat}
    (h : wk.cost b P + Worker.cost b P { cursor := x, stage := .forking half } + 1 <
      (st.get i).cost b P) :
    (st.forked i wk x half).potential b P < st.potential b P := by
  have hsum := @State.sum_forked st i wk x half hi (Worker.cost b P)
  have hq := State.length_wakeQueue st.queue (some st.workers.size)
  rw [potential_eq, potential_eq]
  simp only [State.forked_channel, State.forked_queue, State.forked_receiverWoken,
    State.forked_receiving]
  omega

/-- A worker that stops reading lowers the potential when it costs at least two less, one for the
receiver it may wake. -/
theorem potential_stopped_lt (hi : i < st.workers.size)
    (h : Worker.cost b P { wk with stage := .joining } + 1 < (st.get i).cost b P) :
    (st.stopped i wk).potential b P < st.potential b P := by
  have hput := State.potential_put b P hi { wk with stage := .joining }
  have hsame : (st.stopped i wk).workers = (st.put i { wk with stage := .joining }).workers := rfl
  rw [potential_eq, potential_eq] at hput ⊢
  rw [hsame]
  simp only [State.stopped_channel, State.stopped_queue, State.stopped_receiving,
    State.put_channel, State.put_queue, State.put_receiverWoken, State.put_receiving] at hput ⊢
  split <;> split at hput <;> omega

/-- A row handed over lowers the potential when the worker costs five less: two for the row in the
channel, one for the worker told and one for the receiver woken. -/
theorem potential_handOver_lt (hi : i < st.workers.size) {row : Value}
    (h : wk.cost b P + 4 < (st.get i).cost b P) :
    ((({ st with channel := st.channel ++ [row], receiverWoken := true } : State).left i true).put i
      wk).potential b P < st.potential b P := by
  set st₀ : State := { st with channel := st.channel ++ [row], receiverWoken := true } with hst₀
  have hput := @State.potential_put (st₀.left i true) i b P hi wk
  have hq := @State.length_left_queue st₀ i true
  have hW : (st₀.left i true).workers = st.workers := rfl
  have hget : (st₀.left i true).get i = st.get i := rfl
  rw [potential_eq, potential_eq, hW, hget] at hput
  rw [potential_eq, potential_eq st]
  simp only [hst₀, State.left_channel, State.left_receiverWoken, State.left_receiving,
    State.put_channel, State.put_queue, State.put_receiverWoken, State.put_receiving,
    List.length_append, List.length_singleton, if_true] at hput hq ⊢
  omega

/-- Waiting for room leaves the potential as it was. -/
theorem potential_waitRoom :
    ({ st.left i false with waiting := (st.left i false).waiting ++ [(i, false)] } : State).potential
      b P = st.potential b P := by
  rw [potential_eq, potential_eq]
  simp

/-- A done worker that wakes whoever waits for it lowers its cost by at least one, which pays for
the wake-up. -/
theorem potential_finish_le (hi : i < st.workers.size) {jn : Option Joiner}
    (h : wk.cost b P + 1 ≤ (st.get i).cost b P) :
    ((st.put i wk).woken jn).potential b P ≤ st.potential b P := by
  have hput := State.potential_put b P hi wk
  have hwake := @State.woken_wakes (st.put i wk) jn
  rw [State.woken_eq, potential_eq]
  rw [potential_eq] at hput
  simp only at hwake ⊢
  omega

/-- Taking a row lowers the potential: two for the row, less one for the worker told. -/
theorem potential_takeRow_lt {row : Value} {rest : List Value} (hc : st.channel = row :: rest) :
    (({ st with channel := rest, received := row :: st.received } : State).notified).potential b P <
      st.potential b P := by
  have hq := State.length_wakeQueue st.queue (tellFirst st.waiting).1
  rw [potential_eq, potential_eq]
  simp only [State.notified_channel, State.notified_queue, State.notified_receiverWoken,
    State.notified_receiving, State.notified_workers, hc, List.length_cons]
  omega

theorem potential_close_lt (hr : st.receiving = .rows) :
    ({ st with receiverOpen := false, receiving := .report } : State).potential b P <
      st.potential b P := by
  rw [potential_eq, potential_eq, hr]
  simp [Receiving.left]

theorem potential_reportDone_lt (hr : st.receiving = .report) :
    ({ st with receiving := .cleanup } : State).potential b P < st.potential b P := by
  rw [potential_eq, potential_eq, hr]
  simp [Receiving.left]

theorem potential_cleanupDone_lt (hr : st.receiving = .cleanup) :
    ({ st with receiving := .finished } : State).potential b P < st.potential b P := by
  rw [potential_eq, potential_eq, hr]
  simp [Receiving.left]

theorem potential_wakeReceiver_lt (hw : st.receiverWoken = true) :
    ({ st with receiverWoken := false } : State).potential b P < st.potential b P := by
  rw [potential_eq, potential_eq, hw]
  simp

theorem potential_pop_lt {t : Task} {rest : List Task} (hq : st.queue = t :: rest) :
    ({ st with queue := rest } : State).potential b P < st.potential b P := by
  rw [potential_eq, potential_eq, hq]
  simp only [List.length_cons]
  omega

/-- Taking any task off the queue lowers the potential. -/
theorem potential_unqueue_lt {t : Task} (ht : t ∈ st.queue) :
    ({ st with queue := st.queue.erase t } : State).potential b P < st.potential b P := by
  have hpos := List.length_pos_of_mem ht
  rw [potential_eq, potential_eq]
  dsimp only
  rw [List.length_erase_of_mem ht]
  omega

/-- Queueing a worker again raises the potential by one at most. -/
theorem potential_wake_le (i : Nat) : (st.wake i).potential b P ≤ st.potential b P + 1 := by
  have hq := State.length_wakeQueue st.queue (some i)
  rw [potential_eq, potential_eq]
  simp only [State.wake_workers, State.wake_channel, State.wake_queue, State.wake_receiverWoken,
    State.wake_receiving]
  omega

/-- Waking the receiver again raises the potential by one at most. -/
theorem potential_rewake_le :
    ({ st with receiverWoken := true } : State).potential b P ≤ st.potential b P + 1 := by
  rw [potential_eq, potential_eq]
  cases st.receiverWoken
  · simp
    omega
  · simp

end Potential

/-! ## A step of a worker -/

section Step

variable {b : Behavior} {P : Nat} {J : String} {st : State} {s : Session} {w : World} {i : Nat}

variable (b P J i) in
/-- What a step of worker `i` from `st` leaves: the worker, still one of the read's, goes on, with
less left to do, or it waits, with no more left to do. -/
def Stepped (st : State) : Bool → State → Session → World → Prop
  | true, st', s', w' =>
    i < st'.workers.size ∧ Inv b P J (.worker i) st' s' w' ∧ st'.potential b P < st.potential b P
  | false, st', s', w' =>
    i < st'.workers.size ∧ Inv b P J .idle st' s' w' ∧ st'.potential b P ≤ st.potential b P

theorem State.cursors_set_self (hi : i < st.workers.size) :
    st.cursors.set i (st.get i).cursor = st.cursors :=
  (State.cursors_put st i _).symm.trans (State.cursors_put_self hi rfl)

/-- A worker that keeps its siblings and who waits for it, and is not done, is sane when its
cursor holds a lease exactly while it reads. -/
theorem Worker.Sane.update {n : Nat} {wk wk' : Worker} (h : wk.Sane n i)
    (hsib : wk'.siblings = wk.siblings) (hjoiner : wk'.joiner = wk.joiner)
    (hl : wk'.cursor.leased = wk'.reads) (hd : wk'.stage ≠ .done) : wk'.Sane n i :=
  ⟨hsib ▸ h.siblings, hl, fun h' => absurd h' hd, hjoiner ▸ h.joiner⟩

/-- A worker that forks splits its cursor, or stops forking and reads. -/
theorem stepWorker_forking (hb : b.Paged P) (h : Inv b P J (.worker i) st s w)
    (hi : i < st.workers.size) {budget : Nat} (hs : (st.get i).stage = .forking budget) :
    Holds (stepWorker i) st s w (Stepped b P J i st) := by
  have hreads : (st.get i).reads = true := by simp [Worker.reads, hs]
  have hl : (st.get i).cursor.leased = true := (h.sane i hi).leased.trans hreads
  have herr : (st.get i).cursor.error = none := h.error_none hi hl
  have hrun : (st.get i).runnable = true := by simp [Worker.runnable, hs]
  rw [holds_stepWorker_forking hs]
  split
  · refine (Family.trySplit_counted hb h.leased (State.getElem?_cursors hi) hl).mono ?_
    rintro ⟨_ | x, c⟩ s' w' ⟨hleased, hcl, hcases⟩ <;> dsimp only at hleased hcl hcases
    · -- the split is declined: the worker reads what its cursor owes
      obtain ⟨-, hunread, -⟩ := hcases.resolve_right fun h => by obtain ⟨_, hx, _⟩ := h; cases hx
      have hcerr : c.error = none := hleased.unerred c
        (List.mem_append_left _ (List.mem_of_getElem? (List.getElem?_set_self
          (by simpa [State.cursors] using hi)))) hcl
      refine ⟨by simpa using hi, Inv.put h hi hrun
        ((h.sane i hi).update rfl rfl (by simp [hcl, Worker.reads]) (by simp)) (by simp) rfl rfl rfl
        (by simp [Worker.reads, hs]) (by simp [hcerr, herr])
        (by simp [Worker.holding, Worker.pending, hs, SplitCursor.owed, hcl, hl, hunread])
        (by simpa using hleased), potential_put_lt hi ?_⟩
      simp [Worker.cost, hs, hunread]
    · -- the split is made: a sibling starts with what the worker's cursor gave up
      obtain ⟨x', hx, hxl, hunread, hsplits⟩ := hcases.resolve_left fun h => by cases h.1
      cases hx
      refine ⟨by simp; omega, Inv.fork h hi hs hcl hxl hunread (by simpa using hleased) _ _,
        potential_forked_lt hi ?_⟩
      have hlen := congrArg List.length hunread
      simp only [List.length_append] at hlen
      simp [Worker.cost, hs]
      omega
  · -- a budget of one: the worker reads
    refine ⟨by simpa using hi, Inv.put h hi hrun
      ((h.sane i hi).update rfl rfl (by simp [hl, Worker.reads]) (by simp)) (by simp) rfl rfl rfl
      (by simp [Worker.reads, hs]) rfl (by simp [Worker.holding, Worker.pending, hs])
      ((State.cursors_set_self hi).symm ▸ h.leased), potential_put_lt hi ?_⟩
    simp [Worker.cost, hs]

/-- A worker with no row in hand reads the next row of its cursor, or stops reading when its
cursor has none left or fails. -/
theorem stepWorker_reading (hb : b.Paged P) (h : Inv b P J (.worker i) st s w)
    (hi : i < st.workers.size) (hs : (st.get i).stage = .reading none) :
    Holds (stepWorker i) st s w (Stepped b P J i st) := by
  have hreads : (st.get i).reads = true := by simp [Worker.reads, hs]
  have hl : (st.get i).cursor.leased = true := (h.sane i hi).leased.trans hreads
  have herr : (st.get i).cursor.error = none := h.error_none hi hl
  have hrun : (st.get i).runnable = true := by simp [Worker.runnable, hs]
  rw [holds_stepWorker_reading_none hs]
  refine (Family.next_counted hb h.leased (State.getElem?_cursors hi) hl).mono ?_
  rintro ⟨out, c⟩ s' w' ⟨hleased, hcases⟩
  dsimp only at hleased hcases
  rcases hcases with ⟨row, hrow, hcl, hunread⟩ | ⟨hnone, hcl, hcerr, hdrained⟩ | ⟨e, herror, hcl, hcerr⟩
  · -- a row: the worker takes it in hand
    subst hrow
    have hcerr : c.error = none := hleased.unerred c
      (List.mem_of_getElem? (List.getElem?_set_self (by simpa [State.cursors] using hi))) hcl
    refine ⟨by simpa using hi, Inv.put h hi hrun
      ((h.sane i hi).update rfl rfl (by simp [hcl, Worker.reads]) (by simp)) (by simp) rfl rfl rfl
      (by simp [Worker.reads, hs]) (by simp [hcerr, herr])
      (by simp [Worker.holding, Worker.pending, hs, SplitCursor.owed, hcl, hl, ← hunread]) hleased,
      potential_put_lt hi ?_⟩
    have hlen := congrArg List.length hunread
    simp only [List.length_cons] at hlen
    simp [Worker.cost, hs]
    omega
  · -- no row left: the worker stops reading
    subst hnone
    refine ⟨by simpa using hi, Inv.stopped h hi hs hcl (fun _ => hdrained) rfl rfl
      (by simp [hcerr]) hleased, potential_stopped_lt hi ?_⟩
    simp [Worker.cost, hs]
    omega
  · -- a failed read: the worker records it and stops reading
    subst herror
    refine ⟨by simpa using hi, Inv.stopped h hi hs hcl
      (fun he => absurd (hcerr.symm.trans he) (by simp)) rfl rfl (by simp [hcerr]) hleased,
      potential_stopped_lt hi ?_⟩
    simp [Worker.cost, hs]
    omega

/-- A worker with a row in hand hands it over when the channel has room, and waits in the line
when it has none. -/
theorem stepWorker_handOver (h : Inv b P J (.worker i) st s w) (hi : i < st.workers.size)
    {row : Value} (hs : (st.get i).stage = .reading (some row)) :
    Holds (stepWorker i) st s w (Stepped b P J i st) := by
  have hrecv := h.receiving_rows hi (by simp [Worker.reads, hs])
  have hopen : st.receiverOpen = true := by rw [h.opened, hrecv]; rfl
  rw [holds_stepWorker_reading_some hs, holds_handOver_open hopen]
  split
  · rename_i hroom
    refine ⟨by simpa using hi, Inv.handOver h hi hs hroom, potential_handOver_lt hi ?_⟩
    simp [Worker.cost, hs]
    omega
  · rename_i hfull
    exact ⟨hi, Inv.waitRoom h hi hs hfull, potential_waitRoom.le⟩

/-- A worker done reading merges its next sibling's tally when that sibling is done, waits for it
otherwise, and is done once it has no sibling left. -/
theorem stepWorker_joining (h : Inv b P J (.worker i) st s w) (hi : i < st.workers.size)
    (hs : (st.get i).stage = .joining) :
    Holds (stepWorker i) st s w (Stepped b P J i st) := by
  rw [holds_stepWorker_joining hs]
  rcases hsib : (st.get i).siblings with _ | ⟨j, rest⟩
  · rw [holds_join_nil hsib]
    exact ⟨by rw [State.woken_eq]; simpa using hi, Inv.finish h hi hs hsib,
      potential_finish_le hi (by simp [Worker.cost, hs, hsib])⟩
  · have hj := ((h.sane i hi).siblings j (by simp [hsib])).2
    by_cases hd : (st.get j).stage = .done
    · rw [holds_join_merge hsib hd]
      refine ⟨by simpa using hi, Inv.merge h hi hs hsib hd, potential_put_lt hi ?_⟩
      simp [Worker.cost, hs, hsib]
    · rw [holds_join_wait hsib hd]
      exact ⟨by simpa using hi, Inv.waitSibling h hi hs hsib hd, potential_put_le hj (Nat.le_refl _)⟩

/-- Every step of a worker keeps the invariant; one that goes on lowers the potential, and one
that waits does not raise it. -/
theorem stepWorker_stepped (hb : b.Paged P) (h : Inv b P J (.worker i) st s w)
    (hi : i < st.workers.size) : Holds (stepWorker i) st s w (Stepped b P J i st) := by
  rcases hs : (st.get i).stage with budget | (_ | row) | _ | _
  · exact stepWorker_forking hb h hi hs
  · exact stepWorker_reading hb h hi hs
  · exact stepWorker_handOver h hi hs
  · exact stepWorker_joining h hi hs
  · rw [holds_stepWorker_done hs]
    exact ⟨hi, Inv.idle_of_done h hs, Nat.le_refl _⟩

end Step

/-! ## The loops -/

section Runs

variable {b : Behavior} {P : Nat} {J : String}

/-- A worker that takes up to `n` steps ends waiting, with no more left to do, or still going,
with at least `n` less: each step that goes on lowers the potential. Either way it is still one
of the read's workers. -/
theorem runWorker_steps (hb : b.Paged P) {i : Nat} (n : Nat) {st : State} {s : Session}
    {w : World} (h : Inv b P J (.worker i) st s w) (hi : i < st.workers.size) :
    Holds (runWorker i n) st s w fun _ st' s' w' => i < st'.workers.size ∧
      ((Inv b P J .idle st' s' w' ∧ st'.potential b P ≤ st.potential b P) ∨
        (Inv b P J (.worker i) st' s' w' ∧ st'.potential b P + n ≤ st.potential b P)) := by
  induction n generalizing st s w with
  | zero =>
    rw [holds_runWorker_zero]
    exact ⟨hi, Or.inr ⟨h, Nat.le_refl _⟩⟩
  | succ n ih =>
    rw [holds_runWorker_succ]
    refine (stepWorker_stepped hb h hi).mono ?_
    rintro (_ | _) st' s' w' hstep
    · obtain ⟨hi', h', hle⟩ := hstep
      rw [if_neg Bool.false_ne_true]
      exact ⟨hi', Or.inl ⟨h', hle⟩⟩
    · obtain ⟨hi', h', hlt⟩ := hstep
      rw [if_pos rfl]
      refine (ih h' hi').mono ?_
      rintro _ st'' s'' w'' ⟨hi'', ⟨h'', hle⟩ | ⟨h'', hle⟩⟩
      · exact ⟨hi'', Or.inl ⟨h'', by omega⟩⟩
      · exact ⟨hi'', Or.inr ⟨h'', by omega⟩⟩

/-- A worker runs until it waits: the potential is below the fuel. -/
theorem runWorker_idle (hb : b.Paged P) {i fuel : Nat} {st : State} {s : Session} {w : World}
    (h : Inv b P J (.worker i) st s w) (hi : i < st.workers.size)
    (hfuel : st.potential b P < fuel) :
    Holds (runWorker i fuel) st s w fun _ st' s' w' =>
      Inv b P J .idle st' s' w' ∧ st'.potential b P ≤ st.potential b P :=
  (runWorker_steps hb fuel h hi).mono fun _ _ _ _ hend =>
    hend.2.resolve_right fun hgoing => absurd hgoing.2 (by omega)

/-- The receiver that takes up to `n` steps ends waiting or finished, with no more left to do, or
still going, with at least `n` less. -/
theorem pollReceiver_steps (n : Nat) {st : State} {s : Session} {w : World}
    (h : Inv b P J .receiver st s w) :
    Holds (pollReceiver n) st s w fun _ st' s' w' =>
      (Inv b P J .idle st' s' w' ∧ st'.potential b P ≤ st.potential b P) ∨
        (Inv b P J .receiver st' s' w' ∧ st'.potential b P + n ≤ st.potential b P) := by
  induction n generalizing st with
  | zero => exact Or.inr ⟨h, Nat.le_refl _⟩
  | succ n ih =>
    -- the receiver goes on after taking a row, closing, or getting the first worker's tally
    have next : ∀ {st'}, Inv b P J .receiver st' s w → st'.potential b P < st.potential b P →
        Holds (pollReceiver n) st' s w fun _ st'' s' w' =>
          (Inv b P J .idle st'' s' w' ∧ st''.potential b P ≤ st.potential b P) ∨
            (Inv b P J .receiver st'' s' w' ∧ st''.potential b P + (n + 1) ≤ st.potential b P) := by
      intro st' h' hlt
      refine (ih h').mono ?_
      rintro _ st'' s' w' (⟨h'', hle⟩ | ⟨h'', hle⟩)
      · exact Or.inl ⟨h'', by omega⟩
      · exact Or.inr ⟨h'', by omega⟩
    cases hr : st.receiving with
    | rows =>
      rcases hc : st.channel with _ | ⟨row, rest⟩
      · by_cases hs : st.senders = 0
        · rw [holds_pollReceiver_close h.take hr hc hs (h.waiting_nil hs)]
          exact next (h.close hc hs) (potential_close_lt hr)
        · rw [holds_pollReceiver_idle h.take hr hc hs]
          exact Or.inl ⟨h.idle_of_receiver (Or.inl hr) fun _ => ⟨hc, hs⟩, Nat.le_refl _⟩
      · rw [holds_pollReceiver_take h.take hr hc]
        exact next (h.takeRow hr hc) (potential_takeRow_lt hc)
    | report =>
      by_cases hd : (st.get 0).stage = .done
      · rw [holds_pollReceiver_report_done hr hd]
        exact next (h.reportDone hr hd) (potential_reportDone_lt hr)
      · rw [holds_pollReceiver_report_wait hr hd]
        exact Or.inl ⟨h.reportWait hr hd, potential_put_le h.size_pos (Nat.le_refl _)⟩
    | cleanup =>
      rw [holds_pollReceiver_cleanup hr h.releases]
      exact Or.inl ⟨(h.cleanupDone hr).idle_of_receiver (Or.inr rfl) (fun h' => by cases h'),
        (potential_cleanupDone_lt hr).le⟩
    | finished =>
      rw [holds_pollReceiver_finished hr]
      exact Or.inl ⟨h.idle_of_receiver (Or.inr hr) fun h' => absurd (hr.symm.trans h') (by simp),
        Nat.le_refl _⟩

/-- The receiver runs until it waits or is finished: the potential is below the fuel. -/
theorem pollReceiver_idle {fuel : Nat} {st : State} {s : Session} {w : World}
    (h : Inv b P J .receiver st s w) (hfuel : st.potential b P < fuel) :
    Holds (pollReceiver fuel) st s w fun _ st' s' w' =>
      Inv b P J .idle st' s' w' ∧ st'.potential b P ≤ st.potential b P :=
  (pollReceiver_steps fuel h).mono fun _ _ _ _ hend =>
    hend.resolve_right fun hgoing => absurd hgoing.2 (by omega)

/-- The runtime runs up to `n` queued workers, each until it waits; when it runs one, the
potential drops. -/
theorem runQueue_idle (hb : b.Paged P) (n : Nat) {st : State} {s : Session} {w : World}
    (h : Inv b P J .idle st s w) (hbudget : st.potential b P < rowBudget) :
    Holds (runQueue n) st s w fun _ st' s' w' =>
      Inv b P J .idle st' s' w' ∧ st'.potential b P ≤ st.potential b P ∧
        (0 < n → st.queue ≠ [] → st'.potential b P < st.potential b P) := by
  induction n generalizing st s w with
  | zero => exact ⟨h, Nat.le_refl _, fun hn => absurd hn (Nat.lt_irrefl 0)⟩
  | succ n ih =>
    rcases hq : st.queue with _ | ⟨t, rest⟩
    · rw [holds_runQueue_nil _ hq]
      exact ⟨h, Nat.le_refl _, fun _ hne => absurd rfl hne⟩
    · obtain ⟨i, rfl, hi, h'⟩ := h.pop hq
      have hlt := potential_pop_lt (b := b) (P := P) hq
      rw [holds_runQueue_worker n i hq]
      refine (runWorker_idle hb h' hi (by omega)).mono ?_
      rintro _ st₂ s₂ w₂ ⟨h₂, hle₂⟩
      refine (ih h₂ (by omega)).mono ?_
      rintro _ st₃ s₃ w₃ ⟨h₃, hle₃, -⟩
      exact ⟨h₃, by omega, fun _ _ => by omega⟩

/-- The scheduler takes turns until the receiver is finished: each turn wakes the receiver or
runs a queued worker, so the potential drops, and it is below the fuel. -/
theorem schedule_finished (hb : b.Paged P) (fuel : Nat) {st : State} {s : Session} {w : World}
    (h : Inv b P J .idle st s w) (hfuel : st.potential b P < fuel)
    (hbudget : st.potential b P < rowBudget) :
    Holds (schedule fuel) st s w fun _ st' s' w' =>
      Inv b P J .idle st' s' w' ∧ st'.receiving = .finished := by
  induction fuel generalizing st s w with
  | zero => omega
  | succ fuel ih =>
    rw [holds_schedule_succ]
    -- the receiver's turn, when it was woken
    have hpoll : Holds (if st.receiverWoken then pollReceiver rowBudget else pure ())
        (if st.receiverWoken then { st with receiverWoken := false } else st) s w
        fun _ st' s' w' => Inv b P J .idle st' s' w' ∧ st'.potential b P ≤ st.potential b P ∧
          (st.receiverWoken = true → st'.potential b P < st.potential b P) ∧
          (st.receiverWoken = false → st' = st) := by
      cases hw : st.receiverWoken
      · exact ⟨h, Nat.le_refl _, fun h => absurd h (by simp), fun _ => rfl⟩
      · have hlt := potential_wakeReceiver_lt (b := b) (P := P) hw
        refine (pollReceiver_idle h.wakeReceiver (by omega)).mono ?_
        rintro _ st' s' w' ⟨h', hle⟩
        exact ⟨h', by omega, fun _ => by omega, fun h => absurd h (by simp)⟩
    refine hpoll.mono ?_
    rintro _ st₁ s₁ w₁ ⟨h₁, hle₁, hwoken, hsame⟩
    split
    · rename_i hstop
      -- the turns stop once the receiver is finished or nothing is left to run
      refine ⟨h₁, ?_⟩
      simp only [Bool.or_eq_true, beq_iff_eq, Bool.and_eq_true, List.isEmpty_iff,
        Bool.not_eq_true'] at hstop
      rcases hstop with hf | ⟨hq, hw⟩
      · exact hf
      · exact h₁.rest hq hw
    · rename_i hgo
      refine (runQueue_idle hb tasksPerTurn h₁ (by omega)).mono ?_
      rintro _ st₂ s₂ w₂ ⟨h₂, hle₂, hlt₂⟩
      -- either the receiver was woken, or a worker was queued and ran
      have hdrop : st₂.potential b P < st.potential b P := by
        cases hw : st.receiverWoken
        · have hst₁ := hsame hw
          subst hst₁
          have hq : st₁.queue ≠ [] := fun hq => hgo (by simp [hq, hw])
          exact hlt₂ (by decide) hq
        · have := hwoken hw
          omega
      exact ih h₂ (by omega) (by omega)

end Runs

/-! ## A whole read -/

section Read

variable {b : Behavior} {P : Nat} {J : String} {s : Session} {w : World}

/-- A read starts far below the fuel of the scheduler's loops. -/
theorem potential_initial_lt (hb : b.Paged P) {c : SplitCursor} (hc : c.Unstarted)
    (parallelism capacity : Nat) :
    (State.initial c parallelism capacity none).potential b P < rowBudget := by
  have hΦ := potential_initial (b := b) (P := P) hc parallelism capacity
  have hrows := hb.rows_lt
  have hpow : 18 * Nat.pow 2 64 ≤ rowBudget := by unfold rowBudget; decide
  have h9 : 9 ≤ Nat.pow 2 64 := by decide
  omega

/-- A parallel read of a leased root cursor over the in-memory service runs its scheduler to the
end: it returns what the receiver took, in the order it took it, and the first worker's tally,
from a finished state that keeps the invariant. -/
theorem fanOut_finished (hb : b.Paged P) {c : SplitCursor} (hc : c.Unstarted)
    (hl : c.leased = true) (h : Family.Leased b P J [c] s w) (parallelism capacity : Nat) :
    (fanOut c parallelism capacity none).Holds s w fun out s' w' =>
      ∃ st : State, Inv b P J .idle st s' w' ∧ st.receiving = .finished ∧
        out = (st.received.reverse, (st.get 0).report) := by
  have hbudget := potential_initial_lt (b := b) hb hc parallelism capacity
  have hrun := schedule_finished hb rowBudget (Inv.initial hc hl h parallelism capacity) hbudget
    hbudget
  rw [fanOut_eq, InSession.holds_bind]
  refine InSession.Holds.mono hrun ?_
  rintro ⟨⟨⟩, st⟩ s' w' ⟨hinv, hf⟩
  -- the first worker's tally is the one returned
  have hroot : ((st.workers[0]?).map (·.report)).getD {} = (st.get 0).report := by
    simp [State.get, hinv.size_pos]
  rw [InSession.holds_pure, hroot]
  exact ⟨st, hinv, hf, rfl⟩

/-- A parallel read of a leased root cursor over the in-memory service receives a part of the
job's rows, each once, as many as the first worker's tally counts, and all of them unless a read
failed; a failure is counted at most once per cursor; and when it returns, every lease is given
back and the job deleted with one delete. -/
theorem fanOut_read (hb : b.Paged P) {c : SplitCursor} (hc : c.Unstarted) (hl : c.leased = true)
    (h : Family.Leased b P J [c] s w) (parallelism capacity : Nat) :
    (fanOut c parallelism capacity none).Holds s w fun out s' w' =>
      out.1 <+~ b.allRows ∧ out.1.length = out.2.rows ∧ out.2.failures.length ≤ out.2.cursors ∧
        (out.2.failures = [] → out.1 ~ b.allRows) ∧ s'.consumers = 0 ∧ w'.Dropped J := by
  refine (fanOut_finished hb hc hl h parallelism capacity).mono ?_
  rintro out s' w' ⟨st, hinv, hf, rfl⟩
  obtain ⟨hsub, hrows, hfailures, hexact, hcons, hdropped⟩ := hinv.finished hf
  exact ⟨hsub, by rw [List.length_reverse]; exact hrows, hfailures, hexact, hcons, hdropped⟩

end Read

end FanOut

open scoped List

/-! ## Reading a new session in parallel -/

/-- Reading every row of the job of a session just made, over a new in-memory service that
finishes jobs at their first check, with up to `parallelism` workers through a channel of
`capacity` rows (either may be zero): the rows received are rows of the job, none twice, as many
as the tally counts; the tally counts a failure at most once per cursor; with no failure every row
of the job is received; and by the time the read returns, its job has been deleted, with one
delete. -/
theorem collectParallel_rows_once {sql : String} {config : SessionConfig} {svc : QueryService}
    {standalone : Bool} {s : Session} (hs : Session.make sql config svc standalone = .ok s)
    (hP32 : config.pageSize < Nat.pow 2 32) {b : Behavior}
    (hfit : b.rows + config.pageSize < Nat.pow 2 64) (hpolls : b.pollsBeforeDone = 0)
    (hfinal : b.finalState = .done) {w : World} (hw : w.backend = .fake { behavior := b })
    (parallelism capacity : Nat) :
    (do Session.attach; collectParallel {} parallelism capacity).Holds s w fun out _ w' =>
      out.1 <+~ b.allRows ∧ out.1.Nodup ∧ out.1.length = out.2.rows ∧
        out.2.failures.length ≤ out.2.cursors ∧ (out.2.failures = [] → out.1 ~ b.allRows) ∧
        w'.Dropped (Text.mintUuid 0 w.minted) := by
  obtain ⟨p, hparams, -⟩ := Session.make_ok hs
  obtain ⟨-, -, hP0⟩ := SessionConfig.params_eq hparams
  have hb : b.Paged config.pageSize := ⟨hP0, hfit⟩
  obtain ⟨hstarts, hcons⟩ :=
    Session.make_starts hs hP32 hb (Behavior.pollsDone_first hpolls hfinal _) hw
  -- the root cursor is the session's one consumer, and it has not started
  have hone : ({ s with consumers := s.consumers + 1 } : Session) = { s with consumers := 1 } := by
    rw [hcons]
  rw [InSession.holds_bind, Session.holds_attach, hone]
  refine (FanOut.fanOut_read hb ⟨rfl, rfl⟩ rfl (Family.Leased.root_starting hstarts.begins) parallelism
    capacity).mono ?_
  rintro out s' w' ⟨hsub, hrows, hfailures, hexact, -, hdropped⟩
  exact ⟨hsub, Family.nodup_of_subperm hsub b.allRows_nodup, hrows, hfailures, hexact, hdropped⟩

/-- Three rows in pages of two, read by four workers through a channel with no room. -/
theorem collectParallel_rows_once_three_rows :
    ∃ s, Session.make "SELECT * FROM t" { pageSize := 2 } {} false = .ok s ∧
      (do Session.attach; collectParallel {} 4 0).Holds s
        { backend := .fake { behavior := { rows := 3 } } } fun out _ w' =>
        out.1 <+~ Behavior.allRows { rows := 3 } ∧ out.1.Nodup ∧ out.1.length = out.2.rows ∧
          out.2.failures.length ≤ out.2.cursors ∧
          (out.2.failures = [] → out.1 ~ Behavior.allRows { rows := 3 }) ∧
          w'.Dropped (Text.mintUuid 0 0) :=
  ⟨_, rfl, @collectParallel_rows_once "SELECT * FROM t" { pageSize := 2 } {} false _ rfl (by decide)
    { rows := 3 } (by decide) rfl rfl _ rfl 4 0⟩

end JobQuery
