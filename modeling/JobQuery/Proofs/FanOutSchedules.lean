import JobQuery.Proofs.FanOutRun

/-!
# JobQuery — a parallel read in any order of its tasks

`fanOut` runs its tasks in the order of a runtime on one thread. Any other runtime takes turns
(`pickTurn`): it runs the receiver or any queued task when they were woken, and it may put a
task aside at any await while the others run, and wake it again. `FanOut.Reachable` is every
state some order of turns reaches. Nothing the invariant of a read says depends on that order:

* every turn keeps `Inv` and does not raise the potential (`pickTurn_inv`), so every reachable
  state keeps them (`Reachable.inv`);
* a reachable state where the receiver is finished has received a part of the job's rows, each
  once, all of them unless a read failed, and every lease is given back (`reachable_read`);
* the turns of `schedule` are turns of some order (`schedule_reachable`): what `fanOut` returns
  is what a reachable finished state holds (`fanOut_reachable`), and from every reachable state
  the runtime's own turns still finish the read (`Reachable.finishes`).
-/

namespace JobQuery

namespace FanOut

/-! ## Turns as specifications -/

section Turns

variable {α : Type} {c₀ : State × Session × World} {st : State} {s : Session} {w : World}

/-- What holds where `x` ends is what holds of `after x`. -/
theorem holds_after {x : InFanOut α} {c : State × Session × World}
    {Q : State × Session × World → Prop} :
    Holds x c.1 c.2.1 c.2.2 (fun _ st' s' w' => Q (st', s', w')) ↔ Q (after x c) :=
  Iff.rfl

/-- A turn from a reachable state ends in one. -/
theorem Reachable.holds_turn (hr : Reachable c₀ (st, s, w)) (p : Pick) :
    Holds (pickTurn p) st s w fun _ st' s' w' => Reachable c₀ (st', s', w') :=
  hr.turn p

/-- The runtime's queue, run for up to `n` tasks from a reachable state, ends in one: each task
it runs is a turn. -/
theorem runQueue_reachable (n : Nat) (hr : Reachable c₀ (st, s, w)) :
    Holds (runQueue n) st s w fun _ st' s' w' => Reachable c₀ (st', s', w') := by
  induction n generalizing st s w with
  | zero => exact hr
  | succ n ih =>
    rcases hq : st.queue with _ | ⟨t, rest⟩
    · rw [holds_runQueue_nil _ hq]
      exact hr
    · -- the head of the queue is the task picked
      have hturn := (holds_pickTurn_task (by simp [hq] : t ∈ st.queue)).mp (hr.holds_turn (.task t))
      rw [hq, List.erase_cons_head] at hturn
      rw [holds_runQueue_cons n hq]
      exact hturn.mono fun _ _ _ _ hr' => ih hr'

/-- **The runtime's own order is one of them**: its turns from a reachable state end in one. -/
theorem schedule_reachable (fuel : Nat) (hr : Reachable c₀ (st, s, w)) :
    Holds (schedule fuel) st s w fun _ st' s' w' => Reachable c₀ (st', s', w') := by
  induction fuel generalizing st s w with
  | zero => exact hr
  | succ fuel ih =>
    rw [holds_schedule_succ]
    -- the receiver's turn, when it was woken
    have hpoll : Holds (if st.receiverWoken then pollReceiver rowBudget else pure ())
        (if st.receiverWoken then { st with receiverWoken := false } else st) s w
        fun _ st' s' w' => Reachable c₀ (st', s', w') := by
      cases hw : st.receiverWoken
      · rw [if_neg Bool.false_ne_true, if_neg Bool.false_ne_true]
        exact hr
      · rw [if_pos rfl, if_pos rfl]
        exact (holds_pickTurn_receiver hw).mp (hr.holds_turn .receiver)
    refine hpoll.mono ?_
    rintro _ st₁ s₁ w₁ hr₁
    split
    · exact hr₁
    · exact (runQueue_reachable tasksPerTurn hr₁).mono fun _ _ _ _ hr₂ => ih hr₂

end Turns

/-! ## Every turn keeps the invariant -/

section Inv

variable {b : Behavior} {P : Nat} {J : String} {st : State} {s : Session} {w : World}

/-- **Every turn keeps the read's invariant and does not raise its potential**, whatever the
runtime picks: a worker put aside is queued again, and the receiver put aside woken again, each
in the place of the one taken off. -/
theorem pickTurn_inv (hb : b.Paged P) (p : Pick) (h : Inv b P J .idle st s w)
    (hbudget : st.potential b P < rowBudget) :
    Holds (pickTurn p) st s w fun _ st' s' w' =>
      Inv b P J .idle st' s' w' ∧ st'.potential b P ≤ st.potential b P := by
  by_cases hp : p.Woken st
  swap
  · rw [holds_pickTurn_unwoken hp]
    exact ⟨h, Nat.le_refl _⟩
  cases p with
  | receiver =>
    have hlt := potential_wakeReceiver_lt (b := b) (P := P) hp
    rw [holds_pickTurn_receiver hp]
    refine (pollReceiver_idle h.wakeReceiver (by omega)).mono ?_
    rintro _ st' s' w' ⟨h', hle⟩
    exact ⟨h', by omega⟩
  | receiverFor n =>
    have hlt := potential_wakeReceiver_lt (b := b) (P := P) hp
    rw [holds_pickTurn_receiverFor hp]
    refine (pollReceiver_steps n h.wakeReceiver).mono ?_
    rintro _ st' s' w' hend
    have hwake : ({ st' with receiverWoken := true } : State).potential b P ≤
        st'.potential b P + 1 := potential_rewake_le
    rcases hend with ⟨h', hle⟩ | ⟨h', hle⟩
    · exact ⟨h'.rewake (Or.inl rfl), by omega⟩
    · exact ⟨h'.rewake (Or.inr rfl), by omega⟩
  | task t =>
    obtain ⟨i, rfl, hi, h'⟩ := h.pick hp
    have hlt := potential_unqueue_lt (b := b) (P := P) hp
    rw [holds_pickTurn_task hp, runTask]
    refine (runWorker_idle hb h' hi (by omega)).mono ?_
    rintro _ st' s' w' ⟨h'', hle⟩
    exact ⟨h'', by omega⟩
  | workerFor i n =>
    obtain ⟨i, he, hi, h'⟩ := h.pick hp
    cases he
    have hlt := potential_unqueue_lt (b := b) (P := P) hp
    rw [holds_pickTurn_workerFor hp]
    refine (runWorker_steps hb n h' hi).mono ?_
    rintro _ st' s' w' ⟨hi', hend⟩
    have hwake : (st'.wake i).potential b P ≤ st'.potential b P + 1 := potential_wake_le i
    rcases hend with ⟨h'', hle⟩ | ⟨h'', hle⟩
    · exact ⟨h''.requeue (Or.inl rfl) hi', by omega⟩
    · exact ⟨h''.requeue (Or.inr rfl) hi', by omega⟩

/-- **Every state some order of turns reaches keeps the read's invariant**, with no more
potential than the start. -/
theorem Reachable.inv (hb : b.Paged P) {c₀ c : State × Session × World}
    (h : Inv b P J .idle c₀.1 c₀.2.1 c₀.2.2) (hbudget : c₀.1.potential b P < rowBudget)
    (hr : Reachable c₀ c) :
    Inv b P J .idle c.1 c.2.1 c.2.2 ∧ c.1.potential b P ≤ c₀.1.potential b P := by
  induction hr with
  | start => exact ⟨h, Nat.le_refl _⟩
  | turn p _ ih =>
    obtain ⟨h', hle⟩ := ih
    have hturn := pickTurn_inv hb p h' (by omega)
    exact ⟨hturn.1, hturn.2.trans hle⟩

/-- **Every reachable state can still finish**: the runtime's own turns from it finish the
read. -/
theorem Reachable.finishes (hb : b.Paged P) {c₀ c : State × Session × World}
    (h : Inv b P J .idle c₀.1 c₀.2.1 c₀.2.2) (hbudget : c₀.1.potential b P < rowBudget)
    (hr : Reachable c₀ c) :
    ∃ c', Reachable c c' ∧ c'.1.receiving = .finished := by
  obtain ⟨h', hle⟩ := hr.inv hb h hbudget
  have hrun := (schedule_reachable rowBudget (Reachable.start : Reachable c c)).and
    (schedule_finished hb rowBudget h' (by omega) (by omega))
  exact ⟨after (schedule rowBudget) c, hrun.1, hrun.2.2⟩

end Inv

/-! ## A whole read, in any order -/

section Read

variable {b : Behavior} {P : Nat} {J : String} {s : Session} {w : World}

open scoped List

/-- **A parallel read that some order of turns finishes** has received a part of the job's rows,
each once, as many as the first worker's tally counts, and all of them unless a read failed; a
failure is counted at most once per cursor; every lease is given back, and the job deleted with
one delete. -/
theorem reachable_read (hb : b.Paged P) {c : SplitCursor} (hc : c.Unstarted)
    (hl : c.leased = true) (h : Family.Leased b P J [c] s w) (parallelism capacity : Nat)
    {st : State} {s' : Session} {w' : World}
    (hr : Reachable (State.initial c parallelism capacity none, s, w) (st, s', w'))
    (hf : st.receiving = .finished) :
    st.received.reverse <+~ b.allRows ∧ st.received.length = (st.get 0).report.rows ∧
      (st.get 0).report.failures.length ≤ (st.get 0).report.cursors ∧
      ((st.get 0).report.failures = [] → st.received.reverse ~ b.allRows) ∧
      s'.consumers = 0 ∧ w'.Dropped J :=
  ((hr.inv hb (Inv.initial hc hl h parallelism capacity)
    (potential_initial_lt hb hc parallelism capacity)).1).finished hf

/-- **What `fanOut` returns is what a reachable finished state holds**: the rows the receiver
took, in the order it took them, and the first worker's tally. -/
theorem fanOut_reachable (hb : b.Paged P) {c : SplitCursor} (hc : c.Unstarted)
    (hl : c.leased = true) (h : Family.Leased b P J [c] s w) (parallelism capacity : Nat) :
    (fanOut c parallelism capacity none).Holds s w fun out s' w' =>
      ∃ st : State, Reachable (State.initial c parallelism capacity none, s, w) (st, s', w') ∧
        st.receiving = .finished ∧ out = (st.received.reverse, (st.get 0).report) := by
  have hbudget := potential_initial_lt (b := b) hb hc parallelism capacity
  have hinit := Inv.initial hc hl h parallelism capacity
  rw [fanOut_eq, InSession.holds_bind]
  refine InSession.Holds.mono ((schedule_finished hb rowBudget hinit hbudget hbudget).and
    (schedule_reachable rowBudget .start)) ?_
  rintro ⟨⟨⟩, st⟩ s' w' ⟨⟨hinv, hf⟩, hr⟩
  -- the first worker's tally is the one returned
  have hroot : ((st.workers[0]?).map (·.report)).getD {} = (st.get 0).report := by
    simp [State.get, hinv.size_pos]
  rw [InSession.holds_pure, hroot]
  exact ⟨st, hr, hf, rfl⟩

end Read

end FanOut

end JobQuery
