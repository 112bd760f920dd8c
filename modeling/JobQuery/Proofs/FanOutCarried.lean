import JobQuery.Proofs.FanOutSchedules

/-!
# JobQuery — what every turn of a parallel read carries

The receiver and the runtime never change a worker's stage or cursor, and never touch the
session or the world: they move rows, wake tasks and mark who waits for whom. So a property of a
read that looks at the workers only through their stages and cursors (`State.lanes`), and that
every step of a worker keeps, holds from the start of the read on, whatever the receiver and the
runtime do in between, and in whatever order the runtime takes its turns.

`Carried` names such a property, and `Reachable.carried` says that it holds at every state some
order of turns reaches from a read of a leased root cursor. The steps of the workers are the one
obligation; a turn runs a worker or the receiver for some steps, an induction on their number
that carries the read's invariant `Inv` beside the property, since a step of a worker keeps the
property only from a state where the invariant holds.
-/

namespace JobQuery

namespace FanOut

/-- The workers' stages and cursors, in order: what the receiver and the runtime leave alone. -/
def State.lanes (st : State) : List (Stage × SplitCursor) :=
  st.workers.toList.map fun wk => (wk.stage, wk.cursor)

/-- A worker replaced by one at the same stage with the same cursor keeps the lanes. -/
theorem State.lanes_put {st : State} {i : Nat} (hi : i < st.workers.size) {wk : Worker}
    (hstage : wk.stage = (st.get i).stage) (hcursor : wk.cursor = (st.get i).cursor) :
    (st.put i wk).lanes = st.lanes := by
  simp only [lanes, toList_put, List.map_set, hstage, hcursor]
  exact Family.set_self_of_getElem? (by simp [getElem?_toList hi])

variable (b : Behavior) (P : Nat) (J : String) in
/-- A property of a read that looks at the workers only through their lanes, and that every step
of a worker keeps from a state where the read's invariant holds. -/
structure Carried (X : State → Session → World → Prop) : Prop where
  frame : ∀ {st st' : State} {s : Session} {w : World}, X st s w → st'.lanes = st.lanes →
    X st' s w
  step : ∀ {i : Nat} {st : State} {s : Session} {w : World}, Inv b P J (.worker i) st s w →
    i < st.workers.size → X st s w → Holds (stepWorker i) st s w fun _ st' s' w' => X st' s' w'

section Runs

variable {b : Behavior} {P : Nat} {J : String} {X : State → Session → World → Prop}

theorem runWorker_carried (hb : b.Paged P) (hX : Carried b P J X) {i : Nat} (fuel : Nat)
    {st : State} {s : Session} {w : World} (h : Inv b P J (.worker i) st s w)
    (hi : i < st.workers.size) (hx : X st s w) :
    Holds (runWorker i fuel) st s w fun _ st' s' w' => X st' s' w' := by
  induction fuel generalizing st s w with
  | zero => exact hx
  | succ fuel ih =>
    rw [holds_runWorker_succ]
    refine ((stepWorker_stepped hb h hi).and (hX.step h hi hx)).mono ?_
    rintro (_ | _) st' s' w' ⟨hstep, hx'⟩
    · exact hx'
    · obtain ⟨hi', h', -⟩ := hstep
      rw [if_pos rfl]
      exact ih h' hi' hx'

theorem pollReceiver_carried (hX : Carried b P J X) (fuel : Nat) {st : State} {s : Session}
    {w : World} (h : Inv b P J .receiver st s w) (hx : X st s w) :
    Holds (pollReceiver fuel) st s w fun _ st' s' w' => X st' s' w' := by
  induction fuel generalizing st with
  | zero => exact hx
  | succ fuel ih =>
    cases hr : st.receiving with
    | rows =>
      rcases hc : st.channel with _ | ⟨row, rest⟩
      · by_cases hs : st.senders = 0
        · rw [holds_pollReceiver_close h.take hr hc hs (h.waiting_nil hs)]
          exact ih (h.close hc hs) (hX.frame hx rfl)
        · rw [holds_pollReceiver_idle h.take hr hc hs]
          exact hx
      · rw [holds_pollReceiver_take h.take hr hc]
        exact ih (h.takeRow hr hc) (hX.frame hx rfl)
    | report =>
      by_cases hd : (st.get 0).stage = .done
      · rw [holds_pollReceiver_report_done hr hd]
        exact ih (h.reportDone hr hd) (hX.frame hx rfl)
      · -- the receiver marks itself as the first worker's joiner, which moves no lane
        rw [holds_pollReceiver_report_wait hr hd]
        exact hX.frame hx (State.lanes_put h.size_pos rfl rfl)
    | cleanup =>
      rw [holds_pollReceiver_cleanup hr h.releases]
      exact hX.frame hx rfl
    | finished =>
      rw [holds_pollReceiver_finished hr]
      exact hx

/-- Every turn keeps a carried property, whatever the runtime picks. -/
theorem pickTurn_carried (hb : b.Paged P) (hX : Carried b P J X) (p : Pick) {st : State}
    {s : Session} {w : World} (h : Inv b P J .idle st s w) (hx : X st s w) :
    Holds (pickTurn p) st s w fun _ st' s' w' => X st' s' w' := by
  by_cases hp : p.Woken st
  swap
  · rw [holds_pickTurn_unwoken hp]
    exact hx
  -- taking a task off the queue, and waking it or the receiver again, moves no lane
  cases p with
  | receiver =>
    rw [holds_pickTurn_receiver hp]
    exact pollReceiver_carried hX rowBudget h.wakeReceiver (hX.frame hx rfl)
  | receiverFor n =>
    rw [holds_pickTurn_receiverFor hp]
    exact (pollReceiver_carried hX n h.wakeReceiver (hX.frame hx rfl)).mono
      fun _ _ _ _ hx' => hX.frame hx' rfl
  | task t =>
    obtain ⟨i, rfl, hi, h'⟩ := h.pick hp
    rw [holds_pickTurn_task hp, runTask]
    exact runWorker_carried hb hX rowBudget h' hi (hX.frame hx rfl)
  | workerFor i n =>
    obtain ⟨i, he, hi, h'⟩ := h.pick hp
    cases he
    rw [holds_pickTurn_workerFor hp]
    exact (runWorker_carried hb hX n h' hi (hX.frame hx rfl)).mono
      fun _ _ _ _ hx' => hX.frame hx' rfl

/-- **A carried property holds at every state some order of turns reaches**, from a state where
it holds and the read's invariant does. -/
theorem Reachable.carried (hb : b.Paged P) (hX : Carried b P J X) {c₀ c : State × Session × World}
    (h : Inv b P J .idle c₀.1 c₀.2.1 c₀.2.2) (hbudget : c₀.1.potential b P < rowBudget)
    (hx : X c₀.1 c₀.2.1 c₀.2.2) (hr : Reachable c₀ c) : X c.1 c.2.1 c.2.2 := by
  induction hr with
  | start => exact hx
  | turn p hr' ih => exact pickTurn_carried hb hX p (hr'.inv hb h hbudget).1 ih

end Runs

end FanOut

end JobQuery
