import Mathlib
import JobQuery.Proofs.SplitLeases
import JobQuery.Client.Parallel

/-!
# JobQuery — the steps of a parallel read

A parallel read (`fanOut`) runs in `InFanOut`, a state monad over the scheduler's state on top
of a session. `FanOut.Holds x st s w Q` says that `x`, run from scheduler state `st`, session
`s` and world `w`, ends where `Q` holds of its result and of the scheduler state, session and
world it leaves: its weakest precondition, which goes through `bind`, `get`, `set` and
`modify` by `rfl`.

The scheduler's bookkeeping (who is queued, who waits for room in the channel and who was told
to try again) changes the state only, and each such operation is given here as a function of
the state (`State.wake`, `State.notified`, `State.left`), with the facts later proofs need about
the line of waiting workers (`tellFirst_told`, `tellFirst_keeps`, `tellFirst_some_told`).
-/

namespace JobQuery

namespace FanOut

open InSession

/-! ## Weakest preconditions -/

/-- Run from scheduler state `st`, session `s` and world `w`, `x` ends where `Q` holds of its
result, the scheduler state, the session and the world. -/
def Holds {α : Type} (x : InFanOut α) (st : State) (s : Session) (w : World)
    (Q : α → State → Session → World → Prop) : Prop :=
  (x.run st).Holds s w fun p s' w' => Q p.1 p.2 s' w'

section Holds

variable {α β : Type} {st : State} {s : Session} {w : World}

@[simp] theorem holds_bind (x : InFanOut α) (g : α → InFanOut β)
    {Q : β → State → Session → World → Prop} :
    Holds (x >>= g) st s w Q ↔ Holds x st s w fun a st' s' w' => Holds (g a) st' s' w' Q :=
  Iff.rfl

@[simp] theorem holds_pure (a : α) {Q : α → State → Session → World → Prop} :
    Holds (pure a : InFanOut α) st s w Q ↔ Q a st s w :=
  Iff.rfl

@[simp] theorem holds_map (f : α → β) (x : InFanOut α) {Q : β → State → Session → World → Prop} :
    Holds (f <$> x) st s w Q ↔ Holds x st s w fun a st' s' w' => Q (f a) st' s' w' :=
  Iff.rfl

@[simp] theorem holds_get {Q : State → State → Session → World → Prop} :
    Holds (get : InFanOut State) st s w Q ↔ Q st st s w :=
  Iff.rfl

@[simp] theorem holds_set (st' : State) {Q : PUnit → State → Session → World → Prop} :
    Holds (set st' : InFanOut PUnit) st s w Q ↔ Q ⟨⟩ st' s w :=
  Iff.rfl

@[simp] theorem holds_modify (f : State → State) {Q : PUnit → State → Session → World → Prop} :
    Holds (modify f : InFanOut PUnit) st s w Q ↔ Q ⟨⟩ (f st) s w :=
  Iff.rfl

@[simp] theorem holds_lift (x : InSession α) {Q : α → State → Session → World → Prop} :
    Holds (StateT.lift x : InFanOut α) st s w Q ↔ x.Holds s w fun a s' w' => Q a st s' w' :=
  Iff.rfl

@[simp] theorem holds_ite {c : Prop} [Decidable c] (x y : InFanOut α)
    {Q : α → State → Session → World → Prop} :
    Holds (if c then x else y) st s w Q ↔ if c then Holds x st s w Q else Holds y st s w Q := by
  split <;> rfl

theorem Holds.mono {x : InFanOut α} {Q Q' : α → State → Session → World → Prop}
    (h : Holds x st s w Q) (hq : ∀ a st' s' w', Q a st' s' w' → Q' a st' s' w') :
    Holds x st s w Q' :=
  hq _ _ _ _ h

theorem Holds.and {x : InFanOut α} {Q Q' : α → State → Session → World → Prop}
    (h : Holds x st s w Q) (h' : Holds x st s w Q') :
    Holds x st s w fun a st' s' w' => Q a st' s' w' ∧ Q' a st' s' w' :=
  ⟨h, h'⟩

end Holds

/-! ## The scheduler's state -/

instance : LawfulBEq Task where
  eq_of_beq {a b} h := by
    cases a <;> cases b <;> simp_all [BEq.beq, instBEqTask.beq]
  rfl {a} := by cases a <;> simp [BEq.beq, instBEqTask.beq]

instance : LawfulBEq Receiving where
  eq_of_beq {a b} h := by
    cases a <;> cases b <;> simp only [BEq.beq, instBEqReceiving.beq] at h <;>
      first | rfl | exact absurd h (by decide)
  rfl {a} := by cases a <;> rfl

namespace State

/-- Worker `i`, as the scheduler reads it. -/
def get (st : State) (i : Nat) : Worker := (st.workers[i]?).getD default

/-- The state with worker `i` replaced. -/
@[simps] def put (st : State) (i : Nat) (wk : Worker) : State :=
  { st with workers := st.workers.set! i wk }

/-- The queue with worker `i`, if any, woken: queued unless it is queued already. -/
def wakeQueue (q : List Task) : Option Nat → List Task
  | some i => if q.contains (.worker i) then q else q ++ [.worker i]
  | none => q

/-- The state with worker `i` woken. -/
@[simps] def wake (st : State) (i : Nat) : State := { st with queue := wakeQueue st.queue (some i) }

/-- The state after the first waiting worker not told yet is told to try again. -/
@[simps] def notified (st : State) : State :=
  { st with waiting := (tellFirst st.waiting).2, queue := wakeQueue st.queue (tellFirst st.waiting).1 }

/-- The state after worker `i` leaves the line; when it was told to try again and `passOn`, the
word goes to the next worker not told yet. -/
@[simps] def left (st : State) (i : Nat) (passOn : Bool) : State :=
  { st with
    waiting :=
      if (st.waiting.any fun (j, t) => j == i && t) && passOn then
        (tellFirst (st.waiting.filter fun (j, _) => j != i)).2
      else st.waiting.filter fun (j, _) => j != i
    queue :=
      if (st.waiting.any fun (j, t) => j == i && t) && passOn then
        wakeQueue st.queue (tellFirst (st.waiting.filter fun (j, _) => j != i)).1
      else st.queue }

/-- The state after worker `i`, now `wk`, stops reading: it lets its end of the channel go,
and the last one to do so wakes the receiver. -/
@[simps] def stopped (st : State) (i : Nat) (wk : Worker) : State :=
  { st.put i { wk with stage := .joining } with
    senders := st.senders - 1
    receiverWoken := st.receiverWoken || st.senders - 1 == 0 }

/-- The state after worker `i`, now `wk`, splits off a sibling with cursor `x` and budget
`half`: the sibling starts as a new worker, queued, that holds its end of the channel. -/
@[simps] def forked (st : State) (i : Nat) (wk : Worker) (x : SplitCursor) (half : Nat) : State :=
  { st with
    workers := (st.workers.push { cursor := x, stage := .forking half }).set! i wk
    queue := wakeQueue st.queue (some st.workers.size)
    senders := st.senders + 1 }

/-- The state after the one who waited for a worker is woken. -/
def woken (st : State) : Option Joiner → State
  | some (.worker j) => st.wake j
  | some .receiver => { st with receiverWoken := true }
  | none => st

theorem get_put (st : State) {i : Nat} (hi : i < st.workers.size) (wk : Worker) (j : Nat) :
    (st.put i wk).get j = if j = i then wk else st.get j := by
  unfold get put
  simp only [Array.set!, Array.getElem?_setIfInBounds]
  by_cases hij : j = i
  · subst hij
    simp [hi]
  · simp [hij, Ne.symm hij]

theorem get_push (st : State) (wk : Worker) (j : Nat) :
    ({ st with workers := st.workers.push wk } : State).get j =
      if j = st.workers.size then wk else st.get j := by
  unfold get
  simp only [Array.getElem?_push]
  split <;> rfl

@[simp] theorem size_put (st : State) (i : Nat) (wk : Worker) :
    (st.put i wk).workers.size = st.workers.size := by
  simp [put, Array.set!]

theorem mem_wakeQueue {q : List Task} {told : Option Nat} {t : Task} :
    t ∈ wakeQueue q told ↔ t ∈ q ∨ ∃ i, told = some i ∧ t = .worker i := by
  cases told with
  | none => simp [wakeQueue]
  | some i =>
    simp only [wakeQueue, Option.some.injEq, exists_eq_left']
    split
    · rename_i h
      exact ⟨Or.inl, fun h' => h'.elim id fun ht => ht ▸ List.contains_iff_mem.mp h⟩
    · simp

theorem length_wakeQueue (q : List Task) (told : Option Nat) :
    (wakeQueue q told).length ≤ q.length + 1 := by
  cases told with
  | none => simp [wakeQueue]
  | some i =>
    simp only [wakeQueue]
    split <;> simp

end State

/-! ## The line of waiting workers -/

section Line

variable {l : List (Nat × Bool)}

/-- Telling the first waiting worker not told yet keeps the line's workers in order. -/
theorem tellFirst_keeps (l : List (Nat × Bool)) : (tellFirst l).2.map Prod.fst = l.map Prod.fst := by
  fun_induction tellFirst l <;> simp_all

/-- The worker told is one that waited untold, and is now told. -/
theorem tellFirst_some_told {i : Nat} (h : (tellFirst l).1 = some i) :
    (i, false) ∈ l ∧ (i, true) ∈ (tellFirst l).2 := by
  fun_induction tellFirst l <;> simp_all

/-- A worker told now was told before, or is the one told now. -/
theorem tellFirst_told {i : Nat} (h : (i, true) ∈ (tellFirst l).2) :
    (i, true) ∈ l ∨ (tellFirst l).1 = some i := by
  fun_induction tellFirst l <;> grind

/-- After a worker is told, the line is empty or holds a worker told to try again. -/
theorem tellFirst_told_or_nil (l : List (Nat × Bool)) :
    (tellFirst l).2 = [] ∨ ∃ i, (i, true) ∈ (tellFirst l).2 := by
  fun_induction tellFirst l <;> simp_all

end Line

/-! ## What each step does -/

section Specs

variable {st : State} {s : Session} {w : World} {Q : Unit → State → Session → World → Prop}

@[simp] theorem holds_worker (i : Nat) {Q : Worker → State → Session → World → Prop} :
    Holds (worker i) st s w Q ↔ Q (st.get i) st s w :=
  Iff.rfl

@[simp] theorem holds_setWorker (i : Nat) (wk : Worker) :
    Holds (setWorker i wk) st s w Q ↔ Q ⟨⟩ (st.put i wk) s w :=
  Iff.rfl

@[simp] theorem holds_wakeWorker (i : Nat) : Holds (wakeWorker i) st s w Q ↔ Q ⟨⟩ (st.wake i) s w := by
  by_cases hc : Task.worker i ∈ st.queue <;> simp [wakeWorker, State.wake, State.wakeQueue, hc]

@[simp] theorem holds_notifyOne : Holds notifyOne st s w Q ↔ Q ⟨⟩ st.notified s w := by
  unfold notifyOne State.notified
  rcases h : tellFirst st.waiting with ⟨_ | i, l⟩ <;> simp [h, State.wake, State.wakeQueue]

theorem holds_notifyAll (h : st.waiting = []) : Holds notifyAll st s w Q ↔ Q ⟨⟩ st s w := by
  unfold notifyAll
  cases st
  simp_all

@[simp] theorem holds_leaveLine (i : Nat) (passOn : Bool) :
    Holds (leaveLine i passOn) st s w Q ↔ Q ⟨⟩ (st.left i passOn) s w := by
  unfold leaveLine State.left
  simp only [holds_bind, holds_get, holds_set, List.any_eq_true, Bool.and_eq_true, beq_iff_eq]
  split <;> simp_all [State.notified]

@[simp] theorem holds_stopReading (i : Nat) (wk : Worker) :
    Holds (stopReading i wk) st s w Q ↔ Q ⟨⟩ (st.stopped i wk) s w := by
  unfold stopReading State.stopped
  by_cases hc : st.senders - 1 = 0
  · simp [hc, State.put]
  · have hb : (st.senders - 1 == 0) = false := by simpa using hc
    simp [hc, hb, State.put]

section Worker

variable {i : Nat} {wk : Worker} {Q : Bool → State → Session → World → Prop}

theorem holds_handOver_open (ho : st.receiverOpen = true) (row : Json.Value) :
    Holds (handOver i wk row) st s w Q ↔
      if st.channel.length < st.capacity then
        Q true ((({ st with channel := st.channel ++ [row], receiverWoken := true } : State).left i
          true).put i
            { wk with stage := .reading none, report := { wk.report with rows := wk.report.rows + 1 } })
          s w
      else Q false { st.left i false with waiting := (st.left i false).waiting ++ [(i, false)] } s w := by
  unfold handOver
  by_cases hc : st.channel.length < st.capacity <;> simp [ho, hc]

theorem holds_join_nil (h : wk.siblings = []) :
    Holds (join i wk) st s w Q ↔ Q false ((st.put i { wk with stage := .done }).woken wk.joiner) s w := by
  unfold join State.woken
  rcases hj : wk.joiner with _ | (_ | _) <;> simp [h]

theorem holds_join_merge {j : Nat} {rest : List Nat} (h : wk.siblings = j :: rest)
    (hd : (st.get j).stage = .done) :
    Holds (join i wk) st s w Q ↔
      Q true (st.put i { wk with siblings := rest, report := wk.report.merge (st.get j).report }) s w := by
  unfold join
  simp [h, hd]

theorem holds_join_wait {j : Nat} {rest : List Nat} (h : wk.siblings = j :: rest)
    (hd : (st.get j).stage ≠ .done) :
    Holds (join i wk) st s w Q ↔ Q false (st.put j { st.get j with joiner := some (.worker i) }) s w := by
  unfold join
  cases hs : (st.get j).stage <;> simp_all

/-- A worker that forks splits its cursor while its budget is above one: a sibling split off
starts as a new worker, queued, with half the budget. -/
theorem holds_stepWorker_forking {budget : Nat} (hs : (st.get i).stage = .forking budget) :
    Holds (stepWorker i) st s w Q ↔
      if 1 < budget then
        (st.get i).cursor.trySplit.Holds s w fun out s' w' =>
          match out with
          | (some x, c) =>
            Q true (st.forked i
              { st.get i with
                cursor := c, siblings := st.workers.size :: (st.get i).siblings
                stage := .forking (budget - budget / 2) } x (budget / 2)) s' w'
          | (none, c) => Q true (st.put i { st.get i with cursor := c, stage := .reading none }) s' w'
      else Q true (st.put i { st.get i with stage := .reading none }) s w := by
  unfold stepWorker
  by_cases hb : 1 < budget
  · simp only [holds_bind, holds_worker, holds_lift, hs, hb, if_true]
    refine Iff.of_eq (congrArg (InSession.Holds _ s w) (funext₃ fun out s' w' => ?_))
    rcases out with ⟨_ | x, c⟩
    · rfl
    · simp only [holds_bind, holds_get, holds_modify, holds_wakeWorker, holds_setWorker, holds_pure]
      rfl
  · simp [hs, hb]

/-- A worker that reads takes the next row of its cursor to hand over, or stops reading when its
cursor has no row left or fails; a failure goes into its tally. -/
theorem holds_stepWorker_reading_none (hs : (st.get i).stage = .reading none) :
    Holds (stepWorker i) st s w Q ↔
      (st.get i).cursor.next.Holds s w fun out s' w' =>
        match out with
        | (.ok (some row), c) =>
          Q true (st.put i { st.get i with cursor := c, stage := .reading (some row) }) s' w'
        | (.ok none, c) => Q true (st.stopped i { st.get i with cursor := c }) s' w'
        | (.error e, c) =>
          Q true (st.stopped i { st.get i with
              cursor := c
              report := { (st.get i).report with failures := (st.get i).report.failures ++ [e] } })
            s' w' := by
  unfold stepWorker
  simp only [holds_bind, holds_worker, holds_lift, hs]
  refine Iff.of_eq (congrArg (InSession.Holds _ s w) (funext₃ fun out s' w' => ?_))
  rcases out with ⟨_ | _ | row, c⟩ <;> simp only [holds_bind, holds_stopReading, holds_setWorker, holds_pure]

theorem holds_stepWorker_reading_some {row : Json.Value} (hs : (st.get i).stage = .reading (some row)) :
    Holds (stepWorker i) st s w Q ↔ Holds (handOver i (st.get i) row) st s w Q := by
  unfold stepWorker
  simp [hs]

theorem holds_stepWorker_joining (hs : (st.get i).stage = .joining) :
    Holds (stepWorker i) st s w Q ↔ Holds (join i (st.get i)) st s w Q := by
  unfold stepWorker
  simp [hs]

theorem holds_stepWorker_done (hs : (st.get i).stage = .done) :
    Holds (stepWorker i) st s w Q ↔ Q false st s w := by
  unfold stepWorker
  simp [hs]

end Worker

section Runs

variable {Q : Unit → State → Session → World → Prop}

theorem holds_runWorker_zero (i : Nat) : Holds (runWorker i 0) st s w Q ↔ Q ⟨⟩ st s w :=
  Iff.rfl

theorem holds_runWorker_succ (i fuel : Nat) :
    Holds (runWorker i (fuel + 1)) st s w Q ↔
      Holds (stepWorker i) st s w fun more st' s' w' =>
        if more then Holds (runWorker i fuel) st' s' w' Q else Q ⟨⟩ st' s' w' := by
  simp only [runWorker, holds_bind]
  refine Iff.of_eq (congrArg (Holds _ st s w) (funext fun more => funext₃ fun st' s' w' => ?_))
  cases more <;> rfl

theorem holds_runQueue_nil (n : Nat) (hq : st.queue = []) : Holds (runQueue n) st s w Q ↔ Q ⟨⟩ st s w := by
  cases n <;> simp [runQueue, hq]

theorem holds_runQueue_cons (n : Nat) {t : Task} {rest : List Task} (hq : st.queue = t :: rest) :
    Holds (runQueue (n + 1)) st s w Q ↔
      Holds (runTask t) { st with queue := rest } s w fun _ st' s' w' =>
        Holds (runQueue n) st' s' w' Q := by
  simp [runQueue, hq]

theorem holds_runQueue_worker (n i : Nat) {rest : List Task} (hq : st.queue = .worker i :: rest) :
    Holds (runQueue (n + 1)) st s w Q ↔
      Holds (runWorker i rowBudget) { st with queue := rest } s w fun _ st' s' w' =>
        Holds (runQueue n) st' s' w' Q := by
  rw [holds_runQueue_cons n hq, runTask]

/-- One turn of the runtime: the receiver first when it was woken, then, unless the receiver is
finished or nothing is left to run, up to `tasksPerTurn` queued tasks and the next turn. -/
theorem holds_schedule_succ (fuel : Nat) :
    Holds (schedule (fuel + 1)) st s w Q ↔
      Holds (if st.receiverWoken then pollReceiver rowBudget else pure ())
        (if st.receiverWoken then { st with receiverWoken := false } else st) s w
        fun _ st' s' w' =>
          if st'.receiving == .finished || (st'.queue.isEmpty && !st'.receiverWoken) then Q ⟨⟩ st' s' w'
          else Holds (runQueue tasksPerTurn) st' s' w' fun _ st'' s'' w'' =>
            Holds (schedule fuel) st'' s'' w'' Q := by
  cases hw : st.receiverWoken <;> simp [schedule, hw]

end Runs

/-! ### The runtime's picks -/

/-- Whether what the runtime picks was woken. -/
def Pick.Woken (st : State) : Pick → Prop
  | .receiver | .receiverFor _ => st.receiverWoken = true
  | .task t => t ∈ st.queue
  | .workerFor i _ => .worker i ∈ st.queue

section Picks

variable {R : Bool → State → Session → World → Prop}

/-- A pick of what was not woken does nothing. -/
theorem holds_pickTurn_unwoken {p : Pick} (hp : ¬ p.Woken st) :
    Holds (pickTurn p) st s w R ↔ R false st s w := by
  -- whatever was picked, its check of the receiver's flag or of the queue fails
  cases p <;> simp only [Pick.Woken, Bool.not_eq_true] at hp <;> simp [pickTurn, hp]

theorem holds_pickTurn_receiver (hw : st.receiverWoken = true) :
    Holds (pickTurn .receiver) st s w R ↔
      Holds (pollReceiver rowBudget) { st with receiverWoken := false } s w fun _ => R true := by
  simp [pickTurn, hw]

theorem holds_pickTurn_receiverFor (hw : st.receiverWoken = true) (n : Nat) :
    Holds (pickTurn (.receiverFor n)) st s w R ↔
      Holds (pollReceiver n) { st with receiverWoken := false } s w fun _ st' s' w' =>
        R true { st' with receiverWoken := true } s' w' := by
  simp [pickTurn, hw]

theorem holds_pickTurn_task {t : Task} (ht : t ∈ st.queue) :
    Holds (pickTurn (.task t)) st s w R ↔
      Holds (runTask t) { st with queue := st.queue.erase t } s w fun _ => R true := by
  simp [pickTurn, ht]

theorem holds_pickTurn_workerFor {i : Nat} (ht : .worker i ∈ st.queue) (n : Nat) :
    Holds (pickTurn (.workerFor i n)) st s w R ↔
      Holds (runWorker i n) { st with queue := st.queue.erase (.worker i) } s w
        fun _ st' s' w' => R true (st'.wake i) s' w' := by
  simp [pickTurn, ht]

end Picks

section Receiver

variable {Q : Unit → State → Session → World → Prop} {fuel : Nat}

theorem holds_pollReceiver_take (ht : st.take = none) (hr : st.receiving = .rows) {row : Json.Value}
    {rest : List Json.Value} (hc : st.channel = row :: rest) :
    Holds (pollReceiver (fuel + 1)) st s w Q ↔
      Holds (pollReceiver fuel) ({ st with channel := rest, received := row :: st.received } : State).notified
        s w Q := by
  simp [pollReceiver, ht, hr, hc]

theorem holds_pollReceiver_close (ht : st.take = none) (hr : st.receiving = .rows) (hc : st.channel = [])
    (hs : st.senders = 0) (hw : st.waiting = []) :
    Holds (pollReceiver (fuel + 1)) st s w Q ↔
      Holds (pollReceiver fuel) { st with receiverOpen := false, receiving := .report } s w Q := by
  simp only [pollReceiver, closeReceiver, holds_bind, holds_get, holds_modify, ht, hr, hc, hs,
    Option.any_none, Bool.false_eq_true, if_false, beq_self_eq_true, if_true]
  exact holds_notifyAll hw

theorem holds_pollReceiver_idle (ht : st.take = none) (hr : st.receiving = .rows) (hc : st.channel = [])
    (hs : st.senders ≠ 0) :
    Holds (pollReceiver (fuel + 1)) st s w Q ↔ Q ⟨⟩ st s w := by
  simp [pollReceiver, ht, hr, hc, hs]

theorem holds_pollReceiver_report_done (hr : st.receiving = .report) (hd : (st.get 0).stage = .done) :
    Holds (pollReceiver (fuel + 1)) st s w Q ↔
      Holds (pollReceiver fuel) { st with receiving := .cleanup } s w Q := by
  simp [pollReceiver, hr, hd]

theorem holds_pollReceiver_report_wait (hr : st.receiving = .report) (hd : (st.get 0).stage ≠ .done) :
    Holds (pollReceiver (fuel + 1)) st s w Q ↔
      Q ⟨⟩ (st.put 0 { st.get 0 with joiner := some .receiver }) s w := by
  simp only [pollReceiver, holds_bind, holds_get, hr, holds_worker]
  cases h : (st.get 0).stage <;> simp_all

theorem holds_pollReceiver_cleanup (hr : st.receiving = .cleanup) (hrel : st.releases = 0) :
    Holds (pollReceiver (fuel + 1)) st s w Q ↔ Q ⟨⟩ { st with receiving := .finished } s w := by
  simp [pollReceiver, hr, hrel]

theorem holds_pollReceiver_finished (hr : st.receiving = .finished) :
    Holds (pollReceiver fuel) st s w Q ↔ Q ⟨⟩ st s w := by
  cases fuel <;> simp [pollReceiver, hr]

end Receiver

end Specs

end FanOut

end JobQuery
