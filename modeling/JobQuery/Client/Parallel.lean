import JobQuery.Client.Core

/-!
# Reading a job with several workers

`fanOut` reads the rows of a split cursor with up to `parallelism` workers that hand their
rows to one receiver through a channel holding at most `capacity` rows.

A worker with a budget above one tries to split its cursor; when the split is made, the
sibling starts as a new worker with half the budget (rounded down) and the worker keeps the
rest and goes on the same way. A worker that cannot split reads its cursor to the end, or to
its first error, which it records in its tally, handing every row to the channel. Then it
waits for the siblings it started, the newest first, and adds their tallies to its own.

The receiver takes rows until it has the number it wants or every worker is done; then it
goes away. A worker that finds the receiver gone stops, and its cursor, dropped unfinished,
gives its lease back in a task of its own; the receiver waits for the first worker's tally
and for those tasks.

On a runtime with one thread, workers take turns only where they must wait, so the order of
events is fixed, and `schedule` computes it:

* the runtime runs the receiver first when it was woken, then the queued tasks in the order
  they were woken (at most 61 in a row), and so on;
* a worker waits when the channel is full, in a line of waiting workers; each row the
  receiver takes tells the first worker in the line not told yet to try again;
* a worker told to try again that finds room hands over its row, and passes the word on to
  the next worker not told yet; one that finds no room goes to the back of the line;
* the receiver takes every row there is before it waits again;
* when the receiver goes away, every waiting worker is told.

Split points, page fetches and lease releases happen inside these turns in the order they
are reached. Any other order a runtime may take, with several threads or its own order of woken
tasks, is a sequence of `pickTurn`s; `FanOut.Reachable` is every state such a sequence reaches.
-/

namespace JobQuery

open Json

/-- The tally of a parallel read. -/
structure ParallelReport where
  rows : Nat := 0
  cursors : Nat := 0
  failures : List QueryError := []
  deriving Inhabited

/-- Both tallies together. -/
def ParallelReport.merge (a b : ParallelReport) : ParallelReport :=
  { rows := a.rows + b.rows, cursors := a.cursors + b.cursors, failures := a.failures ++ b.failures }

/-- How many steps a read takes in one go before giving up: far more than any job of up to
2^64 rows needs. -/
def rowBudget : Nat := Nat.pow 2 128

/-- How many queued tasks the runtime runs before it looks at the receiver again. -/
def tasksPerTurn : Nat := 61

namespace FanOut

/-- How far a worker has got. -/
inductive Stage where
  /-- Splitting its cursor while its budget is above one. -/
  | forking (budget : Nat)
  /-- Reading its cursor; the row it is handing over, if any. -/
  | reading (pending : Option Value)
  /-- Done reading; waiting for the siblings it started. -/
  | joining
  /-- Finished, with its siblings' tallies in its own. -/
  | done
  deriving Inhabited

/-- Who waits for a worker to finish. -/
inductive Joiner where
  | worker (i : Nat)
  | receiver
  deriving Inhabited, BEq

/-- A worker and its cursor. -/
structure Worker where
  cursor : SplitCursor
  stage : Stage
  /-- The siblings it started, newest first: the order it waits for them in. -/
  siblings : List Nat := []
  report : ParallelReport := { cursors := 1 }
  joiner : Option Joiner := none
  deriving Inhabited

/-- A task of the runtime. -/
inductive Task where
  | worker (i : Nat)
  /-- Give back the lease of a cursor dropped before it was finished. -/
  | release
  deriving Inhabited, BEq

/-- What the receiver is doing. -/
inductive Receiving where
  | rows
  | report
  | cleanup
  | finished
  deriving Inhabited, BEq

/-- The state of a parallel read. -/
structure State where
  workers : Array Worker
  /-- The tasks woken and not run yet, the next first. -/
  queue : List Task
  /-- The rows in the channel, oldest first. -/
  channel : List Value := []
  capacity : Nat
  /-- The workers waiting for room, in the order they started waiting, each with whether
  it was told to try again. -/
  waiting : List (Nat × Bool) := []
  receiverOpen : Bool := true
  /-- The workers still reading; the channel closes when there are none. -/
  senders : Nat := 1
  receiverWoken : Bool := true
  receiving : Receiving := .rows
  /-- How many rows the receiver wants (`none`: all). -/
  take : Option Nat
  /-- The rows received, newest first. -/
  received : List Value := []
  /-- Lease releases started and not run yet. -/
  releases : Nat := 0
  deriving Inhabited

end FanOut

/-- Operations of a parallel read on a session. -/
abbrev InFanOut := StateT FanOut.State InSession

namespace FanOut

/-- Tell the first waiting worker not told yet. -/
def tellFirst : List (Nat × Bool) → Option Nat × List (Nat × Bool)
  | [] => (none, [])
  | (i, false) :: rest => (some i, (i, true) :: rest)
  | (i, true) :: rest =>
    let (told, rest) := tellFirst rest
    (told, (i, true) :: rest)

/-- Wake a worker: queue it unless it is queued already. -/
def wakeWorker (i : Nat) : InFanOut Unit :=
  modify fun s => if s.queue.contains (.worker i) then s else { s with queue := s.queue ++ [.worker i] }

/-- Tell the first waiting worker not told yet to try again. -/
def notifyOne : InFanOut Unit := do
  let (told, waiting) := tellFirst (← get).waiting
  modify fun s => { s with waiting }
  if let some i := told then wakeWorker i

/-- Tell every waiting worker to try again. -/
def notifyAll : InFanOut Unit := do
  let untold := ((← get).waiting.filter fun (_, told) => !told).map Prod.fst
  modify fun s => { s with waiting := s.waiting.map fun (i, _) => (i, true) }
  untold.forM wakeWorker

/-- A worker leaves the line; when it was told to try again and `passOn`, the word goes to
the next worker not told yet. -/
def leaveLine (i : Nat) (passOn : Bool) : InFanOut Unit := do
  let s ← get
  let told := s.waiting.any fun (j, t) => j == i && t
  set { s with waiting := s.waiting.filter fun (j, _) => j != i }
  if told && passOn then notifyOne

/-- Worker `i`. -/
def worker (i : Nat) : InFanOut Worker := do
  return ((← get).workers[i]?).getD default

/-- Replace worker `i`. -/
def setWorker (i : Nat) (w : Worker) : InFanOut Unit :=
  modify fun s => { s with workers := s.workers.set! i w }

/-- A worker stops reading and lets its end of the channel go; the last one closes it. -/
def stopReading (i : Nat) (w : Worker) : InFanOut Unit := do
  setWorker i { w with stage := .joining }
  modify fun s => { s with senders := s.senders - 1 }
  if (← get).senders == 0 then modify fun s => { s with receiverWoken := true }

/-- Hand over a worker's row: `true` when the worker can go on. -/
def handOver (i : Nat) (w : Worker) (row : Value) : InFanOut Bool := do
  let s ← get
  if !s.receiverOpen then
    leaveLine i true
    if w.cursor.leased then
      modify fun s => { s with releases := s.releases + 1, queue := s.queue ++ [.release] }
    stopReading i { w with cursor := { w.cursor with leased := false } }
    return true
  else if s.channel.length < s.capacity then
    set { s with channel := s.channel ++ [row], receiverWoken := true }
    leaveLine i true
    setWorker i { w with stage := .reading none, report := { w.report with rows := w.report.rows + 1 } }
    return true
  else
    leaveLine i false
    modify fun s => { s with waiting := s.waiting ++ [(i, false)] }
    return false

/-- Wait for the next sibling: `true` when the worker can go on. -/
def join (i : Nat) (w : Worker) : InFanOut Bool := do
  match w.siblings with
  | [] =>
    setWorker i { w with stage := .done }
    match w.joiner with
    | some (.worker j) => wakeWorker j
    | some .receiver => modify fun s => { s with receiverWoken := true }
    | none => pure ()
    return false
  | j :: rest =>
    let sibling ← worker j
    match sibling.stage with
    | .done =>
      setWorker i { w with siblings := rest, report := w.report.merge sibling.report }
      return true
    | _ =>
      setWorker j { sibling with joiner := some (.worker i) }
      return false

/-- One step of worker `i`: `true` when it can go on, `false` when it waits or is done. -/
def stepWorker (i : Nat) : InFanOut Bool := do
  let w ← worker i
  match w.stage with
  | .forking budget =>
    if budget > 1 then
      match ← StateT.lift w.cursor.trySplit with
      | (some sibling, c) =>
        let j := (← get).workers.size
        modify fun s => { s with workers := s.workers.push { cursor := sibling, stage := .forking (budget / 2) },
                                 senders := s.senders + 1 }
        wakeWorker j
        setWorker i { w with cursor := c, siblings := j :: w.siblings, stage := .forking (budget - budget / 2) }
      | (none, c) => setWorker i { w with cursor := c, stage := .reading none }
    else setWorker i { w with stage := .reading none }
    return true
  | .reading none =>
    match ← StateT.lift w.cursor.next with
    | (.ok (some row), c) => setWorker i { w with cursor := c, stage := .reading (some row) }
    | (.ok none, c) => stopReading i { w with cursor := c }
    | (.error e, c) =>
      stopReading i { w with cursor := c, report := { w.report with failures := w.report.failures ++ [e] } }
    return true
  | .reading (some row) => handOver i w row
  | .joining => join i w
  | .done => return false

/-- Run worker `i` until it waits or is done. -/
def runWorker (i : Nat) : Nat → InFanOut Unit
  | 0 => pure ()
  | fuel + 1 => do if ← stepWorker i then runWorker i fuel

/-- Give back one dropped cursor's lease. -/
def runRelease : InFanOut Unit := do
  StateT.lift Session.detach
  modify fun s => { s with releases := s.releases - 1 }
  let s ← get
  if s.releases == 0 && s.receiving == .cleanup then set { s with receiverWoken := true }

/-- The receiver goes away: every waiting worker is told. -/
def closeReceiver : InFanOut Unit := do
  modify fun s => { s with receiverOpen := false, receiving := .report }
  notifyAll

/-- Run the receiver until it waits or is finished. -/
def pollReceiver : Nat → InFanOut Unit
  | 0 => pure ()
  | fuel + 1 => do
    let s ← get
    match s.receiving with
    | .rows =>
      if s.take.any (· ≤ s.received.length) then
        closeReceiver
        pollReceiver fuel
      else
        match s.channel with
        | row :: rest =>
          set { s with channel := rest, received := row :: s.received }
          notifyOne
          pollReceiver fuel
        | [] =>
          if s.senders == 0 then
            closeReceiver
            pollReceiver fuel
    | .report =>
      let root ← worker 0
      match root.stage with
      | .done =>
        set { s with receiving := .cleanup }
        pollReceiver fuel
      | _ => setWorker 0 { root with joiner := some .receiver }
    | .cleanup => if s.releases == 0 then set { s with receiving := .finished }
    | .finished => pure ()

/-- Run a task until it waits or is done. -/
def runTask : Task → InFanOut Unit
  | .worker i => runWorker i rowBudget
  | .release => runRelease

/-- Run up to `n` queued tasks, stopping early when the queue is empty. -/
def runQueue : Nat → InFanOut Unit
  | 0 => pure ()
  | n + 1 => do
    match (← get).queue with
    | [] => pure ()
    | t :: rest =>
      modify fun s => { s with queue := rest }
      runTask t
      runQueue n

/-- Take turns until the receiver is finished (or nothing can move). -/
def schedule : Nat → InFanOut Unit
  | 0 => pure ()
  | fuel + 1 => do
    if (← get).receiverWoken then
      modify fun s => { s with receiverWoken := false }
      pollReceiver rowBudget
    let s ← get
    if s.receiving == .finished || (s.queue.isEmpty && !s.receiverWoken) then return
    runQueue tasksPerTurn
    schedule fuel

/-! ### Any order of the tasks

`schedule` is the order of a runtime on one thread. A runtime on several threads, or one that
orders its woken tasks otherwise, may run any woken task next, and the threads interleave the
tasks' steps: a task may be put aside at any await while the others run. `pickTurn` is one such
turn, and `Reachable` every state some order of them reaches. -/

/-- What the runtime runs next. -/
inductive Pick where
  /-- The receiver, when it was woken, until it waits or is finished. -/
  | receiver
  /-- The receiver, when it was woken, for up to `n` steps; it is woken again after. -/
  | receiverFor (n : Nat)
  /-- A queued task, until it waits or is done. -/
  | task (t : Task)
  /-- Queued worker `i`, for up to `n` steps; it is queued again after. -/
  | workerFor (i n : Nat)

/-- The turn of what the runtime picks: `false`, with nothing done, when it is not woken. -/
def pickTurn : Pick → InFanOut Bool
  | .receiver => do
    if !(← get).receiverWoken then return false
    modify fun s => { s with receiverWoken := false }
    pollReceiver rowBudget
    return true
  | .receiverFor n => do
    if !(← get).receiverWoken then return false
    modify fun s => { s with receiverWoken := false }
    pollReceiver n
    modify fun s => { s with receiverWoken := true }
    return true
  | .task t => do
    let s ← get
    if !s.queue.contains t then return false
    set { s with queue := s.queue.erase t }
    runTask t
    return true
  | .workerFor i n => do
    let s ← get
    if !s.queue.contains (.worker i) then return false
    set { s with queue := s.queue.erase (.worker i) }
    runWorker i n
    wakeWorker i
    return true

/-- Where `x` ends, run from a state of the read, a session and a world. -/
def after {α : Type} (x : InFanOut α) (c : State × Session × World) : State × Session × World :=
  let r := ((x.run c.1).run c.2.1).run c.2.2
  (r.1.1.2, r.1.2, r.2)

/-- The states of the read, with the session and the world, that some order of turns reaches
from `c₀`. -/
inductive Reachable (c₀ : State × Session × World) : State × Session × World → Prop
  | start : Reachable c₀ c₀
  | turn {c : State × Session × World} (p : Pick) : Reachable c₀ c →
      Reachable c₀ (after (pickTurn p) c)

end FanOut

/-- Read a split cursor with up to `parallelism` workers through a channel of `capacity`
rows (both at least one) until `take` rows arrived (all rows when `none`): the rows
received, in arrival order, and the first worker's tally. -/
def fanOut (c : SplitCursor) (parallelism capacity : Nat) (take : Option Nat) :
    InSession (List Value × ParallelReport) := do
  let start : FanOut.State :=
    { workers := #[{ cursor := c, stage := .forking (max parallelism 1) }], queue := [.worker 0]
      capacity := max capacity 1, take }
  let ((), s) ← (FanOut.schedule rowBudget).run start
  return (s.received.reverse, ((s.workers[0]?).map (·.report)).getD {})

/-- Read every row of a split cursor with up to `parallelism` workers through a channel of
`capacity` rows. -/
def collectParallel (c : SplitCursor) (parallelism capacity : Nat) :
    InSession (List Value × ParallelReport) :=
  fanOut c parallelism capacity none

end JobQuery
