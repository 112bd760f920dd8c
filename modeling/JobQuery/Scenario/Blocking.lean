import JobQuery.Scenario.Calls

/-!
# Scenarios of the synchronous client

The synchronous client offers what the client offers, for code that waits for every answer:
the typed calls of the query API, sessions, row iterators and split cursors. Its scenario
starts with no session; sessions are numbered in the order `openSession` made them, split
cursors (made by `splitCursor` or by a successful split) in the order they were made.

A row iterator reads up to a number of rows, its error is read, and it is dropped; a split
cursor stays until it is dropped or handed to a thread. Dropping a reader that is not finished closes it at once,
so its lease is given back before the step ends. Dropping the client drops every split
cursor still open, so the requests it sends then are those of closing them.

Draining several cursors on threads drains them one after the other here; the requests of
that step are reported sorted, since on threads they interleave.
-/

namespace JobQuery

open Json

/-- One step of a scenario of the synchronous client. -/
inductive BlockingStep where
  /-- A typed call of the query API. -/
  | call (c : ServiceCall)
  /-- A step shared with session scenarios (`init`, `size`, `jobId`, `lastError`, `close`,
  `sql`, `cursor s true`, `advance`, `split`, `estimate`, `drop`, `calls`). -/
  | shared (st : SessionStep)
  /-- Open a session: its number. -/
  | openSession (sql : String) (config : SessionConfig)
  /-- Read up to `take` rows of session `s` with a row iterator. -/
  | rowsOf (session : Nat) (take : Option Nat)
  /-- Open a session for `sql` that only a row iterator uses, and read up to `take` rows. -/
  | rowsFor (sql : String) (config : SessionConfig) (take : Option Nat)
  /-- The error that ended a split cursor. -/
  | cursorError (cursor : Nat)
  /-- Read a split cursor to its end. -/
  | drain (cursor : Nat)
  /-- Read every split cursor still open to its end, each on its own thread. -/
  | threads
  /-- Whether the client was shut down. -/
  | isShutDown
  deriving Inhabited

namespace Blocking

/-- Attach a row iterator to the current session, read up to `take` rows, read its error
and drop it. -/
def readRows (take : Nat) : InSession Value := do
  Session.attach
  let (rows, _, c) ← Scenario.drainSequential {} [] take
  let c ← if c.finished then pure c else c.close
  return okValue (Value.object [("count", Value.nat rows.length), ("rows", .arr rows.reverse),
    ("error", orNull QueryError.toValue c.error)])

/-- Run an operation on split cursor `k`, with its session and the session's page size. -/
def onSplitCursor (k : Nat) (act : Nat → SplitCursor → InSession (Value × SplitCursor)) :
    InClient Value := do
  match ← Client.cursor? k with
  | none => return badInput ("no cursor " ++ toString k)
  | some (.gone _) => return badInput "cursor gone"
  | some (.sequential ..) => return badInput "needs a split cursor"
  | some (.split s c) => Scenario.onSplit k s c (act (← Scenario.pageSizeOf s))

/-- Read a split cursor to its end: the rows, the error that ended it, the cursor. -/
def drainToEnd (c : SplitCursor) : InSession (List Value × SplitCursor) := do
  let (rows, _, c) ← Scenario.drainSplit c [] rowBudget
  return (rows.reverse, c)

/-- The numbers of the split cursors that are not dropped. -/
def openCursors : InClient (List Nat) := do
  let c ← get
  return (List.range c.cursors.size).filter fun k => match c.cursors[k]? with
    | some (.split ..) => true
    | _ => false

/-- Hand the split cursors numbered `ks` to threads that drain them, one after the other:
how many rows each read. A cursor handed to a thread is gone afterwards. -/
def drainEach : List Nat → InClient (List Value)
  | [] => return []
  | k :: rest => do
    let count ← onSplitCursor k fun _ c => do
      let (rows, c) ← drainToEnd c
      return (Value.nat rows.length, c)
    if let some e ← Client.cursor? k then Client.setCursor k (.gone e.session)
    return Value.object [("c", Value.nat k), ("drained", count)] :: (← drainEach rest)

/-- Run one step. -/
def step : BlockingStep → InClient Value
  | .call c => do StateT.lift (c.perform (← get).service)
  | .shared st => Scenario.step st
  | .openSession sql config => do
    let svc := (← get).service
    return renderResult Value.nat (← Client.openSession sql config svc false)
  | .rowsOf s take => do
    match ← Client.onSession s (readRows (take.getD rowBudget)) with
    | none => return badInput ("no session " ++ toString s)
    | some v => return v
  | .rowsFor sql config take => do
    match Session.make sql config (← get).service with
    | .error e => return e.toValue
    | .ok s => return (← StateT.lift ((readRows (take.getD rowBudget)).run s)).1
  | .cursorError k => onSplitCursor k fun _ c =>
    return (okValue (orNull QueryError.toValue c.error), c)
  | .drain k => onSplitCursor k fun ps c => do
    let (rows, c) ← drainToEnd c
    return (okValue (Value.object [("count", Value.nat rows.length), ("rows", .arr rows),
      ("error", orNull QueryError.toValue c.error), ("estimate", Value.nat (c.estimate ps))]), c)
  | .threads => do return okValue (.arr (← drainEach (← openCursors)))
  | .isShutDown => do return okValue (.bool (← get).shutDown)

/-- Run one step, after queuing its canned answer: its outcome and the requests it sent,
as one-line summaries (sorted for `threads`). -/
def report (respond : Option Canned) (st : BlockingStep) : InClient Value := do
  if let some c := respond then StateT.lift (World.enqueue c)
  let mark ← StateT.lift World.sentCount
  let result ← step st
  let lines := (← StateT.lift (World.sentSince mark)).map ApiRequest.line
  let lines := match st with
    | .threads => lines.mergeSort fun a b => decide (a ≤ b)
    | _ => lines
  return Value.object [("result", result), ("requests", .arr (lines.map Value.str))]

/-- Run every step in order. -/
def reportAll : List (Option Canned × BlockingStep) → InClient (List Value)
  | [] => return []
  | (respond, st) :: rest => do
    let v ← report respond st
    return v :: (← reportAll rest)

/-- Drop every split cursor still open: the requests that sends. -/
def dropAll : InClient (List String) := do
  let mark ← StateT.lift World.sentCount
  (← openCursors).forM Client.dropCursor
  return (← StateT.lift (World.sentSince mark)).map ApiRequest.line

end Blocking

/-- Run a scenario of the synchronous client against a world, then drop the client: the
steps' reports, the requests sent while dropping it, and the service's counters and
live jobs afterwards (`null` without the in-memory service). -/
def blockingReport (world : World) (steps : List (Option Canned × BlockingStep)) : Value :=
  let run : InClient (List Value × List String) := do
    let reports ← Blocking.reportAll steps
    return (reports, ← Blocking.dropAll)
  let (((reports, afterDrop), _), world) := (run.run {}).run world
  world.reportOr <| Value.object [("steps", .arr reports), ("after_drop", .arr (afterDrop.map Value.str)),
    ("calls", orNull (fun (f : FakeService) => f.calls.toValue) world.fake?),
    ("live_jobs", orNull (fun (f : FakeService) => Value.nat f.jobs.length) world.fake?),
    ("script_left", world.scriptLeftValue)]

end JobQuery
