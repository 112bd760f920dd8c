import JobQuery.Client.Parallel

/-!
# Session scenarios

A scenario drives a client through a list of steps (open sessions, make cursors, read,
split, close, shut down, ...) and reports what every step did: its result, the requests it
sent, the live consumer count of the first session afterwards, and the virtual time it took.

Steps name sessions and cursors by number. A step naming a cursor or session that does not
exist, or a cursor of the wrong kind, answers a `BadInput` object and changes nothing.

Steps that run several things at once in a real client (`concurrentInit`, `concurrentDrain`,
`parallel`) run them one after the other here; their requests are reported sorted and their
time is not reported, since neither has a meaningful order.
-/

namespace JobQuery

open Json

/-- One step of a session scenario. -/
inductive SessionStep where
  /-- Open another session on the client, or a standalone one. -/
  | openSession (sql : String) (config : SessionConfig) (standalone : Bool)
  /-- A new cursor on a session. -/
  | cursor (session : Nat) (splittable : Bool)
  | next (cursor : Nat)
  | hasNext (cursor : Nat)
  | advance (cursor : Nat)
  | split (cursor : Nat)
  /-- Split a cursor and its siblings until none splits. -/
  | splitAll (cursor : Nat)
  | estimate (cursor : Nat)
  | range (cursor : Nat)
  | state (cursor : Nat)
  /-- Read up to `max` rows (all when absent). -/
  | drain (cursor : Nat) (max : Option Nat)
  /-- Read a sequential cursor to its end as a stream, consuming it. -/
  | stream (cursor : Nat)
  | closeCursor (cursor : Nat)
  | drop (cursor : Nat)
  | cursorSql (cursor : Nat)
  | init (session : Nat)
  | size (session : Nat)
  | jobId (session : Nat)
  | live (session : Nat)
  | lastError (session : Nat)
  | close (session : Nat)
  | cancel (session : Nat)
  | sql (session : Nat)
  /-- Shut the client down (`close` also waits for pending cleanups). -/
  | shutdown
  | clientClose
  | concurrentInit (session : Nat) (count : Nat)
  /-- Drain several cursors (all not dropped when absent). -/
  | concurrentDrain (cursors : Option (List Nat))
  | parallel (cursor : Nat) (parallelism capacity : Nat)
  | fanOutTake (cursor : Nat) (take parallelism capacity : Nat)
  | liveJobs
  | calls
  /-- A step that could not be read; it answers `BadInput` with the reason. -/
  | refused (reason : String)
  deriving Inhabited

/-- Whether a step's requests and time have a meaningful order. -/
def SessionStep.concurrent : SessionStep → Bool
  | .concurrentInit .. | .concurrentDrain _ | .parallel .. => true
  | _ => false

/-- What one step reports. -/
structure StepReport where
  result : Value
  requests : List String
  live : Nat
  elapsed : Option Nat

/-- The `BadInput` answer. -/
def badInput (message : String) : Value :=
  Value.object [("error", .str "BadInput"), ("message", .str message)]

namespace Scenario

/-- The `{"count", "rows", "stop"}` report of a drain. -/
def drainValue (rows : List Value) (stop : Value) : Value :=
  Value.object [("count", Value.nat rows.length), ("rows", .arr rows), ("stop", stop)]

/-- The stop reason of a drain. -/
def stopValue : Option (Option QueryError) → Value
  | none => .null
  | some none => .str "end"
  | some (some e) => e.toValue

/-- Read a sequential cursor up to `max` rows: rows newest first, then the stop reason
(`none` when `max` was reached). -/
def drainSequential (c : SequentialCursor) (acc : List Value) :
    Nat → InSession (List Value × Option (Option QueryError) × SequentialCursor)
  | 0 => return (acc, none, c)
  | n + 1 => do
    match ← c.next with
    | (.ok (some row), c) => drainSequential c (row :: acc) n
    | (.ok none, c) => return (acc, some none, c)
    | (.error e, c) => return (acc, some (some e), c)

/-- Read a split cursor up to `max` rows, as `drainSequential`. -/
def drainSplit (c : SplitCursor) (acc : List Value) :
    Nat → InSession (List Value × Option (Option QueryError) × SplitCursor)
  | 0 => return (acc, none, c)
  | n + 1 => do
    match ← c.next with
    | (.ok (some row), c) => drainSplit c (row :: acc) n
    | (.ok none, c) => return (acc, some none, c)
    | (.error e, c) => return (acc, some (some e), c)

/-- Read a sequential cursor as a stream: every row, then the error once. -/
def streamSequential (c : SequentialCursor) (acc : List Value) :
    Nat → InSession (List Value × SequentialCursor)
  | 0 => return (acc, c)
  | n + 1 => do
    match ← c.next with
    | (.ok (some row), c) => streamSequential c (Value.object [("row", row)] :: acc) n
    | (.ok none, c) => return (acc, c)
    | (.error e, c) => streamSequential c (e.toValue :: acc) n

/-- Run a step on a sequential cursor of session `s`, storing the cursor back. -/
def onSequential (k s : Nat) (c : SequentialCursor)
    (act : SequentialCursor → InSession (Value × SequentialCursor)) : InClient Value := do
  match ← Client.onSession s (act c) with
  | none => return badInput ("no session " ++ toString s)
  | some (v, c) =>
    Client.setCursor k (.sequential s c)
    return v

/-- Run a step on a split cursor of session `s`, storing the cursor back. -/
def onSplit (k s : Nat) (c : SplitCursor)
    (act : SplitCursor → InSession (Value × SplitCursor)) : InClient Value := do
  match ← Client.onSession s (act c) with
  | none => return badInput ("no session " ++ toString s)
  | some (v, c) =>
    Client.setCursor k (.split s c)
    return v

/-- The page size of session `s`. -/
def pageSizeOf (s : Nat) : InClient Nat := do
  return (((← get).sessions[s]?).map (·.config.pageSize)).getD 0

/-- A split cursor's state. -/
def splitState (c : SplitCursor) (pageSize : Nat) : Value :=
  Value.object [("finished", .bool c.finished), ("error", orNull QueryError.toValue c.error),
    ("range", orNull PageRange.toValue c.range), ("estimate", Value.nat (c.estimate pageSize))]

/-- Split cursor `k`, then its pieces, depth first, until nothing splits: the cursors
made, in order. `fuel` bounds the number of splits tried. -/
def splitAll (work : List Nat) (made : List Nat) : Nat → InClient (List Nat)
  | 0 => return made.reverse
  | fuel + 1 => do
    match work with
    | [] => return made.reverse
    | k :: rest =>
      match ← Client.cursor? k with
      | some (.split s c) =>
        match ← Client.onSession s c.trySplit with
        | some (some sibling, c) =>
          Client.setCursor k (.split s c)
          let n ← Client.addCursor (.split s sibling)
          splitAll (n :: k :: rest) (n :: made) fuel
        | some (none, c) =>
          Client.setCursor k (.split s c)
          splitAll rest made fuel
        | none => splitAll rest made fuel
      | _ => splitAll rest made fuel

/-- The ranges of every split cursor. -/
def splitRanges : InClient Value := do
  let c ← get
  let entries := (List.range c.cursors.size).zip c.cursors.toList
  return .arr (entries.filterMap fun (k, e) => match e with
    | .split _ sc => some (Value.object [("c", Value.nat k), ("range", orNull PageRange.toValue sc.range)])
    | _ => none)

/-- Drain cursor `k` completely. -/
def drainOne (k : Nat) : InClient Value := do
  match ← Client.cursor? k with
  | none => return badInput ("no cursor " ++ toString k)
  | some (.gone _) => return badInput "cursor gone"
  | some (.sequential s c) => onSequential k s c fun c => do
    let (rows, stop, c) ← drainSequential c [] rowBudget
    return (drainValue rows.reverse (stopValue stop), c)
  | some (.split s c) => onSplit k s c fun c => do
    let (rows, stop, c) ← drainSplit c [] rowBudget
    return (drainValue rows.reverse (stopValue stop), c)

/-- Drain several cursors, one after the other. -/
def drainEach : List Nat → InClient (Except Value (List Value))
  | [] => return .ok []
  | k :: rest => do
    match ← Client.cursor? k with
    | none => return .error (badInput ("no cursor " ++ toString k))
    | some (.gone _) => return .error (badInput "cursor gone")
    | some _ =>
      let v ← drainOne k
      match ← drainEach rest with
      | .ok vs => return .ok (v :: vs)
      | .error e => return .error e

/-- Order rows by their `"row"` number, then by their text. -/
def rowBefore (a b : Value) : Bool :=
  match (a.get? "row").bind Value.asNat?, (b.get? "row").bind Value.asNat? with
  | some x, some y => x < y || (x == y && decide (a.compact ≤ b.compact))
  | some _, none => true
  | none, some _ => false
  | none, none => decide (a.compact ≤ b.compact)

/-- Errors in the order of their text. -/
def sortErrors (es : List QueryError) : List Value :=
  ((es.map QueryError.toValue).mergeSort fun a b => decide (a.compact ≤ b.compact))

/-- Run one step. -/
def step : SessionStep → InClient Value
  | .openSession sql config standalone => do
    let svc := (← get).service
    return renderResult Value.nat (← Client.openSession sql config svc standalone)
  | .cursor s splittable => do
    match ← Client.newCursor s splittable with
    | none => return badInput ("no session " ++ toString s)
    | some k => return okValue (Value.nat k)
  | .next k => do
    match ← Client.cursor? k with
    | none => return badInput ("no cursor " ++ toString k)
    | some (.gone _) => return badInput "cursor gone"
    | some (.sequential s c) => onSequential k s c fun c => do
      let (r, c) ← c.next
      return (rowValue r, c)
    | some (.split s c) => onSplit k s c fun c => do
      let (r, c) ← c.next
      return (rowValue r, c)
  | .hasNext k => do
    match ← Client.cursor? k with
    | none => return badInput ("no cursor " ++ toString k)
    | some (.gone _) => return badInput "cursor gone"
    | some (.sequential s c) => onSequential k s c fun c => do
      let (b, c) ← c.hasNext
      return (okValue (.bool b), c)
    | some (.split ..) => return badInput "has_next needs a sequential cursor"
  | .advance k => splitStep k "advance" fun _ c => do
    match ← c.next with
    | (.ok (some row), c) => return (Value.object [("ok", .bool true), ("row", row)], c)
    | (_, c) => return (Value.object [("ok", .bool false), ("row", .null)], c)
  | .split k => do
    match ← Client.cursor? k with
    | none => return badInput ("no cursor " ++ toString k)
    | some (.gone _) => return badInput "cursor gone"
    | some (.sequential ..) => return badInput "split needs a split cursor"
    | some (.split s c) =>
      match ← Client.onSession s c.trySplit with
      | none => return badInput ("no session " ++ toString s)
      | some (sibling, c) =>
        Client.setCursor k (.split s c)
        match sibling with
        | none => return okValue .null
        | some sib => return okValue (Value.nat (← Client.addCursor (.split s sib)))
  | .splitAll k => do
    match ← Client.cursor? k with
    | none => return badInput ("no cursor " ++ toString k)
    | some (.gone _) => return badInput "cursor gone"
    | some (.sequential ..) => return badInput "split_all needs a split cursor"
    | some (.split ..) =>
      let made ← splitAll [k] [] rowBudget
      return okValue (Value.object [("created", .arr (made.map Value.nat)),
        ("ranges", ← splitRanges)])
  | .estimate k => splitStep k "estimate" fun ps c => return (okValue (Value.nat (c.estimate ps)), c)
  | .range k => splitStep k "range" fun _ c => return (okValue (orNull PageRange.toValue c.range), c)
  | .state k => do
    match ← Client.cursor? k with
    | none => return badInput ("no cursor " ++ toString k)
    | some (.gone _) => return okValue (.str "gone")
    | some (.sequential _ c) =>
      return okValue (Value.object [("finished", .bool c.finished),
        ("error", orNull QueryError.toValue c.error)])
    | some (.split s c) => return okValue (splitState c (← pageSizeOf s))
  | .drain k max => do
    match ← Client.cursor? k with
    | none => return badInput ("no cursor " ++ toString k)
    | some (.gone _) => return badInput "cursor gone"
    | some (.sequential s c) => onSequential k s c fun c => do
      let (rows, stop, c) ← drainSequential c [] (max.getD rowBudget)
      return (okValue (drainValue rows.reverse (stopValue stop)), c)
    | some (.split s c) => onSplit k s c fun c => do
      let (rows, stop, c) ← drainSplit c [] (max.getD rowBudget)
      return (okValue (drainValue rows.reverse (stopValue stop)), c)
  | .stream k => do
    match ← Client.cursor? k with
    | none => return badInput ("no cursor " ++ toString k)
    | some (.gone _) => return badInput "cursor gone"
    | some (.split ..) => return badInput "stream needs a sequential cursor"
    | some (.sequential s c) =>
      match ← Client.onSession s (streamSequential c [] rowBudget) with
      | none => return badInput ("no session " ++ toString s)
      | some (items, c) =>
        Client.setCursor k (.sequential s c)
        Client.dropCursor k
        return okValue (.arr items.reverse)
  | .closeCursor k => do
    match ← Client.cursor? k with
    | none => return badInput ("no cursor " ++ toString k)
    | some (.gone _) => return badInput "cursor gone"
    | some (.sequential s c) => onSequential k s c fun c => do
      return (okValue .null, ← c.close)
    | some (.split s c) => onSplit k s c fun c => do
      return (okValue .null, ← c.close)
  | .drop k => do
    match ← Client.cursor? k with
    | none => return badInput ("no cursor " ++ toString k)
    | some (.gone _) => return badInput "cursor gone"
    | some _ =>
      Client.dropCursor k
      return okValue .null
  | .cursorSql k => do
    match ← Client.cursor? k with
    | none => return badInput ("no cursor " ++ toString k)
    | some e =>
      match (← get).sessions[e.session]? with
      | none => return badInput ("no session " ++ toString e.session)
      | some s => return okValue (.str s.sql)
  | .init s => sessionStep s fun _ => do
    return renderResult (fun _ => .null) (← Session.ready)
  | .size s => sessionStep s fun _ => do
    return renderResult (orNull Value.nat) (← Session.size)
  | .jobId s => sessionStep s fun _ => do
    return renderResult .str (← Session.jobId)
  | .live s => sessionStep s fun sess => return okValue (Value.nat sess.consumers)
  | .lastError s => sessionStep s fun sess => return okValue (orNull QueryError.toValue sess.lastError)
  | .close s => sessionStep s fun _ => do
    Session.close
    return okValue .null
  | .cancel s => sessionStep s fun _ => do
    Session.cancel
    return okValue .null
  | .sql s => sessionStep s fun sess =>
    return okValue (Value.object [("sql", .str sess.sql), ("page_size", Value.nat sess.config.pageSize)])
  | .shutdown => do
    Client.shutdown
    return okValue (.bool true)
  | .clientClose => do
    Client.shutdown
    return okValue (.bool true)
  | .concurrentInit s n => sessionStep s fun _ => do
    let results ← (List.range n).mapM fun _ => Session.ready
    return okValue (.arr (results.map (renderResult fun _ => .null)))
  | .concurrentDrain cs => do
    let c ← get
    let ks := cs.getD ((List.range c.cursors.size).filter fun k => match c.cursors[k]? with
      | some (.gone _) => false
      | _ => true)
    match ← drainEach ks with
    | .ok vs => return okValue (.arr vs)
    | .error e => return e
  | .parallel k parallelism capacity => do
    match ← Client.cursor? k with
    | none => return badInput ("no cursor " ++ toString k)
    | some (.gone _) => return badInput "cursor gone"
    | some (.sequential ..) => return badInput "parallel needs a split cursor"
    | some (.split s c) =>
      Client.setCursor k (.gone s)
      match ← Client.onSession s (collectParallel c parallelism capacity) with
      | none => return badInput ("no session " ++ toString s)
      | some (rows, report) =>
        return okValue (Value.object [("row_count", Value.nat rows.length),
          ("rows", .arr (rows.mergeSort rowBefore)), ("report_rows", Value.nat report.rows),
          ("cursors", Value.nat report.cursors), ("failures", .arr (sortErrors report.failures))])
  | .fanOutTake k take parallelism capacity => do
    match ← Client.cursor? k with
    | none => return badInput ("no cursor " ++ toString k)
    | some (.gone _) => return badInput "cursor gone"
    | some (.sequential ..) => return badInput "fan_out_take needs a split cursor"
    | some (.split s c) =>
      Client.setCursor k (.gone s)
      match ← Client.onSession s (fanOut c parallelism capacity (some take)) with
      | none => return badInput ("no session " ++ toString s)
      | some (rows, report) =>
        return okValue (Value.object [("received", Value.nat rows.length),
          ("cursors", Value.nat report.cursors), ("failures", .arr (sortErrors report.failures))])
  | .liveJobs => do
    match (← getThe World).fake? with
    | some f => return okValue (Value.nat f.jobs.length)
    | none => return badInput "live_jobs needs the fake service"
  | .calls => do
    match (← getThe World).fake? with
    | some f => return okValue f.calls.toValue
    | none => return badInput "calls needs the fake service"
  | .refused reason => return badInput reason
where
  rowValue : Except QueryError (Option Value) → Value
    | .ok (some row) => Value.object [("row", row)]
    | .ok none => Value.object [("end", .bool true)]
    | .error e => e.toValue
  splitStep (k : Nat) (name : String) (act : Nat → SplitCursor → InSession (Value × SplitCursor)) :
      InClient Value := do
    match ← Client.cursor? k with
    | none => return badInput ("no cursor " ++ toString k)
    | some (.gone _) => return badInput "cursor gone"
    | some (.sequential ..) => return badInput (name ++ " needs a split cursor")
    | some (.split s c) => onSplit k s c (act (← pageSizeOf s))
  sessionStep (s : Nat) (act : Session → InSession Value) : InClient Value := do
    match (← get).sessions[s]? with
    | none => return badInput ("no session " ++ toString s)
    | some sess =>
      match ← Client.onSession s (act sess) with
      | none => return badInput ("no session " ++ toString s)
      | some v => return v

/-- Run one step and report it. -/
def report (st : SessionStep) : InClient StepReport := do
  let mark ← StateT.lift World.sentCount
  let start ← StateT.lift World.now
  let result ← step st
  let sent ← StateT.lift (World.sentSince mark)
  let finish ← StateT.lift World.now
  let live := (((← get).sessions[0]?).map (·.consumers)).getD 0
  let lines := sent.map ApiRequest.line
  if st.concurrent then
    return { result, requests := lines.mergeSort (fun a b => decide (a ≤ b)), live, elapsed := none }
  else
    return { result, requests := lines, live, elapsed := some (finish - start) }

/-- Run every step in order. -/
def reportAll : List SessionStep → InClient (List StepReport)
  | [] => return []
  | st :: rest => do
    let r ← report st
    return r :: (← reportAll rest)

end Scenario

/-- Run a session scenario against a world: open the first session for `sql` with
`config`, then run the steps. The first session's refusal, or the reports and the world
afterwards. -/
def runSessionScenario (world : World) (sql : String) (config : SessionConfig)
    (steps : List SessionStep) : Except QueryError (List StepReport) × World :=
  let client : Client := {}
  let ((opened, client), world) := ((Client.openSession sql config {} false).run client).run world
  match opened with
  | .error e => (.error e, world)
  | .ok _ =>
    let ((reports, _), world) := ((Scenario.reportAll steps).run client).run world
    (.ok reports, world)

end JobQuery
