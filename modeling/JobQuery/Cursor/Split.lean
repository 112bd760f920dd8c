import JobQuery.Cursor.Sequential

/-!
# Splittable cursors

A cursor that can hand half of its remaining pages to a sibling, so several workers can read
one job without reading any page twice.

When the service reports the job's row count, the root cursor owns the page range
`[0, lastPage]` with the layout's remainder. Splitting a range `[current, end]` (which needs
`end > current`) at `split = current + 1 + (end - current) / 2` fetches page `split` by
number *first*; only when that succeeds does anything change: the sibling takes
`[split, end]`, the remainder and the fetched rows, and attaches its own lease, while this
cursor keeps `[current, split - 1]` with remainder 0. A failed split is recorded as the
session's last error and declined, with both cursors untouched.

Reading moves to page `current + 1` by number while `current < end`. Without a row count
there is nothing to divide: the cursor follows page cursors like a sequential one and never
splits.

The size estimate is `remainder + pageSize * (end - current)` (saturating at the largest
64-bit number), the largest number while the size is unknown or after an error, and 0 once
the cursor is finished.
-/

namespace JobQuery

open Json

/-- The pages a split cursor owns: `current ..= end` of the range that began at `start`, and
the rows beyond full pages on its last page (0 unless it owns the job's last page). -/
structure PageRange where
  start : Nat
  current : Nat
  stop : Nat
  remainder : Nat
  deriving Repr, BEq, Inhabited

/-- What a split cursor knows about the pages it owns. -/
inductive Coverage where
  /-- The session has not started yet (root cursors only). -/
  | pending
  /-- A numbered range. -/
  | ranged (range : PageRange)
  /-- No row count: follow page cursors, never split. -/
  | chained (nextCursor : Option String)
  deriving Repr, BEq, Inhabited

/-- A split cursor's state. -/
structure SplitCursor where
  leased : Bool := true
  jobId : Option String := none
  coverage : Coverage := .pending
  rows : List Value := []
  error : Option QueryError := none
  deriving Inhabited

/-- The largest 64-bit number, standing for "unknown" in size estimates. -/
def unknownSize : Nat := Nat.pow 2 64 - 1

namespace SplitCursor

/-- The cursor has released its lease. -/
def finished (c : SplitCursor) : Bool := !c.leased

/-- The page range, once known. -/
def range (c : SplitCursor) : Option PageRange :=
  match c.coverage with
  | .ranged r => some r
  | _ => none

/-- Rows left, roughly, for a session with pages of `pageSize` rows. -/
def estimate (c : SplitCursor) (pageSize : Nat) : Nat :=
  if c.error.isSome then unknownSize
  else if c.finished then 0
  else match c.coverage with
    | .ranged r => min unknownSize (r.remainder + min unknownSize (pageSize * (r.stop - r.current)))
    | _ => unknownSize

/-- Drop the buffered rows and release the lease, once. -/
def finish (c : SplitCursor) : InSession SplitCursor := do
  if c.leased then Session.detach
  return { c with rows := [], leased := false }

/-- Start from the session's first page: a numbered range when the row count is known,
else a chain of page cursors. -/
def start (c : SplitCursor) : InSession (Except QueryError SplitCursor) := do
  match ← Session.ready with
  | .error e => return .error e
  | .ok job =>
    let coverage := match job.layout with
      | some l => .ranged { start := 0, current := 0, stop := l.lastPage, remainder := l.remainder }
      | none => .chained job.firstPage.nextCursor
    return .ok { c with rows := job.firstPage.rows, coverage, jobId := some job.jobId }

/-- Move to the next page until one has rows (`true`) or the range is used up (`false`). -/
def advancePages (c : SplitCursor) : Nat → InSession (Except QueryError Bool × SplitCursor)
  | 0 => return (.ok false, c)
  | fuel + 1 =>
    if !c.rows.isEmpty then return (.ok true, c)
    else match c.jobId, c.coverage with
      | some id, .ranged r =>
        if r.current ≥ r.stop then return (.ok false, c)
        else do
          let c := { c with coverage := .ranged { r with current := r.current + 1 } }
          match ← Session.fetch id (.number (r.current + 1)) with
          | .error e => return (.error e, c)
          | .ok page => advancePages { c with rows := page.rows } fuel
      | some id, .chained (some cursor) => do
        let c := { c with coverage := .chained none }
        match ← Session.fetch id (.cursor cursor) with
        | .error e => return (.error e, c)
        | .ok page => advancePages { c with rows := page.rows, coverage := .chained page.nextCursor } fuel
      | _, _ => return (.ok false, c)

/-- The cursor a read carries while it waits for page `r.current + 1` of its range `r`: the range
has moved past that page before the fetch is awaited, so a read dropped there leaves the cursor
so, the page claimed and none of its rows buffered. -/
def pageClaimed (c : SplitCursor) (r : PageRange) : SplitCursor :=
  { c with coverage := .ranged { r with current := r.current + 1 } }

/-- Make a row available if there is one: starts the session on the first pull. -/
def preload (c : SplitCursor) : InSession (Except QueryError Bool × SplitCursor) := do
  if c.coverage == .pending then
    match ← c.start with
    | .error e => return (.error e, c)
    | .ok c => c.advancePages pageBudget
  else c.advancePages pageBudget

/-- The next row of the cursor's range; `none` when it is used up. -/
def next (c : SplitCursor) : InSession (Except QueryError (Option Value) × SplitCursor) := do
  if c.finished then return (.ok none, c)
  match ← c.preload with
  | (.ok true, c) =>
    match c.rows with
    | row :: rest => return (.ok (some row), { c with rows := rest })
    | [] => return (.ok none, c)
  | (.ok false, c) => return (.ok none, ← c.finish)
  | (.error e, c) =>
    Session.recordError e
    return (.error e, ← { c with error := some e }.finish)

/-- Stop early: drop the remaining rows and release the lease. -/
def close (c : SplitCursor) : InSession SplitCursor := c.finish

/-- Split off the upper half of the remaining pages: the sibling, if the split is made. -/
def trySplit (c : SplitCursor) : InSession (Option SplitCursor × SplitCursor) := do
  if c.finished then return (none, c)
  let started ← if c.coverage == .pending then c.start else pure (.ok c)
  match started with
  | .error e =>
    Session.recordError e
    return (none, c)
  | .ok c =>
    match c.coverage, c.jobId with
    | .ranged r, some id =>
      if r.stop ≤ r.current then return (none, c)
      else
        let split := r.current + 1 + (r.stop - r.current) / 2
        match ← Session.fetch id (.number split) with
        | .error e =>
          Session.recordError e
          return (none, c)
        | .ok page =>
          Session.attach
          let sibling : SplitCursor :=
            { jobId := some id, rows := page.rows,
              coverage := .ranged { start := split, current := split, stop := r.stop,
                                    remainder := r.remainder } }
          return (some sibling, { c with coverage := .ranged { r with stop := split - 1, remainder := 0 } })
    | _, _ => return (none, c)

end SplitCursor

end JobQuery
