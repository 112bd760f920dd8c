import JobQuery.Session.Core

/-!
# Sequential cursors

A forward-only reader of every row of a session's job. The first pull starts the session
and serves the cached first page; after that the cursor follows the service's page
cursors, skipping empty pages, until there is no next page.

At the end, or at the first error, the cursor releases its lease (once) and stays finished:
every later pull answers "no more rows". An error is recorded as the session's last error and
kept as the cursor's own.
-/

namespace JobQuery

open Json

/-- A sequential cursor's state. -/
structure SequentialCursor where
  /-- Whether the cursor still holds its lease; a cursor without one is finished. -/
  leased : Bool := true
  /-- The job, once the session has started. -/
  jobId : Option String := none
  /-- Rows fetched and not yet handed out. -/
  rows : List Value := []
  /-- The cursor of the next page, if any. -/
  nextCursor : Option String := none
  /-- The error that ended the cursor. -/
  error : Option QueryError := none
  deriving Inhabited

/-- How many pages a cursor fetches in one pull while they come back empty, before it answers as
at the end of its range. A service could link empty pages by cursors forever, and nothing then
decreases from one fetch to the next: the bound makes a pull total. The in-memory service returns
every page of a range full but the last, so a pull there fetches two pages at most, and no result
over it depends on the bound. -/
def pageBudget : Nat := 1000000

namespace SequentialCursor

/-- The cursor has released its lease. -/
def finished (c : SequentialCursor) : Bool := !c.leased

/-- Drop the buffered rows and release the lease, once. -/
def finish (c : SequentialCursor) : InSession SequentialCursor := do
  if c.leased then Session.detach
  return { c with rows := [], leased := false }

/-- Record an error and finish. -/
def fail (c : SequentialCursor) (e : QueryError) : InSession SequentialCursor := do
  Session.recordError e
  finish { c with error := some e }

/-- Follow page cursors until a page has rows (`true`) or there is no next page (`false`). -/
def follow (c : SequentialCursor) : Nat → InSession (Except QueryError Bool × SequentialCursor)
  | 0 => return (.ok false, c)
  | fuel + 1 =>
    if !c.rows.isEmpty then return (.ok true, c)
    else match c.jobId, c.nextCursor with
      | some id, some cursor => do
        let c := { c with nextCursor := none }
        match ← Session.fetch id (.cursor cursor) with
        | .error e => return (.error e, c)
        | .ok page => follow { c with rows := page.rows, nextCursor := page.nextCursor } fuel
      | _, _ => return (.ok false, { c with nextCursor := none })

/-- Make a row available if there is one: starts the session on the first pull. -/
def preload (c : SequentialCursor) : InSession (Except QueryError Bool × SequentialCursor) := do
  match c.jobId with
  | some _ => c.follow pageBudget
  | none =>
    match ← Session.ready with
    | .error e => return (.error e, c)
    | .ok job =>
      let c := { c with rows := job.firstPage.rows, nextCursor := job.firstPage.nextCursor,
                        jobId := some job.jobId }
      c.follow pageBudget

/-- The next row; `none` at the end and ever after. -/
def next (c : SequentialCursor) :
    InSession (Except QueryError (Option Value) × SequentialCursor) := do
  if c.finished then return (.ok none, c)
  match ← c.preload with
  | (.ok true, c) =>
    match c.rows with
    | row :: rest => return (.ok (some row), { c with rows := rest })
    | [] => return (.ok none, c)
  | (.ok false, c) => return (.ok none, ← c.finish)
  | (.error e, c) => return (.error e, ← c.fail e)

/-- Whether another row is available; an error reads as `false` (and ends the cursor). -/
def hasNext (c : SequentialCursor) : InSession (Bool × SequentialCursor) := do
  if c.finished then return (false, c)
  match ← c.preload with
  | (.ok true, c) => return (true, c)
  | (.ok false, c) => return (false, ← c.finish)
  | (.error e, c) => return (false, ← c.fail e)

/-- Stop early: drop the remaining rows and release the lease. -/
def close (c : SequentialCursor) : InSession SequentialCursor := c.finish

end SequentialCursor

end JobQuery
