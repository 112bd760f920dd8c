import JobQuery.Job.Driver

/-!
# Pages of results

A finished job's rows come in pages of a fixed size. A page is chosen by the service's own
cursor (following the chain from page 0) or by number (jumping anywhere); the first page is
asked for with neither. Every fetch asks for self-describing rows (`valuesDictionary`).

When the service reports the number of rows in the job, `PageLayout` says how the pages
fall: pages `0 .. lastPage`, the last one holding `remainder` rows (all full when it is 0,
in which case the page `lastPage` is empty).

A page whose `data` is `null` is not an empty page but a malformed answer.
-/

namespace JobQuery

open Json

/-- Which page to fetch. -/
inductive PageSelector where
  | first
  | cursor (cursor : String)
  | number (number : Nat)
  deriving Repr, BEq, Inhabited

/-- The debug form of a selector, as error messages show it. -/
def PageSelector.debug : PageSelector → String
  | .first => "First"
  | .cursor c => "Cursor(" ++ Text.debugStr c ++ ")"
  | .number n => "Number(" ++ toString n ++ ")"

/-- A fetched page: its rows, the cursor of the next page and the job's row count, when the
service gives them. -/
structure FetchedPage where
  rows : List Value
  nextCursor : Option String := none
  rowsInJob : Option Nat := none
  deriving Inhabited

/-- How a job's rows fall into pages. -/
structure PageLayout where
  rowsInJob : Nat
  pageSize : Nat
  lastPage : Nat
  remainder : Nat
  deriving Repr, BEq, Inhabited

/-- The layout of `rows` rows in pages of `pageSize` (at least 1). -/
def PageLayout.make (rows pageSize : Nat) : PageLayout :=
  let size := max pageSize 1
  { rowsInJob := rows, pageSize := size, lastPage := rows / size, remainder := rows % size }

/-- The results request for one page. -/
def PageSelector.request (s : PageSelector) (jobId : String) (pageSize : Nat) : ResultsRequest :=
  let r : ResultsRequest := { jobId, resultFormat := some .valuesDictionary, pageSize := some pageSize }
  match s with
  | .first => r
  | .cursor c => { r with pageCursor := some c }
  | .number n => { r with pageNumber := some n }

/-- Fetch one page of a job, unless cancelled. -/
def fetchPage (svc : QueryService) (pageSize : Nat) (cancelled : Bool) (jobId : String)
    (s : PageSelector) : Call FetchedPage := do
  if cancelled then throw .cancelled
  let result ← svc.getJobResults (s.request jobId pageSize)
  match result.page.result.data with
  | none => throw (.parse ("page " ++ s.debug ++ " of job " ++ jobId ++ " has null data"))
  | some rows =>
    return { rows, nextCursor := result.page.pageCursor, rowsInJob := result.rowsInJob }

end JobQuery
