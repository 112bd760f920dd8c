import JobQuery.Cli.Progress
import JobQuery.Json.Value

/-!
# Row-counter scenarios

Steps against a row counter, each reported with the count and the counter's debug form. An
overflowing update stops the whole scenario with the overflow's message.
-/

namespace JobQuery

open Json

/-- One step against a row counter. -/
inductive ProgressStep where
  | update (rows : Nat)
  | finish
  | rows
  deriving Repr, Inhabited

/-- Run the steps in order: each step's report and the counter afterwards, or the overflow
that stopped them. -/
def runProgress (p : RowProgress) : List ProgressStep → Except String (List Value × RowProgress)
  | [] => .ok ([], p)
  | st :: rest => do
    let p ← match st with
      | .update n => p.update n
      | .finish | .rows => pure p
    let v := Value.object [("rows", Value.nat p.rows), ("debug", .str p.debug)]
    let (vs, p) ← runProgress p rest
    return (v :: vs, p)

/-- The report of a counter scenario: every step's report and the final count, or the
`Panic` object of an overflow. -/
def progressReport (label : String) (total : Nat) (steps : List ProgressStep) : Value :=
  match runProgress { label, total } steps with
  | .ok (vs, p) => Value.object [("steps", .arr vs), ("rows", Value.nat p.rows)]
  | .error m => Value.object [("error", .str "Panic"), ("message", .str m)]

end JobQuery
