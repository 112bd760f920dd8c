import JobQuery.Json.Decode

/-!
# Job states

Where a remote job is in its life. `pending` and `running` mean "ask again later"; `done`
unlocks the results; `failed`, `timedOut` and `cancelled` are the three ways a job ends
without results.

The service writes states in upper case on its responses (`DONE`) and reads them in lower
case in the job-list filter (`state=done`).
-/

namespace JobQuery

/-- The life-cycle state of a remote job. -/
inductive JobState where
  | pending
  | running
  | done
  | failed
  | timedOut
  | cancelled
  deriving Repr, BEq, DecidableEq, Inhabited

namespace JobState

/-- Every state, in the order the service documents them. -/
def all : List JobState := [.pending, .running, .done, .failed, .timedOut, .cancelled]

/-- The upper-case name used on responses. -/
def name : JobState → String
  | .pending => "PENDING"
  | .running => "RUNNING"
  | .done => "DONE"
  | .failed => "FAILED"
  | .timedOut => "TIMEDOUT"
  | .cancelled => "CANCELLED"

/-- The lower-case name the job-list filter takes. -/
def filterName : JobState → String
  | .pending => "pending"
  | .running => "running"
  | .done => "done"
  | .failed => "failed"
  | .timedOut => "timedout"
  | .cancelled => "cancelled"

/-- Still cooking: the poll loop keeps waiting on these. -/
def inFlight : JobState → Bool
  | .pending | .running => true
  | _ => false

instance : ToString JobState := ⟨name⟩

/-- A state read from its upper-case name. -/
def decoder : Json.Decoder JobState :=
  Json.Decoder.unitEnum (all.map fun s => (s.name, s))

end JobState

end JobQuery
