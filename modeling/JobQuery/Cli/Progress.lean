import JobQuery.Text.Debug

/-!
# Row progress

The command line's row counter: a label (the job id), the job's row count when the service
reported it (0 when it did not), and the rows written so far. Counts are 64-bit: an update
that would pass the largest 64-bit number is an arithmetic overflow and stops the program.

The counter also renders a progress message (rows with thousands separators, elapsed and
remaining time as `MM:SS` or `HH:MM:SS`); only its text helpers are kept here, since the
message depends on the wall clock and is drawn only on a terminal.
-/

namespace JobQuery

/-- A row counter. -/
structure RowProgress where
  label : String
  total : Nat
  rows : Nat := 0
  deriving Repr, BEq, Inhabited

namespace RowProgress

/-- The largest count a counter holds. -/
def limit : Nat := Nat.pow 2 64 - 1

/-- Count `n` more rows; passing `limit` is an overflow. -/
def update (p : RowProgress) (n : Nat) : Except String RowProgress :=
  if p.rows + n > limit then .error "attempt to add with overflow"
  else .ok { p with rows := p.rows + n }

/-- The debug form of a counter. -/
def debug (p : RowProgress) : String :=
  "RowProgress \x7b job_label: " ++ Text.debugStr p.label ++ ", total_rows: " ++ toString p.total ++
    ", rows: " ++ toString p.rows ++ " \x7d"

end RowProgress

/-- Digits of `n` in groups of three separated by commas: `1015` is `1,015`. -/
def formatNumber (n : Nat) : String :=
  let ds := (toString n).toList
  let len := ds.length
  String.ofList ((ds.zipIdx.map fun (c, i) =>
    if i > 0 && (len - i) % 3 == 0 then [',', c] else [c]).flatten)

/-- Two digits, zero-padded. -/
def twoDigits (n : Nat) : String :=
  if n < 10 then "0" ++ toString n else toString n

/-- A duration in seconds as `MM:SS`, or `HH:MM:SS` from an hour on. -/
def formatDuration (secs : Nat) : String :=
  let hours := secs / 3600
  let minutes := (secs % 3600) / 60
  let seconds := secs % 60
  if hours > 0 then twoDigits hours ++ ":" ++ twoDigits minutes ++ ":" ++ twoDigits seconds
  else twoDigits minutes ++ ":" ++ twoDigits seconds

end JobQuery
