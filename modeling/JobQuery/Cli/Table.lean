import JobQuery.Api.Wire

/-!
# Job tables

Jobs are shown as a table with one row per job and the columns job id, state, progress
(`N%`, or `-`), submit time and run time in milliseconds (or `-`).

The table has an outer border only: a top line, the header, a double line under the header,
the rows, a bottom line. Every cell is padded by one space on each side and left-aligned in
a column as wide as its widest cell; columns are separated by one space. Every character
takes one column.
-/

namespace JobQuery.Cli

/-- The header of a job table. -/
def jobHeader : List String := ["job id", "state", "progress", "submitted", "run time (ms)"]

/-- The cells of one job's row. -/
def jobCells (j : JobDetail) : List String :=
  [j.jobId, j.state.name,
   (j.progress.map fun p => toString p.completionPct ++ "%").getD "-",
   toString j.submitTime,
   ((j.statistics.bind (·.runTimeMs)).map toString).getD "-"]

/-- A text repeated `n` times. -/
def repeatText (s : String) (n : Nat) : String := String.join (List.replicate n s)

/-- A table with an outer border, as lines. -/
def borderedTable (header : List String) (rows : List (List String)) : List String :=
  let widths := header.zipIdx.map fun (h, i) =>
    (rows.foldl (fun m r => max m (r.getD i "").length) h.length) + 2
  let line := fun (cells : List String) =>
    "│" ++ String.intercalate " " ((widths.zip (cells ++ List.replicate widths.length "")).map
      fun (w, c) => " " ++ c ++ repeatText " " (w - 2 - c.length) ++ " ") ++ "│"
  let rule := fun (left fill right : String) =>
    left ++ String.intercalate fill (widths.map (repeatText fill)) ++ right
  [rule "┌" "─" "┐", line header, rule "╞" "═" "╡"] ++ rows.map line ++ [rule "└" "─" "┘"]

/-- The table of some jobs, as printed (ending with a newline). -/
def jobsTable (jobs : List JobDetail) : String :=
  String.intercalate "\n" (borderedTable jobHeader (jobs.map jobCells)) ++ "\n"

end JobQuery.Cli
