import JobQuery.Cli.Program
import JobQuery.Api.JobState

/-!
# The query program's command line

`kqx-cli [--config FILE] COMMAND`, where the command is one of

* `query SQL [--output FILE] [--parallel N]`: run a query and write its rows;
* `status JOB_ID`: show one job;
* `delete JOB_ID`: cancel and delete a job;
* `jobs TENANT_ID [--state STATE] [--max N]`: list a tenant's jobs.

`--config` is global: it may stand before or after the command's name. `--parallel` takes
an unsigned 64-bit count, `--max` a 32-bit one, `--state` one of `pending`, `running`,
`done`, `failed`, `cancelled`.
-/

namespace JobQuery.Cli

/-- The job states a list can be filtered on, as typed on the command line. -/
def stateChoices : List (String × JobState) :=
  [("pending", .pending), ("running", .running), ("done", .done), ("failed", .failed),
   ("cancelled", .cancelled)]

/-- The positional argument naming a job. -/
def jobIdArgument : PosSpec := { id := "job_id", valueName := "JOB_ID" }

/-- The query program's command line. -/
def queryProgram : Program :=
  { name := "kqx-cli"
    version := "0.1.0"
    about := "🚀 Run queries as remote jobs and stream the rows"
    globals := [{ id := "config", long := some "config", short := some 'c', order := 0
                  action := .set "CONFIG" .path
                  help := "🔧 TOML config file. Without it, only `KQX_*` environment variables are read" }]
    commands := [
      { name := "query"
        about := "Run a query and write its rows as NDJSON"
        options := [
          { id := "output", long := some "output", short := some 'o', order := 0
            action := .set "OUTPUT" .path, help := "Write rows here instead of stdout" },
          { id := "parallel", long := some "parallel", short := some 'p', order := 1
            action := .set "PARALLEL" .word
            help := "Split the result pages over this many workers (1 = plain sequential read)" }]
        positionals := [{ id := "sql", valueName := "SQL" }] },
      { name := "status", about := "Show one job's status", positionals := [jobIdArgument] },
      { name := "delete", about := "Cancel and delete a job", positionals := [jobIdArgument] },
      { name := "jobs"
        about := "List a tenant's jobs, newest first"
        options := [
          { id := "state", long := some "state", order := 0
            action := .set "STATE" (.choice (stateChoices.map Prod.fst)) },
          { id := "max", long := some "max", order := 1
            action := .set "MAX" (.ranged 0 (Nat.pow 2 32 - 1)) }]
        positionals := [{ id := "tenant_id", valueName := "TENANT_ID" }] }] }

/-- What the program is asked to do. -/
inductive Invocation where
  /-- Run a query; write its rows to `output` (standard output when absent) with
  `parallel` workers (the configured number when absent). -/
  | query (sql : String) (output : Option String) (parallel : Option Nat)
  /-- Show one job. -/
  | status (jobId : String)
  /-- Cancel and delete a job. -/
  | delete (jobId : String)
  /-- List a tenant's jobs. -/
  | jobs (tenantId : String) (state : Option JobState) (max : Option Nat)
  deriving Repr, Inhabited

/-- A command line of the query program: the configuration file and the invocation. -/
structure CommandLine where
  config : Option String
  invocation : Invocation
  deriving Repr, Inhabited

/-- The command line a reading gives. -/
def CommandLine.ofParsed (p : Parsed) : CommandLine :=
  let text := fun id => (p.text? id).getD ""
  let count := fun id => (p.number? id).map Int.toNat
  let invocation : Invocation := match p.command with
    | "query" => .query (text "sql") (p.text? "output") (count "parallel")
    | "status" => .status (text "job_id")
    | "delete" => .delete (text "job_id")
    | _ => .jobs (text "tenant_id") ((p.text? "state").bind fun s => stateChoices.lookup s) (count "max")
  { config := p.text? "config", invocation }

/-- Read the query program's command line (without the program's name). -/
def readCommandLine (args : List String) : Except Stop CommandLine :=
  (queryProgram.read args).map CommandLine.ofParsed

end JobQuery.Cli
