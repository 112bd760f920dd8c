import JobQuery.Cli.Invocation
import JobQuery.Cli.Table
import JobQuery.Cli.Sink
import JobQuery.Config.App
import JobQuery.Client.Parallel
import JobQuery.Cursor.Sequential
import JobQuery.Log.Filter
import JobQuery.Text.Path

/-!
# Running the query program

One run of the program on a machine:

1. the log filter is read from `RUST_LOG` (a notice for each directive that cannot be read);
2. the command line is read; help and the version go to standard output (exit 0), a refused
   command line and the help page shown for an empty one to standard error (exit 2);
3. the configuration is loaded from the `KQX_*` variables and the `--config` file, the data
   lake of its `[credentials]` is resolved, and the HTTP client is built;
4. the command runs: `status`, `delete` and `jobs` print a job table; `query` opens a
   session, waits for its job, and writes every row as one line of compact JSON to standard
   output or to the `--output` file, read by one cursor or by several workers;
5. a failure is logged as an error with each of its causes (and a hint when the service
   could not be reached), and the run exits with 1.

Whatever fails after the query's session exists closes the session, so its job is deleted.
The output is flushed before a reading error is reported, so a failed flush is the error
then.

The log is the program's events that the filter lets through, one line each (a message with
line breaks spans several lines).
-/

namespace JobQuery.Cli

open Json Config

/-- The machine the program runs on, as far as the program looks at it. -/
structure Machine where
  /-- The environment variables, in the order they were set. -/
  vars : List (String × String) := []
  /-- The working directory (an absolute path). -/
  cwd : String := "/"
  /-- The regular files, by absolute path, with their text. -/
  files : List (String × String) := []
  /-- The directories, by absolute path. -/
  dirs : List String := []
  /-- The files that hold root certificates, with how many each holds. -/
  certificates : List (String × Nat) := []
  /-- How many root certificates the system's own store holds. -/
  systemRoots : Nat := 1
  /-- The devices that take no byte. -/
  fullDevices : List String := []
  deriving Repr, Inhabited

/-- A path inside a directory. -/
def joinPath (dir path : String) : String :=
  if dir.endsWith "/" then dir ++ path else dir ++ "/" ++ path

/-- The directory holding a path. -/
def parentDir (path : String) : String :=
  Text.joinComponents (Text.pathComponents path).dropLast

/-- Whether a text occurs inside another. -/
def containsText (s part : String) : Bool := (s.splitOn part).length > 1

namespace Machine

/-- The value of an environment variable (the last one set). -/
def var? (m : Machine) (name : String) : Option String := m.vars.reverse.lookup name

/-- A path made absolute against the working directory. -/
def absolute (m : Machine) (path : String) : String :=
  if path.startsWith "/" then path else joinPath m.cwd path

/-- Where the configuration file a path names is looked for, nearest first: an absolute
path as it is; a relative one in the working directory and then in each of its parents. -/
def configCandidates (m : Machine) (path : String) : List String :=
  if path.startsWith "/" then [path] else (Text.ancestors m.cwd).map fun d => joinPath d path

/-- The configuration file a path names: the first of its candidates that exists. -/
def configFile (m : Machine) (path : String) : ConfigFile :=
  match (m.configCandidates path).findSome? fun p => (m.files.lookup p).map fun t => (p, t) with
  | some (p, text) => { path, shownAs := Text.displayPath m.cwd p, contents := some text }
  | none => { path, shownAs := path, contents := none }

/-- How many root certificates the HTTP client finds to trust: those of the file
`SSL_CERT_FILE` names and of the files in the directory `SSL_CERT_DIR` names, or, when
neither is set, those of the system's store. -/
def rootCount (m : Machine) : Nat :=
  match m.var? "SSL_CERT_FILE", m.var? "SSL_CERT_DIR" with
  | none, none => m.systemRoots
  | file, dir =>
    let inFile := match file with
      | some f => (m.certificates.lookup (m.absolute f)).getD 0
      | none => 0
    let inDir := match dir with
      | some d => (m.certificates.filter fun (c, _) => parentDir c == m.absolute d).foldl
          (fun n (_, k) => n + k) 0
      | none => 0
    inFile + inDir

/-- Create a file to write rows to: the open sink, or why it cannot be created. -/
def create (m : Machine) (path : String) : Except String Sink :=
  let p := m.absolute path
  if m.fullDevices.contains p then .ok { device := .full }
  else if m.dirs.contains p then .error "Is a directory (os error 21)"
  else if m.dirs.contains (parentDir p) then .ok { device := .healthy }
  else .error "No such file or directory (os error 2)"

end Machine

/-- Why a run failed: what the program was doing, then the causes, outermost first. -/
structure Failure where
  context : String
  causes : List String := []
  deriving Repr, Inhabited

/-- A failure caused by a query error. -/
def Failure.ofQuery (context : String) (e : QueryError) : Failure :=
  { context, causes := [e.display] }

/-- Words in a cause that say the service could not be reached. -/
def unreachableMarkers : List String :=
  ["error sending request", "Connection refused", "connection refused", "tcp connect error",
   "dns error"]

/-- An error event of the program. -/
def programError (message : String) : Event :=
  { level := .error, target := "kqx_cli", message }

/-- An informational event of the program. -/
def programInfo (message : String) : Event :=
  { level := .info, target := "kqx_cli", message }

/-- The events that report a failure: the error, each cause, and a hint when a cause says
the service could not be reached. -/
def Failure.events (f : Failure) : List Event :=
  let unreachable := f.causes.any fun c => unreachableMarkers.any (containsText c)
  [programError ("💀 error: " ++ f.context)] ++
    f.causes.map (fun c => programError ("⚠️  cause: " ++ c)) ++
    (if unreachable then
      [programError ("🔧 hint: the query service isn't reachable. Check " ++
        "`credentials.endpoint` / `credentials.region` and `transport.scheme` in your config. ☕")]
     else [])

/-- What the program has written, besides its log. -/
structure Console where
  stdout : String := ""
  /-- The files it created, with the lines written to them. -/
  created : List (String × List String) := []
  deriving Repr, Inhabited

/-- A run of the program in the world. -/
abbrev Shell := StateT Console Run

/-- A step of a run that may fail. -/
abbrev Step := ExceptT Failure Shell

/-- Log an event. -/
def log (e : Event) : Shell Unit := StateT.lift (World.emit e)

/-- Write to standard output. -/
def print (s : String) : Shell Unit := modify fun c => { c with stdout := c.stdout ++ s }

/-- Run a call of the query API; its error becomes a failure in `context`. -/
def callOr (context : String) (c : Call α) : Step α := do
  let r ← (StateT.lift c.run : Shell (Except QueryError α))
  match r with
  | .ok a => pure a
  | .error e => throw (Failure.ofQuery context e)

/-- Run an operation on a session, threading the session through. -/
def onSession (s : Session) (act : InSession α) : Shell (α × Session) :=
  StateT.lift (act.run s)

-- ---------------------------------------------------------------------------
-- Queries
-- ---------------------------------------------------------------------------

/-- Where rows go. -/
inductive Destination where
  | stdout
  | file (path : String)
  deriving Repr, Inhabited

/-- How a query's rows were read: the sink afterwards, the rows written, and the failure
that stopped the reading, if any. -/
structure Drained where
  sink : Sink
  written : Nat
  failure : Option Failure := none
  deriving Inhabited

/-- Write one row; `none` when the sink refuses it. -/
def writeRow (sink : Sink) (row : Value) : Except Failure Sink :=
  match sink.write (row.compact ++ "\n") with
  | .ok s => .ok s
  | .error io => .error { context := "💀 couldn't write a row", causes := [io] }

/-- Read a sequential cursor to its end, writing each row. -/
def drainSequential (c : SequentialCursor) (d : Drained) :
    Nat → InSession (Drained × SequentialCursor)
  | 0 => return (d, c)
  | fuel + 1 => do
    match ← c.next with
    | (.error e, c) =>
      return ({ d with failure := some (Failure.ofQuery "💀 reading rows failed" e) }, c)
    | (.ok none, c) => return (d, c)
    | (.ok (some row), c) =>
      match writeRow d.sink row with
      | .error f => return ({ d with failure := some f }, c)
      | .ok sink => drainSequential c { d with sink, written := d.written + 1 } fuel

/-- Write rows in order until one is refused. -/
def writeAll (d : Drained) : List Value → Drained
  | [] => d
  | row :: rest =>
    match writeRow d.sink row with
    | .error f => { d with failure := some f }
    | .ok sink => writeAll { d with sink, written := d.written + 1 } rest

/-- Read the session with one cursor; a cursor left unfinished gives its lease back. -/
def readSequential (sink : Sink) : InSession Drained := do
  Session.attach
  let (d, c) ← drainSequential { leased := true } { sink, written := 0 } rowBudget
  if c.leased then Session.detach
  return d

/-- Read the session with parallel workers, writing their rows as they come. -/
def readParallel (sink : Sink) (workers : RuntimeConfig) : InSession (Drained × List Event) := do
  Session.attach
  let (rows, report) ← collectParallel { leased := true } workers.parallelism workers.queueCapacity
  let d := writeAll { sink, written := 0 } rows
  if d.failure.isSome then return (d, [])
  let tally := programInfo ("🍴 " ++ toString report.cursors ++ " cursors read " ++
    toString report.rows ++ " rows")
  match report.failures with
  | [] => return (d, [tally])
  | e :: _ =>
    return ({ d with failure := some (Failure.ofQuery
      "💀 a worker failed while reading its pages" e) }, [tally])

/-- Start the job, then pour its rows into the output, with one cursor or, when
`workers` asks for more than one, with parallel workers. -/
def streamRows (m : Machine) (s : Session) (dest : Destination) (workers : RuntimeConfig) :
    Shell (Except Failure Unit × Session) := do
  let (sized, s) ← onSession s Session.size
  let (named, s) ← onSession s Session.jobId
  match sized, named with
  | .error e, _ | _, .error e =>
    return (.error (Failure.ofQuery "💀 the query job never produced results" e), s)
  | .ok total, .ok jobId =>
    let count := match total with
      | some t => toString t
      | none => "an unknown number of"
    log (programInfo ("✅ job " ++ jobId ++ " done, " ++ count ++ " rows to read"))
    let opened := match dest with
      | .stdout => Except.ok ({ device := .healthy } : Sink)
      | .file p => (m.create p).mapError fun io =>
          ({ context := "💀 couldn't create output file '" ++ p ++ "'", causes := [io] } : Failure)
    match opened with
    | .error f => return (.error f, s)
    | .ok sink =>
      if let .file p := dest then
        modify fun c => { c with created := c.created ++ [(p, [])] }
      let ((d, events), s) ← onSession s (if workers.parallelism > 1 then readParallel sink workers
        else do return (← readSequential sink, []))
      events.forM log
      let flushed := d.sink.flush
      let delivered := match flushed with
        | .ok sink => sink.delivered
        | .error _ => d.sink.delivered
      match dest with
      | .stdout => print (String.join delivered)
      | .file p => modify fun c =>
          { c with created := c.created.map fun (q, ls) => if q == p then (q, delivered) else (q, ls) }
      match flushed, d.failure with
      | .error io, _ => return (.error { context := "💀 couldn't flush the output", causes := [io] }, s)
      | .ok _, some f => return (.error f, s)
      | .ok _, none =>
        log (programInfo ("🏁 " ++ toString d.written ++ " rows written"))
        return (.ok (), s)

/-- Run one query end to end; whatever fails after the session exists closes it. -/
def runQuery (m : Machine) (svc : QueryService) (config : SessionConfig) (sql : String)
    (dest : Destination) (workers : RuntimeConfig) : Step Unit := do
  match Session.make sql config svc false with
  | .error e => throw (Failure.ofQuery "💀 the query was rejected before it left the building" e)
  | .ok s =>
    let (outcome, s) ← streamRows m s dest workers
    if outcome.isOk then return ()
    let _ ← onSession s Session.close
    match outcome with
    | .ok () => return ()
    | .error f => throw f

-- ---------------------------------------------------------------------------
-- The program
-- ---------------------------------------------------------------------------

/-- Load the configuration named on the command line, if any. -/
def loadAppConfig (m : Machine) (path : Option String) : Step AppConfig := do
  log { level := .info, target := "kqx::app_config"
        message := "🔧 Loading configuration: " ++ Text.debugStr (path.getD "") }
  match loadConfig (path.map m.configFile) m.vars with
  | .ok c => pure c
  | .error f =>
    throw { context := "💀 kqx-cli couldn't load its config. Check the file and the KQX_* variables."
            causes := [f.context, f.reason] }

/-- The HTTP link to the configured data lake. -/
def buildLink (m : Machine) (c : AppConfig) : Except Failure HttpLink := do
  let endpoint ← c.credentials.resolvedEndpoint.mapError fun msg =>
    ({ context := "💀 the [credentials] section doesn't describe a usable data lake"
       causes := [msg] } : Failure)
  let lake : DataLake := { id := c.credentials.dataLakeId, provider := 0 }
  let ctx : CredentialContext :=
    { defaultLake := some lake, providers := [.fixed { endpoint, token := c.credentials.token }] }
  (HttpLink.make c.transport ctx m.rootCount).mapError
    (Failure.ofQuery "💀 couldn't build the HTTP transport")

/-- Run an invocation with a configuration, over the world's transport. -/
def runInvocation (m : Machine) (c : AppConfig) : Invocation → Step Unit
  | .query sql output parallel =>
    let dest := match output with
      | some p => Destination.file p
      | none => .stdout
    runQuery m {} c.session sql dest
      { c.runtime with parallelism := parallel.getD c.runtime.parallelism }
  | .status jobId => do
    let detail ← callOr ("💀 couldn't fetch the status of job '" ++ jobId ++ "'")
      (QueryService.getJobStatus {} jobId)
    print (jobsTable [detail])
  | .delete jobId => do
    let detail ← callOr ("💀 couldn't delete job '" ++ jobId ++ "'")
      (QueryService.deleteJob {} jobId)
    log (programInfo ("🗑️ job " ++ detail.jobId ++ " deleted"))
    print (jobsTable [detail])
  | .jobs tenantId state max => do
    let jobs ← callOr "💀 couldn't list jobs"
      (QueryService.listJobs {} { tenantId, state, maxJobs := max })
    print (jobsTable jobs)

/-- Run a command line that was read: load the configuration, build the client, run. -/
def runCommandLine (m : Machine) (cl : CommandLine) : Step Unit := do
  let config ← loadAppConfig m cl.config
  match buildLink m config with
  | .error f => throw f
  | .ok link =>
    log (rootsLoadedEvent m.rootCount)
    (StateT.lift (modify fun (w : World) => { w with backend := .network link }) : Shell Unit)
    runInvocation m config cl.invocation

/-- What a run leaves behind. -/
structure Outcome where
  exit : Nat
  stdout : String
  /-- The text written to standard error. -/
  stderr : String
  /-- The files created, with their lines. -/
  created : List (String × List String) := []
  deriving Repr, Inhabited

/-- Run the program with a command line (without the program's name) on a machine. -/
def runProgram (m : Machine) (args : List String) : Outcome :=
  let spec := (m.var? "RUST_LOG").getD ""
  let notices := String.join ((LogFilter.notices spec).map (· ++ "\n"))
  let filter := LogFilter.parse spec
  match readCommandLine args with
  | .error (.help page) => { exit := 0, stdout := page, stderr := notices }
  | .error (.version text) => { exit := 0, stdout := text, stderr := notices }
  | .error (.helpInstead page) => { exit := 2, stdout := "", stderr := notices ++ page }
  | .error (.refused e) => { exit := 2, stdout := "", stderr := notices ++ e.render }
  | .ok cl =>
    let start : World := { backend := .script [] }
    let ((result, console), world) := ((runCommandLine m cl).run.run {}).run start
    let failureEvents := match result with
      | .ok () => []
      | .error f => f.events
    let events := world.events.toList ++ failureEvents
    { exit := if result.isOk then 0 else 1
      stdout := console.stdout
      stderr := notices ++ String.join ((filter.render events).map (· ++ "\n"))
      created := console.created }

end JobQuery.Cli
