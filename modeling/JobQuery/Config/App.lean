import JobQuery.Config.Toml
import JobQuery.Config.Env
import JobQuery.Config.Extract
import JobQuery.Session.Config
import JobQuery.Transport.Http

/-!
# The application configuration

What the command line needs to know, read from `KQX_*` environment variables with an
optional TOML file layered over them (the file wins):

* `[transport]`: the HTTP settings (scheme, timeouts, user agent);
* `[credentials]`: one data lake with a fixed token, reached at `endpoint` or at the host of
  a `region` (`americas`, `europe`); `token` is required;
* `[session]`: the session settings;
* `[runtime]`: the number of parallel workers and the capacity of their row queue
  (`queue_capacity`, also spelled `channel_size`).

A missing file reads as an empty one. A configuration that cannot be read fails with a
context naming the sources, and the reason.
-/

namespace JobQuery.Config

/-- A deployment region. -/
inductive Region where
  | americas
  | europe
  deriving Repr, BEq, DecidableEq, Inhabited

/-- The query-service host of a region. -/
def Region.fqdn : Region → String
  | .americas => "cortex-prd1-api.us.cdl.paloaltonetworks.com"
  | .europe => "api.nl.cdl.paloaltonetworks.com"

/-- One data lake with a fixed token. -/
structure CredentialsConfig where
  dataLakeId : String := "default"
  endpoint : Option String := none
  region : Option Region := none
  token : String
  deriving Repr, Inhabited

/-- The width of parallel reads. -/
structure RuntimeConfig where
  parallelism : Nat := 4
  queueCapacity : Nat := 1024
  deriving Repr, BEq, Inhabited

/-- The whole configuration. -/
structure AppConfig where
  transport : HttpSettings := {}
  credentials : CredentialsConfig
  session : SessionConfig := {}
  runtime : RuntimeConfig := {}
  deriving Inhabited

/-- The message of credentials that name no host. -/
def noEndpointMessage : String :=
  "💀 credentials need either an 'endpoint' or a 'region' (americas, europe)"

/-- The explicit endpoint, else the region's host. -/
def CredentialsConfig.resolvedEndpoint (c : CredentialsConfig) : Except String String :=
  match c.endpoint, c.region with
  | some e, _ => .ok e
  | none, some r => .ok r.fqdn
  | none, none => .error noEndpointMessage

-- ---------------------------------------------------------------------------
-- Reading
-- ---------------------------------------------------------------------------

/-- A region. -/
def readRegion (s : Setting) : Read Region := do
  match ← readVariant "Region" ["americas", "europe"] s with
  | "americas" => pure .americas
  | _ => pure .europe

/-- A job priority. -/
def readPriority (s : Setting) : Read Priority := do
  match ← readVariant "Priority" ["immediate", "foreground", "background"] s with
  | "immediate" => pure .immediate
  | "foreground" => pure .foreground
  | _ => pure .background

/-- The `[transport]` table. -/
def readTransport (s : Setting) : Read HttpSettings := do
  let found ← readRecord "HttpTransportConfig"
    [FieldSpec.of "scheme" readText, FieldSpec.of "connect_timeout_secs" (readUnsigned 64 "u64"),
     FieldSpec.of "request_timeout_secs" (readUnsigned 64 "u64"),
     FieldSpec.of "user_agent" readText] [] s
  return { scheme := ← fieldOr found "scheme" readText "https"
           connectTimeoutSecs := ← fieldOr found "connect_timeout_secs" (readUnsigned 64 "u64") 10
           requestTimeoutSecs := ← fieldOr found "request_timeout_secs" (readUnsigned 64 "u64") 30
           userAgent := ← fieldOr found "user_agent" readText "kqx/0.1.0" }

/-- The `[credentials]` table. -/
def readCredentials (s : Setting) : Read CredentialsConfig := do
  let found ← readRecord "CredentialsConfig"
    [FieldSpec.of "data_lake_id" readText, FieldSpec.of "endpoint" (readOptional readText),
     FieldSpec.of "region" (readOptional readRegion), FieldSpec.of "token" readText] ["token"] s
  return { dataLakeId := ← fieldOr found "data_lake_id" readText "default"
           endpoint := ← fieldOr found "endpoint" (readOptional readText) none
           region := ← fieldOr found "region" (readOptional readRegion) none
           token := ← fieldOr found "token" readText "" }

/-- The `[session]` table. -/
def readSession (s : Setting) : Read SessionConfig := do
  let found ← readRecord "SessionConfig"
    [FieldSpec.of "page_size" (readUnsigned 32 "u32"),
     FieldSpec.of "poll_delay_ms" (readUnsigned 64 "u64"),
     FieldSpec.of "max_poll_attempts" (readUnsigned 32 "u32"),
     FieldSpec.of "dialect" (readOptional readText),
     FieldSpec.of "priority" (readOptional readPriority)] [] s
  return { pageSize := ← fieldOr found "page_size" (readUnsigned 32 "u32") 400
           pollDelayMs := ← fieldOr found "poll_delay_ms" (readUnsigned 64 "u64") 200
           maxPollAttempts := ← fieldOr found "max_poll_attempts" (readUnsigned 32 "u32") 10
           dialect := ← fieldOr found "dialect" (readOptional readText) none
           priority := ← fieldOr found "priority" (readOptional readPriority) none }

/-- The `[runtime]` table. -/
def readRuntime (s : Setting) : Read RuntimeConfig := do
  let found ← readRecord "RuntimeConfig"
    [FieldSpec.of "parallelism" (readUnsigned 64 "usize"),
     FieldSpec.of "queue_capacity" (readUnsigned 64 "usize") ["channel_size"]] [] s
  return { parallelism := ← fieldOr found "parallelism" (readUnsigned 64 "usize") 4
           queueCapacity := ← fieldOr found "queue_capacity" (readUnsigned 64 "usize") 1024 }

/-- The whole configuration from the merged settings. -/
def readApp (s : Setting) : Read AppConfig := do
  let found ← readRecord "AppConfig"
    [FieldSpec.of "transport" readTransport, FieldSpec.of "credentials" readCredentials,
     FieldSpec.of "session" readSession, FieldSpec.of "runtime" readRuntime] ["credentials"] s
  let some credentials := found.lookup "credentials"
    | .error { kind := "missing field `credentials`" }
  return { transport := ← fieldOr found "transport" readTransport {}
           credentials := ← readCredentials credentials
           session := ← fieldOr found "session" readSession {}
           runtime := ← fieldOr found "runtime" readRuntime {} }

-- ---------------------------------------------------------------------------
-- Loading
-- ---------------------------------------------------------------------------

/-- The configuration file to read: its path as given, how error messages name it, and its
text (`none` when there is no such file). -/
structure ConfigFile where
  path : String
  shownAs : String
  contents : Option String
  deriving Repr, Inhabited

/-- Why the configuration could not be loaded: a context naming the sources, and the
reason. -/
structure LoadFailure where
  context : String
  reason : String
  deriving Repr, Inhabited

/-- The context of a failure to load. -/
def loadContext : Option ConfigFile → String
  | some f => "💀 Failed to parse configuration from file '" ++ f.path ++
    "' and environment variables (KQX_*). The file exists in our hearts, but apparently not on disk."
  | none => "💀 Failed to parse configuration from environment variables (KQX_*). " ++
    "No file was provided, this one's all on the environment. Classic."

/-- Load the configuration from the environment variables and the file, if any. -/
def loadConfig (file : Option ConfigFile) (vars : List (String × String)) :
    Except LoadFailure AppConfig := do
  let fail := fun (reason : String) => LoadFailure.mk (loadContext file) reason
  let fromEnv := Env.settings "KQX_" vars
  let fromFile ← match file.bind (·.contents) with
    | none => pure (Setting.table (some .file) [])
    | some text =>
      match Toml.parse text with
      | .ok s => pure s
      | .error f =>
        throw (fail (Toml.render f text ++ " in " ++ (file.map (·.shownAs)).getD "" ++ " TOML file"))
  let merged := match fromEnv.merge fromFile with
    | .table _ entries => Setting.table none entries
    | other => other
  match readApp merged with
  | .ok c => return c
  | .error e => throw (fail (e.render ((file.map (·.shownAs)).getD "")))

end JobQuery.Config
