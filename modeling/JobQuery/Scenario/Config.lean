import JobQuery.Config.App
import JobQuery.Report.Render

/-!
# Configuration reports

The report of loading a configuration: every section with its values, the resolved
endpoint and the data lake the credentials describe; or the failure, as its context and its
reason.
-/

namespace JobQuery

open Json Config

/-- The message of a failure to load. -/
def Config.LoadFailure.message (f : LoadFailure) : String := f.context ++ ": " ++ f.reason

/-- A `{"ok": ...}` or a `Config` error object. -/
def configResult (r : Except String Value) : Value :=
  match r with
  | .ok v => okValue v
  | .error m => Value.object [("error", .str "Config"), ("message", .str m)]

/-- The report of a loaded configuration. -/
def Config.AppConfig.toValue (c : AppConfig) : Value :=
  let t := c.transport
  let cr := c.credentials
  Value.object [
    ("transport", Value.object [("scheme", .str t.scheme),
      ("connect_timeout_secs", Value.nat t.connectTimeoutSecs),
      ("request_timeout_secs", Value.nat t.requestTimeoutSecs),
      ("user_agent", .str t.userAgent)]),
    ("credentials", Value.object [("data_lake_id", .str cr.dataLakeId),
      ("endpoint", orNull .str cr.endpoint),
      ("region", orNull (fun r => .str r.fqdn) cr.region),
      ("token", .str cr.token)]),
    ("session", c.session.toValue),
    ("runtime", Value.object [("parallelism", Value.nat c.runtime.parallelism),
      ("queue_capacity", Value.nat c.runtime.queueCapacity)]),
    ("resolved_endpoint", configResult (cr.resolvedEndpoint.map Value.str)),
    ("to_credential", configResult (cr.resolvedEndpoint.map fun _ => .str cr.dataLakeId))]

/-- Load a configuration and report it. -/
def configReport (file : Option ConfigFile) (vars : List (String × String)) : Value :=
  match loadConfig file vars with
  | .ok c => c.toValue
  | .error f => Value.object [("error", .str "Config"), ("message", .str f.message)]

end JobQuery
