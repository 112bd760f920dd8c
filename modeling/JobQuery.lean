import JobQuery.Number.Binary64
import JobQuery.Json.Value
import JobQuery.Json.Print
import JobQuery.Text.Debug
import JobQuery.Json.Decode
import JobQuery.Api.JobState
import JobQuery.Api.Error
import JobQuery.Text.Space
import JobQuery.Api.Params
import JobQuery.Api.Wire
import JobQuery.Api.Requests
import JobQuery.Auth.Credential
import JobQuery.Auth.Context
import JobQuery.Auth.Tasks
import JobQuery.Cli.Grammar
import JobQuery.Cli.Similarity
import JobQuery.Cli.Scan
import JobQuery.Cli.Program
import JobQuery.Cli.Invocation
import JobQuery.Cli.Progress
import JobQuery.Cli.Table
import JobQuery.Cli.Sink
import JobQuery.Config.Setting
import JobQuery.Config.TomlDocument
import JobQuery.Text.Combinator
import JobQuery.Config.Toml
import JobQuery.Config.Env
import JobQuery.Config.Extract
import JobQuery.Transport.Request
import JobQuery.Text.Numeral
import JobQuery.Service.Fake
import JobQuery.Net.Percent
import JobQuery.Unicode.Table
import JobQuery.Net.IdnaMapping
import JobQuery.Net.Punycode
import JobQuery.Unicode.Combining
import JobQuery.Unicode.Normalization
import JobQuery.Unicode.Bidi
import JobQuery.Unicode.Joining
import JobQuery.Net.Idna
import JobQuery.Net.Host
import JobQuery.Net.Url
import JobQuery.Log.Event
import JobQuery.Transport.Http
import JobQuery.Transport.World
import JobQuery.Service.Calls
import JobQuery.Job.Driver
import JobQuery.Job.Pages
import JobQuery.Session.Config
import JobQuery.Config.App
import JobQuery.Session.Core
import JobQuery.Session.Tasks
import JobQuery.Cursor.Sequential
import JobQuery.Cursor.Split
import JobQuery.Report.Render
import JobQuery.Client.Core
import JobQuery.Client.Parallel
import JobQuery.Unicode.Alphanumeric
import JobQuery.Log.Filter
import JobQuery.Text.Path
import JobQuery.Cli.Run
import JobQuery.Json.Mask
import JobQuery.Json.Parse
import JobQuery.Main
import JobQuery.Scenario.Session
import JobQuery.Scenario.Calls
import JobQuery.Scenario.Blocking
import JobQuery.Scenario.Cli
import JobQuery.Scenario.Config
import JobQuery.Scenario.Credentials
import JobQuery.Scenario.Http
import JobQuery.Scenario.Progress
import JobQuery.Proofs.Run
import JobQuery.Proofs.FakeService
import JobQuery.Proofs.ObjectDecode
import JobQuery.Proofs.Polling
import JobQuery.Proofs.SessionStart
import JobQuery.Proofs.Pages
import JobQuery.Proofs.SessionSteps
import JobQuery.Proofs.SplitCursor
import JobQuery.Proofs.SplitFamily
import JobQuery.Proofs.SplitPages
import JobQuery.Proofs.CredentialTasks
import JobQuery.Proofs.Cancellation
import JobQuery.Proofs.TaskSteps
import JobQuery.Proofs.SessionTasks
import JobQuery.Proofs.DroppedTasks
import JobQuery.Proofs.DroppedReads
import JobQuery.Proofs.SequentialStream
import JobQuery.Proofs.Leases
import JobQuery.Proofs.SplitLeases
import JobQuery.Proofs.FanOutSteps
import JobQuery.Proofs.FanOutInvariant
import JobQuery.Proofs.FanOutEvents
import JobQuery.Proofs.FanOutReceiver
import JobQuery.Proofs.FanOutRun
import JobQuery.Proofs.FanOutSchedules
import JobQuery.Proofs.SequentialRelease
import JobQuery.Proofs.SplitDecline
import JobQuery.Proofs.FakePages
import JobQuery.Proofs.RequestUrl
import JobQuery.Proofs.SplitPieces
import JobQuery.Proofs.FanOutCarried
import JobQuery.Proofs.FanOutLeaves
import JobQuery.Proofs.QueryOutput
import JobQuery.Proofs.QueryRead
import JobQuery.Proofs.QueryRun
import JobQuery.Proofs.ParamsBuilders
import JobQuery.Proofs.TypedCalls
import JobQuery.Proofs.FakeTable
