import JobQuery.Job.Pages

/-!
# Session settings

The knobs of one session: the page size (also sent as the job's default page size), the
polling delay and budget, and the optional dialect and priority passed to the job. Every
field has a default, so `{}` reads as the defaults; a page size of 0 reads fine but is
refused by `validate`.
-/

namespace JobQuery

open Json

/-- The settings of a session. -/
structure SessionConfig where
  pageSize : Nat := 400
  pollDelayMs : Nat := 200
  maxPollAttempts : Nat := 10
  dialect : Option String := none
  priority : Option Priority := none
  deriving Repr, BEq, Inhabited

namespace SessionConfig

/-- A page size of zero is refused. -/
def validate (c : SessionConfig) : Except QueryError Unit :=
  if c.pageSize == 0 then .error (.validation "page_size must be greater than zero") else .ok ()

/-- The polling policy these settings ask for. -/
def pollPolicy (c : SessionConfig) : PollPolicy :=
  { delayMs := c.pollDelayMs, maxAttempts := c.maxPollAttempts }

/-- The shape of the settings object. -/
def shape : Shape :=
  { name := "SessionConfig"
    fields := [Field.of "page_size" Decoder.u32,
               Field.of "poll_delay_ms" Decoder.u64,
               Field.of "max_poll_attempts" Decoder.u32,
               Field.of "dialect" (Decoder.option Decoder.string),
               Field.of "priority" (Decoder.option Priority.decoder)] }

/-- Settings read from JSON, each missing field at its default. -/
def decoder : Decoder SessionConfig :=
  shape.decode fun slot => do
    let pageSize ← (slot "page_size").withDefault Decoder.u32 400
    let pollDelayMs ← (slot "poll_delay_ms").withDefault Decoder.u64 200
    let maxPollAttempts ← (slot "max_poll_attempts").withDefault Decoder.u32 10
    let dialect ← (slot "dialect").withDefault (Decoder.option Decoder.string) none
    let priority ← (slot "priority").withDefault (Decoder.option Priority.decoder) none
    pure { pageSize, pollDelayMs, maxPollAttempts, dialect, priority }

/-- The job parameters a session with these settings sends for `sql`. -/
def params (c : SessionConfig) (sql : String) : Except QueryError QueryParams := do
  c.validate
  let p ← QueryParams.make sql
  let p := p.withDefaultPageSize c.pageSize
  let p := match c.dialect with
    | some d => p.withDialect d
    | none => p
  return match c.priority with
    | some pr => p.withPriority pr
    | none => p

end SessionConfig

end JobQuery
