import JobQuery.Api.Error
import JobQuery.Text.Space

/-!
# Job parameters

What a job runs: the query text, an optional dialect and optional scheduling properties.

Builders never store a zero numeric property: zero means "not set", and a later zero does not
clear an earlier value. The wire form leaves out every unset field, and leaves out
`properties` entirely when none of them is set.
-/

namespace JobQuery

open Json

/-- Scheduling priority hint for a job. -/
inductive Priority where
  | immediate
  | foreground
  | background
  deriving Repr, BEq, DecidableEq, Inhabited

namespace Priority

/-- The lower-case name used on the wire. -/
def name : Priority → String
  | .immediate => "immediate"
  | .foreground => "foreground"
  | .background => "background"

/-- A priority read from its name. -/
def decoder : Decoder Priority :=
  Decoder.unitEnum [("immediate", .immediate), ("foreground", .foreground),
    ("background", .background)]

end Priority

/-- Optional job properties. -/
structure QueryProperties where
  priority : Option Priority := none
  timeoutMs : Option Nat := none
  maxWait : Option Nat := none
  defaultPageSize : Option Nat := none
  deriving Repr, BEq, Inhabited

namespace QueryProperties

/-- No property is set. -/
def isEmpty (p : QueryProperties) : Bool :=
  p.priority.isNone && p.timeoutMs.isNone && p.maxWait.isNone && p.defaultPageSize.isNone

/-- The wire form: only the set properties. -/
def wire (p : QueryProperties) : Value :=
  Value.object <|
    (p.priority.map fun x => [("priority", Value.str x.name)]).getD [] ++
    (p.timeoutMs.map fun x => [("timeoutMs", Value.nat x)]).getD [] ++
    (p.maxWait.map fun x => [("maxWait", Value.nat x)]).getD [] ++
    (p.defaultPageSize.map fun x => [("defaultPageSize", Value.nat x)]).getD []

/-- The shape of the properties object. -/
def shape : Shape :=
  { name := "QueryProperties"
    fields := [Field.of "priority" (Decoder.option Priority.decoder),
               Field.of "timeoutMs" (Decoder.option Decoder.u32),
               Field.of "maxWait" (Decoder.option Decoder.u32),
               Field.of "defaultPageSize" (Decoder.option Decoder.u32)] }

/-- Properties read from the wire. -/
def decoder : Decoder QueryProperties :=
  shape.decode fun slot => do
    let priority ← (slot "priority").optional Priority.decoder
    let timeoutMs ← (slot "timeoutMs").optional Decoder.u32
    let maxWait ← (slot "maxWait").optional Decoder.u32
    let defaultPageSize ← (slot "defaultPageSize").optional Decoder.u32
    pure { priority, timeoutMs, maxWait, defaultPageSize }

end QueryProperties

/-- The `params` object of a job. -/
structure QueryParams where
  query : String
  dialect : Option String := none
  properties : Option QueryProperties := none
  deriving Repr, BEq, Inhabited

namespace QueryParams

/-- Parameters for `query`; a blank query is refused. -/
def make (query : String) : Except QueryError QueryParams :=
  if Text.isBlank query then .error (.validation "mandatory property 'query' can't be empty")
  else .ok { query }

/-- The properties, created empty when absent. -/
def props (p : QueryParams) : QueryProperties := p.properties.getD {}

/-- Set the dialect. -/
def withDialect (p : QueryParams) (dialect : String) : QueryParams :=
  { p with dialect := some dialect }

/-- Set the priority. -/
def withPriority (p : QueryParams) (priority : Priority) : QueryParams :=
  { p with properties := some { p.props with priority := some priority } }

/-- Set the job timeout; zero changes nothing. -/
def withTimeoutMs (p : QueryParams) (ms : Nat) : QueryParams :=
  if ms > 0 then { p with properties := some { p.props with timeoutMs := some ms } } else p

/-- Set the result wait; zero changes nothing. -/
def withMaxWait (p : QueryParams) (wait : Nat) : QueryParams :=
  if wait > 0 then { p with properties := some { p.props with maxWait := some wait } } else p

/-- Set the default page size; zero changes nothing. -/
def withDefaultPageSize (p : QueryParams) (size : Nat) : QueryParams :=
  if size > 0 then { p with properties := some { p.props with defaultPageSize := some size } }
  else p

/-- Whether the properties are absent or all unset. -/
def noProperties (p : QueryParams) : Bool :=
  match p.properties with
  | none => true
  | some props => props.isEmpty

/-- The wire form: `query`, then `dialect` and `properties` when set. -/
def wire (p : QueryParams) : Value :=
  Value.object <|
    [("query", Value.str p.query)] ++
    (p.dialect.map fun d => [("dialect", Value.str d)]).getD [] ++
    (if p.noProperties then [] else [("properties", p.props.wire)])

/-- The shape of a params object. -/
def shape : Shape :=
  { name := "QueryParams"
    fields := [Field.of "query" Decoder.string,
               Field.of "dialect" (Decoder.option Decoder.string),
               Field.of "properties" (Decoder.option QueryProperties.decoder)] }

/-- Parameters read from the wire. -/
def decoder : Decoder QueryParams :=
  shape.decode fun slot => do
    let query ← (slot "query").required Decoder.string
    let dialect ← (slot "dialect").optional Decoder.string
    let properties ← (slot "properties").optional QueryProperties.decoder
    pure { query, dialect, properties }

end QueryParams

end JobQuery
