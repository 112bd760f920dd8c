import JobQuery.Api.JobState

/-!
# Query errors

Everything that can go wrong talking to the query service, as one type with one
human-readable rendering (`QueryError.display`).

* `api` carries the HTTP status and the raw body of a rejected request, so callers can
  read the service's own error items (`QueryError.apiErrors`).
* `sessionFailed` wraps the error that stopped a session's initialization. Wrapping is
  idempotent (`QueryError.asSessionFailure`): an error that is already a session failure is
  not wrapped again.
* `root` looks through any number of session-failure layers; `status` and `apiErrors`
  answer for the root.
-/

namespace JobQuery

open Json

/-- An error of the query client. -/
inductive QueryError where
  /-- The client is set up wrongly (no credential, unusable URL, ...). -/
  | configuration (message : String)
  /-- An argument failed a check made before anything was sent. -/
  | validation (message : String)
  /-- Arguments that contradict each other. -/
  | invalidArgument (message : String)
  /-- The service answered with status 400 or above. -/
  | api (status : Nat) (body : Option Value)
  /-- The job was still in flight when the poll budget ran out. -/
  | jobTimeout (jobId : String) (lastState : JobState) (attempts : Nat)
  /-- The job ended in a state other than `DONE`. -/
  | jobFailed (jobId : String) (state : JobState)
  /-- A response did not have the expected shape. -/
  | parse (message : String)
  /-- The request could not be delivered or its answer not read. -/
  | transport (message : String)
  /-- The operation was cancelled. -/
  | cancelled
  /-- The session's initialization failed with the inner error. -/
  | sessionFailed (inner : QueryError)
  deriving Repr, Inhabited

namespace QueryError

/-- The human-readable text of an error. -/
def display : QueryError → String
  | .configuration m => "💀 configuration error: " ++ m
  | .validation m => "💀 validation error: " ++ m
  | .invalidArgument m => "💀 invalid argument: " ++ m
  | .api status _ => "💀 query service rejected the request with HTTP " ++ toString status
  | .jobTimeout id s n => "💀 job " ++ id ++ " still " ++ s.name ++ " after " ++ toString n ++ " attempts"
  | .jobFailed id s => "💀 job " ++ id ++ " failed with state " ++ s.name
  | .parse m => "💀 malformed response: " ++ m
  | .transport m => "💀 transport error: " ++ m
  | .cancelled => "🛑 operation cancelled"
  | .sessionFailed inner => "💀 query session failed to initialize: " ++ inner.display

instance : ToString QueryError := ⟨display⟩

/-- The name of the variant, as error reports label it. -/
def kind : QueryError → String
  | .configuration _ => "Configuration"
  | .validation _ => "Validation"
  | .invalidArgument _ => "InvalidArgument"
  | .api .. => "Api"
  | .jobTimeout .. => "JobTimeout"
  | .jobFailed .. => "JobFailed"
  | .parse _ => "Parse"
  | .transport _ => "Transport"
  | .cancelled => "Cancelled"
  | .sessionFailed _ => "SessionFailed"

/-- The error under all session-failure layers. -/
def root : QueryError → QueryError
  | .sessionFailed inner => inner.root
  | e => e

/-- The HTTP status of the root error, when it is a rejected request. -/
def status (e : QueryError) : Option Nat :=
  match e.root with
  | .api s _ => some s
  | _ => none

/-- The error as a session failure, wrapping it unless it already is one. -/
def asSessionFailure : QueryError → QueryError
  | .sessionFailed inner => .sessionFailed inner
  | e => .sessionFailed e

/-- Structural equality of errors. -/
def beq : QueryError → QueryError → Bool
  | .configuration a, .configuration b => a == b
  | .validation a, .validation b => a == b
  | .invalidArgument a, .invalidArgument b => a == b
  | .api s a, .api t b => s == t && a == b
  | .jobTimeout i s n, .jobTimeout j t m => i == j && s == t && n == m
  | .jobFailed i s, .jobFailed j t => i == j && s == t
  | .parse a, .parse b => a == b
  | .transport a, .transport b => a == b
  | .cancelled, .cancelled => true
  | .sessionFailed a, .sessionFailed b => beq a b
  | _, _ => false

instance : BEq QueryError := ⟨beq⟩

end QueryError

/-! ## Error items of a rejected request -/

/-- One entry of an error response body. -/
structure ApiErrorItem where
  errorCode : Option Int := none
  message : Option String := none
  context : Option String := none
  deriving Repr, BEq, Inhabited

namespace ApiErrorItem

/-- The item's one-line summary; a missing part is written `-`. -/
def display (item : ApiErrorItem) : String :=
  "ErrorCode: " ++ (item.errorCode.map toString).getD "-" ++
  ", Message: " ++ item.message.getD "-" ++
  ", Context: " ++ item.context.getD "-"

/-- The shape of an error item. -/
def shape : Shape :=
  { name := "ApiErrorItem"
    fields := [Field.of "errorCode" (Decoder.option Decoder.i32),
               Field.of "message" (Decoder.option Decoder.string),
               Field.of "context" (Decoder.option Decoder.string)] }

/-- An error item read from JSON. -/
def decoder : Decoder ApiErrorItem :=
  shape.decode fun slot => do
    let errorCode ← (slot "errorCode").optional Decoder.i32
    let message ← (slot "message").optional Decoder.string
    let context ← (slot "context").optional Decoder.string
    pure { errorCode, message, context }

/-- Decode every item of an array of objects. -/
def decodeAll : List Value → Except QueryError (List ApiErrorItem)
  | [] => .ok []
  | item :: rest =>
    match item with
    | .obj _ =>
      match decoder item with
      | .error e => .error (.parse e.message)
      | .ok a => (decodeAll rest).map (a :: ·)
    | _ => .error (.parse "error item is not an object")

/-- The error items of a response body: an array of objects, or one object standing for a
one-item list. -/
def parseList : Option Value → Except QueryError (List ApiErrorItem)
  | some (.arr items) => decodeAll items
  | some (.obj fields) =>
    match decoder (.obj fields) with
    | .ok a => .ok [a]
    | .error e => .error (.parse e.message)
  | some _ => .error (.parse "response is neither an error array nor an error object")
  | none => .error (.parse "error response body is null")

end ApiErrorItem

/-- The service's error items, when the root error is a rejected request. -/
def QueryError.apiErrors (e : QueryError) : Option (Except QueryError (List ApiErrorItem)) :=
  match e.root with
  | .api _ body => some (ApiErrorItem.parseList body)
  | _ => none

end JobQuery
