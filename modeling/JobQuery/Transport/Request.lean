import JobQuery.Api.Error
import JobQuery.Auth.Credential

/-!
# Requests and responses

A request names a method, a path under the service root, an optional resource id (one job
id, kept apart from the path so that a `/`, `?` or `#` in it stays inside its own path
segment), the query pairs in order, an optional credential (otherwise the transport's
default one is used) and an optional JSON body.

A response is a status and an optional JSON body. Statuses are not judged by transports:
`ApiResponse.intoSuccess` is where 400 and above becomes an `api` error carrying the body.
-/

namespace JobQuery

open Json

/-- The three methods the query API uses. -/
inductive Method where
  | get
  | post
  | delete
  deriving Repr, BEq, DecidableEq, Inhabited

/-- The method's name on the wire. -/
def Method.name : Method → String
  | .get => "GET"
  | .post => "POST"
  | .delete => "DELETE"

/-- One request, before it knows which host it will land on. -/
structure ApiRequest where
  method : Method
  path : String
  resourceId : Option String := none
  query : List (String × String) := []
  credential : Option DataLake := none
  body : Option Value := none
  deriving Inhabited

/-- A status and the body, if the service sent one that reads as JSON other than `null`. -/
structure ApiResponse where
  status : Nat
  body : Option Value := none
  deriving Inhabited

/-- The body of a response below 400, or the `api` error of one at 400 or above. -/
def ApiResponse.intoSuccess (r : ApiResponse) : Except QueryError (Option Value) :=
  if r.status ≥ 400 then .error (.api r.status r.body) else .ok r.body

end JobQuery
