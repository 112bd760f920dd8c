import JobQuery.Text.Debug

/-!
# Credentials

A request to the query service goes to a data lake's endpoint with a bearer token. Where
they come from is a provider's business:

* a *scripted* provider answers each call with the next of a list of answers (nothing once
  the list is used up), which stands for any provider computed on the spot;
* a *slow* provider does the same after a wait;
* a *fixed* provider holds one credential and hands it out only when a call is forced (a
  fixed credential has nothing newer to offer on a refresh).

A data lake pairs an identifier with the provider of its credentials. Providers live in a
table and a data lake names its provider by position, so two data lakes can share one.

Tokens are never shown: the debug form of a credential prints `<redacted>` in its place.
-/

namespace JobQuery

open Text

/-- An endpoint (host and optional port) and the token to present there. -/
structure Credential where
  endpoint : String
  token : String
  deriving Repr, BEq, Inhabited

/-- The debug form of a credential, token redacted. -/
def Credential.debug (c : Credential) : String :=
  "Credential \x7b endpoint: " ++ debugStr c.endpoint ++ ", token: \"<redacted>\" \x7d"

/-- A source of credentials. -/
inductive Provider where
  /-- The next answer of a list on every call. -/
  | scripted (answers : List (Option Credential))
  /-- The next answer of a list, after `delayMs` milliseconds. -/
  | slow (delayMs : Nat) (answers : List (Option Credential))
  /-- One credential, given only to forced calls. -/
  | fixed (credential : Credential)
  deriving Repr, Inhabited

namespace Provider

/-- Answer one call: the credential given (if any) and the provider as it is afterwards. -/
def answer (p : Provider) (force : Bool) : Option Credential × Provider :=
  match p with
  | .scripted [] => (none, p)
  | .scripted (a :: rest) => (a, .scripted rest)
  | .slow _ [] => (none, p)
  | .slow d (a :: rest) => (a, .slow d rest)
  | .fixed c => (if force then some c else none, p)

/-- The wait before an answer. -/
def delay : Provider → Nat
  | .slow d _ => d
  | _ => 0

/-- Whether calls to this provider are written to the call log. Fixed providers are
silent. -/
def logged : Provider → Bool
  | .fixed _ => false
  | _ => true

/-- The debug form of a provider. -/
def debug : Provider → String
  | .scripted _ => "FnProvider"
  | .slow .. => "SlowProvider"
  | .fixed c => "StaticCredentialProvider \x7b credential: " ++ c.debug ++ " \x7d"

end Provider

/-- A data lake: its identifier and the position of its provider in the provider table. -/
structure DataLake where
  id : String
  provider : Nat
  deriving Repr, BEq, Inhabited

/-- The debug form of a data lake, given the provider it names. -/
def DataLake.debug (lake : DataLake) (provider : Provider) : String :=
  "DataLakeCredential \x7b data_lake_id: " ++ debugStr lake.id ++ ", provider: " ++
    provider.debug ++ " \x7d"

/-- One call made to a provider, as the call log records it. -/
structure ProviderCall where
  lake : String
  force : Bool
  deriving Repr, BEq, Inhabited

end JobQuery
