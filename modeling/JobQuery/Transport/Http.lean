import JobQuery.Net.Url
import JobQuery.Auth.Context
import JobQuery.Transport.Request
import JobQuery.Log.Event
import JobQuery.Text.Debug

/-!
# The HTTP transport

Requests go out over HTTP to the endpoint of their data lake. For every request:

1. the credential cache resolves the endpoint and the token (first contact or refresh);
2. the URL is `scheme://endpoint` followed by the request's path, read as a URL; the
   resource id is added as one percent-encoded path segment, the query pairs in form
   encoding;
3. the token goes in an `Authorization: Bearer` header, which must be a valid header value;
4. only `http` and `https` URLs can be sent;
5. the connection to the URL's host is opened (its address dialled, or its name resolved
   first), which the client logs at debug level.

This model has no server to reach: step 5 always fails the way a refused connection fails.
Everything before it (credential errors, malformed URLs, paths that cannot take a segment,
headers that cannot be sent, schemes that cannot be sent) is decided here exactly.

The client itself is built once from its settings; a user agent that is not a valid header
value, or a machine with no trusted root certificate, stops it from being built.
-/

namespace JobQuery

open Net

/-- Settings of the HTTP client. -/
structure HttpSettings where
  /-- `https` in production; plain `http` for local servers. -/
  scheme : String := "https"
  connectTimeoutSecs : Nat := 10
  requestTimeoutSecs : Nat := 30
  userAgent : String := "kqx/0.1.0"
  deriving Repr, BEq, Inhabited

/-- Whether a text can be an HTTP header value: no control character other than a tab, and
no DEL. -/
def headerValueOk (s : String) : Bool :=
  s.toUTF8.toList.all fun b => (b.toNat ≥ 32 && b.toNat != 127) || b.toNat == 9

/-- The HTTP transport: its settings and the credential cache its requests resolve through. -/
structure HttpLink where
  settings : HttpSettings
  credentials : CredentialContext
  deriving Inhabited

/-- Build the client; `roots` is the number of root certificates the machine has to trust,
and without one the client cannot be built. -/
def HttpLink.make (settings : HttpSettings) (credentials : CredentialContext)
    (roots : Nat) : Except QueryError HttpLink :=
  if headerValueOk settings.userAgent && roots > 0 then .ok { settings, credentials }
  else .error (.configuration "the HTTP client refused to be born: builder error")

/-- The event of a built client that loaded its root certificates. -/
def rootsLoadedEvent (roots : Nat) : Event :=
  { level := .debug
    target := "rustls_platform_verifier::verification::others"
    message := "Loaded " ++ toString roots ++ " CA root certificates from the system" }

/-- The URL a request goes to at an endpoint. -/
def requestUrl (scheme endpoint : String) (r : ApiRequest) : Except QueryError Url := do
  let base := scheme ++ "://" ++ endpoint ++ r.path
  let url ← match Url.parse base with
    | .ok u => pure u
    | .error e => throw (.configuration ("invalid request url '" ++ base ++ "': " ++ e.message))
  let url ← match r.resourceId with
    | none => pure url
    | some id => match url.pushSegment id with
      | some u => pure u
      | none => throw (.configuration ("request url '" ++ base ++ "' cannot take a path segment"))
  return if r.query.isEmpty then url else url.appendPairs r.query

/-- The event of a first contact with a data lake. -/
def firstContactEvent (lakeId : String) : Event :=
  { level := .debug
    target := "kqx::auth::credential_context"
    message := "🔑 First contact with data lake " ++ lakeId ++ ", forcing credential" }

/-- The events of the HTTP client opening a connection for a URL: the connector names the
host it connects to, then dials the address when the host is an IP address (at the URL's
port, or the scheme's default one), or resolves the name first. -/
def connectEvents (url : Url) : List Event :=
  let hostText := match url.host with
    | some h => h.text
    | none => ""
  let port := url.port.getD (if url.scheme == "https" then 443 else 80)
  let dialing := fun (address : String) =>
    Event.mk .debug "hyper_util::client::legacy::connect::http"
      ("connecting to " ++ address ++ ":" ++ toString port) []
  let starting : Event :=
    { level := .debug
      target := "reqwest::connect"
      message := "starting new connection 'Some(" ++ Text.debugStr hostText ++ ")'" }
  let next : Event := match url.host with
    | some (.ipv4 a) => dialing (ipv4Text a)
    | some (.ipv6 ps) => dialing ("[" ++ ipv6Text ps ++ "]")
    | _ =>
      { level := .debug
        target := "hyper_util::client::legacy::connect::dns"
        message := "resolving host=" ++ Text.debugStr hostText }
  [starting, next]

/-- Send a request: its outcome, the events it emitted, and the link afterwards (the
credential cache may have changed). -/
def HttpLink.send (link : HttpLink) (r : ApiRequest) :
    Except QueryError ApiResponse × List Event × HttpLink :=
  let ctx := link.credentials
  let contact := match ctx.pick r.credential with
    | .ok l => if (ctx.cached l.id).isNone then [firstContactEvent l.id] else []
    | .error _ => []
  let (resolved, ctx) := ctx.resolve r.credential
  let link := { link with credentials := ctx }
  match resolved with
  | .error e => (.error e, contact, link)
  | .ok cred =>
    match requestUrl link.settings.scheme cred.endpoint r with
    | .error e => (.error e, contact, link)
    | .ok url =>
      let url := url.withoutCredentials
      let sending : Event :=
        { level := .debug
          target := "kqx::transport::http"
          message := "📡 " ++ r.method.name ++ " " ++ url.path.text }
      if !headerValueOk ("Bearer " ++ cred.token) then
        (.error (.transport "error sending request: builder error"), contact ++ [sending], link)
      else if url.scheme != "http" && url.scheme != "https" then
        (.error (.transport ("error sending request: builder error for url (" ++ url.text ++ ")")),
          contact ++ [sending], link)
      else
        (.error (.transport ("error sending request: error sending request for url (" ++
            url.text ++ ")")), contact ++ sending :: connectEvents url, link)

end JobQuery
