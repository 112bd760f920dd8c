import JobQuery.Auth.Credential
import JobQuery.Api.Error

/-!
# The credential cache

Every request asks "which endpoint, which token?". The context answers from a cache keyed by
data-lake id, in front of the providers:

* **First contact** with a data lake calls its provider with `force = true`. A credential is
  cached (endpoint and token); nothing is an error that is *not* cached, so the next request
  tries again.
* **Every later request** first refreshes: the provider is called with `force = false`, and
  a credential it gives replaces the cached token only, never the endpoint.
* The entry for a lake id is created as soon as a request or a refresh names it, even if the
  first contact then fails; it is the debug form that shows this.

Several resolves running at once on one slow provider (`resolveMany`) behave as the
single-flight rules say: one first contact at a time (the next waiter tries again after a
failure), and while one refresh is waiting on the provider the others skip refreshing and
take the cached token.

The context also owns the provider table and the log of provider calls.
-/

namespace JobQuery

open Text

/-- A cached credential: the endpoint of the first contact and the newest token. -/
structure CachedCredential where
  endpoint : String
  token : String
  deriving Repr, BEq, Inhabited

/-- The credential a cached entry stands for. -/
def CachedCredential.credential (cc : CachedCredential) : Credential :=
  { endpoint := cc.endpoint, token := cc.token }

/-- The credential cache with its providers. -/
structure CredentialContext where
  /-- The data lake used by requests that name none. -/
  defaultLake : Option DataLake := none
  /-- The providers, addressed by position. -/
  providers : List Provider := []
  /-- One entry per data-lake id seen, in first-seen order. -/
  slots : List (String × Option CachedCredential) := []
  /-- The provider calls made so far, oldest first. -/
  log : List ProviderCall := []
  deriving Inhabited

namespace CredentialContext

-- ---------------------------------------------------------------------------
-- The cache
-- ---------------------------------------------------------------------------

/-- The provider of a data lake. -/
def providerOf (c : CredentialContext) (lake : DataLake) : Provider :=
  c.providers.getD lake.provider default

/-- The lake a request uses: its own, else the default. -/
def pick (c : CredentialContext) (lake : Option DataLake) : Except QueryError DataLake :=
  match lake.orElse fun _ => c.defaultLake with
  | some l => .ok l
  | none => .error (.configuration
      "no credential on the request and no default credential configured")

/-- Make sure the lake id has an entry. -/
def touch (c : CredentialContext) (id : String) : CredentialContext :=
  if c.slots.any (·.1 == id) then c else { c with slots := c.slots ++ [(id, none)] }

/-- The cached credential of a lake id. -/
def cached (c : CredentialContext) (id : String) : Option CachedCredential :=
  ((c.slots.find? (·.1 == id)).map Prod.snd).join

/-- Store a cached credential for a lake id. -/
def store (c : CredentialContext) (id : String) (cc : CachedCredential) : CredentialContext :=
  { c with slots := c.slots.map fun s => if s.1 == id then (id, some cc) else s }

/-- Call a lake's provider, logging the call unless the provider is silent. -/
def call (c : CredentialContext) (lake : DataLake) (force : Bool) :
    Option Credential × CredentialContext :=
  let p := c.providerOf lake
  let (answer, p') := p.answer force
  let c := { c with providers := c.providers.set lake.provider p' }
  let c := if p.logged then { c with log := c.log ++ [{ lake := lake.id, force }] } else c
  (answer, c)

/-- First contact: a forced call whose credential is cached. -/
def firstContact (c : CredentialContext) (lake : DataLake) :
    Except QueryError Credential × CredentialContext :=
  match c.call lake true with
  | (none, c) => (.error (.configuration
      ("credential provider returned nothing for data lake " ++ lake.id)), c)
  | (some cr, c) => (.ok cr, c.store lake.id { endpoint := cr.endpoint, token := cr.token })

/-- A refresh of a cached lake: an unforced call whose token, if any, replaces the cached
one. Whether a token came. -/
def renew (c : CredentialContext) (lake : DataLake) (cc : CachedCredential) :
    Bool × CredentialContext :=
  match c.call lake false with
  | (none, c) => (false, c)
  | (some cr, c) => (true, c.store lake.id { cc with token := cr.token })

-- ---------------------------------------------------------------------------
-- Resolving and refreshing
-- ---------------------------------------------------------------------------

/-- The credential for a request: first contact, or a refresh then the cached credential. -/
def resolve (c : CredentialContext) (lake : Option DataLake) :
    Except QueryError Credential × CredentialContext :=
  match c.pick lake with
  | .error e => (.error e, c)
  | .ok l =>
    let c := c.touch l.id
    match c.cached l.id with
    | none => c.firstContact l
    | some cc =>
      let (_, c) := c.renew l cc
      (.ok ((c.cached l.id).getD cc).credential, c)

/-- Refresh a lake's token; `false` without a call when the lake was never resolved. -/
def refresh (c : CredentialContext) (lake : Option DataLake) :
    Except QueryError Bool × CredentialContext :=
  match c.pick lake with
  | .error e => (.error e, c)
  | .ok l =>
    let c := c.touch l.id
    match c.cached l.id with
    | none => (.ok false, c)
    | some cc =>
      let (b, c) := c.renew l cc
      (.ok b, c)

/-- `n` resolves of a lake whose provider answers at once: one after the other. -/
def resolveInTurn (c : CredentialContext) (lake : Option DataLake) :
    Nat → List (Except QueryError Credential) × CredentialContext
  | 0 => ([], c)
  | n + 1 =>
    let (r, c) := c.resolve lake
    let (rs, c) := resolveInTurn c lake n
    (r :: rs, c)

/-- `n` resolves of a cached lake whose provider takes time, all at once: the first
refreshes, the others take the cached token while it waits, and it answers with the token
the refresh leaves. -/
def renewTogether (c : CredentialContext) (l : DataLake) (n : Nat) :
    List (Except QueryError Credential) × CredentialContext :=
  match n, c.cached l.id with
  | 0, _ => ([], c)
  | _, none => ([], c)
  | n + 1, some cc =>
    let (_, c') := c.renew l cc
    (.ok ((c'.cached l.id).getD cc).credential :: List.replicate n (.ok cc.credential), c')

/-- `n` resolves of a lake whose provider takes time, all at once, against an empty entry:
the waiters make first contact in turn until one succeeds; it answers with its credential and
the rest go on as `renewTogether`. -/
def contactTogether (c : CredentialContext) (l : DataLake) :
    Nat → List (Except QueryError Credential) × CredentialContext
  | 0 => ([], c)
  | n + 1 =>
    match c.firstContact l with
    | (.error e, c) =>
      let (rs, c) := contactTogether c l n
      (.error e :: rs, c)
    | (.ok cr, c) =>
      let (rs, c) := c.renewTogether l n
      (.ok cr :: rs, c)

/-- `n` resolves started together, answered in the order they were started. -/
def resolveMany (c : CredentialContext) (lake : Option DataLake) (n : Nat) :
    List (Except QueryError Credential) × CredentialContext :=
  match c.pick lake with
  | .error e => (List.replicate n (.error e), c)
  | .ok l =>
    if (c.providerOf l).delay == 0 then c.resolveInTurn (some l) n
    else
      let c := c.touch l.id
      match c.cached l.id with
      | none => c.contactTogether l n
      | some _ => c.renewTogether l n

-- ---------------------------------------------------------------------------
-- Debug form
-- ---------------------------------------------------------------------------

/-- The debug form of one entry. -/
def slotDebug (s : String × Option CachedCredential) : String :=
  debugStr s.1 ++ ": OnceCell \x7b value: " ++
    (match s.2 with
     | none => "None"
     | some cc => "Some(CachedCredential \x7b endpoint: " ++ debugStr cc.endpoint ++ ", .. \x7d)") ++
    " \x7d"

/-- The debug form of the context; `none` once it holds more than one entry, whose order
would not be fixed. -/
def debug (c : CredentialContext) : Option String :=
  if c.slots.length > 1 then none
  else
    let default := match c.defaultLake with
      | none => "None"
      | some l => "Some(" ++ l.debug (c.providerOf l) ++ ")"
    some ("CredentialContext \x7b default_credential: " ++ default ++
      ", slots: Mutex \x7b data: \x7b" ++ String.intercalate ", " (c.slots.map slotDebug) ++
      "\x7d \x7d \x7d")

end CredentialContext

end JobQuery
