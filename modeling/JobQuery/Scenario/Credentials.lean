import JobQuery.Scenario.Calls
import JobQuery.Auth.Context

/-!
# Credential scenarios

Steps against a credential cache, each reported with its outcome and the provider calls it
made. Data lakes are named by their position in the scenario's list of lakes.
-/

namespace JobQuery

open Json

/-- One step against a credential cache. -/
inductive CredentialStep where
  | resolve (lake : Option Nat)
  | refresh (lake : Option Nat)
  /-- The default data lake's id. -/
  | defaultLake
  | resolveMany (lake : Option Nat) (count : Nat)
  | debugContext
  | debugLake (lake : Nat)
  | debugCredential (credential : Credential)
  deriving Inhabited

/-- A credential. -/
def Credential.toValue (c : Credential) : Value :=
  Value.object [("endpoint", .str c.endpoint), ("token", .str c.token)]

/-- A provider call. -/
def ProviderCall.toValue (c : ProviderCall) : Value :=
  Value.object [("lake", .str c.lake), ("force", .bool c.force)]

/-- Run one step against the cache, given the scenario's lakes. -/
def CredentialStep.perform (lakes : List DataLake) (ctx : CredentialContext) :
    CredentialStep → Value × CredentialContext
  | .resolve l =>
    let (r, ctx) := ctx.resolve (l.bind fun i => lakes[i]?)
    (renderResult Credential.toValue r, ctx)
  | .refresh l =>
    let (r, ctx) := ctx.refresh (l.bind fun i => lakes[i]?)
    (renderResult .bool r, ctx)
  | .defaultLake => (okValue (orNull (fun l => .str l.id) ctx.defaultLake), ctx)
  | .resolveMany l n =>
    let (rs, ctx) := ctx.resolveMany (l.bind fun i => lakes[i]?) n
    (.arr (rs.map (renderResult Credential.toValue)), ctx)
  | .debugContext =>
    match ctx.debug with
    | some s => (okValue (.str s), ctx)
    | none => (badInput "debug_context needs at most one cached lake", ctx)
  | .debugLake l =>
    match lakes[l]? with
    | some lake => (okValue (.str (lake.debug (ctx.providerOf lake))), ctx)
    | none => (badInput ("no lake " ++ toString l), ctx)
  | .debugCredential c => (okValue (.str c.debug), ctx)

/-- Run the steps in order: for each, its outcome and the provider calls it made. -/
def performCredentialSteps (lakes : List DataLake) :
    CredentialContext → List CredentialStep → List Value
  | _, [] => []
  | ctx, st :: rest =>
    let mark := ctx.log.length
    let (result, ctx) := st.perform lakes ctx
    Value.object [("result", result),
      ("provider_calls", .arr ((ctx.log.drop mark).map ProviderCall.toValue))] ::
      performCredentialSteps lakes ctx rest

end JobQuery
