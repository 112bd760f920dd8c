import JobQuery.Report.Render

/-!
# The client

A client opens sessions over one transport and keeps track of them and of their cursors.
Sessions and cursors are numbered in the order they were made; a cursor remembers the
session it reads.

Shutting the client down cancels every session it opened (a standalone session, opened
outside the client, is not touched) and refuses to open new ones with `cancelled`.
-/

namespace JobQuery

open Json

/-- A cursor of the client and the session it reads. -/
inductive CursorEntry where
  | sequential (session : Nat) (cursor : SequentialCursor)
  | split (session : Nat) (cursor : SplitCursor)
  /-- Dropped, or consumed by an operation that took it over. -/
  | gone (session : Nat)
  deriving Inhabited

/-- The session a cursor reads. -/
def CursorEntry.session : CursorEntry → Nat
  | .sequential s _ => s
  | .split s _ => s
  | .gone s => s

/-- A client: its sessions and their cursors. -/
structure Client where
  /-- The service sessions use unless told otherwise. -/
  service : QueryService := {}
  shutDown : Bool := false
  sessions : Array Session := #[]
  cursors : Array CursorEntry := #[]
  deriving Inhabited

/-- Operations on a client. -/
abbrev InClient := StateT Client Run

namespace Client

/-- Open a session for `sql`; refused after shutdown (unless standalone) and when the
settings or the query are. Its number. -/
def openSession (sql : String) (config : SessionConfig) (service : QueryService)
    (standalone : Bool) : InClient (Except QueryError Nat) := do
  let c ← get
  if c.shutDown && !standalone then return .error .cancelled
  match Session.make sql config service standalone with
  | .error e => return .error e
  | .ok s =>
    set { c with sessions := c.sessions.push s }
    return .ok c.sessions.size

/-- Run an operation on session `i`; `none` when there is no such session. -/
def onSession (i : Nat) (act : InSession α) : InClient (Option α) := do
  let c ← get
  match c.sessions[i]? with
  | none => return none
  | some s =>
    let (a, s) ← StateT.lift (act.run s)
    modify fun c => { c with sessions := c.sessions.set! i s }
    return some a

/-- Cancel every session of the client and refuse new ones. -/
def shutdown : InClient Unit :=
  modify fun c =>
    { c with
      shutDown := true
      sessions := c.sessions.map fun s => if s.standalone then s else { s with cancelled := true } }

/-- A new cursor on session `i` (attaching a consumer): its number. -/
def newCursor (i : Nat) (splittable : Bool) : InClient (Option Nat) := do
  match ← onSession i Session.attach with
  | none => return none
  | some () =>
    let c ← get
    let entry := if splittable then CursorEntry.split i {} else .sequential i {}
    set { c with cursors := c.cursors.push entry }
    return some c.cursors.size

/-- The cursor numbered `k`. -/
def cursor? (k : Nat) : InClient (Option CursorEntry) := do
  return (← get).cursors[k]?

/-- Replace the cursor numbered `k`. -/
def setCursor (k : Nat) (entry : CursorEntry) : InClient Unit :=
  modify fun c => { c with cursors := c.cursors.set! k entry }

/-- Add a cursor: its number. -/
def addCursor (entry : CursorEntry) : InClient Nat :=
  modifyGet fun c => (c.cursors.size, { c with cursors := c.cursors.push entry })

/-- Drop a cursor: a cursor still holding its lease releases it. -/
def dropCursor (k : Nat) : InClient Unit := do
  match ← cursor? k with
  | some (.sequential s c) =>
    setCursor k (.gone s)
    if c.leased then let _ ← onSession s Session.detach
  | some (.split s c) =>
    setCursor k (.gone s)
    if c.leased then let _ ← onSession s Session.detach
  | _ => pure ()

end Client

end JobQuery
