import Danube.Endpoint

/-!
# The tasks of one client

A pool holds the endpoints that a `Producer` or `Consumer` built, the coroutines that register
them, and their health tasks. Every step is one uninterrupted piece of one task.
-/

namespace Danube

open Async

/-- The task that wrote an entry. -/
inductive Actor
  | app
  | child (ref : Nat)
  | send (call : Nat)
  | health (task : Nat)
  | receive (task : Nat)
  deriving DecidableEq, Repr

/-- An event, the endpoint it is about and the task that it happened in. -/
structure Entry where
  actor : Actor
  ref : Nat
  event : Event
  deriving DecidableEq, Repr

/-- A coroutine that `asyncio.gather` or its caller runs: `create()` or `subscribe()` of one
endpoint. -/
inductive Child
  | scheduled
  | started (o : Outcome Registering Nat Error)
  deriving DecidableEq, Repr

structure Pool (ρ : Type) where
  client : Client
  endpoints : List (Endpoint ρ) := []
  children : List Child := []
  loops : List HealthLoop := []
  trace : List Entry := []

namespace Pool

variable {ρ κ α : Type}

def scope (p : Pool ρ) (ref : Nat) : Option (Scope ρ) :=
  p.endpoints[ref]?.map fun self => { client := p.client, loops := p.loops, ref := ref, self := self }

/-- Writes back what a piece did to its endpoint. -/
def commit (p : Pool ρ) (actor : Actor) (ran : Piece ρ κ α) : Pool ρ :=
  { p with
    client := ran.state.client
    endpoints := p.endpoints.set ran.state.ref ran.state.self
    loops := ran.state.loops
    trace := p.trace ++ ran.log.map fun e => ⟨actor, ran.state.ref, e⟩ }

/-- New endpoints, whose registration is not yet started. -/
def alloc (p : Pool ρ) (es : List (Endpoint ρ)) : Pool ρ :=
  { p with
    endpoints := p.endpoints ++ es
    children := p.children ++ es.map fun _ => .scheduled }

def childPiece (role : Role ρ) (env : Env) (s : Scope ρ) :
    Child → Wake → Option (Piece ρ Registering Nat)
  | .scheduled, .start => some (Endpoint.create role env s)
  | .started (.await k), w => Endpoint.resume role env s k w
  | _, _ => none

/-- One piece of the coroutine that registers `ref`. -/
def child (role : Role ρ) (p : Pool ρ) (ref : Nat) (w : Wake) (env : Env) : Option (Pool ρ) := do
  let c ← p.children[ref]?
  let s ← p.scope ref
  let ran ← childPiece role env s c w
  return { p.commit (.child ref) ran with children := p.children.set ref (.started ran.next) }

def setStop (p : Pool ρ) (ref : Nat) (b : Bool) : Pool ρ :=
  { p with endpoints := p.endpoints.modify ref fun e => { e with stopEvent := b } }

def setLoop (p : Pool ρ) (task : Nat) (l : HealthLoop) : Pool ρ :=
  { p with loops := p.loops.set task l }

def write (p : Pool ρ) (actor : Actor) (ref : Nat) (log : List Event) : Pool ρ :=
  { p with trace := p.trace ++ log.map fun e => ⟨actor, ref, e⟩ }

/-- The head of the `while` loop of a health task. -/
def healthTurn (p : Pool ρ) (task : Nat) (l : HealthLoop) (stopEvent : Bool) (env : Env) : Pool ρ :=
  let (c, l', call) := l.turn env.call stopEvent p.client
  ({ p with client := c }.setLoop task l').write (.health task) l.owner (call.toList.map .rpc)

/-- One piece of a health task. -/
def health (p : Pool ρ) (task : Nat) (w : Wake) (env : Env) : Option (Pool ρ) := do
  let l ← p.loops[task]?
  let e ← p.endpoints[l.owner]?
  match l.position, w with
  | .scheduled, .start | .sleeping, .timer => some (p.healthTurn task l e.stopEvent env)
  | .polling _, .reply (.ok (.health .close)) =>
    some (((p.setStop l.owner true).setLoop task { l with position := .finished .closed }).write
      (.health task) l.owner [.closed l.clientId])
  | .polling _, .reply (.ok (.health _)) => some (p.setLoop task { l with position := .sleeping })
  | .polling _, .reply (.error _) =>
    some (p.setLoop task { l with position := .finished .failed })
  | _, _ => none

/-- `stop()` of one endpoint. -/
def stop (p : Pool ρ) (ref : Nat) : Pool ρ :=
  match p.endpoints[ref]? with
  | none => p
  | some e =>
    { p with
      endpoints := p.endpoints.set ref e.stop
      loops := match e.healthTask with
        | some task => p.loops.modify task HealthLoop.cancel
        | none => p.loops
      trace := p.trace ++ [⟨.app, ref, .stopped⟩] }

end Pool

/-- A `gather` that is awaited: the endpoints of its coroutines and the first exception. -/
structure Gather where
  refs : List Nat
  failure : Option Error := none
  deriving DecidableEq, Repr

/-- `gather` keeps the exception of the coroutine that raised first. -/
def Gather.note (g : Gather) (ref : Nat) (c : Option Child) : Gather :=
  match c with
  | some (.started (.raise e)) => if ref ∈ g.refs ∧ g.failure = none then { g with failure := some e } else g
  | _ => g

def Gather.allReturned (g : Gather) (children : List Child) : Bool :=
  g.refs.all fun r => match children[r]? with
    | some (.started (.ret _)) => true
    | _ => false

end Danube
