import Danube.Event
import Danube.Async.Journal
import Danube.Async.Coroutine

/-!
# Registration with a broker

`TopicProducer.create` and `TopicConsumer.subscribe` are one retry loop around one attempt. They
differ in the request they send and in the schema, which only a producer resolves.
-/

namespace Danube

open Async

/-- The fields that `TopicProducer` and `TopicConsumer` share. `own` holds the others. -/
structure Endpoint (ρ : Type) where
  topic : String
  name : String
  id : Nat := 0
  requestId : Nat := 1
  retryManager : RetryManager
  stub : Option RpcConnection := none
  stopEvent : Bool := false
  healthTask : Option Nat := none
  brokerAddr : String
  connectUrl : String
  proxy : Bool := false
  own : ρ
  deriving Repr

/-- What a method of the endpoint `ref` sees: its own fields, the client, and the health tasks. -/
structure Scope (ρ : Type) where
  client : Client
  loops : List HealthLoop
  ref : Nat
  self : Endpoint ρ

/-- In what `create` and `subscribe` differ. -/
structure Role (ρ : Type) where
  clientType : ClientType
  request : Endpoint ρ → Request
  alreadyExists : String
  schemaRef : ρ → Option SchemaReference
  setSchema : ρ → SchemaInfo → ρ
  registers : ∀ e, (∃ r, request e = .createProducer r) ∨ ∃ r, request e = .subscribe r

/-- Where `create()` or `subscribe()` is suspended. `attempts` is the loop's counter. -/
inductive Registering
  | lookup (attempts : Nat) (call : Call)
  | backoff (attempts : Nat)
  | request (attempts : Nat) (addr : BrokerAddress) (call : Call)
  | latest (attempts : Nat) (call : Call)
  | pinned (attempts : Nat) (call : Call)
  deriving DecidableEq, Repr

/-- The RPC it awaits, if it awaits one. -/
def Registering.pending : Registering → Option Call
  | .lookup _ call | .request _ _ call | .latest _ call | .pinned _ call => some call
  | .backoff _ => none

abbrev Piece (ρ κ α : Type) := Ran (Scope ρ) Event κ α Error

namespace Endpoint

variable {ρ α : Type} (role : Role ρ) (env : Env)

def address (e : Endpoint ρ) : BrokerAddress := ⟨e.connectUrl, e.brokerAddr, e.proxy⟩

def moveTo (e : Endpoint ρ) (addr : BrokerAddress) : Endpoint ρ :=
  { e with brokerAddr := addr.brokerUrl, connectUrl := addr.connectUrl, proxy := addr.proxy }

/-! ## The pieces -/

def backoff (n : Nat) (s : Scope ρ) : Piece ρ Registering α :=
  ⟨s, [.backoff (s.self.retryManager.calculateBackoff (n - 1) env.draw)], .await (.backoff n)⟩

/-- `_lookup_new_broker` before the sleep of the `n`-th retry. Its exceptions are swallowed. -/
def retry (n : Nat) (s : Scope ρ) : Piece ρ Registering α :=
  match s.client.lookupTopic env.lookup s.self.connectUrl s.self.topic with
  | (c, .ok call) => ⟨{ s with client := c }, [.rpc call], .await (.lookup n call)⟩
  | (c, .error _) => backoff env n { s with client := c }

/-- The part of the retry loop after an attempt raised. -/
def failed (n : Nat) (err : Error) (s : Scope ρ) : Piece ρ Registering α :=
  if RetryManager.isRetryable err then
    if n + 1 > s.self.retryManager.maxRetries then ⟨s, [.notCreated err], .raise err⟩
    else retry env (n + 1) s
  else ⟨s, [.notCreated err], .raise err⟩

def connect (conn : RpcConnection) (c : Client) (s : Scope ρ) : Scope ρ :=
  { s with client := c, self := { s.self with stub := some conn } }

def countRequest (s : Scope ρ) : Scope ρ :=
  { s with self := { s.self with requestId := s.self.requestId + 1 } }

/-- `_try_create` or `_try_subscribe`, up to its RPC. -/
def attempt (n : Nat) (s : Scope ρ) : Piece ρ Registering α :=
  match s.client.getConnection env.call s.self.brokerAddr s.self.connectUrl with
  | (c, .error e) => failed env n e { s with client := c }
  | (c, .ok conn) =>
    Ran.after [.connected s.self.address conn] <|
      match c.attachTokenIfNeeded env.call with
      | .error e => failed env n e (countRequest (connect conn c s))
      | .ok metadata =>
        let call : Call := ⟨conn, role.request s.self,
          insertProxyHeader metadata s.self.brokerAddr s.self.proxy⟩
        ⟨countRequest (connect conn c s), [.rpc call], .await (.request n s.self.address call)⟩

/-- `create()` or `subscribe()`, up to where it first waits. -/
def create (s : Scope ρ) : Piece ρ Registering α :=
  Ran.after [.creating] <|
    match s.client.lookupTopic env.lookup s.self.connectUrl s.self.topic with
    | (c, .ok call) => ⟨{ s with client := c }, [.rpc call], .await (.lookup 0 call)⟩
    | (c, .error _) => attempt role env 0 { s with client := c }

/-- The initial lookup leads to the first attempt, a later one to the sleep. -/
def afterLookup (n : Nat) (s : Scope ρ) : Piece ρ Registering α :=
  if n = 0 then attempt role env 0 s else backoff env n s

def unresolved (n : Nat) (err : Error) (s : Scope ρ) : Piece ρ Registering Nat :=
  (failed env n err s).after [.unresolved err]

def returnId (s : Scope ρ) : Piece ρ Registering Nat := ⟨s, [.created s.self.id], .ret s.self.id⟩

def resolved (info : SchemaInfo) (s : Scope ρ) : Piece ρ Registering Nat :=
  returnId { s with self := { s.self with own := role.setSchema s.self.own info } }

/-- `_resolve_schema_metadata`, up to its first RPC. -/
def resolveSchema (n : Nat) (s : Scope ρ) : Piece ρ Registering Nat :=
  match role.schemaRef s.self.own with
  | none => returnId s
  | some ref =>
    match s.client.getLatestSchema env.call ref.subject with
    | (c, .error e) => unresolved env n e { s with client := c }
    | (c, .ok call) => ⟨{ s with client := c }, [.rpc call], .await (.latest n call)⟩

/-- `_resolve_schema_metadata` once the latest version is known. -/
def latestSchema (n : Nat) (ref : SchemaReference) (latest : SchemaInfo) (s : Scope ρ) :
    Piece ρ Registering Nat :=
  match ref.versionRef with
  | some (.pinnedVersion version) =>
    if version.toNat > latest.version then
      unresolved env n (.value s!"pinned version {version} does not exist for subject {ref.subject}") s
    else if version.toNat = latest.version then resolved role latest s
    else
      match s.client.getSchemaVersion env.call latest.schemaId (some version.toNat) with
      | (c, .error e) => unresolved env n e { s with client := c }
      | (c, .ok call) => ⟨{ s with client := c }, [.rpc call], .await (.pinned n call)⟩
  | some (.minVersion version) =>
    if latest.version < version.toNat then
      unresolved env n
        (.value s!"latest version {latest.version} does not meet minimum {version} for subject {ref.subject}") s
    else resolved role latest s
  | _ => resolved role latest s

def healthLoop (conn : RpcConnection) (s : Scope ρ) : HealthLoop where
  owner := s.ref
  conn := conn
  connectUrl := s.self.connectUrl
  brokerAddr := s.self.brokerAddr
  proxy := s.self.proxy
  clientType := role.clientType
  clientId := s.self.id

/-- `start_health_check`, whose task becomes the endpoint's health task. -/
def startHealthCheck (conn : RpcConnection) (c : Client) (s : Scope ρ) : Scope ρ :=
  { s with
    client := c
    loops := s.loops ++ [healthLoop role conn s]
    self := { s.self with healthTask := some s.loops.length } }

/-- The rest of the attempt, once the `producer_id` or `consumer_id` is set. -/
def checkHealth (n : Nat) (s : Scope ρ) : Piece ρ Registering Nat :=
  match s.client.getConnection env.health s.self.brokerAddr s.self.connectUrl with
  | (c, .error e) => failed env n e { s with client := c }
  | (c, .ok conn) =>
    (resolveSchema role env n (startHealthCheck role conn c s)).after
      [.healthStarted (healthLoop role conn s)]

def withId (id : Nat) (s : Scope ρ) : Scope ρ := { s with self := { s.self with id := id } }

/-- The broker answered with `id` the request that was issued with the address fields `addr`. -/
def registered (n : Nat) (addr : BrokerAddress) (id : Nat) (s : Scope ρ) :
    Piece ρ Registering Nat :=
  (checkHealth role env n (withId id s)).after [.registered addr id]

def registerError (err : RpcError) : Error :=
  if err.code = .alreadyExists then .unrecoverable (role.alreadyExists ++ err.text) else .rpc err

/-- What a suspended `create()` or `subscribe()` does when it is woken. -/
def resume (s : Scope ρ) : Registering → Wake → Option (Piece ρ Registering Nat)
  | .lookup n _, .reply (.ok (.topicLookup response)) =>
    match Client.handleLookup response with
    | .ok addr =>
      some ((afterLookup role env n { s with self := s.self.moveTo addr }).after [.moved addr])
    | .error _ => some (afterLookup role env n s)
  | .lookup n _, .reply (.error _) => some (afterLookup role env n s)
  | .backoff n, .timer => some (attempt role env n s)
  | .request n addr _, .reply (.ok (.registered id)) => some (registered role env n addr id s)
  | .request n _ _, .reply (.error err) => some (failed env n (registerError role err) s)
  | .latest n _, .reply (.ok (.schema latest)) =>
    (role.schemaRef s.self.own).map fun ref => latestSchema role env n ref latest s
  | .latest n _, .reply (.error err) => some (unresolved env n (.rpc err) s)
  | .pinned _ _, .reply (.ok (.schema pinned)) => some (resolved role pinned s)
  | .pinned n _, .reply (.error err) => some (unresolved env n (.rpc err) s)
  | _, _ => none

/-- What wakes a suspended `create()` or `subscribe()`, and the piece that it runs then. -/
inductive Resumption (s : Scope ρ) : Registering → Wake → Piece ρ Registering Nat → Prop
  | moved (n : Nat) (call : Call) (response : TopicLookupResponse) (addr : BrokerAddress)
    (haddr : Client.handleLookup response = .ok addr) :
    Resumption s (.lookup n call) (.reply (.ok (.topicLookup response)))
      ((afterLookup role env n { s with self := s.self.moveTo addr }).after [.moved addr])
  | notMoved (n : Nat) (call : Call) (response : TopicLookupResponse) (err : Error)
    (herr : Client.handleLookup response = .error err) :
    Resumption s (.lookup n call) (.reply (.ok (.topicLookup response))) (afterLookup role env n s)
  | lookupFailed (n : Nat) (call : Call) (err : RpcError) :
    Resumption s (.lookup n call) (.reply (.error err)) (afterLookup role env n s)
  | slept (n : Nat) : Resumption s (.backoff n) .timer (attempt role env n s)
  | answered (n : Nat) (addr : BrokerAddress) (call : Call) (id : Nat) :
    Resumption s (.request n addr call) (.reply (.ok (.registered id)))
      (registered role env n addr id s)
  | refused (n : Nat) (addr : BrokerAddress) (call : Call) (err : RpcError) :
    Resumption s (.request n addr call) (.reply (.error err)) (failed env n (registerError role err) s)
  | latest (n : Nat) (call : Call) (info : SchemaInfo) (ref : SchemaReference)
    (href : role.schemaRef s.self.own = some ref) :
    Resumption s (.latest n call) (.reply (.ok (.schema info))) (latestSchema role env n ref info s)
  | latestFailed (n : Nat) (call : Call) (err : RpcError) :
    Resumption s (.latest n call) (.reply (.error err)) (unresolved env n (.rpc err) s)
  | pinned (n : Nat) (call : Call) (info : SchemaInfo) :
    Resumption s (.pinned n call) (.reply (.ok (.schema info))) (resolved role info s)
  | pinnedFailed (n : Nat) (call : Call) (err : RpcError) :
    Resumption s (.pinned n call) (.reply (.error err)) (unresolved env n (.rpc err) s)

variable {role env} in
theorem resumption {s : Scope ρ} {k : Registering} {w : Wake} {r : Piece ρ Registering Nat}
    (h : resume role env s k w = some r) : Resumption role env s k w r := by
  unfold resume at h
  split at h
  · split at h <;> cases h
    · exact .moved _ _ _ _ ‹_›
    · exact .notMoved _ _ _ _ ‹_›
  · cases h; exact .lookupFailed _ _ _
  · cases h; exact .slept _
  · cases h; exact .answered _ _ _ _
  · cases h; exact .refused _ _ _ _
  · obtain ⟨ref, href, rfl⟩ := Option.map_eq_some_iff.mp h
    exact .latest _ _ _ ref href
  · cases h; exact .latestFailed _ _ _
  · cases h; exact .pinned _ _ _
  · cases h; exact .pinnedFailed _ _ _
  · cases h

/-- `stop()`, without the cancellation of the health task. -/
def stop (e : Endpoint ρ) : Endpoint ρ := { e with stopEvent := true, healthTask := none }

end Endpoint

end Danube
