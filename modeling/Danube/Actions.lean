import Danube.Receive
import Danube.Send
import Danube.Async.Actions

/-!
# What the coroutines do

Every piece of `create()`, `subscribe()`, a send and a receive loop is made of the actions below. What
they keep is kept by all of them.
-/

namespace Danube

open Async

variable {ρ α : Type}

/-- The number that a request takes from the counter of its endpoint. -/
def Request.ownId? : Request → Option Nat
  | .createProducer r => some r.requestId
  | .sendMessage m => some m.requestId
  | .subscribe r => some r.requestId
  | .receiveMessages n _ => some n
  | _ => none

/-- The RPCs that resolve a reference: one for the subject, one for a version that is pinned. -/
def SchemaReference.Asks (ref : SchemaReference) : Request → Prop
  | .getLatestSchema subject => subject = ref.subject
  | .getSchema _ version => ∃ v, version = some v.toNat ∧ ref.versionRef = some (.pinnedVersion v)
  | _ => False

/-- An event that only says where its coroutine has got to. -/
def Event.Remark : Event → Prop
  | .rpc _ | .moved _ | .connected .. | .registered .. | .healthStarted _ | .closed _ | .stopped | .cleared => False
  | _ => True

namespace Endpoint

/-- What a message says of the endpoint that sends it. -/
structure IsFrom (e : Endpoint ρ) (m : StreamMessage) : Prop where
  requestId : m.requestId = e.requestId
  msgId : m.msgId = { producerId := e.id, topicName := e.topic, brokerAddr := e.brokerAddr }
  producerName : m.producerName = e.name
  subscriptionName : m.subscriptionName = ""

/-- One action of a coroutine on its endpoint. -/
inductive Act (role : Role ρ) (env : Env) : Scope ρ → List Event → Scope ρ → Prop
  | remark (s : Scope ρ) (e : Event) (h : e.Remark) : Act role env s [e] s
  | lookup (s : Scope ρ) (c : Client) (conn : RpcConnection) (metadata : Option Metadata)
    (h : s.client.prepare env.lookup s.self.connectUrl = (c, .ok (conn, metadata))) :
    Act role env s [.rpc ⟨conn, .topicLookup c.lookupRequestId s.self.topic, metadata⟩]
      { s with client := { c with lookupRequestId := c.lookupRequestId + 1 } }
  | registry (s : Scope ρ) (c : Client) (conn : RpcConnection) (metadata : Option Metadata)
    (ref : SchemaReference) (href : role.schemaRef s.self.own = some ref) (request : Request)
    (hrequest : ref.Asks request)
    (h : s.client.prepare env.call s.client.uri = (c, .ok (conn, metadata))) :
    Act role env s [.rpc ⟨conn, request, metadata⟩] { s with client := c }
  /-- An RPC to one address that could not be issued. -/
  | unprepared (s : Scope ρ) (out : Outside) (addr : String) (c : Client) (err : Error)
    (h : s.client.prepare out addr = (c, .error err)) : Act role env s [] { s with client := c }
  | moved (s : Scope ρ) (addr : BrokerAddress) :
    Act role env s [.moved addr] { s with self := s.self.moveTo addr }
  | connect (s : Scope ρ) (c : Client) (conn : RpcConnection)
    (h : s.client.getConnection env.call s.self.brokerAddr s.self.connectUrl = (c, .ok conn)) :
    Act role env s [.connected s.self.address conn] (connect conn c s)
  | unconnected (s : Scope ρ) (out : Outside) (c : Client) (err : Error)
    (h : s.client.getConnection out s.self.brokerAddr s.self.connectUrl = (c, .error err)) :
    Act role env s [] { s with client := c }
  /-- `_connect` and the request that is issued on the stub. -/
  | register (s : Scope ρ) (c : Client) (conn : RpcConnection) (metadata : Option Metadata)
    (h : s.client.getConnection env.call s.self.brokerAddr s.self.connectUrl = (c, .ok conn))
    (hmetadata : c.attachTokenIfNeeded env.call = .ok metadata) :
    Act role env s [.connected s.self.address conn,
      .rpc ⟨conn, role.request s.self, insertProxyHeader metadata s.self.brokerAddr s.self.proxy⟩]
      (countRequest (Endpoint.connect conn c s))
  /-- A request number is taken and not used. -/
  | skip (s : Scope ρ) : Act role env s [] (countRequest s)
  | registered (s : Scope ρ) (addr : BrokerAddress) (id : Nat) :
    Act role env s [.registered addr id] (withId id s)
  | startHealthCheck (s : Scope ρ) (c : Client) (conn : RpcConnection)
    (h : s.client.getConnection env.health s.self.brokerAddr s.self.connectUrl = (c, .ok conn)) :
    Act role env s [.healthStarted (healthLoop role conn s)] (startHealthCheck role conn c s)
  | setSchema (s : Scope ρ) (info : SchemaInfo) :
    Act role env s [] { s with self := { s.self with own := role.setSchema s.self.own info } }
  /-- A message, or the opening of a stream. -/
  | stream (s : Scope ρ) (conn : RpcConnection) (metadata : Option Metadata) (request : Request)
    (hstub : s.self.stub = some conn) (hmetadata : s.client.attachTokenIfNeeded env.call = .ok metadata)
    (hrequest : (∃ m, request = .sendMessage m ∧ IsFrom s.self m ∧ role.clientType = .producer) ∨
      request = .receiveMessages s.self.requestId s.self.id ∧ role.clientType = .consumer) :
    Act role env s
      [.rpc ⟨conn, request, insertProxyHeader metadata s.self.brokerAddr s.self.proxy⟩]
      (countRequest s)
  /-- A receive loop clears the stop event and subscribes again. -/
  | clearStop (s : Scope ρ) (h : role.clientType = .consumer) :
    Act role env s [.cleared, .resubscribing] { s with self := { s.self with stopEvent := false } }

variable (role : Role ρ) (env : Env)

/-- A piece that is made of actions. -/
abbrev Does {κ : Type} (s : Scope ρ) (r : Piece ρ κ α) : Prop :=
  Acts (Act role env) s r.log r.state

variable {role env}

theorem does_after {κ : Type} {s t : Scope ρ} {log : List Event} {r : Piece ρ κ α}
    (h : Acts (Act role env) s log t) (hr : Does role env t r) : Does role env s (r.after log) :=
  h.trans hr

theorem remarks {κ : Type} {s : Scope ρ} {e : Event} (he : e.Remark) {o : Outcome κ α Error} :
    Does role env s ⟨s, [e], o⟩ := .single (.remark s e he)

variable (role)

/-! ## `create()` and `subscribe()` -/

theorem lookupTopic_acts (s : Scope ρ) {c : Client} {call : Call}
    (h : s.client.lookupTopic env.lookup s.self.connectUrl s.self.topic = (c, .ok call)) :
    Acts (Act role env) s [.rpc call] { s with client := c } := by
  unfold Client.lookupTopic at h
  split at h
  · cases h
  · rename_i heq
    cases h
    exact .single (.lookup s _ _ _ heq)

theorem lookupTopic_fails (s : Scope ρ) {c : Client} {err : Error}
    (h : s.client.lookupTopic env.lookup s.self.connectUrl s.self.topic = (c, .error err)) :
    Acts (Act role env) s [] { s with client := c } := by
  unfold Client.lookupTopic at h
  split at h
  · rename_i heq
    cases h
    exact .single (.unprepared s _ _ _ _ heq)
  · cases h

theorem backoff_does (n : Nat) (s : Scope ρ) :
    Does role env s (backoff env n s : Piece ρ Registering α) := remarks (by trivial)

theorem retry_does (n : Nat) (s : Scope ρ) :
    Does role env s (retry env n s : Piece ρ Registering α) := by
  unfold retry
  split
  · rename_i heq
    exact lookupTopic_acts role s heq
  · rename_i heq
    exact (lookupTopic_fails role s heq).trans (backoff_does role n _)

theorem failed_does (n : Nat) (err : Error) (s : Scope ρ) :
    Does role env s (failed env n err s : Piece ρ Registering α) := by
  unfold failed
  split
  · split
    · exact remarks (by trivial)
    · exact retry_does role (n + 1) s
  · exact remarks (by trivial)

theorem attempt_does (n : Nat) (s : Scope ρ) :
    Does role env s (attempt role env n s : Piece ρ Registering α) := by
  unfold attempt
  split
  · rename_i heq
    exact (Acts.single (.unconnected s _ _ _ heq)).trans (failed_does role n _ _)
  · rename_i c conn heq
    cases hmetadata : c.attachTokenIfNeeded env.call with
    | error err =>
      exact (Acts.single (.connect s c conn heq)).trans
        ((Acts.single (.skip _)).trans (failed_does role n err _))
    | ok metadata => exact .single (.register s c conn metadata heq hmetadata)

theorem create_does (s : Scope ρ) :
    Does role env s (create role env s : Piece ρ Registering α) := by
  unfold create
  refine does_after (.single (.remark s .creating trivial)) ?_
  split
  · rename_i heq
    exact lookupTopic_acts role s heq
  · rename_i heq
    exact (lookupTopic_fails role s heq).trans (attempt_does role 0 _)

theorem afterLookup_does (n : Nat) (s : Scope ρ) :
    Does role env s (afterLookup role env n s : Piece ρ Registering α) := by
  unfold afterLookup
  split
  · exact attempt_does role 0 s
  · exact backoff_does role n s

theorem unresolved_does (n : Nat) (err : Error) (s : Scope ρ) :
    Does role env s (unresolved env n err s) :=
  does_after (.single (.remark s _ trivial)) (failed_does role n err s)

theorem returnId_does (s : Scope ρ) : Does role env s (returnId s) := remarks (by trivial)

theorem resolved_does (info : SchemaInfo) (s : Scope ρ) :
    Does role env s (resolved role info s) :=
  (Acts.single (.setSchema s info)).trans (returnId_does role _)

theorem resolveSchema_does (n : Nat) (s : Scope ρ) : Does role env s (resolveSchema role env n s) := by
  unfold resolveSchema Client.getLatestSchema
  split
  · exact returnId_does role s
  · rename_i ref href
    cases hprepare : s.client.prepare env.call s.client.uri with
    | mk c x =>
      cases x with
      | error err =>
        have hfails : Acts (Act role env) s [] _ := .single (.unprepared s _ _ c err hprepare)
        exact hfails.trans (unresolved_does role n err _)
      | ok x => exact .single (.registry s c x.1 x.2 ref href _ rfl hprepare)

theorem latestSchema_does (n : Nat) {ref : SchemaReference} (latest : SchemaInfo) {s : Scope ρ}
    (href : role.schemaRef s.self.own = some ref) :
    Does role env s (latestSchema role env n ref latest s) := by
  unfold latestSchema Client.getSchemaVersion
  split
  · rename_i version hpinned
    split
    · exact unresolved_does role n _ s
    · split
      · exact resolved_does role latest s
      · cases hprepare : s.client.prepare env.call s.client.uri with
        | mk c x =>
          cases x with
          | error err =>
            have hfails : Acts (Act role env) s [] _ := .single (.unprepared s _ _ c err hprepare)
            exact hfails.trans (unresolved_does role n err _)
          | ok x => exact .single (.registry s c x.1 x.2 ref href _ ⟨version, rfl, hpinned⟩ hprepare)
  · split
    · exact unresolved_does role n _ s
    · exact resolved_does role latest s
  · exact resolved_does role latest s

theorem registered_does (n : Nat) (addr : BrokerAddress) (id : Nat) (s : Scope ρ) :
    Does role env s (registered role env n addr id s) := by
  unfold registered checkHealth
  refine does_after (.single (.registered s addr id)) ?_
  split
  · rename_i heq
    exact (Acts.single (.unconnected _ _ _ _ heq)).trans (failed_does role n _ _)
  · rename_i heq
    exact does_after (.single (.startHealthCheck _ _ _ heq)) (resolveSchema_does role n _)

theorem resume_does {s : Scope ρ} {k : Registering} {w : Wake} {r : Piece ρ Registering Nat}
    (h : resume role env s k w = some r) : Does role env s r := by
  cases resumption h with
  | moved n call response addr haddr =>
    exact does_after (.single (.moved s addr)) (afterLookup_does role n _)
  | notMoved n | lookupFailed n => exact afterLookup_does role n s
  | slept n => exact attempt_does role n s
  | answered n addr call id => exact registered_does role n addr id s
  | refused n => exact failed_does role n _ s
  | latest n call info ref href => exact latestSchema_does role n info href
  | latestFailed n | pinnedFailed n => exact unresolved_does role n _ s
  | pinned n call info => exact resolved_does role info s

theorem andThen_does {κ κ' β : Type} {s : Scope ρ} {r : Piece ρ κ α} {lift : κ → κ'}
    {onRet : Scope ρ → α → Piece ρ κ' β} {onRaise : Scope ρ → Error → Piece ρ κ' β}
    (hr : Does role env s r) (hret : ∀ t a, Does role env t (onRet t a))
    (hraise : ∀ t e, Does role env t (onRaise t e)) :
    Does role env s (r.andThen lift onRet onRaise) :=
  Ran.andThen_spec (J := Acts (Act role env)) (fun h k => h.trans k) hr (fun a _ => hret _ a)
    fun e _ => hraise _ e

end Endpoint

open Endpoint

/-! ## A send -/

namespace SendCall

variable {env : Env}

theorem raise_does (err : Error) (s : Scope ProducerFields) :
    Does producerRole env s (raise err s) := .nil s

theorem recreateProducer_does (s : Scope ProducerFields) :
    Does producerRole env s (recreateProducer env s) :=
  andThen_does producerRole (create_does producerRole s) (fun _ a => a.elim) fun t e => raise_does e t

theorem lookupAndRecreate_does (err : Error) (s : Scope ProducerFields) :
    Does producerRole env s (lookupAndRecreate env err s) := by
  unfold lookupAndRecreate
  split
  · rename_i heq
    exact lookupTopic_acts producerRole s heq
  · rename_i heq
    exact lookupTopic_fails producerRole s heq

theorem caught_does (call : SendCall) (n : Nat) (err : Error) (s : Scope ProducerFields) :
    Does producerRole env s (caught env call n err s) := by
  unfold caught
  split
  · exact recreateProducer_does s
  · split
    · split
      · exact lookupAndRecreate_does _ s
      · exact remarks (by trivial)
    · exact raise_does _ s

theorem attempt_does (call : SendCall) (n : Nat) (s : Scope ProducerFields) :
    Does producerRole env s (attempt env call n s) := by
  unfold attempt TopicProducer.send
  cases hstub : s.self.stub with
  | none => exact caught_does call n _ s
  | some conn =>
    dsimp only
    cases hmetadata : s.client.attachTokenIfNeeded env.call with
    | error err => exact (Acts.single (.skip s)).trans (caught_does call n err _)
    | ok metadata =>
      exact .single (.stream s conn metadata _ hstub hmetadata
        (Or.inl ⟨_, rfl, ⟨rfl, rfl, rfl, rfl⟩, rfl⟩))

theorem recreated_does {call : SendCall} {s : Scope ProducerFields}
    {r : Piece ProducerFields TopicProducer.Creating Nat} (h : Does producerRole env s r) :
    Does producerRole env s (recreated env call r) :=
  andThen_does producerRole h (fun t _ => attempt_does call 0 t) fun t e => raise_does e t

theorem resume_does {call : SendCall} {s : Scope ProducerFields} {k : Sending} {w : Wake}
    {r : Piece ProducerFields Sending Nat} (h : call.resume env s k w = some r) :
    Does producerRole env s r := by
  cases resumption h with
  | answered => exact .nil s
  | failed n rpc err => exact caught_does call n _ s
  | slept n => exact attempt_does call n s
  | moved err rpc response addr haddr =>
    exact does_after (.single (.moved s addr)) (recreateProducer_does _)
  | notMoved err | lookupFailed err => exact raise_does err s
  | creating k w r hr => exact recreated_does (Endpoint.resume_does producerRole hr)

end SendCall

/-! ## A receive loop -/

namespace Receive

variable {env : Env} (a : LoopArgs)

theorem done_does (s : Scope ConsumerFields) : Does consumerRole env s (done s) := .nil s

theorem resubscribe_does {s t : Scope ConsumerFields} (log : List Event)
    (h : Acts (Act consumerRole env) s (log ++ [.resubscribing]) t) :
    Does consumerRole env s ((resubscribe env t).after log) := by
  have hsubscribe : Does consumerRole env t ((TopicConsumer.subscribe env t).andThen .subscribing
      (fun _ (x : Empty) => x.elim) fun u _ => done u) :=
    andThen_does consumerRole (create_does consumerRole t) (fun _ x => x.elim) fun u _ => done_does u
  have hboth := h.trans hsubscribe
  rwa [List.append_assoc] at hboth

theorem resubscribe_again_does (s : Scope ConsumerFields) :
    Does consumerRole env s (resubscribe env s) :=
  resubscribe_does [] (.single (.remark s .resubscribing trivial))

theorem receive_acts (env : Env) (s : Scope ConsumerFields) :
    match TopicConsumer.receive env s with
    | (t, .ok call) => Acts (Act consumerRole env) s [.rpc call] t
    | (t, .error _) => Acts (Act consumerRole env) s [] t := by
  unfold TopicConsumer.receive TopicConsumer.onStub
  cases hstub : s.self.stub with
  | none => exact .nil s
  | some conn =>
    cases hmetadata : s.client.attachTokenIfNeeded env.call with
    | error err => exact .single (.skip s)
    | ok metadata =>
      cases env.receiveMessages with
      | some err => exact .single (.skip s)
      | none => exact .single (.stream s conn metadata _ hstub hmetadata (Or.inr ⟨rfl, rfl⟩))

theorem turn_does (n : Nat) (s : Scope ConsumerFields) : Does consumerRole env s (turn env a n s) := by
  have hacts := receive_acts env s
  unfold turn
  split
  · exact done_does s
  · split <;> rename_i heq <;> rw [heq] at hacts
    · exact hacts
    · exact hacts.trans (resubscribe_again_does _)
    · split
      · split
        · exact hacts.trans (resubscribe_again_does _)
        · exact hacts.trans (remarks (by trivial))
      · exact hacts.trans (done_does _)

theorem streamOver_does (s : Scope ConsumerFields) : Does consumerRole env s (streamOver env a s) := by
  unfold streamOver
  split
  · exact done_does s
  · split
    · exact resubscribe_does [.cleared] (.single (.clearStop s rfl))
    · exact turn_does a 0 s

theorem taken_does (call : Call) (m : StreamMessage) (s : Scope ConsumerFields) :
    Does consumerRole env s (taken env a call m s) := by
  unfold taken
  split
  · exact done_does s
  · split
    · exact streamOver_does a s
    · split
      · exact .nil s
      · exact remarks (by trivial)

theorem resume_does {a : LoopArgs} {s : Scope ConsumerFields} {k : Receiving} {w : Wake}
    {r : Piece ConsumerFields Receiving Unit} (h : resume env a s k w = some r) :
    Does consumerRole env s r := by
  cases resumption h with
  | took call m => exact does_after (.single (.remark s _ trivial)) (taken_does a call m s)
  | ended call => exact does_after (.single (.remark s _ trivial)) (streamOver_does a s)
  | failed call err => exact does_after (.single (.remark s _ trivial)) (streamOver_does a s)
  | room => exact remarks (by trivial)
  | slept n => exact turn_does a n s
  | subscribing k w r hr =>
    exact andThen_does consumerRole (Endpoint.resume_does consumerRole hr) (fun t _ => turn_does a 0 t)
      fun t _ => done_does t

end Receive

end Danube
