import Danube.PoolMoves
import Danube.ClientBuilder
import Danube.ProducerBuilder
import Danube.ConsumerBuilder
import Danube.SchemaRegistry

/-!
# The session of one client

The producers and consumers of a `DanubeClient` and its calls of the schema registry share the
connection manager, the token and the request counters of the client. A step is one step of one of them.
-/

namespace Danube

open Async

def ProducerState.withClient (s : ProducerState) (c : Client) : ProducerState :=
  { s with pool := { s.pool with client := c } }

def ConsumerState.withClient (s : ConsumerState) (c : Client) : ConsumerState :=
  { s with pool := { s.pool with client := c } }

/-- The clients in `producers` and `consumers` are not looked at: each step puts in `client`. -/
structure Session where
  client : Client
  producers : List ProducerState := []
  consumers : List ConsumerState := []
  registry : List RegistryTask := []
  /-- The RPCs of the producers and consumers so far, in the order in which they were issued. -/
  calls : List Call := []
  /-- The RPCs of the registry calls so far. -/
  registryRpcs : List RegistryRpc := []

inductive SessionLabel
  /-- A setter of the builder that built the client: the options are shared. -/
  | options (call : OptionsCall)
  | newProducer (calls : List ProducerBuilderCall)
  /-- The calls on a builder of consumers up to a `build()`. No later call adds a key filter to it. -/
  | newConsumer (calls : List ConsumerBuilderCall)
  | producer (i : Nat) (l : ProducerLabel)
  | consumer (i : Nat) (l : ConsumerLabel)
  | registry (operation : RegistryOperation) (env : Env)
  | answer (i : Nat) (reply : Except RpcError RegistryResponse)

def Client.options (c : Client) : ConnectionOptions := c.connectionManager.options

/-- The client after a setter changed its options. -/
def Client.setOptions (c : Client) (call : OptionsCall) : Client :=
  { c with connectionManager := { c.connectionManager with options := call.apply c.options } }

namespace Session

/-- The client that a builder builds with these calls. -/
def init (uri : String) (calls : List OptionsCall) : Session where
  client := .init uri (calls.foldl (fun o call => call.apply o) {})

def newProducer (s : Session) (calls : List ProducerBuilderCall) : Session :=
  match (ProducerBuilder.ofCalls calls).build with
  | .ok config => { s with producers := s.producers ++ [Producer.init s.client config] }
  | .error _ => s

def newConsumer (s : Session) (calls : List ConsumerBuilderCall) : Session :=
  { s with consumers := s.consumers ++ (ConsumerBuilding.product s.client calls).toList }

/-- A step of the producer `i`. -/
def producer (s : Session) (i : Nat) (l : ProducerLabel) : Option Session := do
  let p ← s.producers[i]?
  let p' ← Producer.step (p.withClient s.client) l
  return { s with
    client := p'.pool.client
    producers := s.producers.set i p'
    calls := s.calls ++ p.pool.newCalls p'.pool }

/-- A step of the consumer `i`. -/
def consumer (s : Session) (i : Nat) (l : ConsumerLabel) : Option Session := do
  let p ← s.consumers[i]?
  let p' ← Consumer.step (p.withClient s.client) l
  return { s with
    client := p'.pool.client
    consumers := s.consumers.set i p'
    calls := s.calls ++ Consumer.issued p p' l }

def callRegistry (s : Session) (operation : RegistryOperation) (env : Env) : Session :=
  let (c, t) := RegistryTask.start operation env.call s.client
  { s with client := c, registry := s.registry ++ [t], registryRpcs := s.registryRpcs ++ t.rpc?.toList }

def answer (s : Session) (i : Nat) (reply : Except RpcError RegistryResponse) : Option Session := do
  let t ← s.registry[i]?
  let t' ← t.answer reply
  return { s with registry := s.registry.set i t' }

def step (s : Session) : SessionLabel → Option Session
  | .options call => some { s with client := s.client.setOptions call }
  | .newProducer calls => some (s.newProducer calls)
  | .newConsumer calls => some (s.newConsumer calls)
  | .producer i l => s.producer i l
  | .consumer i l => s.consumer i l
  | .registry operation env => some (s.callRegistry operation env)
  | .answer i reply => s.answer i reply

/-- A producer is created and sends while a consumer of the same client subscribes. -/
def interleaved : List SessionLabel :=
  [.newProducer [.withTopic "t", .withName "p"],
   .newConsumer [.withTopic "t", .withConsumerName "c", .withSubscription "s"],
   .producer 0 (.create {}),
   .consumer 0 (.subscribe {}),
   .producer 0 (.child 0 (.answer (.address "b")) {}),
   .consumer 0 (.partitions (.answer (.topicPartitions ["t"]))),
   .consumer 0 (.child 0 .start {}),
   .producer 0 (.child 0 (.answer (.registered 7)) {}),
   .consumer 0 (.child 0 (.answer (.address "b")) {}),
   .producer 0 (.health 0 .start {}),
   .producer 0 (.send [1] none none {}),
   .consumer 0 (.child 0 (.answer (.registered 8)) {}),
   .consumer 0 .gathered,
   .consumer 0 .receive,
   .consumer 0 (.health 0 .start {}),
   .consumer 0 (.receiving 0 .start {})]

/-- A producer is closed by its broker and recreated by a send that fails twice. -/
def closedThenRecreated : List SessionLabel :=
  [.newProducer [.withTopic "t", .withName "p", .withOptions { maxRetries := 1 }],
   .producer 0 (.create {}),
   .producer 0 (.child 0 (.answer (.address "b")) {}),
   .producer 0 (.child 0 (.answer (.registered 7)) {}),
   .producer 0 (.health 0 .start {}),
   .producer 0 (.health 0 (.answer (.health .close)) {}),
   .producer 0 (.send [1] none none {}),
   .producer 0 (.sending 0 (.fail .unavailable) {}),
   .producer 0 (.sending 0 .timer {}),
   .producer 0 (.sending 0 (.fail .unavailable) {}),
   .producer 0 (.sending 0 (.answer (.address "b")) {}),
   .producer 0 (.sending 0 (.answer (.address "b")) {}),
   .producer 0 (.sending 0 (.answer (.registered 9)) {}),
   .producer 0 (.health 1 .start {})]

/-- A consumer is closed by its broker and subscribes again. -/
def closedThenResubscribed : List SessionLabel :=
  interleaved ++
    [.consumer 0 (.health 0 (.answer (.health .close)) {}),
     .consumer 0 (.receiving 0 (.answer .streamEnd) {}),
     .consumer 0 (.receiving 0 (.answer (.address "b")) {}),
     .consumer 0 (.receiving 0 (.answer (.registered 9)) {}),
     .consumer 0 (.health 1 .start {})]

end Session

end Danube
