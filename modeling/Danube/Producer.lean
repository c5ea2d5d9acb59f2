import Danube.Send
import Danube.Pool
import Danube.MessageRouter

/-! # A producer and its concurrent calls (`producer.py`) -/

namespace Danube

open Async

structure ProducerOptions where
  maxRetries : Int := 0
  baseBackoffMs : Int := 0
  maxBackoffMs : Int := 0
  deriving Repr

/-- What a `Producer` is built with. -/
structure ProducerConfig where
  topicName : String
  producerName : String
  partitions : Nat := 0
  schemaRef : Option SchemaReference := none
  dispatchStrategy : DispatchStrategy := .nonReliable
  options : ProducerOptions := {}
  deriving Repr

/-- An unpartitioned producer that retries once. -/
def ProducerConfig.oneRetry (schemaRef : Option SchemaReference) : ProducerConfig where
  topicName := "t"
  producerName := "p"
  schemaRef := schemaRef
  options := { maxRetries := 1 }

/-- A call of `send` or `send_with_key` that got the producer's lock. -/
structure SendTask where
  partition : Nat
  call : SendCall
  status : Outcome Sending Nat Error
  deriving Repr

/-- A `create()` that holds the producer's lock: on the only `TopicProducer`, or in a `gather`. -/
inductive CreateCall
  | direct (ref : Nat)
  | gather (g : Gather)
  deriving DecidableEq, Repr

def CreateCall.refs : CreateCall → List Nat
  | .direct ref => [ref]
  | .gather g => g.refs

/-- `producers` are the endpoints in `_producers`. `creating` is the `create()` call that holds
the lock. -/
structure ProducerState where
  config : ProducerConfig
  pool : Pool ProducerFields
  producers : List Nat := []
  router : Option MessageRouter := none
  creating : Option CreateCall := none
  sends : List SendTask := []

/-- The application awaits a `create()` before it calls `create()` again, and does not call it
again once it returned. A send that is called while `create()` holds the lock waits for it, so
it starts with the label that gives it the lock. -/
inductive ProducerLabel
  | create (env : Env)
  | child (ref : Nat) (w : Wake) (env : Env)
  | gathered
  | send (data : List UInt8) (attributes : Option (List (String × String)))
      (routingKey : Option String) (env : Env)
  | sending (task : Nat) (w : Wake) (env : Env)
  | health (task : Nat) (w : Wake) (env : Env)
  | close

namespace Producer

def init (client : Client) (config : ProducerConfig) : ProducerState where
  config := config
  pool := { client := client }

def topicProducer (s : ProducerState) (topic name : String) : TopicProducer :=
  TopicProducer.init s.pool.client.uri topic name s.config.schemaRef s.config.dispatchStrategy
    s.config.options.maxRetries s.config.options.baseBackoffMs s.config.options.maxBackoffMs

/-- The `TopicProducer`s that `create()` builds, one for each partition. -/
def partitionProducers (s : ProducerState) : List TopicProducer :=
  (List.range s.config.partitions).map fun pid =>
    topicProducer s s!"{s.config.topicName}-part-{pid}" s!"{s.config.producerName}-{pid}"

/-- A `create()` on the only `TopicProducer` ends in the piece in which its coroutine ends, a
`gather` only notes the exception. -/
def settle (s : ProducerState) (ref : Nat) : ProducerState :=
  match s.creating with
  | some (.direct r) =>
    match s.pool.children[r]? with
    | some (.started (.ret _)) => { s with producers := [r], creating := none }
    | some (.started (.raise _)) => { s with creating := none }
    | _ => s
  | some (.gather g) => { s with creating := some (.gather (g.note ref s.pool.children[ref]?)) }
  | none => s

/-- `create()` gets the lock. -/
def create (s : ProducerState) (env : Env) : Option ProducerState :=
  let ref := s.pool.endpoints.length
  if s.creating = none ∧ s.producers = [] then
    if h : s.config.partitions = 0 then
      let p := s.pool.alloc [topicProducer s s.config.topicName s.config.producerName]
      (p.child producerRole ref .start env).map fun p =>
        settle { s with pool := p, creating := some (.direct ref) } ref
    else
      some { s with
        pool := s.pool.alloc (partitionProducers s)
        router := some (.init s.config.partitions (Nat.pos_of_ne_zero h))
        creating := some (.gather { refs := List.range' ref s.config.partitions }) }
  else none

/-- `gather` is over, and with it `create()`. -/
def gathered (s : ProducerState) : Option ProducerState :=
  match s.creating with
  | some (.gather g) =>
    if g.failure.isSome then some { s with creating := none }
    else if g.allReturned s.pool.children then
      some { s with producers := g.refs, creating := none }
    else none
  | _ => none

/-- `_select_partition` and `_select_partition_for_key`. -/
def selectPartition (s : ProducerState) (routingKey : Option String) :
    Nat × Option MessageRouter :=
  match s.router with
  | some r =>
    if s.config.partitions > 0 then
      match routingKey with
      | some key => (r.keyRoute key, some r)
      | none => (r.roundRobin.1, some r.roundRobin.2)
    else (0, some r)
  | none => (0, none)

/-- The call `task` ran up to `ran.next` on its `TopicProducer`. -/
def commitSend (s : ProducerState) (task : Nat) (t : SendTask)
    (ran : Piece ProducerFields Sending Nat) : ProducerState :=
  { s with
    pool := s.pool.commit (.send task) ran
    sends := s.sends.set task { t with status := ran.next } }

/-- `send` or `send_with_key` gets the lock, and runs up to its first RPC. -/
def send (s : ProducerState) (data : List UInt8) (attributes : Option (List (String × String)))
    (routingKey : Option String) (env : Env) : Option ProducerState :=
  if s.creating = none then
    let (partition, router) := selectPartition s routingKey
    let o := s.config.options
    let call : SendCall := {
      data := data
      attributes := attributes
      routingKey := routingKey
      retryManager := .init o.maxRetries o.baseBackoffMs o.maxBackoffMs }
    let t : SendTask := ⟨partition, call, .raise (.danube "partition ID out of range")⟩
    let s' := { s with router := router, sends := s.sends ++ [t] }
    match s.producers[partition]? with
    | none => some s'
    | some ref => (s.pool.scope ref).map fun sc => commitSend s' s.sends.length t (call.attempt env 0 sc)
  else none

/-- One piece of a send that is suspended. -/
def sending (s : ProducerState) (task : Nat) (w : Wake) (env : Env) : Option ProducerState := do
  let t ← s.sends[task]?
  let ref ← s.producers[t.partition]?
  let sc ← s.pool.scope ref
  match t.status with
  | .await k => (t.call.resume env sc k w).map (commitSend s task t)
  | _ => none

def close (s : ProducerState) : ProducerState :=
  { s with pool := s.producers.foldl Pool.stop s.pool }

def step (s : ProducerState) : ProducerLabel → Option ProducerState
  | .create env => create s env
  | .child ref w env =>
    (s.pool.child producerRole ref w env).map fun p => settle { s with pool := p } ref
  | .gathered => gathered s
  | .send data attributes routingKey env => send s data attributes routingKey env
  | .sending task w env => sending s task w env
  | .health task w env => (s.pool.health task w env).map fun p => { s with pool := p }
  | .close => some (close s)

end Producer

end Danube
