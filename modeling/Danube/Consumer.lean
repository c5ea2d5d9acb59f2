import Danube.Receive
import Danube.Pool

/-! # A consumer and its receive loops (`consumer.py`) -/

namespace Danube

open Async

def receiveChannelBuffer : Nat := 100

structure ConsumerOptions where
  maxRetries : Int := 0
  baseBackoffMs : Int := 0
  maxBackoffMs : Int := 0
  deriving Repr

/-- What a `Consumer` is built with. -/
structure ConsumerConfig where
  topicName : String
  consumerName : String
  subscription : String
  subscriptionType : SubType := .shared
  options : ConsumerOptions := {}
  keyFilters : List String := []
  deriving Repr

/-- A consumer that retries once. -/
def ConsumerConfig.oneRetry : ConsumerConfig where
  topicName := "t"
  consumerName := "c"
  subscription := "s"
  options := { maxRetries := 1 }

/-- A `subscribe()` that is not over: it asks for the partitions, and then gathers one coroutine
for each of them. -/
inductive SubscribeCall
  | partitions (call : Call)
  | gather (names : List String) (g : Gather)
  deriving DecidableEq, Repr

/-- `task.cancel()` raises at the loop's suspension point, where nothing catches it. -/
inductive ReceiveStatus
  | scheduled
  | started (o : Outcome Receiving Unit Error)
  | cancelled
  deriving DecidableEq, Repr

/-- A task that runs `_partition_receive_loop`, on one of the queues that `receive()` returned. -/
structure ReceiveTask where
  ref : Nat
  queue : Nat
  status : ReceiveStatus := .scheduled
  deriving DecidableEq, Repr

/-- `consumers` is the dict `_consumers`, in its order. -/
structure ConsumerState where
  config : ConsumerConfig
  pool : Pool ConsumerFields
  consumers : List (String × Nat) := []
  subscribing : Option SubscribeCall := none
  queues : List (List StreamMessage) := []
  tasks : List ReceiveTask := []
  /-- The calls of `ack` and `nack`. -/
  acks : List (Outcome Call Unit Error) := []
  shutdown : Bool := false

/-- The application awaits a `subscribe()` before it calls `subscribe()` again, and does not call it
again once it returned. -/
inductive ConsumerLabel
  | subscribe (env : Env)
  | partitions (w : Wake)
  | child (ref : Nat) (w : Wake) (env : Env)
  | gathered
  | receive
  | receiving (task : Nat) (w : Wake) (env : Env)
  | get (queue : Nat)
  | ack (message : StreamMessage) (env : Env)
  | nack (message : StreamMessage) (delayMs : Option UInt64) (reason : Option String) (env : Env)
  | acked (call : Nat) (w : Wake)
  | health (task : Nat) (w : Wake) (env : Env)
  | close

/-- `d[name] = ref`: a key that is there keeps its place. -/
def setItem (d : List (String × Nat)) (name : String) (ref : Nat) : List (String × Nat) :=
  if name ∈ d.map Prod.fst then d.map fun x => if x.1 = name then (name, ref) else x
  else d ++ [(name, ref)]

def Event.put? : Event → Option StreamMessage
  | .put message => some message
  | _ => none

namespace Consumer

def init (client : Client) (config : ConsumerConfig) : ConsumerState where
  config := config
  pool := { client := client }

def topicConsumer (s : ConsumerState) (partition : String) : TopicConsumer :=
  .init s.pool.client.uri partition s.config.consumerName s.config.subscription
    s.config.subscriptionType (some s.config.keyFilters) s.config.options.maxRetries
    s.config.options.baseBackoffMs s.config.options.maxBackoffMs

def retryManager (config : ConsumerConfig) : RetryManager :=
  .init config.options.maxRetries config.options.baseBackoffMs config.options.maxBackoffMs

/-- `subscribe()`, up to the RPC that asks for the partitions. -/
def subscribe (s : ConsumerState) (env : Env) : Option ConsumerState :=
  if s.subscribing = none ∧ s.consumers = [] then
    match s.pool.client.topicPartitions env.call s.pool.client.uri s.config.topicName with
    | (c, .ok call) =>
      some { s with pool := { s.pool with client := c }, subscribing := some (.partitions call) }
    | (c, .error _) => some { s with pool := { s.pool with client := c } }
  else none

/-- The partitions are known: one coroutine for each is scheduled. -/
def partitions (s : ConsumerState) (w : Wake) : Option ConsumerState :=
  match s.subscribing, w with
  | some (.partitions _), .reply (.ok (.topicPartitions names)) =>
    some { s with
      pool := s.pool.alloc (names.map (topicConsumer s))
      subscribing := some
        (.gather names { refs := List.range' s.pool.endpoints.length names.length }) }
  | some (.partitions _), .reply (.error _) => some { s with subscribing := none }
  | _, _ => none

/-- `gather` notes the exception of a coroutine. -/
def settle (s : ConsumerState) (ref : Nat) : ConsumerState :=
  match s.subscribing with
  | some (.gather names g) =>
    { s with subscribing := some (.gather names (g.note ref s.pool.children[ref]?)) }
  | _ => s

/-- `gather` is over, and with it `subscribe()`. Without a partition it raises. -/
def gathered (s : ConsumerState) : Option ConsumerState :=
  match s.subscribing with
  | some (.gather names g) =>
    if g.failure.isSome then some { s with subscribing := none }
    else if g.allReturned s.pool.children then
      some { s with
        consumers := (names.zip g.refs).foldl (fun d x => setItem d x.1 x.2) []
        subscribing := none }
    else none
  | _ => none

/-- `receive()`: a new queue, and a task for each consumer. -/
def receive (s : ConsumerState) : ConsumerState :=
  { s with
    queues := s.queues ++ [[]]
    tasks := s.tasks ++ s.consumers.map fun x => { ref := x.2, queue := s.queues.length } }

def loopArgs (s : ConsumerState) (queue : List StreamMessage) : LoopArgs where
  retryManager := retryManager s.config
  shutdown := s.shutdown
  full := queue.length ≥ receiveChannelBuffer

def receivePiece (env : Env) (a : LoopArgs) (sc : Scope ConsumerFields) :
    ReceiveStatus → Wake → Option (Piece ConsumerFields Receiving Unit)
  | .scheduled, .start => some (Receive.turn env a 0 sc)
  | .started (.await k), w => Receive.resume env a sc k w
  | _, _ => none

/-- One piece of a receive loop. -/
def receiving (s : ConsumerState) (task : Nat) (w : Wake) (env : Env) : Option ConsumerState := do
  let t ← s.tasks[task]?
  let sc ← s.pool.scope t.ref
  let queue ← s.queues[t.queue]?
  let ran ← receivePiece env (loopArgs s queue) sc t.status w
  return { s with
    pool := s.pool.commit (.receive task) ran
    queues := s.queues.set t.queue (queue ++ ran.log.filterMap Event.put?)
    tasks := s.tasks.set task { t with status := .started ran.next } }

/-- The application takes a message from a queue. -/
def get (s : ConsumerState) (queue : Nat) : Option ConsumerState :=
  match s.queues[queue]? with
  | some (_ :: rest) => some { s with queues := s.queues.set queue rest }
  | _ => none

/-- `ack` and `nack` on the consumer of the message's topic. For an unknown topic they do nothing. -/
def onConsumer (s : ConsumerState) (topic : String)
    (send : Scope ConsumerFields → Except Error Call) : Option ConsumerState :=
  match s.consumers.lookup topic with
  | none => some { s with acks := s.acks ++ [.ret ()] }
  | some ref => (s.pool.scope ref).map fun sc =>
    match send sc with
    | .ok call =>
      { s with pool := s.pool.write .app ref [.rpc call], acks := s.acks ++ [.await call] }
    | .error e => { s with acks := s.acks ++ [.raise e] }

def ack (s : ConsumerState) (message : StreamMessage) (env : Env) : Option ConsumerState :=
  onConsumer s message.msgId.topicName
    (TopicConsumer.sendAck env message.requestId message.msgId s.config.subscription)

def nack (s : ConsumerState) (message : StreamMessage) (delayMs : Option UInt64)
    (reason : Option String) (env : Env) : Option ConsumerState :=
  onConsumer s message.msgId.topicName
    (TopicConsumer.sendNack env message.requestId message.msgId s.config.subscription delayMs reason)

def acked (s : ConsumerState) (call : Nat) (w : Wake) : Option ConsumerState :=
  match s.acks[call]?, w with
  | some (.await _), .reply (.ok _) => some { s with acks := s.acks.set call (.ret ()) }
  | some (.await _), .reply (.error err) =>
    some { s with acks := s.acks.set call (.raise (.rpc err)) }
  | _, _ => none

def cancel (t : ReceiveTask) : ReceiveTask :=
  match t.status with
  | .started (.ret _) | .started (.raise _) => t
  | _ => { t with status := .cancelled }

def close (s : ConsumerState) : ConsumerState :=
  { s with
    shutdown := true
    pool := (s.consumers.map Prod.snd).foldl Pool.stop s.pool
    tasks := s.tasks.map cancel }

def step (s : ConsumerState) : ConsumerLabel → Option ConsumerState
  | .subscribe env => subscribe s env
  | .partitions w => partitions s w
  | .child ref w env =>
    (s.pool.child consumerRole ref w env).map fun p => settle { s with pool := p } ref
  | .gathered => gathered s
  | .receive => some (receive s)
  | .receiving task w env => receiving s task w env
  | .get queue => get s queue
  | .ack message env => ack s message env
  | .nack message delayMs reason env => nack s message delayMs reason env
  | .acked call w => acked s call w
  | .health task w env => (s.pool.health task w env).map fun p => { s with pool := p }
  | .close => some (close s)

end Consumer

end Danube
