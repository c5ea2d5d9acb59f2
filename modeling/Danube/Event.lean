import Danube.HealthCheck

/-! # The journal of a producer or consumer -/

namespace Danube

/-- What happens on one `TopicProducer` or `TopicConsumer`, in the order in which it happens. -/
inductive Event
  /-- An RPC is issued. -/
  | rpc (call : Call)
  /-- A lookup answer set the address fields. -/
  | moved (addr : BrokerAddress)
  /-- `_connect` built the stub, with these address fields. -/
  | connected (addr : BrokerAddress) (conn : RpcConnection)
  /-- `create()` or `subscribe()` was called. -/
  | creating
  /-- The broker answered a registration that was issued with these address fields. -/
  | registered (addr : BrokerAddress) (id : Nat)
  | healthStarted (loop : HealthLoop)
  /-- `_resolve_schema_metadata` raised. -/
  | unresolved (err : Error)
  /-- A retry sleep, in milliseconds. -/
  | backoff (ms : Nat)
  /-- `create()` or `subscribe()` returned. -/
  | created (id : Nat)
  /-- `create()` or `subscribe()` raised. -/
  | notCreated (err : Error)
  /-- A health check of `id` was answered CLOSE. -/
  | closed (id : Nat)
  /-- `stop()` was called. -/
  | stopped
  /-- The receive loop took a message from its stream. -/
  | took (message : StreamMessage)
  /-- The receive loop put a message on the queue. -/
  | put (message : StreamMessage)
  | streamFailed (err : RpcError)
  | streamEnded
  /-- The receive loop cleared the stop event. -/
  | cleared
  /-- The receive loop called `subscribe()`. -/
  | resubscribing
  deriving DecidableEq, Repr

def Event.loop? : Event → Option HealthLoop
  | .healthStarted l => some l
  | _ => none

/-- The health loops that the events start. -/
def startedLoops (log : List Event) : List HealthLoop := log.filterMap Event.loop?

@[simp] theorem startedLoops_nil : startedLoops [] = [] := rfl

@[simp] theorem startedLoops_append (a b : List Event) :
    startedLoops (a ++ b) = startedLoops a ++ startedLoops b := List.filterMap_append

def Event.message? : Event → Option StreamMessage
  | .rpc call =>
    match call.request with
    | .sendMessage m => some m
    | _ => none
  | _ => none

theorem Event.message?_eq_some {e : Event} {m : StreamMessage} :
    e.message? = some m ↔ ∃ call, e = .rpc call ∧ call.request = .sendMessage m := by
  unfold message?
  constructor
  · intro h
    split at h
    · rename_i call
      split at h
      · rename_i hm
        exact ⟨call, rfl, by rw [hm]; simpa using h⟩
      · simp at h
    · simp at h
  · rintro ⟨call, rfl, hm⟩
    simp [hm]

/-- The broker that answered a registration. -/
def Event.registeredAt? : Event → Option String
  | .registered addr _ => some addr.brokerUrl
  | _ => none

/-! ## What the journal says of the fields -/

/-- The last lookup answer, the last `_connect` and the last registration. -/
structure View where
  addr : BrokerAddress
  stub : Option (BrokerAddress × RpcConnection) := none
  registration : Option (BrokerAddress × Nat) := none
  deriving DecidableEq, Repr

namespace View

def apply (v : View) : Event → View
  | .moved a => { v with addr := a }
  | .connected a conn => { v with stub := some (a, conn) }
  | .registered a id => { v with registration := some (a, id) }
  | _ => v

/-- Before the first event: both addresses are the service URL. -/
def init (uri : String) : View := { addr := ⟨uri, uri, false⟩ }

/-- `producer_id` or `consumer_id`, which is 0 before the first registration. -/
def id (v : View) : Nat := (v.registration.map Prod.snd).getD 0

end View

/-- `Ack` or `Nack`. -/
def Request.isAck : Request → Bool
  | .ack _ | .nack _ => true
  | _ => false

/-- The RPCs that go out on the stub that `_connect` built. -/
def Request.onStub : Request → Bool
  | .createProducer _ | .sendMessage _ | .subscribe _ | .receiveMessages .. | .ack _ | .nack _ =>
    true
  | _ => false

/-- What an event carries, given the journal before it: an RPC on the stub uses the last stub and
names the last address, a message names the last registration, and a health check polls it. -/
def Fits (topic : String) (ref : Nat) (v : View) : Event → Prop
  | .rpc call => call.request.onStub = true →
    (∃ a, v.stub = some (a, call.conn)) ∧
    (∃ metadata, call.metadata = insertProxyHeader metadata v.addr.brokerUrl v.addr.proxy) ∧
    (∀ m, call.request = .sendMessage m →
      m.msgId = { producerId := v.id, topicName := topic, brokerAddr := v.addr.brokerUrl }) ∧
    (∀ n id, call.request = .receiveMessages n id → id = v.id)
  | .connected a _ => a = v.addr
  | .healthStarted l => l.owner = ref ∧ l.clientId = v.id ∧ l.brokerAddr = v.addr.brokerUrl ∧
    l.connectUrl = v.addr.connectUrl ∧ l.proxy = v.addr.proxy ∧ l.position = .scheduled
  | _ => True

end Danube
