import Danube.Endpoint

/-! # One topic's consumer (`topic_consumer.py`) -/

namespace Danube

open Async

structure ConsumerFields where
  subscription : String
  subscriptionType : SubType
  keyFilters : List String
  deriving DecidableEq, Repr

abbrev TopicConsumer := Endpoint ConsumerFields

def consumerRole : Role ConsumerFields where
  clientType := .consumer
  request e := .subscribe {
    requestId := e.requestId
    topicName := e.topic
    consumerName := e.name
    subscription := e.own.subscription
    subscriptionType := e.own.subscriptionType
    keyFilters := e.own.keyFilters }
  alreadyExists := "consumer already exists: "
  schemaRef _ := none
  setSchema own _ := own
  registers _ := Or.inr ⟨_, rfl⟩

namespace TopicConsumer

def init (uri topicName consumerName subscription : String) (subscriptionType : SubType)
    (keyFilters : Option (List String)) (maxRetries baseBackoffMs maxBackoffMs : Int) :
    TopicConsumer where
  topic := topicName
  name := consumerName
  retryManager := .init maxRetries baseBackoffMs maxBackoffMs
  brokerAddr := uri
  connectUrl := uri
  own := {
    subscription := subscription
    subscriptionType := subscriptionType
    keyFilters := keyFilters.getD [] }

abbrev Subscribing := Registering

def subscribe (env : Env) {α : Type} (s : Scope ConsumerFields) :
    Piece ConsumerFields Subscribing α := Endpoint.create consumerRole env s

def subscribeResume (env : Env) (s : Scope ConsumerFields) (k : Subscribing) (w : Wake) :
    Option (Piece ConsumerFields Subscribing Nat) := Endpoint.resume consumerRole env s k w

/-- An RPC on the stub, for a consumer that is connected. -/
def onStub (env : Env) (notConnected : String) (request : Request) (s : Scope ConsumerFields) :
    Except Error Call :=
  match s.self.stub with
  | none => .error (.unrecoverable notConnected)
  | some stub =>
    match s.client.attachTokenIfNeeded env.call with
    | .error e => .error e
    | .ok metadata => .ok ⟨stub, request, insertProxyHeader metadata s.self.brokerAddr s.self.proxy⟩

/-- `receive` opens the stream. The request is counted before the token is asked for. -/
def receive (env : Env) (s : Scope ConsumerFields) : Scope ConsumerFields × Except Error Call :=
  let call := onStub env "receive: consumer is not connected"
    (.receiveMessages s.self.requestId s.self.id) s
  let s := if s.self.stub = none then s else Endpoint.countRequest s
  match call, env.receiveMessages with
  | .ok _, some err => (s, .error (.rpc err))
  | call, _ => (s, call)

def sendAck (env : Env) (requestId : Nat) (msgId : MsgID) (subscriptionName : String)
    (s : Scope ConsumerFields) : Except Error Call :=
  onStub env "send_ack: consumer is not connected" (.ack ⟨requestId, msgId, subscriptionName⟩) s

def sendNack (env : Env) (requestId : Nat) (msgId : MsgID) (subscriptionName : String)
    (delayMs : Option UInt64) (reason : Option String) (s : Scope ConsumerFields) :
    Except Error Call :=
  onStub env "send_nack: consumer is not connected"
    (.nack ⟨requestId, msgId, subscriptionName, delayMs, reason⟩) s

end TopicConsumer

end Danube
