import Danube.Endpoint

/-! # One topic's producer (`topic_producer.py`) -/

namespace Danube

open Async

structure ProducerFields where
  schemaRef : Option SchemaReference
  schemaId : Option Nat := none
  schemaVersion : Option Nat := none
  dispatchStrategy : DispatchStrategy
  deriving DecidableEq, Repr

abbrev TopicProducer := Endpoint ProducerFields

def producerRole : Role ProducerFields where
  clientType := .producer
  request e := .createProducer {
    requestId := e.requestId
    producerName := e.name
    topicName := e.topic
    schemaRef := e.own.schemaRef
    producerAccessMode := .shared
    dispatchStrategy := e.own.dispatchStrategy }
  alreadyExists := "producer already exists: "
  schemaRef own := own.schemaRef
  setSchema own info := { own with schemaId := some info.schemaId, schemaVersion := some info.version }
  registers _ := Or.inl ⟨_, rfl⟩

namespace TopicProducer

def init (uri topic producerName : String) (schemaRef : Option SchemaReference)
    (dispatchStrategy : DispatchStrategy) (maxRetries baseBackoffMs maxBackoffMs : Int) :
    TopicProducer where
  topic := topic
  name := producerName
  retryManager := .init maxRetries baseBackoffMs maxBackoffMs
  brokerAddr := uri
  connectUrl := uri
  own := { schemaRef := schemaRef, dispatchStrategy := dispatchStrategy }

/-- A fresh producer that retries once. -/
def oneRetry (schemaRef : Option SchemaReference) : Scope ProducerFields where
  client := .init "a" {}
  loops := []
  ref := 0
  self := init "a" "t" "p" schemaRef .nonReliable 1 0 0

abbrev Creating := Registering

def create (env : Env) {α : Type} (s : Scope ProducerFields) : Piece ProducerFields Creating α :=
  Endpoint.create producerRole env s

def createResume (env : Env) (s : Scope ProducerFields) (k : Creating) (w : Wake) :
    Option (Piece ProducerFields Creating Nat) := Endpoint.resume producerRole env s k w

/-- `send`, up to its RPC. -/
def send (env : Env) (data : List UInt8) (attributes : Option (List (String × String)))
    (routingKey : Option String) (s : Scope ProducerFields) :
    Scope ProducerFields × Except Error Call :=
  match s.self.stub with
  | none => (s, .error (.unrecoverable "send: producer is not connected"))
  | some stub =>
    let request : StreamMessage := {
      requestId := s.self.requestId
      msgId := {
        producerId := s.self.id
        topicName := s.self.topic
        brokerAddr := s.self.brokerAddr }
      payload := data
      publishTime := env.now
      producerName := s.self.name
      subscriptionName := ""
      attributes := attributes.getD []
      schemaId := s.self.own.schemaId
      schemaVersion := s.self.own.schemaVersion
      routingKey := routingKey }
    let s := { s with self := { s.self with requestId := s.self.requestId + 1 } }
    match s.client.attachTokenIfNeeded env.call with
    | .error e => (s, .error e)
    | .ok metadata =>
      (s, .ok ⟨stub, .sendMessage request, insertProxyHeader metadata s.self.brokerAddr s.self.proxy⟩)

end TopicProducer

end Danube
