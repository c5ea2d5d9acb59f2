import Danube.Connection

/-! # Requests and answers (`DanubeApi.proto`, `SchemaRegistry.proto`) -/

namespace Danube

inductive ClientType
  | producer | consumer
  deriving DecidableEq, Repr

/-- `SchemaReference.version_ref`. A version that is no `uint32` cannot be put in it. -/
inductive VersionRef
  | useLatest (b : Bool)
  | pinnedVersion (version : UInt32)
  | minVersion (version : UInt32)
  deriving DecidableEq, Repr

structure SchemaReference where
  subject : String
  versionRef : Option VersionRef
  deriving DecidableEq, Repr

inductive DispatchStrategy
  | nonReliable | reliable
  deriving DecidableEq, Repr

inductive ProducerAccessMode
  | shared | exclusive
  deriving DecidableEq, Repr

inductive SubType
  | exclusive | shared | failover | keyShared
  deriving DecidableEq, Repr

structure ProducerRequest where
  requestId : Nat
  producerName : String
  topicName : String
  schemaRef : Option SchemaReference
  producerAccessMode : ProducerAccessMode
  dispatchStrategy : DispatchStrategy
  deriving DecidableEq, Repr

structure ConsumerRequest where
  requestId : Nat
  topicName : String
  consumerName : String
  subscription : String
  subscriptionType : SubType
  keyFilters : List String
  deriving DecidableEq, Repr

structure MsgID where
  producerId : Nat
  topicName : String
  brokerAddr : String
  topicOffset : Nat := 0
  deriving DecidableEq, Repr

structure StreamMessage where
  requestId : Nat
  msgId : MsgID
  payload : List UInt8
  publishTime : Nat
  producerName : String
  subscriptionName : String
  attributes : List (String × String)
  schemaId : Option Nat := none
  schemaVersion : Option Nat := none
  routingKey : Option String := none
  deriving DecidableEq, Repr

structure AckRequest where
  requestId : Nat
  msgId : MsgID
  subscriptionName : String
  deriving DecidableEq, Repr

/-- A delay that is no `uint64` cannot be put in it. -/
structure NackRequest where
  requestId : Nat
  msgId : MsgID
  subscriptionName : String
  delayMs : Option UInt64 := none
  reason : Option String := none
  deriving DecidableEq, Repr

inductive Request
  | topicLookup (requestId : Nat) (topic : String)
  | topicPartitions (requestId : Nat) (topic : String)
  | createProducer (request : ProducerRequest)
  | sendMessage (message : StreamMessage)
  | subscribe (request : ConsumerRequest)
  | receiveMessages (requestId consumerId : Nat)
  | ack (request : AckRequest)
  | nack (request : NackRequest)
  | healthCheck (requestId : Nat) (client : ClientType) (id : Nat)
  | getLatestSchema (subject : String)
  | getSchema (schemaId : Nat) (version : Option Nat)
  deriving DecidableEq, Repr

/-- An RPC in flight: the channel of its stub, what it asks, its metadata. -/
structure Call where
  conn : RpcConnection
  request : Request
  metadata : Option Metadata
  deriving DecidableEq, Repr

inductive LookupType
  | redirect | connect | failed | unknown
  deriving DecidableEq, Repr

structure TopicLookupResponse where
  responseType : LookupType
  connectUrl : String
  brokerUrl : String
  proxy : Bool
  deriving DecidableEq, Repr

structure SchemaInfo where
  schemaId : Nat
  version : Nat
  deriving DecidableEq, Repr

inductive ClientStatus
  | ok | close | unknown
  deriving DecidableEq, Repr

/-- `registered` is the `producer_id` or `consumer_id` of a registration, `message` the
`request_id` of a sent message. A stream of messages answers several times. -/
inductive Response
  | topicLookup (response : TopicLookupResponse)
  | topicPartitions (partitions : List String)
  | registered (id : Nat)
  | message (requestId : Nat)
  | acked
  | stream (message : StreamMessage)
  | streamEnd
  | health (status : ClientStatus)
  | schema (info : SchemaInfo)
  deriving DecidableEq, Repr

abbrev Reply := Except RpcError Response

/-- What makes the event loop run a suspended task again. -/
inductive Wake
  | start
  | timer
  | reply (r : Reply)
  /-- A full queue has been read from. -/
  | room

def Wake.answer (response : Response) : Wake := .reply (.ok response)

def Wake.fail (code : StatusCode) : Wake := .reply (.error ⟨code, ""⟩)

/-- A lookup answer without a proxy. -/
def Response.address (url : String) : Response := .topicLookup ⟨.connect, url, url, false⟩

end Danube
