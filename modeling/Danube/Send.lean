import Danube.TopicProducer

/-!
# The retry loop of a send (`producer.py`)

`Producer.send` and `Producer.send_with_key` have the same loop. Once the partition is chosen it
runs outside the producer's lock, on the `TopicProducer` of the partition.
-/

namespace Danube

open Async

/-- The arguments of the call and the retry manager it made. -/
structure SendCall where
  data : List UInt8
  attributes : Option (List (String × String))
  routingKey : Option String
  retryManager : RetryManager
  deriving Repr

/-- A call that retries once. -/
def SendCall.oneRetry : SendCall where
  data := [1]
  attributes := none
  routingKey := none
  retryManager := .init 1 0 0

/-- Where a send is suspended: in `SendMessage`, in the retry sleep, in the lookup of
`_lookup_and_recreate` (which keeps the error it was called for), or in `create()`. -/
inductive Sending
  | message (attempts : Nat) (call : Call)
  | backoff (attempts : Nat)
  | lookup (err : Error) (call : Call)
  | create (k : TopicProducer.Creating)
  deriving DecidableEq, Repr

def Sending.pending : Sending → Option Call
  | .message _ call | .lookup _ call => some call
  | .create k => k.pending
  | .backoff _ => none

namespace SendCall

variable (env : Env)

def raise (err : Error) (s : Scope ProducerFields) : Piece ProducerFields Sending Nat :=
  ⟨s, [], .raise err⟩

/-- `_recreate_producer`, up to where it first waits. -/
def recreateProducer (s : Scope ProducerFields) : Piece ProducerFields Sending Nat :=
  (TopicProducer.create env s).andThen .create (fun _ (a : Empty) => a.elim) fun s e => raise e s

/-- `_lookup_and_recreate`, up to its lookup RPC. -/
def lookupAndRecreate (originalError : Error) (s : Scope ProducerFields) :
    Piece ProducerFields Sending Nat :=
  match s.client.lookupTopic env.lookup s.self.connectUrl s.self.topic with
  | (c, .ok call) => ⟨{ s with client := c }, [.rpc call], .await (.lookup originalError call)⟩
  | (c, .error _) => raise originalError { s with client := c }

/-- The `except` clauses around one attempt. -/
def caught (call : SendCall) (attempts : Nat) (err : Error) (s : Scope ProducerFields) :
    Piece ProducerFields Sending Nat :=
  match err with
  | .unrecoverable _ => recreateProducer env s
  | _ =>
    if RetryManager.isRetryable err then
      if attempts + 1 > call.retryManager.maxRetries then lookupAndRecreate env err s
      else ⟨s, [.backoff (call.retryManager.calculateBackoff attempts env.draw)],
        .await (.backoff (attempts + 1))⟩
    else raise err s

/-- One turn of the `while` loop, up to its RPC. -/
def attempt (call : SendCall) (attempts : Nat) (s : Scope ProducerFields) :
    Piece ProducerFields Sending Nat :=
  match TopicProducer.send env call.data call.attributes call.routingKey s with
  | (s, .ok rpc) => ⟨s, [.rpc rpc], .await (.message attempts rpc)⟩
  | (s, .error e) => caught env call attempts e s

/-- `create()` went on: when it returns, the loop starts again with no attempts. -/
def recreated (call : SendCall) (r : Piece ProducerFields TopicProducer.Creating Nat) :
    Piece ProducerFields Sending Nat :=
  r.andThen .create (fun s _ => attempt env call 0 s) fun s e => raise e s

def resume (call : SendCall) (s : Scope ProducerFields) :
    Sending → Wake → Option (Piece ProducerFields Sending Nat)
  | .message _ _, .reply (.ok (.message requestId)) => some ⟨s, [], .ret requestId⟩
  | .message n _, .reply (.error err) => some (caught env call n (.rpc err) s)
  | .backoff n, .timer => some (attempt env call n s)
  | .lookup originalError _, .reply (.ok (.topicLookup response)) =>
    match Client.handleLookup response with
    | .ok addr =>
      some ((recreateProducer env { s with self := s.self.moveTo addr }).after [.moved addr])
    | .error _ => some (raise originalError s)
  | .lookup originalError _, .reply (.error _) => some (raise originalError s)
  | .create k, w => (TopicProducer.createResume env s k w).map (recreated env call)
  | _, _ => none

/-- What wakes a suspended send, and the piece that it runs then. -/
inductive Resumption (call : SendCall) (s : Scope ProducerFields) :
    Sending → Wake → Piece ProducerFields Sending Nat → Prop
  | answered (n : Nat) (rpc : Call) (id : Nat) :
    Resumption call s (.message n rpc) (.reply (.ok (.message id))) ⟨s, [], .ret id⟩
  | failed (n : Nat) (rpc : Call) (err : RpcError) :
    Resumption call s (.message n rpc) (.reply (.error err)) (caught env call n (.rpc err) s)
  | slept (n : Nat) : Resumption call s (.backoff n) .timer (attempt env call n s)
  | moved (originalError : Error) (rpc : Call) (response : TopicLookupResponse) (addr : BrokerAddress)
    (haddr : Client.handleLookup response = .ok addr) :
    Resumption call s (.lookup originalError rpc) (.reply (.ok (.topicLookup response)))
      ((recreateProducer env { s with self := s.self.moveTo addr }).after [.moved addr])
  | notMoved (originalError : Error) (rpc : Call) (response : TopicLookupResponse) (err : Error)
    (herr : Client.handleLookup response = .error err) :
    Resumption call s (.lookup originalError rpc) (.reply (.ok (.topicLookup response)))
      (raise originalError s)
  | lookupFailed (originalError : Error) (rpc : Call) (err : RpcError) :
    Resumption call s (.lookup originalError rpc) (.reply (.error err)) (raise originalError s)
  | creating (k : TopicProducer.Creating) (w : Wake) (r : Piece ProducerFields TopicProducer.Creating Nat)
    (hr : TopicProducer.createResume env s k w = some r) :
    Resumption call s (.create k) w (recreated env call r)

variable {env} in
theorem resumption {call : SendCall} {s : Scope ProducerFields} {k : Sending} {w : Wake}
    {r : Piece ProducerFields Sending Nat} (h : call.resume env s k w = some r) :
    call.Resumption env s k w r := by
  unfold resume at h
  split at h
  · cases h; exact .answered _ _ _
  · cases h; exact .failed _ _ _
  · cases h; exact .slept _
  · split at h <;> cases h
    · exact .moved _ _ _ _ ‹_›
    · exact .notMoved _ _ _ _ ‹_›
  · cases h; exact .lookupFailed _ _ _
  · obtain ⟨r', hr', rfl⟩ := Option.map_eq_some_iff.mp h
    exact .creating _ _ r' hr'
  · cases h

/-- One resumption of a send that runs alone. -/
abbrev advance (call : SendCall) (t : Piece ProducerFields Sending Nat) (l : Wake × Env) :
    Option (Piece ProducerFields Sending Nat) :=
  Async.advance (fun s k (l : Wake × Env) => call.resume l.2 s k l.1) t l

end SendCall

end Danube
