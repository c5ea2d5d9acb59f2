import Danube.TopicConsumer

/-!
# The receive loop of one partition (`consumer.py`)

`_partition_receive_loop` opens a stream, puts its messages on the queue and subscribes again when
the broker asks for it or the retries are used up.
-/

namespace Danube

open Async

/-- Where the loop is suspended: in its stream, in `put` on a full queue, in the retry sleep or in
`subscribe()`. Its counter is 0 in all of them but the sleep. -/
inductive Receiving
  | reading (call : Call)
  | putting (call : Call) (message : StreamMessage)
  | backoff (attempts : Nat)
  | subscribing (k : TopicConsumer.Subscribing)
  deriving DecidableEq, Repr

/-- What the loop was given: its retry manager, and what the shutdown event and the queue say. -/
structure LoopArgs where
  retryManager : RetryManager
  shutdown : Bool
  full : Bool

namespace Receive

variable (env : Env) (a : LoopArgs)

def done (s : Scope ConsumerFields) : Piece ConsumerFields Receiving Unit := ⟨s, [], .ret ()⟩

/-- `subscribe()` in the loop, up to where it first waits. Its exceptions end the loop. -/
def resubscribe (s : Scope ConsumerFields) : Piece ConsumerFields Receiving Unit :=
  ((TopicConsumer.subscribe env s).andThen .subscribing (fun _ (x : Empty) => x.elim)
    fun s _ => done s).after [.resubscribing]

/-- One turn of the `while` loop, up to the stream. -/
def turn (attempts : Nat) (s : Scope ConsumerFields) : Piece ConsumerFields Receiving Unit :=
  if a.shutdown then done s
  else
    match TopicConsumer.receive env s with
    | (s, .ok call) => ⟨s, [.rpc call], .await (.reading call)⟩
    | (s, .error (.unrecoverable _)) => resubscribe env s
    | (s, .error err) =>
      if RetryManager.isRetryable err then
        if attempts + 1 > a.retryManager.maxRetries then resubscribe env s
        else ⟨s, [.backoff (a.retryManager.calculateBackoff attempts env.draw)],
          .await (.backoff (attempts + 1))⟩
      else done s

def clearStop (s : Scope ConsumerFields) : Scope ConsumerFields :=
  { s with self := { s.self with stopEvent := false } }

/-- The rest of the turn after the `async for`. -/
def streamOver (s : Scope ConsumerFields) : Piece ConsumerFields Receiving Unit :=
  if a.shutdown then done s
  else if s.self.stopEvent then (resubscribe env (clearStop s)).after [.cleared]
  else turn env a 0 s

/-- The body of the `async for`. A message that is there when the stop event is set leads out of it. -/
def taken (call : Call) (message : StreamMessage) (s : Scope ConsumerFields) :
    Piece ConsumerFields Receiving Unit :=
  if a.shutdown then done s
  else if s.self.stopEvent then streamOver env a s
  else if a.full then ⟨s, [], .await (.putting call message)⟩
  else ⟨s, [.put message], .await (.reading call)⟩

/-- `subscribe()` went on: when it returns, the loop starts again with no attempts. -/
def resubscribed (r : Piece ConsumerFields TopicConsumer.Subscribing Nat) :
    Piece ConsumerFields Receiving Unit :=
  r.andThen .subscribing (fun s _ => turn env a 0 s) fun s _ => done s

def resume (s : Scope ConsumerFields) :
    Receiving → Wake → Option (Piece ConsumerFields Receiving Unit)
  | .reading call, .reply (.ok (.stream message)) =>
    some ((taken env a call message s).after [.took message])
  | .reading _, .reply (.ok .streamEnd) => some ((streamOver env a s).after [.streamEnded])
  | .reading _, .reply (.error err) => some ((streamOver env a s).after [.streamFailed err])
  | .putting call message, .room =>
    if a.full then none else some ⟨s, [.put message], .await (.reading call)⟩
  | .backoff n, .timer => some (turn env a n s)
  | .subscribing k, w => (TopicConsumer.subscribeResume env s k w).map (resubscribed env a)
  | _, _ => none

/-- What wakes a suspended loop, and the piece that it runs then. -/
inductive Resumption (s : Scope ConsumerFields) :
    Receiving → Wake → Piece ConsumerFields Receiving Unit → Prop
  | took (call : Call) (message : StreamMessage) :
    Resumption s (.reading call) (.reply (.ok (.stream message)))
      ((taken env a call message s).after [.took message])
  | ended (call : Call) :
    Resumption s (.reading call) (.reply (.ok .streamEnd)) ((streamOver env a s).after [.streamEnded])
  | failed (call : Call) (err : RpcError) :
    Resumption s (.reading call) (.reply (.error err)) ((streamOver env a s).after [.streamFailed err])
  | room (call : Call) (message : StreamMessage) :
    Resumption s (.putting call message) .room ⟨s, [.put message], .await (.reading call)⟩
  | slept (n : Nat) : Resumption s (.backoff n) .timer (turn env a n s)
  | subscribing (k : TopicConsumer.Subscribing) (w : Wake)
    (r : Piece ConsumerFields TopicConsumer.Subscribing Nat)
    (hr : TopicConsumer.subscribeResume env s k w = some r) :
    Resumption s (.subscribing k) w (resubscribed env a r)

variable {env a} in
theorem resumption {s : Scope ConsumerFields} {k : Receiving} {w : Wake}
    {r : Piece ConsumerFields Receiving Unit} (h : resume env a s k w = some r) :
    Resumption env a s k w r := by
  unfold resume at h
  split at h
  · cases h; exact .took _ _
  · cases h; exact .ended _
  · cases h; exact .failed _ _
  · split at h <;> cases h
    exact .room _ _
  · cases h; exact .slept _
  · obtain ⟨r', hr', rfl⟩ := Option.map_eq_some_iff.mp h
    exact .subscribing _ _ r' hr'
  · cases h

end Receive

end Danube
