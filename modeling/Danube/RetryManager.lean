import Danube.Errors

/-! # Retry policy and the proxy header (`retry_manager.py`) -/

namespace Danube

def defaultMaxRetries : Nat := 5
def defaultBaseBackoffMs : Nat := 200
def defaultMaxBackoffMs : Nat := 5000

/-- The options after `RetryManager.__init__`, which leaves none of them at zero or below. -/
structure RetryManager where
  maxRetries : Nat
  baseBackoffMs : Nat
  maxBackoffMs : Nat
  maxRetries_pos : 0 < maxRetries
  baseBackoffMs_pos : 0 < baseBackoffMs
  maxBackoffMs_pos : 0 < maxBackoffMs
  deriving DecidableEq, Repr

/-- `value if value > 0 else default`. -/
def positiveOr (value : Int) (default : Nat) : Nat := if value > 0 then value.toNat else default

theorem positiveOr_pos (value : Int) {default : Nat} (h : 0 < default) :
    0 < positiveOr value default := by
  unfold positiveOr
  split <;> omega

namespace RetryManager

def init (maxRetries baseBackoffMs maxBackoffMs : Int) : RetryManager where
  maxRetries := positiveOr maxRetries defaultMaxRetries
  baseBackoffMs := positiveOr baseBackoffMs defaultBaseBackoffMs
  maxBackoffMs := positiveOr maxBackoffMs defaultMaxBackoffMs
  maxRetries_pos := positiveOr_pos _ (by decide)
  baseBackoffMs_pos := positiveOr_pos _ (by decide)
  maxBackoffMs_pos := positiveOr_pos _ (by decide)

def isRetryable : Error → Bool
  | .rpc err => err.code ∈ [.unavailable, .deadlineExceeded, .resourceExhausted]
  | _ => false

/-- The upper end of the jitter of `calculate_backoff`. -/
def linearBackoff (r : RetryManager) (attempt : Nat) : Nat :=
  min (r.baseBackoffMs * (attempt + 1)) r.maxBackoffMs

/-- Milliseconds. `random.randint(low, linear)` is any value of that range, picked by `draw`. -/
def calculateBackoff (r : RetryManager) (attempt draw : Nat) : Nat :=
  let linear := r.linearBackoff attempt
  let low := max (linear / 2) 1
  low + draw % (linear - low + 1)

end RetryManager

abbrev Metadata := List (String × String)

def insertProxyHeader (metadata : Option Metadata) (brokerUrl : String) (proxy : Bool) :
    Option Metadata :=
  if proxy then some (metadata.getD [] ++ [("x-danube-broker-url", brokerUrl)]) else metadata

end Danube
