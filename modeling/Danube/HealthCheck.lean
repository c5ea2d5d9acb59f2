import Danube.Client

/-! # Health checks (`health_check.py`) -/

namespace Danube

/-- How a health loop ended: by a CLOSE answer, by an RPC error, because the token supplier raised,
because it found its stop event set, or by `cancel()`. -/
inductive HealthEnd
  | closed | failed | refused | stopped | cancelled
  deriving DecidableEq, Repr

/-- Where a health loop is: not yet run, awaiting its RPC, in the sleep between two RPCs. -/
inductive HealthAt
  | scheduled
  | polling (call : Call)
  | sleeping
  | finished (why : HealthEnd)
  deriving DecidableEq, Repr

/-- The task that `start_health_check` makes, with the values its `_loop` closes over. The stop
event is the one of the producer or consumer `owner`. -/
structure HealthLoop where
  owner : Nat
  conn : RpcConnection
  connectUrl : String
  brokerAddr : String
  proxy : Bool
  clientType : ClientType
  clientId : Nat
  position : HealthAt := .scheduled
  deriving DecidableEq, Repr

namespace HealthLoop

def Finished (l : HealthLoop) : Prop := ∃ why, l.position = .finished why

instance (l : HealthLoop) : Decidable l.Finished :=
  match h : l.position with
  | .finished why => isTrue ⟨why, h⟩
  | .scheduled => isFalse (by rintro ⟨_, hw⟩; simp [h] at hw)
  | .polling _ => isFalse (by rintro ⟨_, hw⟩; simp [h] at hw)
  | .sleeping => isFalse (by rintro ⟨_, hw⟩; simp [h] at hw)

/-- `task.cancel()`: the pending await raises, and the loop returns. -/
def cancel (l : HealthLoop) : HealthLoop :=
  match l.position with
  | .finished _ => l
  | _ => { l with position := .finished .cancelled }

@[simp] theorem cancel_owner (l : HealthLoop) : l.cancel.owner = l.owner := by
  unfold cancel; split <;> rfl

/-- The head of the `while` loop. -/
def turn (l : HealthLoop) (out : Outside) (stopEvent : Bool) (c : Client) :
    Client × HealthLoop × Option Call :=
  if stopEvent then (c, { l with position := .finished .stopped }, none)
  else
    let request : Request := .healthCheck c.healthRequestId l.clientType l.clientId
    let c := { c with healthRequestId := c.healthRequestId + 1 }
    match c.attachTokenIfNeeded out with
    | .error _ => (c, { l with position := .finished .refused }, none)
    | .ok metadata =>
      let call : Call := ⟨l.conn, request, insertProxyHeader metadata l.brokerAddr l.proxy⟩
      (c, { l with position := .polling call }, some call)

theorem turn_extends (l : HealthLoop) (out : Outside) (stopEvent : Bool) (c : Client) :
    c.Extends (l.turn out stopEvent c).1 := by
  unfold turn
  split
  · exact .refl c
  · dsimp only
    split <;> exact ⟨rfl, .refl _⟩

@[simp] theorem turn_owner (l : HealthLoop) (out : Outside) (stopEvent : Bool) (c : Client) :
    (l.turn out stopEvent c).2.1.owner = l.owner := by
  unfold turn
  split
  · rfl
  · dsimp only
    split <;> rfl

end HealthLoop

end Danube
