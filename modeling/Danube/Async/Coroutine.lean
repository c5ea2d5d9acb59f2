import Danube.Async.Runs

/-!
# Coroutines

A coroutine runs without interruption from one suspension point to the next. One such piece
changes the shared state, writes events, and ends by waiting, by returning or by raising.
-/

namespace Async

/-- How a coroutine gives control back to its event loop. -/
inductive Outcome (κ α ε : Type*)
  /-- It waits at the suspension point `k`. -/
  | await (k : κ)
  | ret (a : α)
  | raise (e : ε)
  deriving DecidableEq, Repr

/-- What one uninterrupted piece did. -/
structure Ran (σ ω κ α ε : Type*) where
  state : σ
  log : List ω
  next : Outcome κ α ε

namespace Ran

variable {σ ω κ κ' α β ε ε' : Type*}

/-- `r`, after events that were written before it. -/
def after (log : List ω) (r : Ran σ ω κ α ε) : Ran σ ω κ α ε := { r with log := log ++ r.log }

@[simp] theorem after_state (log : List ω) (r : Ran σ ω κ α ε) : (r.after log).state = r.state :=
  rfl

@[simp] theorem after_log (log : List ω) (r : Ran σ ω κ α ε) : (r.after log).log = log ++ r.log :=
  rfl

@[simp] theorem after_next (log : List ω) (r : Ran σ ω κ α ε) : (r.after log).next = r.next := rfl

/-- A caller that awaits a coroutine: it waits where the callee waits, and goes on in the same
piece when the callee returns or raises. -/
def andThen (r : Ran σ ω κ α ε) (lift : κ → κ') (onRet : σ → α → Ran σ ω κ' β ε')
    (onRaise : σ → ε → Ran σ ω κ' β ε') : Ran σ ω κ' β ε' :=
  match r.next with
  | .await k => ⟨r.state, r.log, .await (lift k)⟩
  | .ret a => (onRet r.state a).after r.log
  | .raise e => (onRaise r.state e).after r.log

theorem andThen_after (log : List ω) (r : Ran σ ω κ α ε) (lift : κ → κ')
    (onRet : σ → α → Ran σ ω κ' β ε') (onRaise : σ → ε → Ran σ ω κ' β ε') :
    (r.after log).andThen lift onRet onRaise = (r.andThen lift onRet onRaise).after log := by
  unfold andThen
  rw [after_next]
  cases r.next with
  | await k => rfl
  | ret a => simp [after]
  | raise e => simp [after]

/-- What holds of the callee's piece and of the caller's continuations holds of both in a row. -/
theorem andThen_spec {J : σ → List ω → σ → Prop}
    (htrans : ∀ {s a t b u}, J s a t → J t b u → J s (a ++ b) u)
    {s : σ} {r : Ran σ ω κ α ε} {lift : κ → κ'} {onRet : σ → α → Ran σ ω κ' β ε'}
    {onRaise : σ → ε → Ran σ ω κ' β ε'} (hr : J s r.log r.state)
    (hret : ∀ a, r.next = .ret a → J r.state (onRet r.state a).log (onRet r.state a).state)
    (hraise : ∀ e, r.next = .raise e → J r.state (onRaise r.state e).log (onRaise r.state e).state) :
    J s (r.andThen lift onRet onRaise).log (r.andThen lift onRet onRaise).state := by
  unfold andThen
  cases hnext : r.next with
  | await k => exact hr
  | ret a => exact htrans hr (hret a hnext)
  | raise e => exact htrans hr (hraise e hnext)

end Ran

/-! ## Reading the events differently -/

namespace Ran

variable {σ ω ω' κ κ' α β ε ε' : Type*}

def mapLog (f : ω → ω') (r : Ran σ ω κ α ε) : Ran σ ω' κ α ε := ⟨r.state, r.log.map f, r.next⟩

/-- The piece with only those events that `f` reads. -/
def readLog (f : ω → Option ω') (r : Ran σ ω κ α ε) : Ran σ ω' κ α ε :=
  ⟨r.state, r.log.filterMap f, r.next⟩

variable {f : ω → Option ω'}

@[simp] theorem readLog_state (r : Ran σ ω κ α ε) : (r.readLog f).state = r.state := rfl

@[simp] theorem readLog_next (r : Ran σ ω κ α ε) : (r.readLog f).next = r.next := rfl

theorem readLog_after (log : List ω) (r : Ran σ ω κ α ε) :
    (r.after log).readLog f = (r.readLog f).after (log.filterMap f) := by
  simp [readLog, after]

theorem readLog_mapLog {g : ω' → ω} (hfg : ∀ e, f (g e) = some e) (r : Ran σ ω' κ α ε) :
    (r.mapLog g).readLog f = r := by
  have hlog : (r.log.map g).filterMap f = r.log := by
    rw [List.filterMap_map, show f ∘ g = some from funext hfg, List.filterMap_some]
  simp only [readLog, mapLog, hlog]

theorem readLog_andThen (r : Ran σ ω κ α ε) (lift : κ → κ') (onRet : σ → α → Ran σ ω κ' β ε')
    (onRaise : σ → ε → Ran σ ω κ' β ε') :
    (r.andThen lift onRet onRaise).readLog f = (r.readLog f).andThen lift
      (fun s a => (onRet s a).readLog f) fun s e => (onRaise s e).readLog f := by
  unfold andThen
  rw [readLog_next]
  cases r.next with
  | await k => rfl
  | ret a => exact readLog_after _ _
  | raise e => exact readLog_after _ _

end Ran

section Drive

variable {σ ω κ α ε ρ : Type*} (resume : σ → κ → ρ → Option (Ran σ ω κ α ε))

/-- A coroutine that runs alone: each reply resumes it, and its events are collected. -/
def advance (t : Ran σ ω κ α ε) (w : ρ) : Option (Ran σ ω κ α ε) :=
  match t.next with
  | .await k => (resume t.state k w).map (Ran.after t.log)
  | _ => none

/-- A coroutine among others: it is resumed in whatever state they have left. -/
def proceed (t : Ran σ ω κ α ε) (l : σ × ρ) : Option (Ran σ ω κ α ε) :=
  match t.next with
  | .await k => (resume l.1 k l.2).map (Ran.after t.log)
  | _ => none

variable {resume}

theorem proceed_eq_some {t t' : Ran σ ω κ α ε} {l : σ × ρ} :
    proceed resume t l = some t' ↔
      ∃ k r, t.next = .await k ∧ resume l.1 k l.2 = some r ∧ t' = r.after t.log := by
  unfold proceed
  cases h : t.next with
  | await k =>
    simp only [Option.map_eq_some_iff, Outcome.await.injEq, ↓existsAndEq, true_and]
    exact exists_congr fun r => and_congr_right fun _ => eq_comm
  | ret a => simp
  | raise e => simp

theorem advance_eq_proceed (t : Ran σ ω κ α ε) (w : ρ) :
    advance resume t w = proceed resume t (t.state, w) := rfl

theorem advance_eq_some {t t' : Ran σ ω κ α ε} {w : ρ} :
    advance resume t w = some t' ↔
      ∃ k r, t.next = .await k ∧ resume t.state k w = some r ∧ t' = r.after t.log := by
  rw [advance_eq_proceed, proceed_eq_some]

theorem proceed_readLog {ω' : Type*} {f : ω → Option ω'}
    {resume' : σ → κ → ρ → Option (Ran σ ω' κ α ε)}
    (h : ∀ s k w, (resume s k w).map (Ran.readLog f) = resume' s k w) (t : Ran σ ω κ α ε)
    (l : σ × ρ) : (proceed resume t l).map (Ran.readLog f) = proceed resume' (t.readLog f) l := by
  unfold proceed
  rw [Ran.readLog_next]
  cases t.next with
  | await k =>
    simp only [← h, Option.map_map]
    exact congrArg (fun g => Option.map g (resume l.1 k l.2)) (funext fun r => Ran.readLog_after _ _)
  | ret a => rfl
  | raise e => rfl

end Drive

end Async
