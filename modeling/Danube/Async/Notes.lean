import Danube.Async.Coroutine

/-!
# Coroutines that note what they do

Beside its events a piece may note the turns of a loop. The notes are read by a machine that follows
the loop from one suspension point to the next.
-/

namespace Async

variable {σ ω τ κ κ' α β ε ε' ρ φ : Type*}

namespace Ran

/-- The piece without its notes. -/
def erase (r : Ran σ (ω ⊕ τ) κ α ε) : Ran σ ω κ α ε := r.readLog Sum.getLeft?

theorem erase_after (log : List (ω ⊕ τ)) (r : Ran σ (ω ⊕ τ) κ α ε) :
    (r.after log).erase = r.erase.after (log.filterMap Sum.getLeft?) := readLog_after log r

theorem erase_mapLog (r : Ran σ ω κ α ε) : (r.mapLog (Sum.inl : ω → ω ⊕ τ)).erase = r :=
  readLog_mapLog (f := Sum.getLeft?) (g := Sum.inl) (fun _ => rfl) r

/-- Without its notes, a caller goes on as without the notes of its continuations. -/
theorem erase_andThen {r : Ran σ ω κ α ε} {lift : κ → κ'} {onRet : σ → α → Ran σ (ω ⊕ τ) κ' β ε'}
    {onRaise : σ → ε → Ran σ (ω ⊕ τ) κ' β ε'} {onRet' : σ → α → Ran σ ω κ' β ε'}
    {onRaise' : σ → ε → Ran σ ω κ' β ε'} (hret : ∀ s a, (onRet s a).erase = onRet' s a)
    (hraise : ∀ s e, (onRaise s e).erase = onRaise' s e) :
    ((r.mapLog .inl).andThen lift onRet onRaise).erase = r.andThen lift onRet' onRaise' := by
  obtain rfl : (fun s a => (onRet s a).erase) = onRet' := funext fun s => funext fun a => hret s a
  obtain rfl : (fun s e => (onRaise s e).erase) = onRaise' :=
    funext fun s => funext fun e => hraise s e
  conv_rhs => rw [← erase_mapLog (τ := τ) r]
  exact readLog_andThen _ _ _ _

end Ran

/-- What has been noted. -/
def notes (log : List (ω ⊕ τ)) : List τ := log.filterMap Sum.getRight?

@[simp] theorem notes_append (a b : List (ω ⊕ τ)) : notes (a ++ b) = notes a ++ notes b :=
  List.filterMap_append

@[simp] theorem notes_map_inl (log : List ω) : notes (log.map (Sum.inl : ω → ω ⊕ τ)) = [] := by
  simp [notes, List.filterMap_map]

/-- The notes of the piece take the machine from `a` to the phase in which the piece stops. -/
def Follows (step : φ → τ → Option φ) (phase : Outcome κ α ε → φ) (a : φ)
    (r : Ran σ (ω ⊕ τ) κ α ε) : Prop := exec step a (notes r.log) = some (phase r.next)

section Follows

variable {step : φ → τ → Option φ} {phase : Outcome κ α ε → φ} {a b : φ} {r : Ran σ (ω ⊕ τ) κ α ε}

theorem Follows.after_note (h : Follows step phase b r) {t : τ} (hstep : step a t = some b) :
    Follows step phase a (r.after [.inr t]) := exec_cons.mpr ⟨b, hstep, h⟩

theorem Follows.after_events (h : Follows step phase a r) (log : List ω) :
    Follows step phase a (r.after (log.map .inl)) := by
  unfold Follows
  rw [Ran.after_log, notes_append, notes_map_inl, List.nil_append]
  exact h

theorem follows_andThen {r : Ran σ ω κ' β ε'} {lift : κ' → κ} {onRet : σ → β → Ran σ (ω ⊕ τ) κ α ε}
    {onRaise : σ → ε' → Ran σ (ω ⊕ τ) κ α ε}
    (hawait : ∀ k, r.next = .await k → phase (.await (lift k)) = a)
    (hret : ∀ x, r.next = .ret x → Follows step phase a (onRet r.state x))
    (hraise : ∀ e, r.next = .raise e → Follows step phase a (onRaise r.state e)) :
    Follows step phase a ((r.mapLog .inl).andThen lift onRet onRaise) := by
  unfold Ran.andThen
  have hnext : (r.mapLog (Sum.inl : ω → ω ⊕ τ)).next = r.next := rfl
  rw [hnext]
  cases h : r.next with
  | await k =>
    unfold Follows
    dsimp only [Ran.mapLog]
    rw [notes_map_inl, exec_nil, hawait k h]
  | ret x => exact (hret x h).after_events r.log
  | raise e => exact (hraise e h).after_events r.log

/-- The machine follows a whole run, among other tasks that keep to `L`. -/
theorem exec_follows {resume : σ → κ → ρ → Option (Ran σ (ω ⊕ τ) κ α ε)} {L : σ → Prop}
    (hresume : ∀ s k l r, L s → resume s k l = some r → Follows step phase (phase (.await k)) r)
    {t t' : Ran σ (ω ⊕ τ) κ α ε} (ht : Follows step phase a t) {ls : List (σ × ρ)}
    (hls : ∀ l ∈ ls, L l.1) (h : exec (proceed resume) t ls = some t') : Follows step phase a t' := by
  refine exec_invariant_of_steps (P := Follows step phase a) (fun t l t' ht hl hstep => ?_) ht
    (steps_of_mem _ hls) h
  obtain ⟨k, r, hk, hr, rfl⟩ := proceed_eq_some.mp hstep
  unfold Follows at ht ⊢
  rw [hk] at ht
  rw [Ran.after_log, notes_append]
  exact exec_append.mpr ⟨_, ht, hresume _ k _ r hl hr⟩

end Follows

/-- Without their notes, the runs are those of the coroutine that takes none. -/
theorem exec_erase {resume : σ → κ → ρ → Option (Ran σ (ω ⊕ τ) κ α ε)}
    {resume' : σ → κ → ρ → Option (Ran σ ω κ α ε)}
    (h : ∀ s k w, (resume s k w).map Ran.erase = resume' s k w) (t : Ran σ (ω ⊕ τ) κ α ε)
    (ls : List (σ × ρ)) :
    (exec (proceed resume) t ls).map Ran.erase = exec (proceed resume') t.erase ls :=
  exec_map (fun t l _ => proceed_readLog h t l) t

end Async
