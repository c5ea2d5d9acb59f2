import Danube.RetryLoop

/-! # The trace of a registration -/

namespace Danube

open Async

variable {ρ κ α : Type}

namespace RetryManager

variable (r : RetryManager)

/-- The lower end of the jitter of `calculate_backoff`. -/
def lowestBackoff (attempt : Nat) : Nat := max (r.linearBackoff attempt / 2) 1

/-- The loops of `create()` and `subscribe()` are retry loops of this policy. -/
def policy : Retry.Policy Error where
  retryable := isRetryable
  maxRetries := r.maxRetries
  low := r.lowestBackoff
  high := r.linearBackoff

theorem linearBackoff_pos (n : Nat) : 0 < r.linearBackoff n :=
  lt_min (Nat.mul_pos r.baseBackoffMs_pos n.succ_pos) r.maxBackoffMs_pos

theorem linearBackoff_le (n : Nat) : r.linearBackoff n ≤ r.maxBackoffMs := min_le_right _ _

theorem linearBackoff_mono {m n : Nat} (h : m ≤ n) : r.linearBackoff m ≤ r.linearBackoff n :=
  min_le_min_right _ (Nat.mul_le_mul_left _ (Nat.succ_le_succ h))

theorem lowestBackoff_le (n : Nat) : r.lowestBackoff n ≤ r.linearBackoff n := by
  have hpos := r.linearBackoff_pos n
  unfold lowestBackoff
  omega

theorem calculateBackoff_bounds (n draw : Nat) :
    r.lowestBackoff n ≤ r.calculateBackoff n draw ∧ r.calculateBackoff n draw ≤ r.linearBackoff n := by
  have hle := r.lowestBackoff_le n
  have hmod := Nat.mod_lt draw (Nat.succ_pos (r.linearBackoff n - r.lowestBackoff n))
  have heq : r.calculateBackoff n draw =
      r.lowestBackoff n + draw % (r.linearBackoff n - r.lowestBackoff n).succ := rfl
  omega

end RetryManager

namespace Endpoint

/-- Where the loop is that waits there, or ended so. -/
def phase : Outcome Registering Nat Error → Retry.Phase Error Nat
  | .await (.lookup n _) => if n = 0 then .attempt 0 else .sleep n
  | .await k => .attempt k.attempts
  | .ret id => .over (.ok id)
  | .raise err => .over (.error err)

/-- The turns that the piece notes take the loop from `a` to where it stops. -/
abbrev Noted (p : Retry.Policy Error) (a : Retry.Phase Error Nat)
    (r : Noting Turn ρ Registering) : Prop := Follows (Retry.step p) phase a r

section Pieces

variable (role : Role ρ) (env : Env) {rm : RetryManager}

theorem sleeps_noted (n : Nat) {s : Scope ρ} (hs : s.self.retryManager = rm) :
    Noted rm.policy (.sleep n) (sleeps env n s) := by
  subst hs
  refine exec_cons.mpr ⟨.attempt n, ?_, rfl⟩
  exact if_pos (RetryManager.calculateBackoff_bounds _ (n - 1) env.draw)

theorem looks_noted (n : Nat) {go : Scope ρ → Noting Turn ρ Registering}
    {r : Ran (Scope ρ) Event Call Unit Empty} (hr : r.state.self.retryManager = rm)
    (hgo : ∀ s : Scope ρ, s.self.retryManager = rm →
      Noted rm.policy (if n = 0 then .attempt 0 else .sleep n) (go s)) :
    Noted rm.policy (if n = 0 then .attempt 0 else .sleep n) (looks n go r) :=
  follows_andThen (fun _ _ => rfl) (fun _ _ => hgo _ hr) fun e _ => e.elim

theorem lookupNewBroker_retryManager (s : Scope ρ) :
    (lookupNewBroker env s).state.self.retryManager = s.self.retryManager := by
  unfold lookupNewBroker
  split <;> rfl

theorem fails_noted (n : Nat) (err : Error) {s : Scope ρ} (hs : s.self.retryManager = rm) :
    Noted rm.policy (rm.policy.afterAttempt n (.error err)) (fails env n err s) := by
  unfold fails Retry.Policy.afterAttempt RetryManager.policy
  dsimp only
  rw [hs]
  by_cases hretry : RetryManager.isRetryable err = true
  · rw [if_pos hretry, if_pos hretry]
    by_cases hlast : n + 1 > rm.maxRetries
    · rw [if_pos hlast, if_pos hlast]
      rfl
    · rw [if_neg hlast, if_neg hlast]
      have hlooks := looks_noted (n + 1) ((lookupNewBroker_retryManager env s).trans hs)
        fun s hs => sleeps_noted env (n + 1) hs
      exact hlooks.after_note rfl
  · rw [if_neg hretry, if_neg hretry]
    rfl

theorem tries_noted (n : Nat) {r : Piece ρ Trying Nat} (hr : r.state.self.retryManager = rm) :
    Noted rm.policy (.attempt n) (tries env n r) := by
  refine follows_andThen (fun k _ => ?_) (fun id _ => exec_cons.mpr ⟨_, rfl, rfl⟩) fun err _ => ?_
  · cases k <;> rfl
  · exact (fails_noted env n err hr).after_note rfl

theorem tryRegister_retryManager (s : Scope ρ) :
    (tryRegister role env s).state.self.retryManager = s.self.retryManager := by
  unfold tryRegister
  split
  · rfl
  · rw [Ran.after_state]
    split <;> rfl

theorem looked_noted (n : Nat) {s : Scope ρ} (hs : s.self.retryManager = rm) :
    Noted rm.policy (if n = 0 then .attempt 0 else .sleep n) (looked role env n s) := by
  unfold looked
  by_cases hn : n = 0
  · rw [if_pos hn, if_pos hn]
    exact tries_noted env 0 ((tryRegister_retryManager role env s).trans hs)
  · rw [if_neg hn, if_neg hn]
    exact sleeps_noted env n hs

theorem loopCreate_noted {s : Scope ρ} (hs : s.self.retryManager = rm) :
    Noted rm.policy (.lookup 0) (loopCreate role env s) := by
  have hlooks := looks_noted 0 ((lookupNewBroker_retryManager env s).trans hs)
    fun s hs => looked_noted role env 0 hs
  exact (hlooks.after_note (t := .lookup) rfl).after_events [.creating]

theorem lookupResume_retryManager {s : Scope ρ} {w : Wake} {r : Ran (Scope ρ) Event Call Unit Empty}
    (h : lookupResume s w = some r) : r.state.self.retryManager = s.self.retryManager := by
  unfold lookupResume at h
  split at h
  · split at h <;> cases h <;> rfl
  · cases h
    rfl
  · cases h

theorem tryResolveSchema_retryManager (s : Scope ρ) :
    (tryResolveSchema role env s).state.self.retryManager = s.self.retryManager := by
  unfold tryResolveSchema
  split
  · rfl
  · split <;> rfl

theorem tryLatestSchema_retryManager (ref : SchemaReference) (latest : SchemaInfo) (s : Scope ρ) :
    (tryLatestSchema role env ref latest s).state.self.retryManager = s.self.retryManager := by
  unfold tryLatestSchema
  split
  · split
    · rfl
    · split
      · rfl
      · split <;> rfl
  · split <;> rfl
  · rfl

theorem tryCheckHealth_retryManager (s : Scope ρ) :
    (tryCheckHealth role env s).state.self.retryManager = s.self.retryManager := by
  unfold tryCheckHealth
  split
  · rfl
  · exact tryResolveSchema_retryManager role env _

theorem tryResume_retryManager {s : Scope ρ} {k : Trying} {w : Wake} {r : Piece ρ Trying Nat}
    (h : tryResume role env s k w = some r) : r.state.self.retryManager = s.self.retryManager := by
  unfold tryResume at h
  split at h
  case h_1 => cases h; exact tryCheckHealth_retryManager role env _
  case h_3 =>
    obtain ⟨ref, -, rfl⟩ := Option.map_eq_some_iff.mp h
    exact tryLatestSchema_retryManager role env ref _ s
  case h_7 => cases h
  all_goals cases h; rfl

theorem loopResume_noted {s : Scope ρ} (hs : s.self.retryManager = rm) {k : Registering} {w : Wake}
    {r : Noting Turn ρ Registering} (h : loopResume role env s k w = some r) :
    Noted rm.policy (phase (.await k)) r := by
  unfold loopResume at h
  split at h
  case h_1 =>
    obtain ⟨r, hr, rfl⟩ := Option.map_eq_some_iff.mp h
    exact looks_noted _ ((lookupResume_retryManager hr).trans hs) fun s hs =>
      looked_noted role env _ hs
  case h_2 =>
    cases h
    exact tries_noted env _ ((tryRegister_retryManager role env s).trans hs)
  case h_6 => cases h
  all_goals
    obtain ⟨r, hr, rfl⟩ := Option.map_eq_some_iff.mp h
    exact tries_noted env _ ((tryResume_retryManager role env hr).trans hs)

end Pieces

/-! ## Runs among other tasks -/

/-- One resumption of a call, on the fields that other tasks have left. -/
abbrev proceed (role : Role ρ) (t : Piece ρ Registering Nat) (l : Scope ρ × Wake × Env) :
    Option (Piece ρ Registering Nat) :=
  Async.proceed (fun s k (l : Wake × Env) => resume role l.2 s k l.1) t l

/-- The same, with notes. -/
abbrev loopProceed (role : Role ρ) (t : Noting Turn ρ Registering) (l : Scope ρ × Wake × Env) :
    Option (Noting Turn ρ Registering) :=
  Async.proceed (fun s k (l : Wake × Env) => loopResume role l.2 s k l.1) t l

section Runs

variable (role : Role ρ) {env : Env} {s : Scope ρ} {ls : List (Scope ρ × Wake × Env)}
  {rm : RetryManager}

theorem exec_loop_erase (env : Env) (s : Scope ρ) (ls : List (Scope ρ × Wake × Env)) :
    (exec (loopProceed role) (loopCreate role env s) ls).map Ran.erase =
      exec (proceed role) (create role env s) ls := by
  rw [← loopCreate_erase]
  exact exec_erase (fun s k (l : Wake × Env) => loopResume_erase role l.2 s k l.1) _ ls

theorem exec_noted (hs : s.self.retryManager = rm) (hls : ∀ l ∈ ls, l.1.self.retryManager = rm)
    {t : Noting Turn ρ Registering} (h : exec (loopProceed role) (loopCreate role env s) ls = some t) :
    Noted rm.policy (.lookup 0) t :=
  exec_follows (L := fun s => s.self.retryManager = rm)
    (fun _ _ l _ hl hr => loopResume_noted role l.2 hl hr) (loopCreate_noted role env hs) hls h

/-- Whatever other tasks do to its fields, a call ends. -/
theorem proceed_ends (hs : s.self.retryManager = rm) (hls : ∀ l ∈ ls, l.1.self.retryManager = rm)
    {t : Piece ρ Registering Nat} (h : exec (proceed role) (create role env s) ls = some t) :
    ls.length ≤ 5 * (rm.maxRetries + 1) := by
  subst hs
  generalize hn : s.self.retryManager.maxRetries = n
  have hstep : ∀ t (l : Scope ρ × Wake × Env) t', (∀ k, t.next = .await k → k.attempts ≤ n) →
      l.1.self.retryManager = s.self.retryManager → proceed role t l = some t' →
      (∀ k, t'.next = .await k → k.attempts ≤ n) ∧ used n t + 1 ≤ used n t' := by
    intro t l t' ht hl hstep
    obtain ⟨k, r, hk, hr, rfl⟩ := proceed_eq_some.mp hstep
    have hbelow := resume_below role l.2.2 ((congrArg RetryManager.maxRetries hl).trans hn) (ht k hk) hr
    exact ⟨fun k' hk' => (hbelow k' hk').1, hbelow.used hk⟩
  obtain ⟨-, hlen⟩ :=
    exec_length_le_of_steps hstep (hn ▸ (create_budgeted role env s).2) (steps_of_mem _ hls) h
  have hle := used_le n t
  omega

end Runs

end Endpoint

open Retry in
/-- The trace of `create()` and `subscribe()` for any options, whatever the lookups find and other tasks
do to the fields (nothing reassigns `retry_manager`). `o` is any sequence of outcomes that goes on from
those of the call's attempts. -/
theorem retry_loop_trace (role : Role ρ) {maxRetries baseBackoffMs maxBackoffMs : Int} {env : Env}
    {s : Scope ρ} (hinit : s.self.retryManager = .init maxRetries baseBackoffMs maxBackoffMs)
    {ls : List (Scope ρ × Wake × Env)}
    (hothers : ∀ l ∈ ls, l.1.self.retryManager = .init maxRetries baseBackoffMs maxBackoffMs)
    {t : Noting Turn ρ Registering}
    (h : exec (Endpoint.loopProceed role) (Endpoint.loopCreate role env s) ls = some t) :
    let most := positiveOr maxRetries defaultMaxRetries
    let longest := positiveOr maxBackoffMs defaultMaxBackoffMs
    let linear i := min (positiveOr baseBackoffMs defaultBaseBackoffMs * (i + 1)) longest
    exec (Endpoint.proceed role) (Endpoint.create role env s) ls = some t.erase ∧
      ls.length ≤ 5 * (most + 1) ∧ Monotone linear ∧ (∀ i, max (linear i / 2) 1 ≤ linear i) ∧
      ∀ o : ℕ → Except Error Nat,
        (∀ i x, (outcomes (notes t.log))[i]? = some x → o i = x) → (∀ k, t.next ≠ .await k) →
        ∃ k : ℕ, (k : ℕ∞) = min (firstFinal s.self.retryManager.policy o) most ∧
          outcomes (notes t.log) = (List.range (k + 1)).map o ∧
          kinds (notes t.log) = rounds (k + 1) ∧
          t.next = (match o k with | .ok id => .ret id | .error err => .raise err) ∧
          (sleeps (notes t.log)).length = k ∧
          (∀ i ms, (sleeps (notes t.log))[i]? = some ms → max (linear i / 2) 1 ≤ ms ∧ ms ≤ linear i) ∧
          (sleeps (notes t.log)).sum ≤ most * longest := by
  intro most longest linear
  let rm := RetryManager.init maxRetries baseBackoffMs maxBackoffMs
  have hrun : exec (Endpoint.proceed role) (Endpoint.create role env s) ls = some t.erase := by
    rw [← Endpoint.exec_loop_erase, h]
    rfl
  refine ⟨hrun, Endpoint.proceed_ends role hinit hothers hrun, fun i j hij => ?_, ?_, ?_⟩
  · exact rm.linearBackoff_mono hij
  · exact rm.lowestBackoff_le
  intro o ho hover
  -- What the loop noted is a run of the policy that has come to its end.
  have hnoted := Endpoint.exec_noted role hinit hothers h
  obtain ⟨res, hphase, hnext⟩ : ∃ res, Endpoint.phase t.next = .over res ∧
      t.next = (match res with | .ok id => .ret id | .error err => .raise err) := by
    cases hnext : t.next with
    | await k => exact (hover k hnext).elim
    | ret id => exact ⟨.ok id, rfl, rfl⟩
    | raise err => exact ⟨.error err, rfl, rfl⟩
  unfold Endpoint.Noted Follows at hnoted
  rw [hphase] at hnoted
  obtain ⟨k, hk, hres, houtcomes, hkinds, hslept⟩ := exec_over hnoted ho
  have hmost : k ≤ most := Nat.cast_le.mp (hk ▸ min_le_right _ _)
  refine ⟨k, hinit ▸ hk, houtcomes, hkinds, hres ▸ hnext, hslept.1, hslept.2, ?_⟩
  exact (hslept.sum_le rm.linearBackoff_le).trans (Nat.mul_le_mul_right _ hmost)

/-- The first `CreateProducer` finds the broker unavailable, the second one is taken. -/
def retriedCreate : List (Scope ProducerFields × Wake × Env) :=
  [.answer (.address "a"), .fail .unavailable, .answer (.address "a"), .timer,
    .answer (.registered 1)].map fun w => (TopicProducer.oneRetry none, w, {})

open Retry in
theorem retried_create_trace : ∃ t : Noting Turn ProducerFields Registering,
    exec (Endpoint.loopProceed producerRole)
        (Endpoint.loopCreate producerRole {} (TopicProducer.oneRetry none)) retriedCreate = some t ∧
      ∃ k : ℕ, kinds (notes t.log) = rounds (k + 1) ∧ (sleeps (notes t.log)).length = k ∧
        t.next = .ret 1 := by
  obtain ⟨t, ht, houtcomes, hnext⟩ : ∃ t : Noting Turn ProducerFields Registering,
      exec (Endpoint.loopProceed producerRole)
        (Endpoint.loopCreate producerRole {} (TopicProducer.oneRetry none)) retriedCreate = some t ∧
      outcomes (notes t.log) = [.error (.rpc ⟨.unavailable, ""⟩), .ok 1] ∧ t.next = .ret 1 :=
    ⟨_, rfl, rfl, rfl⟩
  let o : ℕ → Except Error Nat := fun i => if i = 0 then .error (.rpc ⟨.unavailable, ""⟩) else .ok 1
  have ho : ∀ i x, (outcomes (notes t.log))[i]? = some x → o i = x := by
    rw [houtcomes]
    intro i x hx
    match i with
    | 0 => exact Option.some.inj hx
    | 1 => exact Option.some.inj hx
    | i + 2 => cases hx
  have hothers : ∀ l ∈ retriedCreate, l.1.self.retryManager = .init 1 0 0 := by decide
  obtain ⟨k, -, -, hkinds, -, hsleeps, -⟩ :=
    (retry_loop_trace producerRole rfl hothers ht).2.2.2.2 o ho (by simp [hnext])
  exact ⟨t, ht, k, hkinds, hsleeps, hnext⟩

end Danube
