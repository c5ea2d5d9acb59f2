import Danube.Granted
import Danube.ConsumerTasks
import Danube.ProducerTasks

/-!
# What the registry RPCs of a pool are about

Every registration that waits for the schema registry asks it for the reference of its endpoint, which
no step changes. So the answer finds the reference that it was asked for.
-/

namespace Danube

open Async

namespace Pool

variable {ρ κ α : Type} {role : Role ρ} {schemaRef : Option SchemaReference} {p q : Pool ρ}

/-- The endpoints have the reference `schemaRef`, and their registrations ask the registry for it. -/
structure Consulting (role : Role ρ) (schemaRef : Option SchemaReference) (p : Pool ρ) : Prop where
  own : ∀ e ∈ p.endpoints, role.schemaRef e.own = schemaRef
  children : ∀ (r : Nat) k, p.children[r]? = some (.started (.await k)) → k.Consults schemaRef

theorem consulting_init (client : Client) :
    Consulting role schemaRef ({ client := client } : Pool ρ) := by
  constructor <;> simp

theorem Consulting.scope (h : p.Consulting role schemaRef) {ref : Nat} {s : Scope ρ}
    (hs : p.scope ref = some s) : role.schemaRef s.self.own = schemaRef :=
  h.own _ (List.mem_of_getElem? (scope_eq_some.mp hs).1)

theorem alloc_consulting (h : p.Consulting role schemaRef) {es : List (Endpoint ρ)}
    (hes : ∀ e ∈ es, role.schemaRef e.own = schemaRef) : (p.alloc es).Consulting role schemaRef where
  own e he := (List.mem_append.mp he).elim (h.own e) (hes e)
  children r k hk := h.children r k ((alloc_started p es r _).mp hk)

theorem commit_consulting (h : p.Consulting role schemaRef) {ran : Piece ρ κ α} (actor : Actor)
    (hown : role.schemaRef ran.state.self.own = schemaRef) :
    (p.commit actor ran).Consulting role schemaRef where
  own e he := by
    rcases List.mem_or_eq_of_mem_set he with he | rfl
    · exact h.own e he
    · exact hown
  children := h.children

theorem child_consulting (hrole : ∀ own info, role.schemaRef (role.setSchema own info) = role.schemaRef own)
    (h : p.Consulting role schemaRef) {ref : Nat} {w : Wake} {env : Env}
    (hq : p.child role ref w env = some q) : q.Consulting role schemaRef := by
  obtain ⟨c, s, ran, hc, hs, hran, rfl⟩ := child_eq_some.mp hq
  have hself := h.scope hs
  have hkeeps : role.schemaRef ran.state.self.own = schemaRef ∧
      ∀ k, ran.next = .await k → k.Consults schemaRef := by
    rcases childPiece_cases hran with ⟨-, -, rfl⟩ | ⟨k, -, hresume⟩
    · have hk := Endpoint.create_keepsSchema (α := Nat) role env s
      exact ⟨hk.own ▸ hself, hself ▸ hk.consults⟩
    · rcases Endpoint.resume_schema role env hresume with ⟨-, hk⟩ | ⟨info, -, rfl⟩
      · exact ⟨hk.own ▸ hself, hself ▸ hk.consults⟩
      · exact ⟨(hrole _ info).trans hself, fun k hk => by cases hk⟩
  refine ⟨(commit_consulting h (.child ref) hkeeps.1).own, fun r k hk => ?_⟩
  rw [List.getElem?_set] at hk
  split at hk
  · split at hk
    · exact hkeeps.2 k (by simpa using hk)
    · cases hk
  · exact h.children r k hk

theorem health_consulting (h : p.Consulting role schemaRef) {task : Nat} {w : Wake} {env : Env}
    (hq : p.health task w env = some q) : q.Consulting role schemaRef := by
  obtain ⟨l, e, c, pos, log, stop, -, -, -, -, rfl⟩ := health_eq_some hq
  refine ⟨fun e' he' => ?_, h.children⟩
  cases stop with
  | false => exact h.own e' he'
  | true =>
    simp only [checked, if_true] at he'
    obtain ⟨i, hi⟩ := List.mem_iff_getElem?.mp he'
    rw [List.getElem?_modify] at hi
    obtain ⟨e₀, he₀, rfl⟩ := Option.map_eq_some_iff.mp hi
    have hown := h.own e₀ (List.mem_of_getElem? he₀)
    split
    · exact hown
    · exact hown

theorem stop_consulting (h : p.Consulting role schemaRef) (ref : Nat) :
    (p.stop ref).Consulting role schemaRef := by
  refine ⟨fun e' he' => ?_, by rw [stop_children]; exact h.children⟩
  unfold stop at he'
  split at he'
  · exact h.own e' he'
  · rename_i e he
    rcases List.mem_or_eq_of_mem_set he' with he' | rfl
    · exact h.own e' he'
    · exact h.own e (List.mem_of_getElem? he)

theorem foldl_stop_consulting (refs : List Nat) (h : p.Consulting role schemaRef) :
    (refs.foldl stop p).Consulting role schemaRef := by
  induction refs generalizing p with
  | nil => exact h
  | cons r rs ih => exact ih (stop_consulting h r)

end Pool

/-! ## A producer -/

namespace Producer

/-- The registrations of a producer, those of its sends included, ask for its reference. -/
structure Consulting (s : ProducerState) : Prop where
  pool : s.pool.Consulting producerRole s.config.schemaRef
  sends : ∀ t ∈ s.sends, ∀ k, t.status = .await (.create k) → k.Consults s.config.schemaRef

theorem consulting_init (client : Client) (config : ProducerConfig) :
    Consulting (init client config) := ⟨Pool.consulting_init client, by simp [init]⟩

variable {s s' : ProducerState}

theorem Consulting.withPool (h : Consulting s) {p : Pool ProducerFields}
    (hp : p.Consulting producerRole s.config.schemaRef) (hpool : s'.pool = p)
    (hconfig : s'.config = s.config) (hsends : s'.sends = s.sends) : Consulting s' where
  pool := by rw [hpool, hconfig]; exact hp
  sends := by rw [hsends, hconfig]; exact h.sends

theorem Consulting.commitSend (h : Consulting s) {task : Nat} {t : SendTask}
    {ran : Piece ProducerFields Sending Nat} {sc : Scope ProducerFields}
    (hsc : sc.self.own.schemaRef = s.config.schemaRef) (hran : SendCall.SendsSchema sc ran) :
    Consulting (commitSend s task t ran) where
  pool := Pool.commit_consulting h.pool (.send task) (hran.own ▸ hsc)
  sends u hu k hk := by
    rcases List.mem_or_eq_of_mem_set hu with hu | rfl
    · exact h.sends u hu k hk
    · exact hsc ▸ hran.consults k hk

theorem step_consulting {l : ProducerLabel} (hs : Sound s) (h : Consulting s)
    (hstep : step s l = some s') : Consulting s' := by
  cases l with
  | create env =>
    obtain ⟨-, -, ⟨-, p, hp, rfl⟩ | ⟨hpos, rfl⟩⟩ := create_eq_some hstep
    · refine h.withPool (Pool.child_consulting (fun _ _ => rfl) (Pool.alloc_consulting h.pool ?_) hp)
        (settle_pool _ _) (settle_config _ _) (settle_sends _ _)
      simp [topicProducer, TopicProducer.init, producerRole]
    · refine h.withPool (Pool.alloc_consulting h.pool fun e he => ?_) rfl rfl rfl
      obtain ⟨pid, -, rfl⟩ := List.mem_map.mp he
      rfl
  | child r w env =>
    obtain ⟨p, hp, rfl⟩ := Option.map_eq_some_iff.mp hstep
    exact h.withPool (Pool.child_consulting (fun _ _ => rfl) h.pool hp)
      (settle_pool _ _) (settle_config _ _) (settle_sends _ _)
  | gathered =>
    obtain ⟨g, hg, ⟨-, rfl⟩ | ⟨-, -, rfl⟩⟩ := gathered_eq_some hstep <;>
      exact h.withPool h.pool rfl rfl rfl
  | send data attributes routingKey env =>
    obtain ⟨-, p, router, t, -, ht, hcases⟩ := send_eq_some hstep
    have hold : Consulting { s with router := router, sends := s.sends ++ [t] } := by
      refine ⟨h.pool, fun u hu k hk => ?_⟩
      rcases List.mem_append.mp hu with hu | hu
      · exact h.sends u hu k hk
      · rw [List.mem_singleton.mp hu, ht] at hk
        cases hk
    obtain ⟨-, rfl⟩ | ⟨r, sc, hr, hsc, rfl⟩ := hcases
    · exact hold
    · exact hold.commitSend (h.pool.scope hsc) (SendCall.attempt_sendsSchema env t.call 0 sc)
  | sending task w env =>
    obtain ⟨t, r, sc, k, ran, ht, hr, hsc, hk, hran, rfl⟩ := sending_eq_some.mp hstep
    have hself := h.pool.scope hsc
    rcases SendCall.resume_schema (hs.stub hr hsc) hran with ⟨-, hsends⟩ | ⟨k', info, -, -, hsends⟩
    · exact h.commitSend hself hsends
    · refine Consulting.commitSend h ?_ hsends
      exact hself
  | health task w env =>
    obtain ⟨p, hp, rfl⟩ := Option.map_eq_some_iff.mp hstep
    exact h.withPool (Pool.health_consulting h.pool hp) rfl rfl rfl
  | close =>
    obtain rfl := Option.some.inj hstep
    exact h.withPool (Pool.foldl_stop_consulting s.producers h.pool) rfl rfl rfl

theorem exec_consulting {client : Client} {config : ProducerConfig} {ls : List ProducerLabel}
    (h : exec step (init client config) ls = some s) : Consulting s :=
  (exec_invariant (P := fun s => Sound s ∧ Consulting s)
    (fun _ _ _ hs hstep => ⟨step_sound hs.1 hstep, step_consulting hs.1 hs.2 hstep⟩)
    ⟨sound_init client config, consulting_init client config⟩ h).2

end Producer

end Danube
