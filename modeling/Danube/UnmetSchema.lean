import Danube.MessageSchema

/-!
# A registry that cannot satisfy the reference

Then no registration of a `TopicProducer` returns. Each of them raises within its retry budget, `create()`
raises with them, and there is nothing that could send.
-/

namespace Danube

open Async

/-! ## The budget of a registration -/

namespace Pool

/-- How much of its budget of wake-ups a coroutine has used. -/
def childUsed (maxRetries : Nat) : Option Child → Nat
  | some (.started (.await k)) => 1 + (5 * (maxRetries + 1) - k.rank maxRetries)
  | some (.started _) => 1 + 5 * (maxRetries + 1)
  | _ => 0

theorem childUsed_le (maxRetries : Nat) (c : Option Child) :
    childUsed maxRetries c ≤ 5 * (maxRetries + 1) + 1 := by
  unfold childUsed
  split <;> omega

/-- Every registration is within its retries. -/
def ChildrenWithin {ρ : Type} (maxRetries : Nat) (p : Pool ρ) : Prop :=
  ∀ (r : Nat) k, p.children[r]? = some (.started (.await k)) → k.attempts ≤ maxRetries

variable {ρ : Type} {role : Role ρ} {p q : Pool ρ} {maxRetries ref : Nat} {w : Wake} {env : Env}

theorem le_childUsed {r : Piece ρ Registering Nat} {bound : Nat}
    (h : Endpoint.Below maxRetries bound r) :
    5 * (maxRetries + 1) + 2 - bound ≤ childUsed maxRetries (some (.started r.next)) ∨ bound = 0 := by
  cases hnext : r.next with
  | await k =>
    have hrank := (h k hnext).2
    have hle := k.rank_le maxRetries
    simp only [childUsed]
    omega
  | ret id => simp only [childUsed]; omega
  | raise err => simp only [childUsed]; omega

theorem childPiece_below {s : Scope ρ} {c : Child} {ran : Piece ρ Registering Nat}
    (hran : childPiece role env s c w = some ran)
    (hself : s.self.retryManager.maxRetries = maxRetries)
    (hk : ∀ k, c = .started (.await k) → k.attempts ≤ maxRetries) :
    childUsed maxRetries (some c) + 1 ≤ childUsed maxRetries (some (.started ran.next)) ∧
      ∀ k, ran.next = .await k → k.attempts ≤ maxRetries := by
  rcases childPiece_cases hran with ⟨rfl, -, rfl⟩ | ⟨k, rfl, hresume⟩
  · have hbelow := Endpoint.create_below (α := Nat) role env (s := s) hself
    have hused := le_childUsed hbelow
    refine ⟨?_, fun k hk => (hbelow k hk).1⟩
    rw [show childUsed maxRetries (some .scheduled) = 0 from rfl]
    omega
  · have hbelow := Endpoint.resume_below role env hself (hk k rfl) hresume
    have hpos := k.rank_pos maxRetries
    have hle := k.rank_le maxRetries
    have hused := le_childUsed hbelow
    refine ⟨?_, fun k hk => (hbelow k hk).1⟩
    rw [show childUsed maxRetries (some (.started (.await k))) =
      1 + (5 * (maxRetries + 1) - k.rank maxRetries) from rfl]
    omega

theorem child_used (h : p.ChildrenWithin maxRetries)
    (hretry : ∀ e ∈ p.endpoints, e.retryManager.maxRetries = maxRetries)
    (hq : p.child role ref w env = some q) : q.ChildrenWithin maxRetries ∧
      childUsed maxRetries p.children[ref]? + 1 ≤ childUsed maxRetries q.children[ref]? ∧
      ∀ r, r ≠ ref → q.children[r]? = p.children[r]? := by
  obtain ⟨c, s, ran, hc, hs, hran, rfl⟩ := child_eq_some.mp hq
  have hset : (p.children.set ref (.started ran.next))[ref]? = some (.started ran.next) :=
    List.getElem?_set_self (List.getElem?_eq_some_iff.mp hc).1
  have hother : ∀ r, r ≠ ref → (p.children.set ref (.started ran.next))[r]? = p.children[r]? :=
    fun r hr => List.getElem?_set_ne (Ne.symm hr)
  obtain ⟨hused, hwithin⟩ := childPiece_below hran
    (hretry _ (List.mem_of_getElem? (scope_eq_some.mp hs).1)) fun k hk => h ref k (hk ▸ hc)
  refine ⟨fun r k hk => ?_, ?_, hother⟩
  · dsimp only at hk
    by_cases hr : r = ref
    · subst hr
      rw [hset, Option.some.injEq, Child.started.injEq] at hk
      exact hwithin k hk
    · rw [hother r hr] at hk
      exact h r k hk
  · dsimp only
    rw [hset, hc]
    exact hused

end Pool

namespace Producer

/-- The label wakes the coroutine that registers `r`. -/
def wakes (r : Nat) : ProducerLabel → Bool
  | .child ref _ _ => ref = r
  | _ => false

/-- Every coroutine is within its retries. -/
structure AttemptsBounded (s : ProducerState) : Prop where
  sound : Sound s
  children : s.pool.ChildrenWithin (retryManager s.config).maxRetries

theorem step_attemptsBounded {s s' : ProducerState} {l : ProducerLabel} (h : AttemptsBounded s)
    (hstep : step s l = some s') (r : Nat) : AttemptsBounded s' ∧
      Pool.childUsed (retryManager s.config).maxRetries s.pool.children[r]? +
        (if wakes r l then 1 else 0) ≤
        Pool.childUsed (retryManager s.config).maxRetries s'.pool.children[r]? := by
  have hsound := step_sound h.sound hstep
  have hconfig := step_config hstep
  have hmax : ∀ e ∈ s.pool.endpoints,
      e.retryManager.maxRetries = (retryManager s.config).maxRetries := fun e he => by
    rw [h.sound.endpoints e he]
  -- Steps of other tasks.
  have hsame : s'.pool.children = s.pool.children → wakes r l = false → AttemptsBounded s' ∧
      Pool.childUsed (retryManager s.config).maxRetries s.pool.children[r]? +
        (if wakes r l then 1 else 0) ≤
        Pool.childUsed (retryManager s.config).maxRetries s'.pool.children[r]? := by
    intro hchildren hwakes
    refine ⟨⟨hsound, ?_⟩, by simp [hchildren, hwakes]⟩
    rw [hconfig]
    intro r' k hk
    exact h.children r' k (hchildren ▸ hk)
  -- New coroutines use up nothing of the old ones.
  have halloc : ∀ (es : List TopicProducer) (r' : Nat), Pool.childUsed (retryManager s.config).maxRetries
      s.pool.children[r']? ≤ Pool.childUsed (retryManager s.config).maxRetries
        (s.pool.alloc es).children[r']? := by
    intro es r'
    rcases Nat.lt_or_ge r' s.pool.children.length with hlt | hge
    · rw [Pool.alloc, List.getElem?_append_left hlt]
    · rw [List.getElem?_eq_none hge]
      exact Nat.zero_le _
  have hwithin : ∀ es : List TopicProducer,
      (s.pool.alloc es).ChildrenWithin (retryManager s.config).maxRetries :=
    fun es r' k hk => h.children r' k ((Pool.alloc_started s.pool es r' _).mp hk)
  cases l with
  | create env =>
    obtain ⟨-, -, ⟨-, p, hp, rfl⟩ | ⟨hpos, rfl⟩⟩ := create_eq_some hstep
    · have hretry : ∀ e ∈ (s.pool.alloc [topicProducer s s.config.topicName
          s.config.producerName]).endpoints,
          e.retryManager.maxRetries = (retryManager s.config).maxRetries := by
        intro e he
        rcases List.mem_append.mp he with he | he
        · exact hmax e he
        · rw [List.mem_singleton.mp he]
          rfl
      obtain ⟨hq, hused, hothers⟩ := Pool.child_used (hwithin _) hretry hp
      refine ⟨⟨hsound, ?_⟩, ?_⟩
      · rw [hconfig, settle_pool]
        exact hq
      · rw [settle_pool]
        refine Nat.le_trans
          (halloc [topicProducer s s.config.topicName s.config.producerName] r) ?_
        by_cases hr : r = s.pool.endpoints.length
        · subst hr
          exact Nat.le_of_succ_le hused
        · exact Nat.le_of_eq (by rw [← hothers r hr])
    · exact ⟨⟨hsound, hwithin _⟩, halloc _ r⟩
  | child ref w env =>
    obtain ⟨p, hp, rfl⟩ := Option.map_eq_some_iff.mp hstep
    obtain ⟨hq, hused, hothers⟩ := Pool.child_used h.children hmax hp
    refine ⟨⟨hsound, ?_⟩, ?_⟩
    · rw [hconfig, settle_pool]
      exact hq
    · rw [settle_pool]
      by_cases hr : ref = r
      · subst hr
        simpa [wakes] using hused
      · simp [wakes, hr, hothers r (Ne.symm hr)]
  | gathered =>
    obtain ⟨g, hg, ⟨-, rfl⟩ | ⟨-, -, rfl⟩⟩ := gathered_eq_some hstep <;> exact hsame rfl rfl
  | send | sending | health | close =>
    exact hsame (step_serves hstep fun h => h).2.2 rfl

theorem exec_wakes_le {client : Client} {config : ProducerConfig} {ls : List ProducerLabel}
    {s : ProducerState} (h : exec step (init client config) ls = some s) (r : Nat) :
    ls.countP (wakes r) ≤ 5 * ((retryManager config).maxRetries + 1) + 1 := by
  have hinit : AttemptsBounded (init client config) ∧ (init client config).config = config :=
    ⟨⟨sound_init client config, by simp [Pool.ChildrenWithin, init]⟩, rfl⟩
  let used (s : ProducerState) := Pool.childUsed (retryManager config).maxRetries s.pool.children[r]?
  have hstep : ∀ s l s', AttemptsBounded s ∧ s.config = config → step s l = some s' →
      (AttemptsBounded s' ∧ s'.config = config) ∧ used s + (if wakes r l then 1 else 0) ≤ used s' := by
    rintro s l s' ⟨hs, rfl⟩ hstep
    obtain ⟨hwithin, hused⟩ := step_attemptsBounded hs hstep r
    exact ⟨⟨hwithin, step_config hstep⟩, hused⟩
  have hcount := exec_countP_le hstep hinit h
  have hle : used s ≤ 5 * ((retryManager config).maxRetries + 1) + 1 := Pool.childUsed_le _ _
  omega

/-! ## `create()` ends with its coroutines -/

/-- A `create()` on the only `TopicProducer` ends with its coroutine, and a `gather` keeps the first
exception. -/
def Tended (s : ProducerState) : Prop :=
  match s.creating with
  | some (.direct r) => ∃ k, s.pool.children[r]? = some (.started (.await k))
  | some (.gather g) => g.refs ≠ [] ∧ ∀ r ∈ g.refs, ∀ err,
    s.pool.children[r]? = some (.started (.raise err)) → g.failure ≠ none
  | none => True

theorem settle_tended {s : ProducerState} {ref : Nat} {o : Outcome Registering Nat Error}
    (ho : s.pool.children[ref]? = some (.started o))
    (hdirect : ∀ r, s.creating = some (.direct r) →
      ∃ o, s.pool.children[r]? = some (.started o))
    (hgather : ∀ g, s.creating = some (.gather g) → g.refs ≠ [] ∧ ∀ r ∈ g.refs, r ≠ ref → ∀ err,
      s.pool.children[r]? = some (.started (.raise err)) → g.failure ≠ none) :
    Tended (settle s ref) := by
  unfold settle
  split
  · rename_i r hc
    -- The one registration goes on, or ends the call.
    obtain ⟨o', ho'⟩ := hdirect r hc
    rw [ho']
    cases o' with
    | await k =>
      dsimp only
      rw [Tended, hc]
      exact ⟨k, ho'⟩
    | ret id => trivial
    | raise err => trivial
  · rename_i g hc
    -- The exception of `ref` is noted, if it is the first.
    obtain ⟨hne, hnoted⟩ := hgather g hc
    refine ⟨by rw [note_refs]; exact hne, fun r hr err hraise => ?_⟩
    rw [note_refs] at hr
    dsimp only at hraise
    by_cases hfail : g.failure = none
    · by_cases hself : r = ref
      · subst hself
        rw [hraise]
        simp [Gather.note, hr, hfail]
      · exact (hnoted r hr hself err hraise hfail).elim
    · unfold Gather.note
      split
      · rw [if_neg fun h => hfail h.2]
        exact hfail
      · exact hfail
  · rename_i hc
    simp [Tended, hc]

theorem step_tended {s s' : ProducerState} {l : ProducerLabel} (hs : Sound s) (h : Tended s)
    (hstep : step s l = some s') : Tended s' := by
  have hsame : s'.creating = s.creating → s'.pool.children = s.pool.children → Tended s' := by
    intro hc hchildren
    unfold Tended
    rw [hc, hchildren]
    exact h
  cases l with
  | create env =>
    obtain ⟨-, -, ⟨-, p, hp, rfl⟩ | ⟨hpos, rfl⟩⟩ := create_eq_some hstep
    · obtain ⟨c, sc, ran, hc, -, -, rfl⟩ := Pool.child_eq_some.mp hp
      have hset := List.getElem?_set_self (a := Child.started ran.next)
        (List.getElem?_eq_some_iff.mp hc).1
      refine settle_tended (o := ran.next) hset (fun r hr => ?_) (by simp)
      cases hr
      exact ⟨ran.next, hset⟩
    · refine ⟨?_, fun r hr err hraise => ?_⟩
      · simpa using Nat.ne_of_gt hpos
      · have hold := (List.getElem?_eq_some_iff.mp
          ((Pool.alloc_started s.pool _ r _).mp hraise)).1
        have hge := (List.mem_range'_1.mp hr).1
        rw [hs.pool.length] at hold
        omega
  | child ref w env =>
    obtain ⟨p, hp, rfl⟩ := Option.map_eq_some_iff.mp hstep
    obtain ⟨c, sc, ran, hc, -, -, rfl⟩ := Pool.child_eq_some.mp hp
    have hset := List.getElem?_set_self (a := Child.started ran.next)
      (List.getElem?_eq_some_iff.mp hc).1
    refine settle_tended (o := ran.next) hset (fun r hr => ?_) fun g hg => ?_
    · have hwaits := h
      rw [Tended, show s.creating = some (.direct r) from hr] at hwaits
      obtain ⟨k, hk⟩ := hwaits
      by_cases hself : r = ref
      · subst hself
        exact ⟨ran.next, hset⟩
      · exact ⟨.await k, by dsimp only; rw [List.getElem?_set_ne (Ne.symm hself), hk]⟩
    · have hnoted := h
      rw [Tended, show s.creating = some (.gather g) from hg] at hnoted
      refine ⟨hnoted.1, fun r hr hself err hraise => hnoted.2 r hr err ?_⟩
      dsimp only at hraise
      rwa [List.getElem?_set_ne (Ne.symm hself)] at hraise
  | gathered =>
    obtain ⟨g, hg, ⟨-, rfl⟩ | ⟨-, -, rfl⟩⟩ := gathered_eq_some hstep <;> trivial
  | send | sending | health | close =>
    obtain ⟨-, hcreating, hchildren⟩ := step_serves hstep fun h => h
    exact hsame hcreating hchildren

/-! ## Every run -/

/-- What the registry answers does not satisfy the reference: the latest version is not as asked for,
and `GetSchema` does not answer. -/
def Refuses (ref : SchemaReference) (s : ProducerState) (l : ProducerLabel) : Prop :=
  ∀ call info, registryAnswer s l = some (call, info) →
    (∀ subject, call.request = .getLatestSchema subject → ¬ ref.Met info) ∧
    ∀ id version, call.request ≠ .getSchema id version

instance (ref : SchemaReference) (latest : SchemaInfo) : Decidable (ref.Met latest) := by
  unfold SchemaReference.Met
  split <;> infer_instance

instance (ref : SchemaReference) (s : ProducerState) (l : ProducerLabel) : Decidable (Refuses ref s l) :=
  match h : registryAnswer s l with
  | none => isTrue fun call info hcall => by simp [h] at hcall
  | some (call, info) =>
    match hreq : call.request with
    | .getLatestSchema subject =>
      decidable_of_iff (¬ ref.Met info) (by simp [Refuses, h, hreq])
    | .getSchema .. => isFalse (by simp [Refuses, h, hreq])
    | .topicLookup .. | .topicPartitions .. | .createProducer _ | .sendMessage _ | .subscribe _
    | .receiveMessages .. | .ack _ | .nack _ | .healthCheck .. =>
      isTrue (by simp [Refuses, h, hreq])

theorem Refuses.not_resolves {ref : SchemaReference} {R : Nat → SchemaInfo → Prop}
    {s : ProducerState} {l : ProducerLabel} (h : Refuses ref s l) (hs : Schemas ref R s) {r : Nat}
    {info : SchemaInfo} : ¬ Resolves s l r info := by
  intro hres
  obtain ⟨call, hcall, ⟨hreq, hmet⟩ | ⟨id, version, -, hreq⟩⟩ := hs.answered hres
  · exact (h call info hcall).1 ref.subject hreq hmet
  · exact (h call info hcall).2 id _ hreq

theorem childPiece_returns {env : Env} {sc : Scope ProducerFields} {c : Child} {w : Wake}
    {ran : Piece ProducerFields Registering Nat}
    (hran : Pool.childPiece producerRole env sc c w = some ran) {id : Nat}
    (hid : ran.next = .ret id) :
    ∃ k, c = .started (.await k) ∧ Endpoint.resume producerRole env sc k w = some ran := by
  rcases Pool.childPiece_cases hran with ⟨-, -, rfl⟩ | hresume
  · rcases (Endpoint.create_quiet producerRole env sc (α := Nat)).next with ⟨k, hk, -⟩ | ⟨err, herr⟩
    · simp [hk] at hid
    · simp [herr] at hid
  · exact hresume

/-- A coroutine returns in the piece in which it resolves its schema. -/
theorem child_resolves {ref : SchemaReference} {R : Nat → SchemaInfo → Prop} {s : ProducerState}
    (hs : Schemas ref R s) {r : Nat} {w : Wake} {env : Env} {p : Pool ProducerFields}
    (hp : s.pool.child producerRole r w env = some p) {id : Nat}
    (hid : p.children[r]? = some (.started (.ret id))) :
    ∃ info, Resolves s (.child r w env) r info := by
  obtain ⟨c, sc, ran, hc, hsc, hran, rfl⟩ := Pool.child_eq_some.mp hp
  dsimp only at hid
  rw [List.getElem?_set_self (List.getElem?_eq_some_iff.mp hc).1, Option.some.injEq,
    Child.started.injEq] at hid
  obtain ⟨k, rfl, hresume⟩ := childPiece_returns hran hid
  have hreturns := (Endpoint.resume_returns_iff producerRole env hresume).mp ⟨id, hid⟩
  have href := hs.pool.schemaRef r _ (Pool.scope_eq_some.mp hsc).1
  obtain ⟨info, hto⟩ := hreturns.resolvesTo (by simp [href])
  exact ⟨info, rfl, k, sc, hc, hsc, hto⟩

/-- No `create()` has returned, nor any coroutine of the one in progress. -/
structure Unborn (s : ProducerState) : Prop where
  producers : s.producers = []
  silent : ∀ x ∈ s.pool.trace, x.event.message? = none
  children : ∀ c, s.creating = some c → ∀ r ∈ c.refs, ∀ id,
    s.pool.children[r]? ≠ some (.started (.ret id))

theorem step_silent {s s' : ProducerState} {l : ProducerLabel} (hs : Sound s) (h : Unborn s)
    (hstep : step s l = some s') : ∀ x ∈ s'.pool.trace, x.event.message? = none := by
  have hgrow : ∀ {log : List Entry}, s'.pool.trace = s.pool.trace ++ log →
      (∀ x ∈ log, x.event.message? = none) → ∀ x ∈ s'.pool.trace, x.event.message? = none := by
    intro log htrace hlog x hx
    rw [htrace] at hx
    exact (List.mem_append.mp hx).elim (h.silent x) (hlog x)
  have hnone : ∀ (i : Nat) {r : Nat}, s.producers[i]? ≠ some r := by simp [h.producers]
  cases step_writes hs hstep with
  | silent l hl htrace => exact hgrow (htrace.trans (List.append_nil _).symm) (by simp)
  | child l hl p hp ref log hlog htrace =>
    refine hgrow htrace ?_
    cases hlog with
    | starts log o hfresh hcall => simpa [Event.message?] using hcall.message?
    | resumes k log o hk hcall => simpa using hcall.message?
  | outOfRange data attributes routingKey env hr htrace =>
    exact hgrow (htrace.trans (List.append_nil _).symm) (by simp)
  | attempt data attributes routingKey env ref hr => exact (hnone _ hr).elim
  | sending task w env t ht ref hr => exact (hnone _ hr).elim
  | health task w env l hl stopEvent position log stop hchecks htrace =>
    exact hgrow htrace (by simpa using hchecks.message?)
  | close log hlog htrace => exact hgrow htrace fun x hx => by rw [(hlog x hx).1]; rfl

theorem settle_unborn {s : ProducerState} (h : Unborn s) (ref : Nat) : Unborn (settle s ref) := by
  unfold settle
  split
  · rename_i r hc
    split
    · rename_i id hid
      exact (h.children _ hc r (List.mem_singleton_self r) id hid).elim
    · exact ⟨h.producers, h.silent, by simp⟩
    · exact h
  · rename_i g hc
    refine ⟨h.producers, h.silent, fun c hcreating r hr => ?_⟩
    obtain rfl := Option.some.inj hcreating
    exact h.children _ hc r (by simpa [CreateCall.refs, note_refs] using hr)
  · exact h

theorem step_unborn {ref : SchemaReference} {R : Nat → SchemaInfo → Prop} {s s' : ProducerState}
    {l : ProducerLabel} (hs : Sound s) (hschemas : Schemas ref R s) (ht : Tended s) (h : Unborn s)
    (hc : s.creating ≠ none → Refuses ref s l) (hstep : step s l = some s') : Unborn s' := by
  have hsilent := step_silent hs h hstep
  have hsame : s'.producers = s.producers → s'.creating = s.creating →
      s'.pool.children = s.pool.children → Unborn s' := by
    intro hproducers hcreating hchildren
    refine ⟨hproducers.trans h.producers, hsilent, ?_⟩
    rw [hcreating, hchildren]
    exact h.children
  cases l with
  | create env =>
    obtain ⟨-, -, ⟨-, p, hp, rfl⟩ | ⟨hpos, rfl⟩⟩ := create_eq_some hstep
    · obtain ⟨c, sc, ran, hc', -, hran, rfl⟩ := Pool.child_eq_some.mp hp
      rw [settle_pool] at hsilent
      refine settle_unborn ?_ _
      refine ⟨h.producers, hsilent, fun c hcreating r hr id hid => ?_⟩
      obtain rfl := Option.some.inj hcreating
      obtain rfl := List.mem_singleton.mp hr
      dsimp only at hid
      rw [List.getElem?_set_self (List.getElem?_eq_some_iff.mp hc').1, Option.some.injEq,
        Child.started.injEq] at hid
      -- A first piece does not return.
      obtain ⟨k, -, hresume⟩ := childPiece_returns hran hid
      cases k <;> simp [Endpoint.resume] at hresume
    · refine ⟨h.producers, hsilent, fun c hcreating r hr id hid => ?_⟩
      obtain rfl := Option.some.inj hcreating
      have hold := (List.getElem?_eq_some_iff.mp ((Pool.alloc_started s.pool _ r _).mp hid)).1
      have hge := (List.mem_range'_1.mp hr).1
      rw [hs.pool.length] at hold
      omega
  | child r w env =>
    obtain ⟨p, hp, rfl⟩ := Option.map_eq_some_iff.mp hstep
    rw [settle_pool] at hsilent
    refine settle_unborn ?_ r
    refine ⟨h.producers, hsilent, fun c hcreating r' hr' id hid => ?_⟩
    dsimp only at hcreating hid
    by_cases hself : r' = r
    · subst hself
      -- It would have resolved the schema, which the registry refuses.
      obtain ⟨info, hres⟩ := child_resolves hschemas hp hid
      exact (hc (by simp [hcreating])).not_resolves hschemas hres
    · obtain ⟨c', sc, ran, -, -, -, rfl⟩ := Pool.child_eq_some.mp hp
      dsimp only at hid
      rw [List.getElem?_set_ne (Ne.symm hself)] at hid
      exact h.children c hcreating r' hr' id hid
  | gathered =>
    obtain ⟨g, hg, ⟨-, rfl⟩ | ⟨-, hall, rfl⟩⟩ := gathered_eq_some hstep
    · exact ⟨h.producers, hsilent, by simp⟩
    · rw [Tended, hg] at ht
      -- `gather` would have the result of a coroutine that never returns.
      obtain ⟨r, hr⟩ := List.exists_mem_of_ne_nil _ ht.1
      have hret := List.all_eq_true.mp hall r hr
      split at hret
      · rename_i id hid
        exact (h.children _ hg r hr id hid).elim
      · simp at hret
  | send | sending | health | close =>
    obtain ⟨hproducers, hcreating, hchildren⟩ := step_serves hstep fun h => h
    exact hsame hproducers hcreating hchildren

/-- `create()` has not returned. It raises once its coroutines have ended, each of which raises within
its budget. -/
structure NeverCreated (ls : List ProducerLabel) (s : ProducerState) : Prop where
  unborn : Unborn s
  ends : ∀ r, ls.countP (wakes r) ≤ 5 * ((retryManager s.config).maxRetries + 1) + 1
  direct : ∀ r, s.creating = some (.direct r) →
    ∃ k, s.pool.children[r]? = some (.started (.await k))
  gather : ∀ g, s.creating = some (.gather g) →
    (∀ r ∈ g.refs, ∃ err, s.pool.children[r]? = some (.started (.raise err))) →
    ∃ s', step s .gathered = some s' ∧ s'.creating = none ∧ s'.producers = []

theorem never_created {client : Client} {config : ProducerConfig} {ref : SchemaReference}
    (href : config.schemaRef = some ref) {ls : List ProducerLabel} {s : ProducerState}
    (h : exec step (init client config) ls = some s)
    (hrefuses : Steps step (fun s l => s.creating ≠ none → Refuses ref s l)
      (init client config) ls) : NeverCreated ls s := by
  obtain ⟨-, -, htended, hunborn⟩ := exec_invariant_of_steps
    (P := fun s => Sound s ∧ Schemas ref (fun _ _ => True) s ∧ Tended s ∧ Unborn s)
    (fun s l s' ⟨hs, hschemas, ht, hunborn⟩ hc hstep => ⟨step_sound hs hstep,
      step_schemas hs hschemas hstep fun _ _ _ => trivial, step_tended hs ht hstep,
      step_unborn hs hschemas ht hunborn hc hstep⟩)
    ⟨sound_init client config, schemas_init href, trivial, rfl, by simp [init], by simp [init]⟩
    hrefuses h
  constructor
  case unborn => exact hunborn
  case ends =>
    intro r
    rw [exec_config h]
    exact exec_wakes_le h r
  case direct =>
    intro r hr
    rw [Tended, hr] at htended
    exact htended
  case gather =>
    intro g hg hall
    rw [Tended, hg] at htended
    obtain ⟨r, hr⟩ := List.exists_mem_of_ne_nil _ htended.1
    obtain ⟨err, herr⟩ := hall r hr
    have hfail := Option.isSome_iff_ne_none.mpr (htended.2 r hr err herr)
    refine ⟨{ s with creating := none }, ?_, rfl, hunborn.producers⟩
    simp only [step, gathered, hg, hfail, if_true]

/-- Every message carries the id and version that one resolution of the reference set together, and they
satisfy the reference. Where no `create()` gets an answer from the registry that satisfies it, `create()`
raises and nothing is ever sent. -/
theorem schema_satisfied {client : Client} {config : ProducerConfig} {ref : SchemaReference}
    (href : config.schemaRef = some ref) {latest : Nat → String → Option SchemaInfo}
    {ls : List ProducerLabel} {s : ProducerState}
    (h : exec step (init client config) ls = some s)
    (hreg : RegistryKeeps client config latest ls) :
    (∀ x ∈ s.pool.trace, ∀ m ∈ x.event.message?, ∃ n info, ResolvedAt client config ls n x.ref info ∧
      m.schemaId = some info.schemaId ∧ m.schemaVersion = some info.version ∧
      ref.Satisfied (latest n) info) ∧
    (Steps step (fun s l => s.creating ≠ none → Refuses ref s l) (init client config) ls →
      NeverCreated ls s) := by
  constructor
  · intro x hx m hm
    obtain ⟨info, ⟨n, hres, hsat⟩, hid, hversion⟩ := (exec_schemas href h hreg).pool.sent x hx m hm
    exact ⟨n, info, hres, hid, hversion, hsat⟩
  · exact never_created href h

/-- A producer of the latest version of `s`, which is resolved and sent. -/
def latestThenSend : List ProducerLabel :=
  [.create {}, .child 0 (.answer (.address "a")) {}, .child 0 (.answer (.registered 1)) {},
    .child 0 (.answer (.schema ⟨7, 3⟩)) {}, .send [1] none none {}]

/-- A producer that asks for version 5 at least, while the registry has version 3. -/
def minimumUnmet : List ProducerLabel :=
  [.create {}, .child 0 (.answer (.address "a")) {}, .child 0 (.answer (.registered 1)) {},
    .child 0 (.answer (.schema ⟨7, 3⟩)) {}]

theorem latest_or_minimum_satisfied :
    (∃ s, exec step (init (.init "a" {}) (.oneRetry (some ⟨"s", none⟩))) latestThenSend = some s ∧
      ∀ x ∈ s.pool.trace, ∀ m ∈ x.event.message?, ∃ n info,
        ResolvedAt (.init "a" {}) (.oneRetry (some ⟨"s", none⟩)) latestThenSend n x.ref info ∧
        m.schemaId = some info.schemaId ∧ m.schemaVersion = some info.version ∧
        SchemaReference.Satisfied ⟨"s", none⟩ (fun _ => some ⟨7, 3⟩) info) ∧
    ∃ s, exec step (init (.init "a" {}) (.oneRetry (some ⟨"s", some (.minVersion 5)⟩))) minimumUnmet =
        some s ∧ NeverCreated minimumUnmet s := by
  constructor
  · obtain ⟨s, hs⟩ := Option.isSome_iff_exists.mp
      (by rfl : (exec step (init (.init "a" {}) (.oneRetry (some ⟨"s", none⟩)))
        latestThenSend).isSome)
    exact ⟨s, hs, (schema_satisfied rfl hs (registryKeeps_of_steps (by decide))).1⟩
  · obtain ⟨s, hs⟩ := Option.isSome_iff_exists.mp
      (by rfl : (exec step (init (.init "a" {}) (.oneRetry (some ⟨"s", some (.minVersion 5)⟩)))
        minimumUnmet).isSome)
    have hrefuses : Steps step (fun s l => s.creating ≠ none → Refuses ⟨"s", some (.minVersion 5)⟩ s l)
        (init (.init "a" {}) (.oneRetry (some ⟨"s", some (.minVersion 5)⟩))) minimumUnmet := by
      decide
    have hkeeps : RegistryKeeps (.init "a" {}) (.oneRetry (some ⟨"s", some (.minVersion 5)⟩))
        (fun _ _ => some ⟨7, 3⟩) minimumUnmet := registryKeeps_of_steps (by decide)
    exact ⟨s, hs, (schema_satisfied rfl hs hkeeps).2 hrefuses⟩

end Producer

end Danube
