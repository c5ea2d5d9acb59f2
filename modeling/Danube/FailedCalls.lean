import Danube.Partitions
import Danube.ConsumerSteps
import Danube.Unstopped

/-!
# Calls that raised

A `create()` or `subscribe()` that raises leaves behind the endpoints that it built, and a later
`close()` does not know them.
-/

namespace Danube

open Async

namespace Producer

/-- No health check of `r` is begun from now on. -/
def ChecksEnd (s : ProducerState) (r : Nat) : Prop :=
  ∀ ls s', exec step s ls = some s' → s'.pool.healthChecks r = s.pool.healthChecks r

/-- In this step the `create()` that built `refs` raises. -/
structure Raises (s : ProducerState) (l : ProducerLabel) (s' : ProducerState) (refs : List Nat) :
    Prop where
  step : step s l = some s'
  built : (∃ c, s.creating = some c ∧ refs = c.refs) ∨
    s.creating = none ∧ (∃ env, l = .create env) ∧ refs = [s.pool.endpoints.length]
  idle : s'.creating = none
  raised : s'.producers = []

/-- `r` is not in `_producers`, and no `create()` that is in progress will put it there. -/
structure Abandoned (s : ProducerState) (r : Nat) : Prop where
  lt : r < s.pool.endpoints.length
  producers : r ∉ s.producers
  creating : ∀ c, s.creating = some c → r ∉ c.refs

theorem step_mem_producers {s s' : ProducerState} {l : ProducerLabel} (hs : Sound s)
    (hstep : step s l = some s') {r : Nat} (hr : r ∈ s.producers) : r ∈ s'.producers := by
  rw [step_producers hs hstep (List.ne_nil_of_mem hr)]
  exact hr

theorem step_abandoned {s s' : ProducerState} {l : ProducerLabel} {r : Nat} (h : Abandoned s r)
    (hstep : step s l = some s') : Abandoned s' r := by
  have hlt := Nat.lt_of_lt_of_le h.lt (step_keepsNames hstep).length_le
  have hsame : s'.producers = s.producers → s'.creating = s.creating → Abandoned s' r := by
    intro hproducers hcreating
    exact ⟨hlt, hproducers ▸ h.producers, hcreating ▸ h.creating⟩
  cases l with
  | create env =>
    -- `create()` builds its endpoints after `r`.
    have hnew := h.lt
    obtain ⟨-, -, ⟨-, p, -, rfl⟩ | ⟨hpos, rfl⟩⟩ := create_eq_some hstep
    · obtain ⟨c, ps, heq, hc, hps⟩ := settle_cases
        { s with pool := p, creating := some (.direct s.pool.endpoints.length) }
        s.pool.endpoints.length
      rw [heq] at hlt ⊢
      refine ⟨hlt, ?_, fun x hx => ?_⟩
      · rcases hps with rfl | ⟨y, hy, rfl⟩
        · exact h.producers
        · cases hy
          simp only [CreateCall.refs, List.mem_singleton]
          omega
      · obtain ⟨y, hy, hrefs⟩ := hc x hx
        cases hy
        rw [hrefs]
        simp only [CreateCall.refs, List.mem_singleton]
        omega
    · refine ⟨hlt, h.producers, fun x hx => ?_⟩
      cases hx
      simp only [CreateCall.refs, List.mem_range'_1]
      omega
  | child ref w env =>
    obtain ⟨p, -, rfl⟩ := Option.map_eq_some_iff.mp hstep
    obtain ⟨c, ps, heq, hc, hps⟩ := settle_cases { s with pool := p } ref
    rw [heq] at hlt ⊢
    refine ⟨hlt, ?_, fun x hx => ?_⟩
    · rcases hps with rfl | ⟨y, hy, rfl⟩
      · exact h.producers
      · exact h.creating y hy
    · obtain ⟨y, hy, hrefs⟩ := hc x hx
      rw [hrefs]
      exact h.creating y hy
  | gathered =>
    obtain ⟨g, hg, ⟨-, rfl⟩ | ⟨-, -, rfl⟩⟩ := gathered_eq_some hstep
    · exact ⟨hlt, h.producers, by simp⟩
    · exact ⟨hlt, h.creating _ hg, by simp⟩
  | send | sending | health | close =>
    obtain ⟨hproducers, hcreating, -⟩ := step_serves hstep fun h => h
    exact hsame hproducers hcreating

theorem step_unserved {s s' : ProducerState} {l : ProducerLabel} {r : Nat} (hs : Sound s)
    (hr : r ∉ s.producers) (hstep : step s l = some s') : s.pool.Unserved s'.pool r := by
  have hne : ∀ {i ref : Nat}, s.producers[i]? = some ref → r ≠ ref := by
    rintro i ref hi rfl
    exact hr (List.mem_of_getElem? hi)
  cases l with
  | create env =>
    obtain ⟨-, -, ⟨-, p, hp, rfl⟩ | ⟨hpos, rfl⟩⟩ := create_eq_some hstep
    · rw [settle_pool]
      exact .starts _ (by simpa using topicProducer_fresh s _ _) _ _ _ hp
    · exact .builds _ (partitionProducers_fresh s) rfl
  | child ref w env =>
    obtain ⟨p, hp, rfl⟩ := Option.map_eq_some_iff.mp hstep
    rw [settle_pool]
    exact .child _ _ _ _ hp
  | gathered =>
    obtain ⟨g, -, ⟨-, rfl⟩ | ⟨-, -, rfl⟩⟩ := gathered_eq_some hstep <;> exact .leaves (.refl _ _)
  | send data attributes routingKey env =>
    obtain ⟨-, p, router, t, -, -, ⟨-, rfl⟩ | ⟨ref, sc, hi, hsc, rfl⟩⟩ := send_eq_some hstep
    · exact .leaves (.refl _ _)
    · exact .leaves (Pool.commit_leaves hsc
        (Pool.grows_of_journaled (sendAttempt_journaled env t.call 0 sc)) _ (hne hi))
  | sending task w env =>
    -- A send runs on an endpoint in `_producers`, and `r` is none of these.
    obtain ⟨t, ref, sc, k, ran, -, hi, hsc, -, hran, rfl⟩ := sending_eq_some.mp hstep
    exact .leaves (Pool.commit_leaves hsc
      (Pool.grows_of_journaled (sendResume_journaled env hran)) _ (hne hi))
  | health task w env =>
    obtain ⟨p, hp, rfl⟩ := Option.map_eq_some_iff.mp hstep
    exact .health _ _ _ hp
  | close =>
    cases hstep
    refine .leaves (Pool.foldl_stop_leaves hs.pool hr fun ref href => ?_)
    obtain ⟨id, hid⟩ := hs.producers ref href
    exact ⟨_, hid⟩

theorem exec_unstopped {client : Client} {config : ProducerConfig} {ls : List ProducerLabel}
    {s : ProducerState} (h : exec step (init client config) ls = some s) :
    ∀ r, r ∉ s.producers → s.pool.Unstopped r :=
  (exec_invariant (P := fun s => Sound s ∧ ∀ r, r ∉ s.producers → s.pool.Unstopped r)
    (fun _ _ _ ⟨hs, hall⟩ hstep => ⟨step_sound hs hstep, fun r hr' =>
      have hr : r ∉ _ := fun hmem => hr' (step_mem_producers hs hstep hmem)
      (step_unserved hs hr hstep).unstopped hs.pool hs.kept (hall r hr)⟩)
    ⟨sound_init client config, fun r _ => ⟨by simp [init], by simp [init, Pool.loopsOf]⟩⟩ h).2

theorem raises_abandoned {client : Client} {config : ProducerConfig} {ls : List ProducerLabel}
    {s s' : ProducerState} (hrun : exec step (init client config) ls = some s) {l : ProducerLabel}
    {refs : List Nat} (h : Raises s l s' refs) {r : Nat} (hr : r ∈ refs) : Abandoned s' r := by
  refine ⟨?_, by simp [h.raised], by simp [h.idle]⟩
  rcases h.built with ⟨c, hc, rfl⟩ | ⟨-, ⟨env, rfl⟩, rfl⟩
  · obtain ⟨i, hi⟩ := List.mem_iff_getElem?.mp hr
    obtain ⟨e, he, -⟩ := ((exec_placed hrun).2.creating c hc).entries i r hi
    exact Nat.lt_of_lt_of_le (List.getElem?_eq_some_iff.mp he).1 (step_keepsNames h.step).length_le
  · obtain rfl := List.mem_singleton.mp hr
    have hover := h.idle
    obtain ⟨-, -, ⟨-, p, hp, rfl⟩ | ⟨hpos, rfl⟩⟩ := create_eq_some h.step
    · rw [settle_pool]
      exact Nat.lt_of_lt_of_le (by simp [Pool.alloc]) (Pool.child_keepsNames hp).length_le
    · cases hover

theorem step_check (s : ProducerState) (i : Nat) (l : Wake × Env) (q : Pool ProducerFields)
    (hq : s.pool.check i l = some q) : ∃ m s', step s m = some s' ∧ s'.pool = q :=
  ⟨.health i l.1 l.2, { s with pool := q }, Option.map_eq_some_iff.mpr ⟨q, hq, rfl⟩, rfl⟩

theorem Abandoned.checksEnd_iff {s : ProducerState} (hs : Sound s) {r : Nat} (h : Abandoned s r)
    (hover : s.pool.CoroutineOver r) : ChecksEnd s r ↔ s.pool.Over r := by
  refine Pool.healthChecks_same_iff
    (I := fun t => Sound t ∧ Abandoned t r ∧ t.pool.CoroutineOver r) step_check
    (fun t l u ⟨ht, hab, hcor⟩ hstep => ?_) ⟨hs, h, hover⟩ h.lt
  have honly := (step_unserved ht hab.producers hstep).onlyHealth ht.pool hab.lt hcor
  exact ⟨⟨step_sound ht hstep, step_abandoned hab hstep, hcor.onlyHealth honly⟩, honly⟩

theorem checksEnd_iff_ended {client : Client} {config : ProducerConfig}
    {before after : List ProducerLabel} {l : ProducerLabel} {s s₁ s₂ : ProducerState}
    {refs : List Nat} (hbefore : exec step (init client config) before = some s)
    (hraises : Raises s l s₁ refs) (hafter : exec step s₁ after = some s₂) {r : Nat} (hr : r ∈ refs)
    (hover : s₂.pool.CoroutineOver r) : ChecksEnd s₂ r ↔ s₂.pool.Ended r := by
  have hrun : exec step (init client config) (before ++ l :: after) = some s₂ :=
    exec_append.mpr ⟨s, hbefore, exec_cons.mpr ⟨s₁, hraises.step, hafter⟩⟩
  have hab : Abandoned s₂ r := exec_invariant (P := fun t => Abandoned t r)
    (fun _ _ _ ht hstep => step_abandoned ht hstep) (raises_abandoned hbefore hraises hr) hafter
  rw [hab.checksEnd_iff (exec_sound hrun) hover,
    (exec_unstopped hrun r hab.producers).ended_iff hab.lt]

end Producer

/-- The endpoints that a `subscribe()` has built so far. -/
def SubscribeCall.refs : SubscribeCall → List Nat
  | .partitions _ => []
  | .gather _ g => g.refs

namespace Consumer

/-- No health check of `r` is begun from now on. -/
def ChecksEnd (s : ConsumerState) (r : Nat) : Prop :=
  ∀ ls s', exec step s ls = some s' → s'.pool.healthChecks r = s.pool.healthChecks r

/-- In this step the `subscribe()` that built `refs` raises. -/
structure Raises (s : ConsumerState) (l : ConsumerLabel) (s' : ConsumerState) (refs : List Nat) :
    Prop where
  step : step s l = some s'
  built : (∃ c, s.subscribing = some c ∧ refs = c.refs) ∨
    s.subscribing = none ∧ (∃ env, l = .subscribe env) ∧ refs = []
  idle : s'.subscribing = none
  raised : s'.consumers = []

/-- The receive loops run on what is in `_consumers`, and `gather` is for endpoints that are there. -/
structure Owned (s : ConsumerState) : Prop where
  tasks : ∀ t ∈ s.tasks, t.ref ∈ s.consumers.map Prod.snd
  gather : ∀ names g, s.subscribing = some (.gather names g) →
    ∀ r ∈ g.refs, r < s.pool.endpoints.length

/-- `r` is not in `_consumers`, and no `subscribe()` that is in progress will put it there. -/
structure Abandoned (s : ConsumerState) (r : Nat) : Prop where
  lt : r < s.pool.endpoints.length
  consumers : r ∉ s.consumers.map Prod.snd
  gather : ∀ names g, s.subscribing = some (.gather names g) → r ∉ g.refs

theorem step_consumers {s s' : ConsumerState} {l : ConsumerLabel} (hs : Sound s)
    (hstep : step s l = some s') (hne : s.consumers ≠ []) : s'.consumers = s.consumers := by
  have hidle : s.subscribing = none := Classical.not_not.mp fun hsub => hne (hs.subscribing hsub)
  by_cases hsubscribe : ∃ env, l = .subscribe env
  · obtain ⟨env, rfl⟩ := hsubscribe
    exact (hne (subscribe_eq_some hstep).2.1).elim
  by_cases hpartitions : ∃ w, l = .partitions w
  · obtain ⟨w, rfl⟩ := hpartitions
    rcases partitions_eq_some hstep with ⟨-, call, hcall⟩ | ⟨-, call, hcall⟩ <;>
      · rw [hidle] at hcall
        cases hcall
  by_cases hgathered : l = .gathered
  · subst hgathered
    obtain ⟨names, g, hg, -⟩ := gathered_eq_some hstep
    rw [hidle] at hg
    cases hg
  exact (step_keeps hstep (fun env h => hsubscribe ⟨env, h⟩) (fun w h => hpartitions ⟨w, h⟩)
    hgathered).2.1

theorem mem_gathered_refs {names : List String} {refs : List Nat} {r : Nat}
    (h : r ∈ ((names.zip refs).foldl (fun d x => setItem d x.1 x.2) []).map Prod.snd) : r ∈ refs := by
  obtain ⟨x, hx, rfl⟩ := List.mem_map.mp h
  exact mem_gathered hx

theorem step_tasks {s s' : ConsumerState} {l : ConsumerLabel} (hstep : step s l = some s') :
    ∀ t ∈ s'.tasks, t.ref ∈ s.tasks.map ReceiveTask.ref ∨ t.ref ∈ s.consumers.map Prod.snd := by
  have hsame : s'.tasks = s.tasks → ∀ t ∈ s'.tasks,
      t.ref ∈ s.tasks.map ReceiveTask.ref ∨ t.ref ∈ s.consumers.map Prod.snd :=
    fun heq t ht => Or.inl (List.mem_map_of_mem (heq ▸ ht))
  cases l with
  | subscribe env =>
    obtain ⟨-, -, c, x, -, -, rfl⟩ := subscribe_eq_some hstep
    exact hsame rfl
  | partitions w =>
    rcases partitions_eq_some hstep with ⟨⟨names, rfl⟩, -⟩ | ⟨rfl, -⟩ <;> exact hsame rfl
  | child ref w env =>
    obtain ⟨p, -, rfl⟩ := Option.map_eq_some_iff.mp hstep
    obtain ⟨c, heq, -⟩ := settle_eq { s with pool := p } ref
    exact hsame (by rw [heq])
  | gathered =>
    obtain ⟨names, g, -, rfl | ⟨-, rfl⟩⟩ := gathered_eq_some hstep <;> exact hsame rfl
  | receive =>
    cases hstep
    intro t ht
    rcases List.mem_append.mp ht with ht | ht
    · exact Or.inl (List.mem_map_of_mem ht)
    · obtain ⟨x, hx, rfl⟩ := List.mem_map.mp ht
      exact Or.inr (List.mem_map_of_mem hx)
  | receiving task w env =>
    obtain ⟨t, sc, queue, ran, ht, -, -, -, rfl⟩ := receiving_eq_some.mp hstep
    intro t' ht'
    rcases List.mem_or_eq_of_mem_set ht' with ht' | rfl
    · exact Or.inl (List.mem_map_of_mem ht')
    · have hmem : t.ref ∈ s.tasks.map ReceiveTask.ref :=
        List.mem_map_of_mem (List.mem_of_getElem? ht)
      exact Or.inl hmem
  | get queue =>
    obtain ⟨queues, rfl⟩ := get_eq_some hstep
    exact hsame rfl
  | ack message env =>
    obtain ⟨acks, rfl | ⟨ref, sc, call, -, -, -, rfl⟩⟩ := onConsumer_eq_some hstep <;> exact hsame rfl
  | nack message delayMs reason env =>
    obtain ⟨acks, rfl | ⟨ref, sc, call, -, -, -, rfl⟩⟩ := onConsumer_eq_some hstep <;> exact hsame rfl
  | acked call w =>
    obtain ⟨acks, rfl⟩ := acked_eq_some hstep
    exact hsame rfl
  | health task w env =>
    obtain ⟨p, -, rfl⟩ := Option.map_eq_some_iff.mp hstep
    exact hsame rfl
  | close =>
    cases hstep
    intro t ht
    obtain ⟨t', ht', rfl⟩ := List.mem_map.mp ht
    exact Or.inl (List.mem_map.mpr ⟨t', ht', (cancel_ref t').symm⟩)

/-- What a step does to the endpoints, to `_consumers` and to the `subscribe()` in progress. -/
inductive Subscribing (s s' : ConsumerState) : Prop
  | keeps (hlen : s.pool.endpoints.length ≤ s'.pool.endpoints.length)
    (hconsumers : s'.consumers = s.consumers)
    (hgather : ∀ names g, s'.subscribing = some (.gather names g) →
      ∃ g', s.subscribing = some (.gather names g') ∧ g.refs = g'.refs)
  | builds (names : List String)
    (hlen : s'.pool.endpoints.length = s.pool.endpoints.length + names.length)
    (hconsumers : s'.consumers = s.consumers)
    (hgather : ∀ names' g, s'.subscribing = some (.gather names' g) →
      g.refs = List.range' s.pool.endpoints.length names.length)
  | returns (names : List String) (g : Gather) (hg : s.subscribing = some (.gather names g))
    (hlen : s'.pool.endpoints.length = s.pool.endpoints.length)
    (hconsumers : ∀ r ∈ s'.consumers.map Prod.snd, r ∈ g.refs)
    (hgather : s'.subscribing = none)

theorem step_subscribing {s s' : ConsumerState} {l : ConsumerLabel} (hstep : step s l = some s') :
    Subscribing s s' := by
  by_cases hsubscribe : ∃ env, l = .subscribe env
  · obtain ⟨env, rfl⟩ := hsubscribe
    obtain ⟨-, -, c, x, -, hx, rfl⟩ := subscribe_eq_some hstep
    exact .keeps (Nat.le_refl _) rfl fun names g hg => (hx names g hg).elim
  by_cases hpartitions : ∃ w, l = .partitions w
  · obtain ⟨w, rfl⟩ := hpartitions
    rcases partitions_eq_some hstep with ⟨⟨names, rfl⟩, -⟩ | ⟨rfl, -⟩
    · refine .builds names (by simp [Pool.alloc]) rfl fun names' g hg => ?_
      cases hg
      rfl
    · exact .keeps (Nat.le_refl _) rfl (by simp)
  by_cases hgathered : l = .gathered
  · subst hgathered
    obtain ⟨names, g, hg, rfl | ⟨-, rfl⟩⟩ := gathered_eq_some hstep
    · exact .keeps (Nat.le_refl _) rfl (by simp)
    · exact .returns names g hg rfl (fun r hr => mem_gathered_refs hr) rfl
  obtain ⟨hlen, hconsumers, -, -, hgather⟩ := step_keeps hstep (fun env h => hsubscribe ⟨env, h⟩)
    (fun w h => hpartitions ⟨w, h⟩) hgathered
  exact .keeps (Nat.le_of_eq hlen.symm) hconsumers hgather

theorem step_owned {s s' : ConsumerState} {l : ConsumerLabel} (hs : Sound s) (h : Owned s)
    (hstep : step s l = some s') : Owned s' where
  tasks t ht := by
    have hmem : t.ref ∈ s.consumers.map Prod.snd := by
      rcases step_tasks hstep t ht with hold | hnew
      · obtain ⟨t', ht', href⟩ := List.mem_map.mp hold
        exact href ▸ h.tasks t' ht'
      · exact hnew
    have hne : s.consumers ≠ [] := by
      intro hnil
      simp [hnil] at hmem
    rw [step_consumers hs hstep hne]
    exact hmem
  gather names g hg r hr := by
    cases step_subscribing hstep with
    | keeps hlen hconsumers hgather =>
      obtain ⟨g', hg', hrefs⟩ := hgather names g hg
      exact Nat.lt_of_lt_of_le (h.gather names g' hg' r (hrefs ▸ hr)) hlen
    | builds names' hlen hconsumers hgather =>
      rw [hgather names g hg, List.mem_range'_1] at hr
      omega
    | returns names' g' hg' hlen hconsumers hgather =>
      rw [hgather] at hg
      cases hg

theorem step_abandoned {s s' : ConsumerState} {l : ConsumerLabel} {r : Nat} (h : Abandoned s r)
    (hstep : step s l = some s') : Abandoned s' r := by
  have hlt := h.lt
  cases step_subscribing hstep with
  | keeps hlen hconsumers hgather =>
    refine ⟨by omega, hconsumers ▸ h.consumers, fun names g hg => ?_⟩
    obtain ⟨g', hg', hrefs⟩ := hgather names g hg
    exact hrefs ▸ h.gather names g' hg'
  | builds names hlen hconsumers hgather =>
    refine ⟨by omega, hconsumers ▸ h.consumers, fun names' g hg => ?_⟩
    rw [hgather names' g hg, List.mem_range'_1]
    omega
  | returns names g hg hlen hconsumers hgather =>
    refine ⟨by omega, fun hr => h.gather names g hg (hconsumers r hr), fun names' g' hg' => ?_⟩
    rw [hgather] at hg'
    cases hg'

theorem onConsumer_unserved {s s' : ConsumerState} {topic : String}
    {send : Scope ConsumerFields → Except Error Call} {r : Nat} (hr : r ∉ s.consumers.map Prod.snd)
    (hstep : onConsumer s topic send = some s') : s.pool.Unserved s'.pool r := by
  obtain ⟨acks, rfl | ⟨ref, sc, call, href, -, -, rfl⟩⟩ := onConsumer_eq_some hstep
  · exact .leaves (.refl _ _)
  · have hne : r ≠ ref := by
      rintro rfl
      exact hr (List.mem_map_of_mem (mem_of_lookup href))
    refine .leaves ⟨rfl, rfl, ?_, rfl⟩
    simp only [Pool.write, logOf_append, logOf_entries_ne hne, List.append_nil]

theorem step_unserved {s s' : ConsumerState} {l : ConsumerLabel} {r : Nat} (hs : Sound s)
    (ho : Owned s) (hr : r ∉ s.consumers.map Prod.snd) (hstep : step s l = some s') :
    s.pool.Unserved s'.pool r := by
  cases l with
  | subscribe env =>
    obtain ⟨-, -, c, x, -, -, rfl⟩ := subscribe_eq_some hstep
    exact .leaves ⟨rfl, rfl, rfl, rfl⟩
  | partitions w =>
    rcases partitions_eq_some hstep with ⟨⟨names, rfl⟩, -⟩ | ⟨rfl, -⟩
    · exact .builds _ (topicConsumers_fresh s names) rfl
    · exact .leaves (.refl _ _)
  | child ref w env =>
    obtain ⟨p, hp, rfl⟩ := Option.map_eq_some_iff.mp hstep
    obtain ⟨c, heq, -⟩ := settle_eq { s with pool := p } ref
    rw [heq]
    exact .child _ _ _ _ hp
  | gathered =>
    obtain ⟨names, g, -, rfl | ⟨-, rfl⟩⟩ := gathered_eq_some hstep <;> exact .leaves (.refl _ _)
  | receive =>
    cases hstep
    exact .leaves (.refl _ _)
  | receiving task w env =>
    obtain ⟨t, sc, queue, ran, ht, hsc, -, hran, rfl⟩ := receiving_eq_some.mp hstep
    have hne : r ≠ t.ref := by
      rintro rfl
      exact hr (ho.tasks t (List.mem_of_getElem? ht))
    exact .leaves (Pool.commit_leaves hsc (grows_of_cleared (receivePiece_cleared env hran)) _ hne)
  | get queue =>
    obtain ⟨queues, rfl⟩ := get_eq_some hstep
    exact .leaves (.refl _ _)
  | ack message env => exact onConsumer_unserved hr hstep
  | nack message delayMs reason env => exact onConsumer_unserved hr hstep
  | acked call w =>
    obtain ⟨acks, rfl⟩ := acked_eq_some hstep
    exact .leaves (.refl _ _)
  | health task w env =>
    obtain ⟨p, hp, rfl⟩ := Option.map_eq_some_iff.mp hstep
    exact .health _ _ _ hp
  | close =>
    cases hstep
    refine .leaves (Pool.foldl_stop_leaves hs.pool hr fun ref href => ?_)
    obtain ⟨x, hx, rfl⟩ := List.mem_map.mp href
    obtain ⟨id, hid⟩ := hs.consumers x hx
    exact ⟨_, hid⟩

theorem step_mem_consumers {s s' : ConsumerState} {l : ConsumerLabel} (hs : Sound s)
    (hstep : step s l = some s') {r : Nat} (hr : r ∈ s.consumers.map Prod.snd) :
    r ∈ s'.consumers.map Prod.snd := by
  have hne : s.consumers ≠ [] := by
    intro hnil
    simp [hnil] at hr
  rw [step_consumers hs hstep hne]
  exact hr

theorem exec_unstopped {client : Client} {config : ConsumerConfig} {ls : List ConsumerLabel}
    {s : ConsumerState} (h : exec step (init client config) ls = some s) :
    Owned s ∧ ∀ r, r ∉ s.consumers.map Prod.snd → s.pool.Unstopped r :=
  (exec_invariant
    (P := fun s => Sound s ∧ Owned s ∧ ∀ r, r ∉ s.consumers.map Prod.snd → s.pool.Unstopped r)
    (fun _ _ _ ⟨hs, ho, hall⟩ hstep => ⟨step_sound hs hstep, step_owned hs ho hstep, fun r hr' =>
      have hr : r ∉ _ := fun hmem => hr' (step_mem_consumers hs hstep hmem)
      (step_unserved hs ho hr hstep).unstopped hs.pool hs.kept (hall r hr)⟩)
    ⟨sound_init client config, ⟨by simp [init], by simp [init]⟩,
      fun r _ => ⟨by simp [init], by simp [init, Pool.loopsOf]⟩⟩ h).2

theorem raises_abandoned {client : Client} {config : ConsumerConfig} {ls : List ConsumerLabel}
    {s s' : ConsumerState} (hrun : exec step (init client config) ls = some s) {l : ConsumerLabel}
    {refs : List Nat} (h : Raises s l s' refs) {r : Nat} (hr : r ∈ refs) : Abandoned s' r := by
  refine ⟨?_, by simp [h.raised], by simp [h.idle]⟩
  rcases h.built with ⟨c, hc, rfl⟩ | ⟨-, -, rfl⟩
  · cases c with
    | partitions call => cases hr
    | gather names g =>
      have hlt := (exec_unstopped hrun).1.gather names g hc r hr
      cases step_subscribing h.step with
      | keeps hlen => omega
      | builds names' hlen => omega
      | returns names' g' hg' hlen => omega
  · cases hr

theorem step_check (s : ConsumerState) (i : Nat) (l : Wake × Env) (q : Pool ConsumerFields)
    (hq : s.pool.check i l = some q) : ∃ m s', step s m = some s' ∧ s'.pool = q :=
  ⟨.health i l.1 l.2, { s with pool := q }, Option.map_eq_some_iff.mpr ⟨q, hq, rfl⟩, rfl⟩

theorem Abandoned.checksEnd_iff {s : ConsumerState} (hs : Sound s) (ho : Owned s) {r : Nat}
    (h : Abandoned s r) (hover : s.pool.CoroutineOver r) : ChecksEnd s r ↔ s.pool.Over r := by
  refine Pool.healthChecks_same_iff
    (I := fun t => Sound t ∧ Owned t ∧ Abandoned t r ∧ t.pool.CoroutineOver r) step_check
    (fun t l u ⟨ht, hot, hab, hcor⟩ hstep => ?_) ⟨hs, ho, h, hover⟩ h.lt
  have honly := (step_unserved ht hot hab.consumers hstep).onlyHealth ht.pool hab.lt hcor
  exact ⟨⟨step_sound ht hstep, step_owned ht hot hstep, step_abandoned hab hstep,
    hcor.onlyHealth honly⟩, honly⟩

theorem checksEnd_iff_ended {client : Client} {config : ConsumerConfig}
    {before after : List ConsumerLabel} {l : ConsumerLabel} {s s₁ s₂ : ConsumerState}
    {refs : List Nat} (hbefore : exec step (init client config) before = some s)
    (hraises : Raises s l s₁ refs) (hafter : exec step s₁ after = some s₂) {r : Nat} (hr : r ∈ refs)
    (hover : s₂.pool.CoroutineOver r) : ChecksEnd s₂ r ↔ s₂.pool.Ended r := by
  have hrun : exec step (init client config) (before ++ l :: after) = some s₂ :=
    exec_append.mpr ⟨s, hbefore, exec_cons.mpr ⟨s₁, hraises.step, hafter⟩⟩
  have hab : Abandoned s₂ r := exec_invariant (P := fun t => Abandoned t r)
    (fun _ _ _ ht hstep => step_abandoned ht hstep) (raises_abandoned hbefore hraises hr) hafter
  obtain ⟨howned, hunstopped⟩ := exec_unstopped hrun
  rw [hab.checksEnd_iff (exec_sound hrun) howned hover,
    (hunstopped r hab.consumers).ended_iff hab.lt]

end Consumer

/-- After a `create()` or `subscribe()` raised, its coroutines ended and `close()` was called, the
endpoints that it built begin no health check exactly when the broker closed each of them or their
health loops had ended with errors. That `close()` was called is what should end them. It decides
nothing: the failed call left no endpoint in the list that `close()` goes through. -/
theorem failed_calls_end_checks_iff {client : Client} :
    (∀ {config : ProducerConfig} {before after : List ProducerLabel} {l : ProducerLabel}
      {s s₁ s₂ : ProducerState} {refs : List Nat},
      exec Producer.step (Producer.init client config) before = some s →
      Producer.Raises s l s₁ refs → exec Producer.step s₁ after = some s₂ → .close ∈ after →
      (∀ r ∈ refs, s₂.pool.CoroutineOver r) →
      ((∀ r ∈ refs, Producer.ChecksEnd s₂ r) ↔ ∀ r ∈ refs, s₂.pool.Ended r)) ∧
    ∀ {config : ConsumerConfig} {before after : List ConsumerLabel} {l : ConsumerLabel}
      {s s₁ s₂ : ConsumerState} {refs : List Nat},
      exec Consumer.step (Consumer.init client config) before = some s →
      Consumer.Raises s l s₁ refs → exec Consumer.step s₁ after = some s₂ → .close ∈ after →
      (∀ r ∈ refs, s₂.pool.CoroutineOver r) →
      ((∀ r ∈ refs, Consumer.ChecksEnd s₂ r) ↔ ∀ r ∈ refs, s₂.pool.Ended r) := by
  constructor
  -- In both cases `close()` is one of the steps that leave the endpoints as they are.
  · intro config before after l s s₁ s₂ refs hbefore hraises hafter _ hover
    exact forall₂_congr fun r hr =>
      Producer.checksEnd_iff_ended hbefore hraises hafter hr (hover r hr)
  · intro config before after l s s₁ s₂ refs hbefore hraises hafter _ hover
    exact forall₂_congr fun r hr =>
      Consumer.checksEnd_iff_ended hbefore hraises hafter hr (hover r hr)

/-- Of two partitions, the first one is registered, and the broker refuses the second one. -/
def secondRefused : List ProducerLabel :=
  [.create {}, .child 0 .start {}, .child 0 (.answer (.address "a")) {},
    .child 0 (.answer (.registered 1)) {}, .child 1 .start {}, .child 1 (.answer (.address "a")) {},
    .child 1 (.fail .permissionDenied) {}]

theorem second_refused_still_checked : ∃ s s₁ s₂,
    exec Producer.step (Producer.init (.init "a" {}) (.partitioned 2)) secondRefused = some s ∧
      Producer.Raises s .gathered s₁ [0, 1] ∧ exec Producer.step s₁ [.close] = some s₂ ∧
      (∀ r ∈ [0, 1], s₂.pool.CoroutineOver r) ∧ ¬ ∀ r ∈ [0, 1], Producer.ChecksEnd s₂ r := by
  refine ⟨_, _, _, rfl, ⟨rfl, Or.inl ⟨_, rfl, rfl⟩, rfl, rfl⟩, rfl, ?_, fun h => ?_⟩
  · exact List.forall_mem_cons.mpr ⟨⟨_, rfl, rfl⟩, List.forall_mem_singleton.mpr ⟨_, rfl, rfl⟩⟩
  · exact absurd (h 0 (by simp) [.health 0 .start {}] _ rfl) (by decide)

/-- The same on a consumer. -/
def secondSubscriptionRefused : List ConsumerLabel :=
  [.subscribe {}, .partitions (.answer (.topicPartitions ["t", "u"])), .child 0 .start {},
    .child 0 (.answer (.address "a")) {}, .child 0 (.answer (.registered 1)) {}, .child 1 .start {},
    .child 1 (.answer (.address "a")) {}, .child 1 (.fail .permissionDenied) {}]

/-- The broker answers the health check of the first partition with an error, or with CLOSE. -/
theorem second_refused_first_ended :
    (∃ s s₁ s₂, exec Producer.step (Producer.init (.init "a" {}) (.partitioned 2)) secondRefused =
        some s ∧ Producer.Raises s .gathered s₁ [0, 1] ∧
        exec Producer.step s₁ [.health 0 .start {}, .health 0 (.fail .unavailable) {}, .close] =
          some s₂ ∧ ∀ r ∈ [0, 1], Producer.ChecksEnd s₂ r) ∧
      ∃ s s₁ s₂, exec Consumer.step (Consumer.init (.init "a" {}) .oneRetry)
        secondSubscriptionRefused = some s ∧ Consumer.Raises s .gathered s₁ [0, 1] ∧
        exec Consumer.step s₁ [.health 0 .start {}, .health 0 (.answer (.health .close)) {}, .close] =
          some s₂ ∧ ∀ r ∈ [0, 1], Consumer.ChecksEnd s₂ r := by
  constructor
  · obtain ⟨s, s₁, s₂, hs, hraises, hafter, hover, hended⟩ : ∃ s s₁ s₂,
        exec Producer.step (Producer.init (.init "a" {}) (.partitioned 2)) secondRefused = some s ∧
        Producer.Raises s .gathered s₁ [0, 1] ∧
        exec Producer.step s₁ [.health 0 .start {}, .health 0 (.fail .unavailable) {}, .close] =
          some s₂ ∧ (∀ r ∈ [0, 1], s₂.pool.CoroutineOver r) ∧ ∀ r ∈ [0, 1], s₂.pool.Ended r := by
      refine ⟨_, _, _, rfl, ⟨rfl, Or.inl ⟨_, rfl, rfl⟩, rfl, rfl⟩, rfl, ?_, ?_⟩
      · exact List.forall_mem_cons.mpr ⟨⟨_, rfl, rfl⟩, List.forall_mem_singleton.mpr ⟨_, rfl, rfl⟩⟩
      · exact List.forall_mem_cons.mpr ⟨Or.inr (by decide), List.forall_mem_singleton.mpr
          (Or.inr (by decide))⟩
    exact ⟨s, s₁, s₂, hs, hraises, hafter,
      (failed_calls_end_checks_iff.1 hs hraises hafter (by simp) hover).mpr hended⟩
  · obtain ⟨s, s₁, s₂, hs, hraises, hafter, hover, hended⟩ : ∃ s s₁ s₂,
        exec Consumer.step (Consumer.init (.init "a" {}) .oneRetry) secondSubscriptionRefused =
          some s ∧ Consumer.Raises s .gathered s₁ [0, 1] ∧
        exec Consumer.step s₁ [.health 0 .start {}, .health 0 (.answer (.health .close)) {}, .close] =
          some s₂ ∧ (∀ r ∈ [0, 1], s₂.pool.CoroutineOver r) ∧ ∀ r ∈ [0, 1], s₂.pool.Ended r := by
      refine ⟨_, _, _, rfl, ⟨rfl, Or.inl ⟨_, rfl, rfl⟩, rfl, rfl⟩, rfl, ?_, ?_⟩
      · exact List.forall_mem_cons.mpr ⟨⟨_, rfl, rfl⟩, List.forall_mem_singleton.mpr ⟨_, rfl, rfl⟩⟩
      · exact List.forall_mem_cons.mpr ⟨Or.inl ⟨1, by decide⟩, List.forall_mem_singleton.mpr
          (Or.inr (by decide))⟩
    exact ⟨s, s₁, s₂, hs, hraises, hafter,
      (failed_calls_end_checks_iff.2 hs hraises hafter (by simp) hover).mpr hended⟩

end Danube
