import Danube.ProducerJournal
import Danube.PoolTrace
import Danube.SendPieces

/-! # The calls of a producer -/

namespace Danube.Producer

open Async

/-- The retry manager that every endpoint and every send of a producer gets. -/
def retryManager (config : ProducerConfig) : RetryManager :=
  .init config.options.maxRetries config.options.baseBackoffMs config.options.maxBackoffMs

/-- A send that waits at `k` is ready for it and within its budget. -/
structure Waits (config : ProducerConfig) (c : Client) (k : Sending) : Prop where
  attempts : ∀ k', k = .create k' → k'.attempts ≤ (retryManager config).maxRetries
  message : ∀ n rpc, k = .message n rpc → n ≤ (retryManager config).maxRetries
  backoff : ∀ n, k = .backoff n → n ≤ (retryManager config).maxRetries
  cached : ∀ n addr call, k = .create (.request n addr call) →
    c.connection? addr.brokerUrl addr.connectUrl ≠ none

structure Sound (s : ProducerState) : Prop where
  kept : s.pool.Kept
  pool : s.pool.Sound
  producers : ∀ r ∈ s.producers, ∃ id, s.pool.children[r]? = some (.started (.ret id))
  creating : s.creating ≠ none → s.producers = []
  ref : ∀ t ∈ s.sends, ∀ k, t.status = .await k → ∃ r, s.producers[t.partition]? = some r
  waits : ∀ t ∈ s.sends, ∀ k, t.status = .await k → Waits s.config s.pool.client k
  calls : ∀ t ∈ s.sends, t.call.retryManager = retryManager s.config
  endpoints : ∀ e ∈ s.pool.endpoints, e.retryManager = retryManager s.config

theorem Waits.mono {config : ProducerConfig} {c c' : Client} {k : Sending} (h : Waits config c k)
    (hc : c.Extends c') : Waits config c' k where
  attempts := h.attempts
  message := h.message
  backoff := h.backoff
  cached n addr call hk := by
    obtain ⟨conn, hconn⟩ := Option.ne_none_iff_exists'.mp (h.cached n addr call hk)
    exact Option.ne_none_iff_exists'.mpr ⟨conn, hc.connection? hconn⟩

theorem sound_init (client : Client) (config : ProducerConfig) : Sound (init client config) where
  kept := Pool.kept_init client
  pool := Pool.sound_init client
  producers := by simp [init]
  creating := by simp [init]
  ref := by simp [init]
  waits := by simp [init]
  calls := by simp [init]
  endpoints := by simp [init]

/-! ## The pool moves on -/

theorem Sound.withPool {s : ProducerState} (h : Sound s) {p : Pool ProducerFields}
    (hkept : p.Kept) (hsound : p.Sound) (hext : s.pool.client.Extends p.client)
    (hreturned : ∀ (r : Nat) id, s.pool.children[r]? = some (.started (.ret id)) →
      p.children[r]? = some (.started (.ret id)))
    (hretry : ∀ e ∈ p.endpoints, e.retryManager = retryManager s.config) :
    Sound { s with pool := p } where
  kept := hkept
  pool := hsound
  producers r hr := by
    obtain ⟨id, hid⟩ := h.producers r hr
    exact ⟨id, hreturned r id hid⟩
  creating := h.creating
  ref := h.ref
  waits t ht k hk := (h.waits t ht k hk).mono hext
  calls := h.calls
  endpoints := hretry

theorem Sound.not_waiting {s : ProducerState} (h : Sound s) (hc : s.producers = []) {t : SendTask}
    (ht : t ∈ s.sends) (k : Sending) : t.status ≠ .await k := by
  intro hk
  obtain ⟨r, hr⟩ := h.ref t ht k hk
  simp [hc] at hr

theorem Sound.withCreating {s : ProducerState} (h : Sound s) (hc : s.producers = [])
    (creating : Option CreateCall) (producers : List Nat) (router : Option MessageRouter)
    (hfree : creating ≠ none → producers = [])
    (hreturned : ∀ r ∈ producers, ∃ id, s.pool.children[r]? = some (.started (.ret id))) :
    Sound { s with creating := creating, producers := producers, router := router } where
  kept := h.kept
  pool := h.pool
  producers := hreturned
  creating := hfree
  ref _ ht k hk := (h.not_waiting hc ht k hk).elim
  waits := h.waits
  calls := h.calls
  endpoints := h.endpoints

theorem settle_sound {s : ProducerState} (h : Sound s) (ref : Nat) : Sound (settle s ref) := by
  unfold settle
  split
  · rename_i r hc
    have hnil := h.creating (by simp [hc])
    split
    · rename_i id hid
      exact h.withCreating hnil none [r] s.router (by simp)
        (by simpa using ⟨id, hid⟩)
    · exact h.withCreating hnil none s.producers s.router (by simp) h.producers
    · exact h
  · rename_i g hc
    have hnil := h.creating (by simp [hc])
    exact h.withCreating hnil _ s.producers s.router (fun _ => hnil) h.producers
  · exact h

theorem commit_retryManager {ρ κ α : Type} {p : Pool ρ} {ref : Nat} {sc : Scope ρ}
    {ran : Piece ρ κ α} (hs : p.scope ref = some sc) (hj : Piece.Journaled sc ran) (actor : Actor)
    {R : RetryManager} (h : ∀ e ∈ p.endpoints, e.retryManager = R) :
    ∀ e ∈ (p.commit actor ran).endpoints, e.retryManager = R := by
  intro e he
  rcases List.mem_or_eq_of_mem_set he with he | rfl
  · exact h e he
  · rw [hj.retryManager]
    exact h _ (List.mem_of_getElem? (Pool.scope_eq_some.mp hs).1)

theorem child_retryManager {ρ : Type} {role : Role ρ} {p q : Pool ρ} {ref : Nat} {w : Wake}
    {env : Env} (hq : p.child role ref w env = some q) {R : RetryManager}
    (h : ∀ e ∈ p.endpoints, e.retryManager = R) : ∀ e ∈ q.endpoints, e.retryManager = R := by
  obtain ⟨c, s, ran, -, hs, hran, rfl⟩ := Pool.child_eq_some.mp hq
  exact commit_retryManager hs (Pool.childPiece_journaled hran) (.child ref) h

/-! ## Sends -/

theorem Attempts.waits {config : ProducerConfig} {env : Env} {sc : Scope ProducerFields} {n : Nat}
    {log : List Event} {o : Outcome Sending Nat Error} (h : SendCall.Attempts env sc n log o)
    (hn : n ≤ (retryManager config).maxRetries) (c : Client) {k : Sending} (hk : o = .await k) :
    Waits config c k := by
  cases h with
  | issued rpc hrpc htoken =>
    cases hk
    exact ⟨by simp, fun m rpc' h => by cases h; exact hn, by simp, by simp⟩
  | refused err htoken => cases hk

theorem Creates.waits {config : ProducerConfig} {c : Client} {log : List Event}
    {o : Outcome Sending Nat Error}
    (h : SendCall.Creates c (retryManager config).maxRetries log o) {k : Sending}
    (hk : o = .await k) : Waits config c k := by
  cases h with
  | waits log k' hlog hn hcached =>
    cases hk
    refine ⟨fun k'' h => ?_, by simp, by simp, fun m addr call h => ?_⟩
    · cases h; exact hn
    · cases h; exact hcached m addr call rfl
  | raises log err hlog => cases hk

theorem Resumes.waits {config : ProducerConfig} {call : SendCall} {env : Env}
    {sc : Scope ProducerFields} {c : Client} {k : Sending} {w : Wake} {log : List Event}
    {o : Outcome Sending Nat Error} (h : SendCall.Resumes call env sc c k w log o)
    (hcall : call.retryManager = retryManager config)
    (hself : sc.self.retryManager = retryManager config) {c' : Client} (hk : Waits config c' k)
    {k' : Sending} (ho : o = .await k') : Waits config c k' := by
  cases h with
  | done | failed | notMoved => cases ho
  | backoff n rpc w ms hn =>
    cases ho
    rw [hcall] at hn
    exact ⟨by simp, by simp, fun m h => by cases h; exact hn, by simp⟩
  | exhausted n rpc w err lookup hlookup =>
    cases ho
    exact ⟨by simp, by simp, by simp, by simp⟩
  | retried n h => exact Attempts.waits h (hk.backoff n rfl) c ho
  | moved err rpc response addr haddr h =>
    rw [hself] at h
    exact Creates.waits h ho
  | creating k w hr hret h hrank =>
    rw [hself] at h
    exact Creates.waits h ho
  | created k w hr id id' hret inner hinner hlog h => exact Attempts.waits h (Nat.zero_le _) c ho

theorem Sound.stub {s : ProducerState} (h : Sound s) {i r : Nat} (hr : s.producers[i]? = some r)
    {sc : Scope ProducerFields} (hsc : s.pool.scope r = some sc) : sc.self.stub ≠ none := by
  obtain ⟨id, hid⟩ := h.producers r (List.mem_of_getElem? hr)
  exact (h.pool.ready r _ sc.self hid (Pool.scope_eq_some.mp hsc).1).stubRet id rfl

theorem Sound.self_retryManager {s : ProducerState} (h : Sound s) {r : Nat}
    {sc : Scope ProducerFields} (hsc : s.pool.scope r = some sc) :
    sc.self.retryManager = retryManager s.config :=
  h.endpoints _ (List.mem_of_getElem? (Pool.scope_eq_some.mp hsc).1)

theorem Sound.resumes {s : ProducerState} (h : Sound s) {i : Nat} {t : SendTask}
    (ht : s.sends[i]? = some t) {r : Nat} (hr : s.producers[t.partition]? = some r)
    {sc : Scope ProducerFields} (hsc : s.pool.scope r = some sc) {k : Sending}
    (hk : t.status = .await k) {env : Env} {w : Wake} {ran : Piece ProducerFields Sending Nat}
    (hran : t.call.resume env sc k w = some ran) :
    SendCall.Resumes t.call env sc ran.state.client k w ran.log ran.next := by
  refine SendCall.resume_spec (h.stub hr hsc) (fun k' hk' => ?_) hran
  rw [h.self_retryManager hsc]
  exact (h.waits t (List.mem_of_getElem? ht) k hk).attempts k' hk'

theorem commitSend_sound {s : ProducerState} (h : Sound s) {task : Nat} {t : SendTask}
    (hcall : t.call.retryManager = retryManager s.config) {r : Nat}
    (hr : s.producers[t.partition]? = some r) {sc : Scope ProducerFields}
    (hsc : s.pool.scope r = some sc) {ran : Piece ProducerFields Sending Nat}
    (hj : Piece.Journaled sc ran)
    (hwaits : ∀ k, ran.next = .await k → Waits s.config ran.state.client k) :
    Sound (commitSend s task t ran) := by
  obtain ⟨id, hid⟩ := h.producers r (List.mem_of_getElem? hr)
  obtain ⟨hself, hclient, -, -⟩ := Pool.scope_eq_some.mp hsc
  have hext : s.pool.client.Extends ran.state.client := hclient ▸ hj.client
  -- The endpoint has returned from `create()`, and keeps its stub.
  have hready := (h.pool.ready r _ sc.self hid hself).mono hext hj.stub_ne_none
  have hpool : (s.pool.commit (.send task) ran).Sound :=
    Pool.commit_sound h.pool hsc hj _ rfl (fun _ _ => rfl) hid hready
  have hs := h.withPool (Pool.commit_kept h.kept hsc hj _) hpool hext (fun _ _ h => h)
    (commit_retryManager hsc hj _ h.endpoints)
  constructor
  case ref =>
    intro t' ht' k hk
    rcases List.mem_or_eq_of_mem_set ht' with ht' | rfl
    · exact hs.ref t' ht' k hk
    · exact ⟨r, hr⟩
  case waits =>
    intro t' ht' k hk
    rcases List.mem_or_eq_of_mem_set ht' with ht' | rfl
    · exact hs.waits t' ht' k hk
    · exact hwaits k hk
  case calls =>
    intro t' ht'
    rcases List.mem_or_eq_of_mem_set ht' with ht' | rfl
    · exact hs.calls t' ht'
    · exact hcall
  case kept => exact hs.kept
  case pool => exact hs.pool
  case producers => exact hs.producers
  case creating => exact hs.creating
  case endpoints => exact hs.endpoints

theorem Sound.withSend {s : ProducerState} (h : Sound s) (router : Option MessageRouter)
    {t : SendTask} (hcall : t.call.retryManager = retryManager s.config)
    (ht : ∀ k, t.status ≠ .await k) : Sound { s with router := router, sends := s.sends ++ [t] } where
  kept := h.kept
  pool := h.pool
  producers := h.producers
  creating := h.creating
  ref t' ht' k hk := by
    rcases List.mem_append.mp ht' with ht' | ht'
    · exact h.ref t' ht' k hk
    · exact (ht k (List.mem_singleton.mp ht' ▸ hk)).elim
  waits t' ht' k hk := by
    rcases List.mem_append.mp ht' with ht' | ht'
    · exact h.waits t' ht' k hk
    · exact (ht k (List.mem_singleton.mp ht' ▸ hk)).elim
  calls t' ht' := by
    rcases List.mem_append.mp ht' with ht' | ht'
    · exact h.calls t' ht'
    · rw [List.mem_singleton.mp ht']
      exact hcall
  endpoints := h.endpoints

/-! ## Every step -/

theorem stop_retryManager {ρ : Type} {p : Pool ρ} {R : RetryManager} (ref : Nat)
    (h : ∀ e ∈ p.endpoints, e.retryManager = R) :
    ∀ e ∈ (p.stop ref).endpoints, e.retryManager = R := by
  unfold Pool.stop
  split
  · exact h
  · rename_i e he
    intro x hx
    rcases List.mem_or_eq_of_mem_set hx with hx | rfl
    · exact h x hx
    · exact h e (List.mem_of_getElem? he)

theorem foldl_stop_sound (refs : List Nat) {s : ProducerState} (h : Sound s)
    (hrefs : ∀ r ∈ refs, r ∈ s.producers) :
    Sound { s with pool := refs.foldl Pool.stop s.pool } := by
  induction refs generalizing s with
  | nil => exact h
  | cons r rs ih =>
    obtain ⟨id, hid⟩ := h.producers r (hrefs r (by simp))
    have hstop : Sound { s with pool := s.pool.stop r } := by
      refine h.withPool (Pool.stop_kept h.kept r) (Pool.stop_sound h.pool ⟨_, hid⟩) ?_ ?_
        (stop_retryManager r h.endpoints)
      · rw [Pool.stop_client]
        exact .refl _
      · intro r' id' hr'
        rwa [Pool.stop_children]
    exact ih hstop fun r' hr' => hrefs r' (by simp [hr'])

theorem health_retryManager {p q : Pool ProducerFields} {task : Nat} {w : Wake} {env : Env}
    (hq : p.health task w env = some q) {R : RetryManager}
    (h : ∀ e ∈ p.endpoints, e.retryManager = R) : ∀ e ∈ q.endpoints, e.retryManager = R := by
  obtain ⟨l, e, c, pos, log, stop, -, -, -, -, rfl⟩ := Pool.health_eq_some hq
  intro x hx
  simp only [Pool.checked] at hx
  split at hx
  · obtain ⟨i, hi⟩ := List.mem_iff_getElem?.mp hx
    rw [List.getElem?_modify] at hi
    obtain ⟨y, hy, rfl⟩ := Option.map_eq_some_iff.mp hi
    have := h y (List.mem_of_getElem? hy)
    split <;> exact this
  · exact h x hx

theorem alloc_retryManager {s : ProducerState} (h : Sound s) {es : List TopicProducer}
    (hes : ∀ e ∈ es, e.retryManager = retryManager s.config) :
    ∀ e ∈ (s.pool.alloc es).endpoints, e.retryManager = retryManager s.config := by
  intro e he
  rcases List.mem_append.mp he with he | he
  · exact h.endpoints e he
  · exact hes e he

theorem create_sound {s s' : ProducerState} {env : Env} (h : Sound s)
    (hstep : create s env = some s') : Sound s' := by
  obtain ⟨-, hnil, ⟨-, p, hp, rfl⟩ | ⟨hpos, rfl⟩⟩ := create_eq_some hstep
  · have hes : ∀ e ∈ [topicProducer s s.config.topicName s.config.producerName],
        e.retryManager = retryManager s.config := by
      intro e he
      rw [List.mem_singleton.mp he]
      rfl
    have hfresh : ∀ e ∈ [topicProducer s s.config.topicName s.config.producerName],
        Pool.Fresh s.pool.client.uri e := by
      simpa using topicProducer_fresh s _ _
    have hkept := Pool.alloc_kept h.kept hfresh
    have hs : Sound { s with pool := p } :=
      h.withPool (Pool.child_kept hkept hp) (Pool.child_sound (Pool.alloc_sound h.pool h.kept (by simpa using (topicProducer_fresh s _ _).healthTask)) hp)
        (Pool.child_extends (p := s.pool.alloc _) hp)
        (fun r id hr => Pool.child_returned hp r id (Pool.alloc_returned s.pool _ r id hr))
        (child_retryManager hp (alloc_retryManager h hes))
    exact settle_sound (hs.withCreating hnil _ s.producers s.router (fun _ => hnil) hs.producers) _
  · have hes : ∀ e ∈ partitionProducers s, e.retryManager = retryManager s.config := by
      intro e he
      obtain ⟨pid, -, rfl⟩ := List.mem_map.mp he
      rfl
    have hs : Sound { s with pool := s.pool.alloc (partitionProducers s) } :=
      h.withPool (Pool.alloc_kept h.kept (partitionProducers_fresh s))
        (Pool.alloc_sound h.pool h.kept fun e he => (partitionProducers_fresh s e he).healthTask) (.refl _) (Pool.alloc_returned s.pool _)
        (alloc_retryManager h hes)
    exact hs.withCreating hnil _ s.producers _ (fun _ => hnil) hs.producers

theorem gathered_sound {s s' : ProducerState} (h : Sound s) (hstep : gathered s = some s') :
    Sound s' := by
  obtain ⟨g, hg, ⟨-, rfl⟩ | ⟨-, hall, rfl⟩⟩ := gathered_eq_some hstep
  · have hnil := h.creating (by simp [hg])
    exact h.withCreating hnil none s.producers s.router (by simp) h.producers
  · have hnil := h.creating (by simp [hg])
    refine h.withCreating hnil none g.refs s.router (by simp) ?_
    intro r hr
    have := List.all_eq_true.mp hall r hr
    split at this
    · rename_i id hid
      exact ⟨id, hid⟩
    · simp at this

theorem send_sound {s s' : ProducerState} {data : List UInt8}
    {attributes : Option (List (String × String))} {routingKey : Option String} {env : Env}
    (h : Sound s) (hstep : send s data attributes routingKey env = some s') : Sound s' := by
  obtain ⟨-, partition, router, t, -, rfl, hcase⟩ := send_eq_some hstep
  have hs := h.withSend router (t := ⟨partition, sendCall s data attributes routingKey,
    .raise (.danube "partition ID out of range")⟩) rfl (by simp)
  rcases hcase with ⟨-, rfl⟩ | ⟨r, sc, hr, hsc, rfl⟩
  · exact hs
  · refine commitSend_sound hs rfl hr hsc (sendAttempt_journaled env _ 0 sc) fun k hk => ?_
    exact Attempts.waits (SendCall.attempt_spec 0 (h.stub hr hsc)) (Nat.zero_le _) _ hk

theorem sending_sound {s s' : ProducerState} {task : Nat} {w : Wake} {env : Env} (h : Sound s)
    (hstep : sending s task w env = some s') : Sound s' := by
  obtain ⟨t, r, sc, k, ran, ht, hr, hsc, hk, hran, rfl⟩ := sending_eq_some.mp hstep
  have hmem := List.mem_of_getElem? ht
  refine commitSend_sound h (h.calls t hmem) hr hsc (sendResume_journaled env hran) fun k' hk' => ?_
  exact Resumes.waits (h.resumes ht hr hsc hk hran) (h.calls t hmem) (h.self_retryManager hsc)
    (h.waits t hmem k hk) hk'

theorem step_sound {s s' : ProducerState} {l : ProducerLabel} (h : Sound s)
    (hstep : step s l = some s') : Sound s' := by
  cases l with
  | create env => exact create_sound h hstep
  | child ref w env =>
    obtain ⟨p, hp, rfl⟩ := Option.map_eq_some_iff.mp hstep
    exact settle_sound (h.withPool (Pool.child_kept h.kept hp) (Pool.child_sound h.pool hp)
      (Pool.child_extends hp) (Pool.child_returned hp) (child_retryManager hp h.endpoints)) ref
  | gathered => exact gathered_sound h hstep
  | send data attributes routingKey env => exact send_sound h hstep
  | sending task w env => exact sending_sound h hstep
  | health task w env =>
    obtain ⟨p, hp, rfl⟩ := Option.map_eq_some_iff.mp hstep
    obtain ⟨l, e, c, pos, log, stop, -, -, hc, -, hpool⟩ := Pool.health_eq_some hp
    exact h.withPool (Pool.health_kept h.kept hp) (Pool.health_sound h.pool hp)
      (hpool ▸ hc) (fun _ _ hr => hpool ▸ hr) (health_retryManager hp h.endpoints)
  | close =>
    cases hstep
    exact foldl_stop_sound s.producers h fun _ hr => hr

theorem exec_sound {client : Client} {config : ProducerConfig} {ls : List ProducerLabel}
    {s : ProducerState} (h : exec step (init client config) ls = some s) : Sound s :=
  exec_invariant (P := Sound) (fun _ _ _ hs hstep => step_sound hs hstep) (sound_init client config) h

theorem step_config {s s' : ProducerState} {l : ProducerLabel} (hstep : step s l = some s') :
    s'.config = s.config := by
  cases l with
  | create env =>
    obtain ⟨-, -, ⟨-, p, -, rfl⟩ | ⟨hpos, rfl⟩⟩ := create_eq_some hstep
    · rw [settle_config]
    · rfl
  | child ref w env =>
    obtain ⟨p, -, rfl⟩ := Option.map_eq_some_iff.mp hstep
    rw [settle_config]
  | gathered =>
    obtain ⟨g, -, ⟨-, rfl⟩ | ⟨-, -, rfl⟩⟩ := gathered_eq_some hstep <;> rfl
  | send data attributes routingKey env =>
    obtain ⟨-, p, r, t, -, -, ⟨-, rfl⟩ | ⟨ref, sc, -, -, rfl⟩⟩ := send_eq_some hstep <;> rfl
  | sending task w env =>
    obtain ⟨t, ref, sc, k, ran, -, -, -, -, -, rfl⟩ := sending_eq_some.mp hstep
    rfl
  | health task w env =>
    obtain ⟨p, -, rfl⟩ := Option.map_eq_some_iff.mp hstep
    rfl
  | close => cases hstep; rfl

theorem exec_config {client : Client} {config : ProducerConfig} {ls : List ProducerLabel}
    {s : ProducerState} (h : exec step (init client config) ls = some s) : s.config = config :=
  exec_invariant (P := fun s => s.config = config)
    (fun _ _ _ hs hstep => (step_config hstep).trans hs) rfl h

theorem step_producers {s s' : ProducerState} {l : ProducerLabel} (h : Sound s)
    (hstep : step s l = some s') (hne : s.producers ≠ []) : s'.producers = s.producers := by
  have hfree : s.creating = none := by
    by_contra hc
    exact hne (h.creating hc)
  cases l with
  | create env => exact (hne (create_eq_some hstep).2.1).elim
  | child ref w env =>
    obtain ⟨p, -, rfl⟩ := Option.map_eq_some_iff.mp hstep
    simp [settle, hfree]
  | gathered =>
    obtain ⟨g, hg, -⟩ := gathered_eq_some hstep
    simp [hfree] at hg
  | send data attributes routingKey env =>
    obtain ⟨-, p, r, t, -, -, ⟨-, rfl⟩ | ⟨ref, sc, -, -, rfl⟩⟩ := send_eq_some hstep <;> rfl
  | sending task w env =>
    obtain ⟨t, ref, sc, k, ran, -, -, -, -, -, rfl⟩ := sending_eq_some.mp hstep
    rfl
  | health task w env =>
    obtain ⟨p, -, rfl⟩ := Option.map_eq_some_iff.mp hstep
    rfl
  | close => cases hstep; rfl

end Danube.Producer
