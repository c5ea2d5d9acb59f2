import Danube.Session
import Danube.ReceiveTrace

/-!
# What a step of a session does

A step changes one of the producers, consumers and registry calls, and the client that they share. Its
RPCs are those of the moves of one pool.
-/

namespace Danube

open Async

namespace Session

variable {s s' : Session}

inductive Stepped (s : Session) : SessionLabel → Session → Prop
  | options (call : OptionsCall) :
    Stepped s (.options call) { s with client := s.client.setOptions call }
  | newProducer (calls : List ProducerBuilderCall) (config : ProducerConfig)
    (hbuild : (ProducerBuilder.ofCalls calls).build = .ok config) :
    Stepped s (.newProducer calls)
      { s with producers := s.producers ++ [Producer.init s.client config] }
  | noProducer (calls : List ProducerBuilderCall) (err : Error)
    (hbuild : (ProducerBuilder.ofCalls calls).build = .error err) : Stepped s (.newProducer calls) s
  | newConsumer (calls : List ConsumerBuilderCall) (h : (ConsumerConfig.set calls).Complete) :
    Stepped s (.newConsumer calls)
      { s with consumers := s.consumers ++ [Consumer.init s.client (.set calls)] }
  | noConsumer (calls : List ConsumerBuilderCall) (h : ¬ (ConsumerConfig.set calls).Complete) :
    Stepped s (.newConsumer calls) s
  | producer (i : Nat) (l : ProducerLabel) (p p' : ProducerState) (hp : s.producers[i]? = some p)
    (hstep : Producer.step (p.withClient s.client) l = some p') :
    Stepped s (.producer i l)
      { s with
        client := p'.pool.client
        producers := s.producers.set i p'
        calls := s.calls ++ p.pool.newCalls p'.pool }
  | consumer (i : Nat) (l : ConsumerLabel) (p p' : ConsumerState) (hp : s.consumers[i]? = some p)
    (hstep : Consumer.step (p.withClient s.client) l = some p') :
    Stepped s (.consumer i l)
      { s with
        client := p'.pool.client
        consumers := s.consumers.set i p'
        calls := s.calls ++ Consumer.issued p p' l }
  | registry (operation : RegistryOperation) (env : Env) (c : Client) (t : RegistryTask)
    (hstart : RegistryTask.start operation env.call s.client = (c, t)) :
    Stepped s (.registry operation env)
      { s with
        client := c
        registry := s.registry ++ [t]
        registryRpcs := s.registryRpcs ++ t.rpc?.toList }
  | answer (i : Nat) (reply : Except RpcError RegistryResponse) (t t' : RegistryTask)
    (ht : s.registry[i]? = some t) (hanswer : t.answer reply = some t') :
    Stepped s (.answer i reply) { s with registry := s.registry.set i t' }

theorem stepped {l : SessionLabel} (h : s.step l = some s') : s.Stepped l s' := by
  unfold step at h
  split at h
  · cases h
    exact .options _
  · rename_i calls
    cases h
    unfold newProducer
    split
    · exact .newProducer calls _ ‹_›
    · exact .noProducer calls _ ‹_›
  · rename_i calls
    cases h
    unfold newConsumer
    rw [ConsumerBuilding.product_eq]
    split
    · exact .newConsumer calls ‹_›
    · simpa using Stepped.noConsumer calls ‹_›
  · simp only [producer, Option.bind_eq_bind, Option.bind_eq_some_iff, Option.pure_def,
      Option.some.injEq] at h
    obtain ⟨p, hp, p', hstep, rfl⟩ := h
    exact .producer _ _ p p' hp hstep
  · simp only [consumer, Option.bind_eq_bind, Option.bind_eq_some_iff, Option.pure_def,
      Option.some.injEq] at h
    obtain ⟨p, hp, p', hstep, rfl⟩ := h
    exact .consumer _ _ p p' hp hstep
  · cases h
    exact .registry _ _ _ _ rfl
  · simp only [answer, Option.bind_eq_bind, Option.bind_eq_some_iff, Option.pure_def,
      Option.some.injEq] at h
    obtain ⟨t, ht, t', hanswer, rfl⟩ := h
    exact .answer _ _ t t' ht hanswer

theorem producer_moves {c : Client} {p p' : ProducerState} {l : ProducerLabel}
    (h : Producer.step (p.withClient c) l = some p') :
    Pool.Moves producerRole (Producer.Born p.config) (fun _ => False) l.env (p.withClient c).pool
      (p.pool.newCalls p'.pool) p'.pool := Producer.pool_moves h

theorem consumer_moves {c : Client} {p p' : ConsumerState} {l : ConsumerLabel}
    (h : Consumer.step (p.withClient c) l = some p') :
    Pool.Moves consumerRole (Consumer.Born p.config) (Consumer.Acks p.config) l.env (p.withClient c).pool
      (Consumer.issued p p' l) p'.pool := Consumer.pool_moves h

end Session

/-! ## The client that they share -/

/-- `c'` has the connections of `c`, and maybe more. Its options may have been set since. -/
structure Client.Grows (c c' : Client) : Prop where
  uri : c'.uri = c.uri
  connections : c.connectionManager.connections <+: c'.connectionManager.connections

namespace Client

theorem Grows.refl (c : Client) : c.Grows c := ⟨rfl, List.prefix_refl _⟩

theorem Grows.trans {a b c : Client} (h : a.Grows b) (k : b.Grows c) : a.Grows c :=
  ⟨k.uri.trans h.uri, h.connections.trans k.connections⟩

theorem Extends.grows {c c' : Client} (h : c.Extends c') : c.Grows c' :=
  ⟨h.uri, h.connections.connections⟩

theorem setOptions_grows (c : Client) (call : OptionsCall) : c.Grows (c.setOptions call) :=
  ⟨rfl, List.prefix_refl _⟩

/-- `c'` has the options of `c` and all its connections, and it made the new ones with these options. -/
structure Opens (c c' : Client) : Prop where
  extending : c.Extends c'
  channels : ∀ e ∈ c'.connectionManager.connections, e ∈ c.connectionManager.connections ∨
    e.2.channel.credentials = c.options.channelCredentials

theorem Opens.refl (c : Client) : c.Opens c := ⟨.refl c, fun _ he => Or.inl he⟩

theorem Opens.trans {a b c : Client} (h : a.Opens b) (k : b.Opens c) : a.Opens c where
  extending := h.extending.trans k.extending
  channels e he := by
    rcases k.channels e he with he | he
    · exact h.channels e he
    · exact Or.inr (he.trans (congrArg _ h.extending.connections.options))

theorem Opens.counters {c c' : Client} (h : c.Opens c') (lookups checks : Nat) :
    c.Opens { c' with lookupRequestId := lookups, healthRequestId := checks } :=
  ⟨⟨h.extending.uri, h.extending.connections⟩, h.channels⟩

theorem getConnection_opens {c c' : Client} {out : Outside} {b u : String}
    {x : Except Error RpcConnection} (h : c.getConnection out b u = (c', x)) : c.Opens c' := by
  have hc := c.getConnection_extends out b u
  rw [h] at hc
  refine ⟨hc, fun e he => ?_⟩
  cases h
  exact ConnectionManager.mem_getConnection he

theorem prepare_opens {c c' : Client} {out : Outside} {addr : String}
    {x : Except Error (RpcConnection × Option Metadata)} (h : c.prepare out addr = (c', x)) :
    c.Opens c' := by
  unfold prepare at h
  split at h
  · rename_i heq
    cases h
    exact getConnection_opens heq
  · rename_i heq
    split at h <;> cases h <;> exact getConnection_opens heq

end Client

theorem Endpoint.Act.opens {ρ : Type} {role : Role ρ} {env : Env} {s s' : Scope ρ}
    {log : List Event} (h : Act role env s log s') : s.client.Opens s'.client := by
  cases h with
  | remark | moved | skip | registered | setSchema | stream | clearStop => exact .refl _
  | lookup c conn metadata h => exact (Client.prepare_opens h).counters _ _
  | registry c conn metadata ref href request hrequest h => exact Client.prepare_opens h
  | unprepared out addr c err h => exact Client.prepare_opens h
  | connect c conn h => exact Client.getConnection_opens h
  | unconnected out c err h => exact Client.getConnection_opens h
  | register c conn metadata h hmetadata => exact Client.getConnection_opens h
  | startHealthCheck c conn h => exact Client.getConnection_opens h

namespace Pool

variable {ρ : Type} {role : Role ρ} {born : String → Endpoint ρ → Prop} {acks : Request → Prop} {env : Env} {p q : Pool ρ}
  {calls : List Call}

theorem Move.opens (h : Move role born acks env p calls q) : p.client.Opens q.client := by
  cases h with
  | children | alloc | leave | close | answer | ack => exact .refl _
  | act s s' actor log hs h =>
    have hclient := (scope_eq_some.mp hs).2.1
    exact hclient ▸ h.opens
  | poll | refuse => exact (Client.Opens.refl _).counters _ _
  | stop ref =>
    unfold Pool.stop
    split <;> exact .refl _
  | partitions c conn metadata topic h => exact (Client.prepare_opens h).counters _ _
  | unprepared c err h => exact Client.prepare_opens h

theorem Move.extends (h : Move role born acks env p calls q) : p.client.Extends q.client := h.opens.extending

theorem Moves.opens (h : Moves role born acks env p calls q) : p.client.Opens q.client :=
  Acts.spec (J := fun p _ q => p.client.Opens q.client) (fun p => .refl p.client)
    (fun _ _ _ h => h.opens) (fun _ _ _ _ _ h k => h.trans k) h

end Pool

theorem RegistryTask.start_opens {operation : RegistryOperation} {out : Outside} {c c' : Client}
    {t : RegistryTask} (h : start operation out c = (c', t)) : c.Opens c' := by
  cases started h with
  | refused err hrequest => exact .refl c
  | failed request hrequest d err hprepare => exact Client.prepare_opens hprepare
  | issued request hrequest d conn metadata hprepare => exact Client.prepare_opens hprepare

/-! ## Invariants of the pools -/

namespace Session

variable {s s' : Session} {l : SessionLabel}

theorem Stepped.grows (h : s.Stepped l s') : s.client.Grows s'.client := by
  cases h with
  | options call => exact Client.setOptions_grows _ call
  | newProducer | noProducer | newConsumer | noConsumer | answer => exact .refl _
  | producer i l p p' hp hstep => exact (producer_moves hstep).opens.extending.grows
  | consumer i l p p' hp hstep => exact (consumer_moves hstep).opens.extending.grows
  | registry operation env c t hstart => exact (RegistryTask.start_opens hstart).extending.grows

theorem producers_keep {I : ProducerConfig → Pool ProducerFields → Prop}
    (hinit : ∀ config c, I config { client := c })
    (hclient : ∀ config p c, p.client.Grows c → I config p → I config { p with client := c })
    (hmove : ∀ config env p calls q, I config p →
      Pool.Move producerRole (Producer.Born config) (fun _ => False) env p calls q → I config q)
    {uri : String} {options : List OptionsCall} {ls : List SessionLabel}
    (h : exec step (init uri options) ls = some s) :
    ∀ p ∈ s.producers, I p.config (p.withClient s.client).pool := by
  refine exec_invariant (P := fun s => ∀ p ∈ s.producers, I p.config (p.withClient s.client).pool)
    (fun s l s' hs hstep => ?_) (by simp [init]) h
  have hstepped := stepped hstep
  have hgrows := hstepped.grows
  have hold : ∀ p ∈ s.producers, I p.config (p.withClient s'.client).pool :=
    fun p hp =>
      hclient p.config (p.withClient s.client).pool s'.client hgrows (hs p hp)
  cases hstepped with
  | options | noProducer | newConsumer | noConsumer | consumer | registry | answer => exact hold
  | newProducer calls config hbuild =>
    intro p hp
    rcases List.mem_append.mp hp with hp | hp
    · exact hold p hp
    · rw [List.mem_singleton.mp hp]
      exact hinit config _
  | producer i l q q' hq hstep' =>
    intro p hp
    rcases List.mem_or_eq_of_mem_set hp with hp | rfl
    · exact hold p hp
    · have hconfig : p.config = (q.withClient s.client).config := Producer.step_config hstep'
      rw [hconfig]
      exact Acts.invariant (hmove q.config _) (producer_moves hstep') (hs q (List.mem_of_getElem? hq))

theorem consumers_keep {I : ConsumerConfig → Pool ConsumerFields → Prop}
    (hinit : ∀ config c, I config { client := c })
    (hclient : ∀ config p c, p.client.Grows c → I config p → I config { p with client := c })
    (hmove : ∀ config env p calls q, I config p →
      Pool.Move consumerRole (Consumer.Born config) (Consumer.Acks config) env p calls q → I config q)
    {uri : String} {options : List OptionsCall} {ls : List SessionLabel}
    (h : exec step (init uri options) ls = some s) :
    ∀ p ∈ s.consumers, I p.config (p.withClient s.client).pool := by
  refine exec_invariant (P := fun s => ∀ p ∈ s.consumers, I p.config (p.withClient s.client).pool)
    (fun s l s' hs hstep => ?_) (by simp [init]) h
  have hstepped := stepped hstep
  have hgrows := hstepped.grows
  have hold : ∀ p ∈ s.consumers, I p.config (p.withClient s'.client).pool :=
    fun p hp =>
      hclient p.config (p.withClient s.client).pool s'.client hgrows (hs p hp)
  cases hstepped with
  | options | newProducer | noProducer | noConsumer | producer | registry | answer => exact hold
  | newConsumer calls hcomplete =>
    intro p hp
    rcases List.mem_append.mp hp with hp | hp
    · exact hold p hp
    · rw [List.mem_singleton.mp hp]
      exact hinit (.set calls) _
  | consumer i l q q' hq hstep' =>
    intro p hp
    rcases List.mem_or_eq_of_mem_set hp with hp | rfl
    · exact hold p hp
    · have hconfig : p.config = (q.withClient s.client).config := Consumer.step_config hstep'
      rw [hconfig]
      exact Acts.invariant (hmove q.config _) (consumer_moves hstep') (hs q (List.mem_of_getElem? hq))

end Session

end Danube
