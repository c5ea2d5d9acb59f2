import Danube.AlikeConsumers
import Danube.AlikeProducers
import Danube.Async.Retry
import Danube.SessionSteps

/-!
# The producers and consumers of a client do not disturb each other

They share channels, the token and the request counters. Still each of them does what it does with a client
of its own: its part of the run is a run of it alone, on channels that correspond one to one.
-/

namespace Danube

open Async

/-- No channel corresponds to two. -/
structure Channels.OneToOne (w : Channels) : Prop where
  right : ∀ x y y', w x y → w x y' → y = y'
  left : ∀ x x' y, w x y → w x' y → x = x'

/-- All channels of the client are to addresses for which none is refused. -/
def Client.Reaches (broken : String → Option String) (c : Client) : Prop :=
  ∀ b u x, c.connection? b u = some x → broken u = none

namespace Client

variable {broken : String → Option String} {w : Channels} {c c' d : Client}

theorem Alike.oneToOne (h : Client.Alike broken w c d) : w.OneToOne where
  right x y y' hxy hxy' := by
    obtain ⟨b, u, hc, hd⟩ := h.channels x y hxy
    obtain ⟨b', u', hc', hd'⟩ := h.channels x y' hxy'
    obtain ⟨rfl, rfl⟩ := ConnectionManager.connection?_inj hc hc'
    exact Option.some.inj (hd.symm.trans hd')
  left x x' y hxy hxy' := by
    obtain ⟨b, u, hc, hd⟩ := h.channels x y hxy
    obtain ⟨b', u', hc', hd'⟩ := h.channels x' y hxy'
    obtain ⟨rfl, rfl⟩ := ConnectionManager.connection?_inj hd hd'
    exact Option.some.inj (hc.symm.trans hc')

theorem alike_new (hreaches : c.Reaches broken) (huri : d.uri = c.uri)
    (hoptions : d.connectionManager.options = c.connectionManager.options)
    (hnew : ∀ b u, d.connection? b u = none) : Client.Alike broken (fun _ _ => False) c d where
  uri := huri
  options := hoptions
  cached b u y hy := absurd ((hnew b u).symm.trans hy) (by simp)
  reachable := hreaches
  channels x y hxy := hxy.elim

theorem alike_self (hreaches : c.Reaches broken) : Client.Alike broken
    (fun x y => ∃ b u, c.connection? b u = some x ∧ c.connection? b u = some y) c c where
  uri := rfl
  options := rfl
  cached b u y hy := ⟨y, hy, b, u, hy, hy⟩
  reachable := hreaches
  channels _ _ hxy := hxy

theorem Alike.extends (h : Client.Alike broken w c d) (hc : c.Extends c') (hreaches : c'.Reaches broken) :
    Client.Alike broken w c' d where
  uri := h.uri.trans hc.uri.symm
  options := h.options.trans hc.connections.options.symm
  cached b u y hy := by
    obtain ⟨x, hx, hxy⟩ := h.cached b u y hy
    exact ⟨x, hc.connection? hx, hxy⟩
  reachable := hreaches
  channels x y hxy := by
    obtain ⟨b, u, hx, hy⟩ := h.channels x y hxy
    exact ⟨b, u, hc.connection? hx, hy⟩

end Client

theorem Pool.Alike.withClient {ρ : Type} {broken : String → Option String} {w : Channels} {p q : Pool ρ}
    {c : Client} (h : Pool.Alike broken w p q) (hc : Client.Alike broken w c q.client) :
    Pool.Alike broken w { p with client := c } q :=
  ⟨hc, h.endpoints, h.children, h.loops, h.trace⟩

theorem ProducerState.Alike.extends {broken : String → Option String} {w : Channels}
    {p q : ProducerState} {c c' : Client} (h : ProducerState.Alike broken w (p.withClient c) q)
    (hc : c.Extends c') (hreaches : c'.Reaches broken) :
    ProducerState.Alike broken w (p.withClient c') q :=
  ⟨h.pool.withClient (h.pool.client.extends hc hreaches), h.sends, h.rest⟩

theorem ConsumerState.Alike.extends {broken : String → Option String} {w : Channels}
    {p q : ConsumerState} {c c' : Client} (h : ConsumerState.Alike broken w (p.withClient c) q)
    (hc : c.Extends c') (hreaches : c'.Reaches broken) :
    ConsumerState.Alike broken w (p.withClient c') q :=
  ⟨h.pool.withClient (h.pool.client.extends hc hreaches), h.subscribing, h.tasks, h.acks, h.rest⟩

theorem RegistryTask.start_reaches {broken : String → Option String} {operation : RegistryOperation}
    {out : Outside} {c c' : Client} {t : RegistryTask} (hc : c.Reaches broken)
    (hout : out.channel = broken) (h : start operation out c = (c', t)) : c'.Reaches broken := by
  have hprepared : ∀ {x : Except Error (RpcConnection × Option Metadata)},
      c.prepare out c.uri = (c', x) → c'.Reaches broken := by
    intro x hprepare
    have hanswers := Client.prepare_alike (Client.alike_self hc) hout c.uri
    rw [hprepare] at hanswers
    cases hanswers with
    | ok _ halike _ => exact halike.reachable
    | error _ halike _ => exact halike.reachable
  cases started h with
  | refused err hrequest => exact hc
  | failed request hrequest d err hprepare => exact hprepared hprepare
  | issued request hrequest d conn metadata hprepare => exact hprepared hprepare

/-! ## The parts of a run -/

/-- The step of the producer `i` in this label. -/
def SessionLabel.ofProducer? (i : Nat) : SessionLabel → Option ProducerLabel
  | .producer j l => if j = i then some l else none
  | _ => none

/-- The step of the consumer `i` in this label. -/
def SessionLabel.ofConsumer? (i : Nat) : SessionLabel → Option ConsumerLabel
  | .consumer j l => if j = i then some l else none
  | _ => none

/-- The options of the client are settled, and creating a channel raises what `broken` says. -/
def SessionLabel.Settled (broken : String → Option String) : SessionLabel → Prop
  | .options _ => False
  | .producer _ l => l.env.Reaches broken
  | .consumer _ l => l.env.Reaches broken
  | .registry _ env => env.Reaches broken
  | .newProducer _ | .newConsumer _ | .answer .. => True

namespace Session

variable {s s' : Session} {uri : String} {options : List OptionsCall} {ls : List SessionLabel}
  {broken : String → Option String} {d : Client}

/-- Each producer and consumer is where its own labels lead when it is alone on the new client `d`. -/
structure Alone (broken : String → Option String) (d : Client) (ls : List SessionLabel) (s : Session) :
    Prop where
  uri : d.uri = s.client.uri
  options : d.connectionManager.options = s.client.connectionManager.options
  reaches : s.client.Reaches broken
  producers : ∀ (i : Nat) p, s.producers[i]? = some p → ∃ q w,
    exec Producer.step (Producer.init d p.config) (ls.filterMap (SessionLabel.ofProducer? i)) = some q ∧
      ProducerState.Alike broken w (p.withClient s.client) q
  consumers : ∀ (i : Nat) p, s.consumers[i]? = some p → ∃ q w,
    exec Consumer.step (Consumer.init d p.config) (ls.filterMap (SessionLabel.ofConsumer? i)) = some q ∧
      ConsumerState.Alike broken w (p.withClient s.client) q
  unbornProducer : ∀ i, s.producers.length ≤ i → ls.filterMap (SessionLabel.ofProducer? i) = []
  unbornConsumer : ∀ i, s.consumers.length ≤ i → ls.filterMap (SessionLabel.ofConsumer? i) = []

theorem alone_init (uri : String) (options : List OptionsCall) :
    Alone broken (init uri options).client [] (init uri options) where
  uri := rfl
  options := rfl
  reaches b u x hx := by
    have hnone : (init uri options).client.connection? b u = none := rfl
    exact absurd (hnone.symm.trans hx) (by simp)
  producers := by simp [init]
  consumers := by simp [init]
  unbornProducer := by simp
  unbornConsumer := by simp

variable {l : SessionLabel}

theorem Alone.other_producer (h : Alone broken d ls s) {i : Nat} (hl : l.ofProducer? i = none) {c : Client}
    (hc : s.client.Extends c) (hreaches : c.Reaches broken) {p : ProducerState}
    (hp : s.producers[i]? = some p) : ∃ q w,
    exec Producer.step (Producer.init d p.config) ((ls ++ [l]).filterMap (SessionLabel.ofProducer? i)) =
      some q ∧ ProducerState.Alike broken w (p.withClient c) q := by
  obtain ⟨q, w, hq, halike⟩ := h.producers i p hp
  refine ⟨q, w, ?_, halike.extends hc hreaches⟩
  simpa [hl] using hq

theorem Alone.other_consumer (h : Alone broken d ls s) {i : Nat} (hl : l.ofConsumer? i = none) {c : Client}
    (hc : s.client.Extends c) (hreaches : c.Reaches broken) {p : ConsumerState}
    (hp : s.consumers[i]? = some p) : ∃ q w,
    exec Consumer.step (Consumer.init d p.config) ((ls ++ [l]).filterMap (SessionLabel.ofConsumer? i)) =
      some q ∧ ConsumerState.Alike broken w (p.withClient c) q := by
  obtain ⟨q, w, hq, halike⟩ := h.consumers i p hp
  refine ⟨q, w, ?_, halike.extends hc hreaches⟩
  simpa [hl] using hq

theorem Alone.keep (h : Alone broken d ls s) (hproducer : ∀ i, l.ofProducer? i = none)
    (hconsumer : ∀ i, l.ofConsumer? i = none) {t : Session} (hproducers : t.producers = s.producers)
    (hconsumers : t.consumers = s.consumers) (hc : s.client.Extends t.client)
    (hreaches : t.client.Reaches broken) : Alone broken d (ls ++ [l]) t where
  uri := h.uri.trans hc.uri.symm
  options := h.options.trans hc.connections.options.symm
  reaches := hreaches
  producers i p hp := h.other_producer (hproducer i) hc hreaches (hproducers ▸ hp)
  consumers i p hp := h.other_consumer (hconsumer i) hc hreaches (hconsumers ▸ hp)
  unbornProducer i hi := by
    have hnone := h.unbornProducer i (hproducers ▸ hi)
    simpa [hproducer i] using hnone
  unbornConsumer i hi := by
    have hnone := h.unbornConsumer i (hconsumers ▸ hi)
    simpa [hconsumer i] using hnone

theorem Alone.addProducer (h : Alone broken d ls s) (hnew : ∀ b u, d.connection? b u = none)
    (config : ProducerConfig) :
    Alone broken d ls { s with producers := s.producers ++ [Producer.init s.client config] } where
  uri := h.uri
  options := h.options
  reaches := h.reaches
  consumers := h.consumers
  unbornConsumer := h.unbornConsumer
  producers i p hp := by
    rcases Retry.getElem?_snoc hp with hp | ⟨rfl, rfl⟩
    · exact h.producers i p hp
    · refine ⟨Producer.init d config, fun _ _ => False, ?_, ?_, .nil, rfl⟩
      · rw [h.unbornProducer _ le_rfl]
        rfl
      · exact Pool.alike_init (Client.alike_new h.reaches h.uri h.options hnew)
  unbornProducer i hi := by
    rw [List.length_append] at hi
    exact h.unbornProducer i (by omega)

theorem Alone.addConsumer (h : Alone broken d ls s) (hnew : ∀ b u, d.connection? b u = none)
    (config : ConsumerConfig) :
    Alone broken d ls { s with consumers := s.consumers ++ [Consumer.init s.client config] } where
  uri := h.uri
  options := h.options
  reaches := h.reaches
  producers := h.producers
  unbornProducer := h.unbornProducer
  consumers i p hp := by
    rcases Retry.getElem?_snoc hp with hp | ⟨rfl, rfl⟩
    · exact h.consumers i p hp
    · refine ⟨Consumer.init d config, fun _ _ => False, ?_, ?_, .none, .nil, .nil, rfl⟩
      · rw [h.unbornConsumer _ le_rfl]
        rfl
      · exact Pool.alike_init (Client.alike_new h.reaches h.uri h.options hnew)
  unbornConsumer i hi := by
    rw [List.length_append] at hi
    exact h.unbornConsumer i (by omega)

theorem Alone.producer (h : Alone broken d ls s) {i : Nat} {label : ProducerLabel} {p p' : ProducerState}
    (hl : label.env.Reaches broken) (hp : s.producers[i]? = some p)
    (hstep : Producer.step (p.withClient s.client) label = some p') (calls : List Call) :
    Alone broken d (ls ++ [.producer i label])
      { s with client := p'.pool.client, producers := s.producers.set i p', calls := calls } := by
  obtain ⟨q, w, hq, halike⟩ := h.producers i p hp
  obtain ⟨q', v, hv, hq', halike'⟩ := Producer.step_alike halike hl hstep
  have hext : s.client.Extends p'.pool.client := (producer_moves hstep).opens.extending
  have hreaches : p'.pool.client.Reaches broken := halike'.pool.client.reachable
  have hlt := (List.getElem?_eq_some_iff.mp hp).1
  constructor
  · exact h.uri.trans hext.uri.symm
  · exact h.options.trans hext.connections.options.symm
  · exact hreaches
  · intro j x hx
    by_cases hj : i = j
    · subst hj
      rw [List.getElem?_set_self hlt, Option.some.injEq] at hx
      subst hx
      -- The producer itself: its run alone goes on by the same label.
      have hconfig : p'.config = (p.withClient s.client).config := Producer.step_config hstep
      refine ⟨q', v, ?_, halike'⟩
      rw [List.filterMap_append, hconfig]
      refine exec_append.mpr ⟨q, hq, ?_⟩
      simpa [SessionLabel.ofProducer?, exec] using hq'
    · rw [List.getElem?_set_ne hj] at hx
      have hnone : (SessionLabel.producer i label).ofProducer? j = none := if_neg hj
      exact h.other_producer hnone hext hreaches hx
  · intro j x hx
    exact h.other_consumer rfl hext hreaches hx
  · intro j hj
    rw [List.length_set] at hj
    have hne : i ≠ j := by omega
    simpa [SessionLabel.ofProducer?, hne] using h.unbornProducer j hj
  · intro j hj
    simpa [SessionLabel.ofConsumer?] using h.unbornConsumer j hj

theorem Alone.consumer (h : Alone broken d ls s) {i : Nat} {label : ConsumerLabel} {p p' : ConsumerState}
    (hl : label.env.Reaches broken) (hp : s.consumers[i]? = some p)
    (hstep : Consumer.step (p.withClient s.client) label = some p') (calls : List Call) :
    Alone broken d (ls ++ [.consumer i label])
      { s with client := p'.pool.client, consumers := s.consumers.set i p', calls := calls } := by
  obtain ⟨q, w, hq, halike⟩ := h.consumers i p hp
  obtain ⟨q', v, hv, hq', halike'⟩ := Consumer.step_alike halike hl hstep
  have hext : s.client.Extends p'.pool.client := (consumer_moves hstep).opens.extending
  have hreaches : p'.pool.client.Reaches broken := halike'.pool.client.reachable
  have hlt := (List.getElem?_eq_some_iff.mp hp).1
  constructor
  · exact h.uri.trans hext.uri.symm
  · exact h.options.trans hext.connections.options.symm
  · exact hreaches
  · intro j x hx
    exact h.other_producer rfl hext hreaches hx
  · intro j x hx
    by_cases hj : i = j
    · subst hj
      rw [List.getElem?_set_self hlt, Option.some.injEq] at hx
      subst hx
      -- The consumer itself: its run alone goes on by the same label.
      have hconfig : p'.config = (p.withClient s.client).config := Consumer.step_config hstep
      refine ⟨q', v, ?_, halike'⟩
      rw [List.filterMap_append, hconfig]
      refine exec_append.mpr ⟨q, hq, ?_⟩
      simpa [SessionLabel.ofConsumer?, exec] using hq'
    · rw [List.getElem?_set_ne hj] at hx
      have hnone : (SessionLabel.consumer i label).ofConsumer? j = none := if_neg hj
      exact h.other_consumer hnone hext hreaches hx
  · intro j hj
    simpa [SessionLabel.ofProducer?] using h.unbornProducer j hj
  · intro j hj
    rw [List.length_set] at hj
    have hne : i ≠ j := by omega
    simpa [SessionLabel.ofConsumer?, hne] using h.unbornConsumer j hj

theorem Stepped.alone (h : Alone broken d ls s) (hnew : ∀ b u, d.connection? b u = none)
    (hl : l.Settled broken) (hstep : s.Stepped l s') : Alone broken d (ls ++ [l]) s' := by
  have hnone : (∀ i, l.ofProducer? i = none) → (∀ i, l.ofConsumer? i = none) →
      Alone broken d (ls ++ [l]) s :=
    fun hproducer hconsumer => h.keep hproducer hconsumer rfl rfl (.refl _) h.reaches
  cases hstep with
  | options call => exact hl.elim
  | newProducer calls config hbuild => exact (hnone (fun _ => rfl) fun _ => rfl).addProducer hnew config
  | newConsumer calls hcomplete => exact (hnone (fun _ => rfl) fun _ => rfl).addConsumer hnew (.set calls)
  | noProducer | noConsumer => exact hnone (fun _ => rfl) fun _ => rfl
  | producer i label p p' hp hstep => exact h.producer hl hp hstep _
  | consumer i label p p' hp hstep => exact h.consumer hl hp hstep _
  | registry operation env c t hstart =>
    exact h.keep (fun _ => rfl) (fun _ => rfl) rfl rfl (RegistryTask.start_opens hstart).extending
      (RegistryTask.start_reaches h.reaches hl.call hstart)
  | answer i reply t t' ht hanswer =>
    exact h.keep (fun _ => rfl) (fun _ => rfl) rfl rfl (.refl _) h.reaches

/-- In every run each producer and each consumer is where a run of it alone leads, with its own labels on
a client of its own: the same events in the same order, the same outcomes, the same queues, on channels
that correspond one to one. -/
theorem each_runs_as_if_alone (h : exec step (init uri options) ls = some s)
    (hls : ∀ l ∈ ls, l.Settled broken) :
    (∀ (i : Nat) p, s.producers[i]? = some p → ∃ q w,
      exec Producer.step (Producer.init (init uri options).client p.config)
        (ls.filterMap (SessionLabel.ofProducer? i)) = some q ∧
      w.OneToOne ∧ ProducerState.Alike broken w (p.withClient s.client) q) ∧
    ∀ (i : Nat) p, s.consumers[i]? = some p → ∃ q w,
      exec Consumer.step (Consumer.init (init uri options).client p.config)
        (ls.filterMap (SessionLabel.ofConsumer? i)) = some q ∧
      w.OneToOne ∧ ConsumerState.Alike broken w (p.withClient s.client) q := by
  have halone := exec_induction
    (P := fun ls s => (∀ l ∈ ls, l.Settled broken) → Alone broken (init uri options).client ls s)
    (fun _ => alone_init uri options) (fun ls s l s' _ ih hstep hls =>
      (stepped hstep).alone (ih fun x hx => hls x (List.mem_append_left _ hx)) (fun _ _ => rfl)
        (hls l (by simp))) h hls
  constructor
  · intro i p hp
    obtain ⟨q, w, hq, halike⟩ := halone.producers i p hp
    exact ⟨q, w, hq, halike.pool.client.oneToOne, halike⟩
  · intro i p hp
    obtain ⟨q, w, hq, halike⟩ := halone.consumers i p hp
    exact ⟨q, w, hq, halike.pool.client.oneToOne, halike⟩

theorem reaches_everywhere : ({} : Env).Reaches fun _ => none := ⟨rfl, rfl, rfl⟩

theorem interleaved_as_if_alone : ∃ s, exec step (init "a" []) interleaved = some s ∧
    (∀ (i : Nat) p, s.producers[i]? = some p → ∃ q w,
      exec Producer.step (Producer.init (init "a" []).client p.config)
        (interleaved.filterMap (SessionLabel.ofProducer? i)) = some q ∧
      w.OneToOne ∧ ProducerState.Alike (fun _ => none) w (p.withClient s.client) q) ∧
    ∀ (i : Nat) p, s.consumers[i]? = some p → ∃ q w,
      exec Consumer.step (Consumer.init (init "a" []).client p.config)
        (interleaved.filterMap (SessionLabel.ofConsumer? i)) = some q ∧
      w.OneToOne ∧ ConsumerState.Alike (fun _ => none) w (p.withClient s.client) q := by
  obtain ⟨s, hs⟩ := Option.isSome_iff_exists.mp (by rfl : (exec step (init "a" []) interleaved).isSome)
  have hsettled : ∀ l ∈ interleaved, l.Settled fun _ => none := by
    simp [interleaved, SessionLabel.Settled, ProducerLabel.env, ConsumerLabel.env, reaches_everywhere]
  exact ⟨s, hs, each_runs_as_if_alone hs hsettled⟩

end Session

end Danube
