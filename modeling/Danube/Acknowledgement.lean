import Danube.Partitions
import Danube.ConsumerSteps
import Danube.StreamFailure

/-!
# The consumer that acknowledges a message

`ack` and `nack` look the partition's consumer up by the topic that the message carries, and do
nothing when they find none.
-/

namespace Danube

open Async

namespace Pool

variable {p q : Pool ConsumerFields} {ref : Nat} {s : Scope ConsumerFields}

/-- The partition of an endpoint. -/
def topicOf (p : Pool ConsumerFields) (r : Nat) : Option String := p.endpoints[r]?.map Endpoint.topic

theorem KeepsNames.topicOf (h : p.KeepsNames q) {r : Nat} {topic : String}
    (hr : p.topicOf r = some topic) : q.topicOf r = some topic := by
  obtain ⟨e, he, rfl⟩ := Option.map_eq_some_iff.mp hr
  obtain ⟨e', he', htopic, -⟩ := h r e he
  exact Option.map_eq_some_iff.mpr ⟨e', he', htopic⟩

theorem setStop_keepsNames (p : Pool ConsumerFields) (ref : Nat) (b : Bool) :
    p.KeepsNames (p.setStop ref b) := by
  intro r e he
  simp only [setStop, List.getElem?_modify, he]
  split
  · exact ⟨_, rfl, rfl, rfl⟩
  · exact ⟨_, rfl, rfl, rfl⟩

theorem cleared_keepsNames {κ α : Type} {ran : Piece ConsumerFields κ α} (hs : p.scope ref = some s)
    (hr : Cleared s ran) (actor : Actor) : p.KeepsNames (p.commit actor ran) := by
  rcases hr with hj | ⟨-, hj⟩
  · exact commit_keepsNames hs hj actor p.children
  · have href : ran.state.ref = ref := hj.ref.trans (scope_eq_some.mp hs).2.2.2
    rw [← commit_setStop false actor ran href]
    exact (setStop_keepsNames p ref false).trans
      (commit_keepsNames (scope_setStop hs) hj actor p.children)

end Pool

/-- The message that a stream answers with, and the loop that it answers. -/
def ConsumerLabel.streamed? : ConsumerLabel → Option (Nat × StreamMessage)
  | .receiving task (.reply (.ok (.stream message))) _ => some (task, message)
  | _ => none

namespace Consumer

/-! ## The dict of consumers -/

theorem gathered_names_nodup {names : List String} {refs : List Nat} (h : refs.Nodup) :
    (((names.zip refs).foldl (fun d x => setItem d x.1 x.2) []).map Prod.fst).Nodup := by
  have hzip : ((names.zip refs).map Prod.snd).Nodup :=
    h.sublist (map_snd_zip_sublist names refs)
  have hd := foldl_setItem_pairwise (d := []) hzip List.Pairwise.nil (by simp)
  exact List.pairwise_map.mpr (hd.imp fun hxy => hxy.1)

theorem lookup_of_mem {d : List (String × Nat)} {name : String} {ref : Nat}
    (hd : (d.map Prod.fst).Nodup) (h : (name, ref) ∈ d) : d.lookup name = some ref := by
  obtain ⟨l₁, l₂, rfl⟩ := List.append_of_mem h
  refine List.lookup_eq_some_iff.mpr ⟨l₁, l₂, rfl, fun x hx => ?_⟩
  rw [List.map_append, List.nodup_append] at hd
  have hne := hd.2.2 x.1 (List.mem_map_of_mem hx) name (by simp)
  simpa using Ne.symm hne

/-! ## The partition of each consumer -/

/-- A consumer is kept under the name of its partition, and the receive loops are those of the
consumers that are kept. -/
structure Routed (s : ConsumerState) : Prop where
  names : (s.consumers.map Prod.fst).Nodup
  consumers : ∀ x ∈ s.consumers, s.pool.topicOf x.2 = some x.1
  gather : ∀ names g, s.subscribing = some (.gather names g) →
    ∀ x ∈ names.zip g.refs, s.pool.topicOf x.2 = some x.1
  tasks : ∀ t ∈ s.tasks, ∃ x ∈ s.consumers, x.2 = t.ref

theorem routed_init (client : Client) (config : ConsumerConfig) : Routed (init client config) where
  names := by simp [init]
  consumers := by simp [init]
  gather := by simp [init]
  tasks := by simp [init]

theorem Routed.aside {s s' : ConsumerState} (h : Routed s) (hpool : s.pool.KeepsNames s'.pool)
    (hconsumers : s'.consumers = s.consumers)
    (hgather : ∀ names g, s'.subscribing = some (.gather names g) →
      ∃ g', s.subscribing = some (.gather names g') ∧ g.refs = g'.refs)
    (htasks : s'.tasks.map ReceiveTask.ref = s.tasks.map ReceiveTask.ref) : Routed s' where
  names := hconsumers ▸ h.names
  consumers x hx := hpool.topicOf (h.consumers x (hconsumers ▸ hx))
  gather names g hg x hx := by
    obtain ⟨g', hg', hrefs⟩ := hgather names g hg
    exact hpool.topicOf (h.gather names g' hg' x (hrefs ▸ hx))
  tasks t ht := by
    obtain ⟨t', ht', heq⟩ := List.mem_map.mp (htasks ▸ List.mem_map_of_mem ht)
    rw [hconsumers, ← heq]
    exact h.tasks t' ht'

theorem zip_range'_topicOf {s : ConsumerState} {names : List String} {x : String × Nat}
    (hx : x ∈ names.zip (List.range' s.pool.endpoints.length names.length)) :
    (s.pool.alloc (names.map (topicConsumer s))).topicOf x.2 = some x.1 := by
  obtain ⟨i, hi⟩ := List.mem_iff_getElem?.mp hx
  obtain ⟨hname, href⟩ := List.getElem?_zip_eq_some.mp hi
  have hlt : i < names.length := (List.getElem?_eq_some_iff.mp hname).1
  rw [List.getElem?_range' hlt, Nat.one_mul] at href
  unfold Pool.topicOf Pool.alloc
  dsimp only
  rw [← Option.some.inj href, List.getElem?_append_right (Nat.le_add_right _ _), Nat.add_sub_cancel_left,
    List.getElem?_map, hname]
  rfl

theorem step_keepsNames {s s' : ConsumerState} {l : ConsumerLabel} (hstep : step s l = some s') :
    s.pool.KeepsNames s'.pool := by
  cases l with
  | subscribe env =>
    obtain ⟨-, -, c, x, -, -, rfl⟩ := subscribe_eq_some hstep
    exact .refl _
  | partitions w =>
    rcases partitions_eq_some hstep with ⟨⟨names, rfl⟩, -⟩ | ⟨rfl, -⟩
    · exact Pool.alloc_keepsNames _ _
    · exact .refl _
  | child ref w env =>
    obtain ⟨p, hp, rfl⟩ := Option.map_eq_some_iff.mp hstep
    obtain ⟨c, heq, -⟩ := settle_eq { s with pool := p } ref
    rw [heq]
    exact Pool.child_keepsNames hp
  | gathered => obtain ⟨names, g, -, rfl | ⟨-, rfl⟩⟩ := gathered_eq_some hstep <;> exact .refl _
  | receive => cases hstep; exact .refl _
  | receiving task w env =>
    obtain ⟨t, sc, queue, ran, -, hsc, -, hran, rfl⟩ := receiving_eq_some.mp hstep
    exact Pool.cleared_keepsNames hsc (receivePiece_cleared env hran) (.receive task)
  | get queue => obtain ⟨queues, rfl⟩ := get_eq_some hstep; exact .refl _
  | ack message env =>
    obtain ⟨acks, rfl | ⟨ref, sc, call, -, -, -, rfl⟩⟩ := onConsumer_eq_some hstep <;> exact .refl _
  | nack message delayMs reason env =>
    obtain ⟨acks, rfl | ⟨ref, sc, call, -, -, -, rfl⟩⟩ := onConsumer_eq_some hstep <;> exact .refl _
  | acked call w => obtain ⟨acks, rfl⟩ := acked_eq_some hstep; exact .refl _
  | health task w env =>
    obtain ⟨p, hp, rfl⟩ := Option.map_eq_some_iff.mp hstep
    exact Pool.health_keepsNames hp
  | close => cases hstep; exact Pool.foldl_stop_keepsNames _ _

theorem step_routed {s s' : ConsumerState} {l : ConsumerLabel} (h : Routed s) (hs : Sound s)
    (hd : Distinct s) (hstep : step s l = some s') : Routed s' := by
  have hkeeps := step_keepsNames hstep
  have hsame : ∀ names g, s.subscribing = some (.gather names g) →
      ∃ g', s.subscribing = some (.gather names g') ∧ g.refs = g'.refs :=
    fun names g hg => ⟨g, hg, rfl⟩
  cases l with
  | subscribe env =>
    obtain ⟨-, -, c, x, -, hx, rfl⟩ := subscribe_eq_some hstep
    exact h.aside hkeeps rfl (fun names g hg => (hx names g hg).elim) rfl
  | partitions w =>
    rcases partitions_eq_some hstep with ⟨⟨names, rfl⟩, -⟩ | ⟨rfl, -⟩
    · -- The coroutines are in the order of the names.
      refine ⟨h.names, fun x hx => hkeeps.topicOf (h.consumers x hx),
        fun names' g hg x hx => ?_, h.tasks⟩
      simp only [Option.some.injEq, SubscribeCall.gather.injEq] at hg
      obtain ⟨rfl, rfl⟩ := hg
      exact zip_range'_topicOf hx
    · exact h.aside hkeeps rfl (by simp) rfl
  | child ref w env =>
    obtain ⟨p, -, rfl⟩ := Option.map_eq_some_iff.mp hstep
    obtain ⟨c, heq, -, hg⟩ := settle_eq { s with pool := p } ref
    rw [heq] at hkeeps ⊢
    exact h.aside hkeeps rfl hg rfl
  | gathered =>
    obtain ⟨names, g, hg, rfl | ⟨-, rfl⟩⟩ := gathered_eq_some hstep
    · exact h.aside hkeeps rfl (by simp) rfl
    · -- No loop has been started, as there was no consumer.
      have hnil : s.consumers = [] := hs.subscribing (by simp [hg])
      refine ⟨gathered_names_nodup (hd.gather names g hg), fun x hx => ?_, by simp, fun t ht => ?_⟩
      · rcases mem_foldl_setItem hx with hx | hx
        · cases hx
        · exact h.gather names g hg x hx
      · obtain ⟨x, hx, -⟩ := h.tasks t ht
        rw [hnil] at hx
        cases hx
  | receive =>
    cases hstep
    refine ⟨h.names, h.consumers, h.gather, fun t ht => ?_⟩
    -- A new loop is on an endpoint of the dict.
    rcases List.mem_append.mp ht with ht | ht
    · exact h.tasks t ht
    · obtain ⟨x, hx, rfl⟩ := List.mem_map.mp ht
      exact ⟨x, hx, rfl⟩
  | receiving task w env =>
    obtain ⟨t, sc, queue, ran, ht, -, -, -, rfl⟩ := receiving_eq_some.mp hstep
    exact h.aside hkeeps rfl hsame (tasks_set ht rfl)
  | get queue =>
    obtain ⟨queues, rfl⟩ := get_eq_some hstep
    exact h.aside hkeeps rfl hsame rfl
  | ack message env =>
    obtain ⟨acks, rfl | ⟨ref, sc, call, -, -, -, rfl⟩⟩ := onConsumer_eq_some hstep <;>
      exact h.aside hkeeps rfl hsame rfl
  | nack message delayMs reason env =>
    obtain ⟨acks, rfl | ⟨ref, sc, call, -, -, -, rfl⟩⟩ := onConsumer_eq_some hstep <;>
      exact h.aside hkeeps rfl hsame rfl
  | acked call w =>
    obtain ⟨acks, rfl⟩ := acked_eq_some hstep
    exact h.aside hkeeps rfl hsame rfl
  | health task w env =>
    obtain ⟨p, -, rfl⟩ := Option.map_eq_some_iff.mp hstep
    exact h.aside hkeeps rfl hsame rfl
  | close =>
    cases hstep
    refine h.aside hkeeps rfl hsame ?_
    simp only [close, List.map_map]
    refine List.map_congr_left fun t _ => ?_
    simp only [Function.comp, cancel]
    split <;> rfl

/-! ## The messages that the loops took -/

/-- The broker stamps a message that it streams for a partition with the name of that partition. -/
def Stamped (s : ConsumerState) (l : ConsumerLabel) : Prop :=
  ∀ x ∈ l.streamed?, ∀ topic ∈ s.tasks[x.1]?.bind fun t => s.pool.topicOf t.ref,
    x.2.msgId.topicName = topic

instance (s : ConsumerState) (l : ConsumerLabel) : Decidable (Stamped s l) :=
  inferInstanceAs (Decidable (∀ x ∈ _, ∀ topic ∈ _, _ = _))

/-- A receive loop of the consumer `r` took `m` from its stream. -/
def Received (s : ConsumerState) (m : StreamMessage) (r : Nat) : Prop :=
  ∃ (i : Nat) (t : ReceiveTask), s.tasks[i]? = some t ∧ t.ref = r ∧
    m ∈ taken (journalOf (.receive i) s.pool.trace)

theorem offStream_taken {log : List Event} (h : OffStream log) : taken log = [] := by
  refine List.filterMap_eq_nil_iff.mpr fun e he => ?_
  have hoff := h e he
  cases e <;> first | rfl | cases hoff

theorem woken_taken {env : Env} {a : LoopArgs} {sc : Scope ConsumerFields} {status : ReceiveStatus}
    {w : Wake} {r : Piece ConsumerFields Receiving Unit} (h : Woken env a sc status w r)
    {m : StreamMessage} (hm : m ∈ taken r.log) : w = .reply (.ok (.stream m)) := by
  have hend : taken (Receive.streamOver env a sc).log = [] :=
    offStream_taken (Receive.streamOver_aside env a sc).log
  cases h with
  | took call m' =>
    have hrest : taken (Receive.taken env a call m' sc).log = [] := by
      unfold Receive.taken
      split
      · rfl
      · split
        · exact hend
        · split <;> rfl
    have hfirst : taken [.took m'] = [m'] := rfl
    rw [Ran.after_log, taken_append, hrest, hfirst] at hm
    rw [List.mem_singleton.mp hm]
  | ended call =>
    rw [Ran.after_log, taken_append, hend] at hm
    cases hm
  | failed call err =>
    rw [Ran.after_log, taken_append, hend] at hm
    cases hm
  | room call m' => cases hm
  | aside status w r hreading hputting hr =>
    rw [offStream_taken hr.log] at hm
    cases hm

/-- What a loop took names the loop's partition. -/
def TopicsTaken (s : ConsumerState) : Prop :=
  ∀ m r, Received s m r → s.pool.topicOf r = some m.msgId.topicName

theorem step_topicsTaken {s s' : ConsumerState} {l : ConsumerLabel} (h : TopicsTaken s)
    (hs : Handed s) (hl : Stamped s l) (hstep : step s l = some s') : TopicsTaken s' := by
  rintro m r ⟨i, t, ht, rfl, hm⟩
  have hkeeps := step_keepsNames hstep
  cases step_receives hstep i with
  | idle l _ htask hlog =>
    rw [hlog] at hm
    rcases htask with heq | ⟨hnone, -⟩
    · exact hkeeps.topicOf (h m t.ref ⟨i, t, heq ▸ ht, rfl, hm⟩)
    · -- A loop that is not there has written nothing.
      obtain ⟨e, he, -⟩ := List.mem_filterMap.mp hm
      obtain ⟨x, hx, -⟩ := List.mem_map.mp he
      obtain ⟨hx, hactor⟩ := List.mem_filter.mp hx
      have hlt := hs.fed.loops x hx i (by simpa using hactor)
      rw [List.getElem?_eq_none_iff] at hnone
      omega
  | piece w env u hu sc hsc queue ran hran htask hlog =>
    rw [htask, Option.some.injEq] at ht
    subst ht
    rw [hlog, taken_append] at hm
    rcases List.mem_append.mp hm with hm | hm
    · exact hkeeps.topicOf (h m u.ref ⟨i, u, hu, rfl, hm⟩)
    · -- The message came in this piece, and the label says on which topic.
      obtain rfl := woken_taken (receivePiece_woken (hs.sound.stub hu hsc) hran) hm
      have htopic : s.pool.topicOf u.ref = some sc.self.topic :=
        Option.map_eq_some_iff.mpr ⟨sc.self, (Pool.scope_eq_some.mp hsc).1, rfl⟩
      rw [hl (i, m) rfl sc.self.topic (by rw [hu]; exact htopic)]
      exact hkeeps.topicOf htopic
  | close htask hlog =>
    rw [htask] at ht
    obtain ⟨u, hu, rfl⟩ := Option.map_eq_some_iff.mp ht
    rw [hlog] at hm
    rw [cancel_ref]
    exact hkeeps.topicOf (h m u.ref ⟨i, u, hu, rfl, hm⟩)

/-! ## The acknowledgement -/

/-- The one consumer that received `m` is the one that its topic leads to. -/
structure Found (s : ConsumerState) (m : StreamMessage) (r : Nat) : Prop where
  lookup : s.consumers.lookup m.msgId.topicName = some r
  received : Received s m r
  only : ∀ r', Received s m r' → r' = r
  connected : ∃ e, s.pool.endpoints[r]? = some e ∧ e.stub ≠ none

/-- The call issued `request` on the consumer `r`, and did nothing else. -/
def Issues (s : ConsumerState) (r : Nat) (request : Request) (s' : ConsumerState) : Prop :=
  ∃ call, call.request = request ∧
    s' = { s with pool := s.pool.write .app r [.rpc call], acks := s.acks ++ [.await call] }

theorem Sound.connected {s : ConsumerState} (hs : Sound s) {topic : String} {r : Nat}
    (hr : s.consumers.lookup topic = some r) :
    ∃ e, s.pool.endpoints[r]? = some e ∧ e.stub ≠ none := by
  obtain ⟨id, hid⟩ := hs.consumers _ (mem_of_lookup hr)
  have hlt := (List.getElem?_eq_some_iff.mp hid).1
  rw [hs.pool.length] at hlt
  have he := List.getElem?_eq_getElem hlt
  exact ⟨_, he, (hs.pool.ready r _ _ hid he).stubRet id rfl⟩

theorem onConsumer_issues {s : ConsumerState} (hs : Sound s) {topic : String} {r : Nat}
    (hr : s.consumers.lookup topic = some r) {env : Env} (htoken : TokenAvailable env s.pool.client)
    (text : String) (request : Request) :
    ∃ s', onConsumer s topic (TopicConsumer.onStub env text request) = some s' ∧
      Issues s r request s' := by
  obtain ⟨e, he, hstub⟩ := hs.connected hr
  obtain ⟨stub, hsome⟩ := Option.ne_none_iff_exists'.mp hstub
  obtain ⟨metadata, hmetadata⟩ := htoken
  have hsc : s.pool.scope r = some ⟨s.pool.client, s.pool.loops, r, e⟩ :=
    Pool.scope_eq_some.mpr ⟨he, rfl, rfl, rfl⟩
  let call : Call := ⟨stub, request, insertProxyHeader metadata e.brokerAddr e.proxy⟩
  have hcall : TopicConsumer.onStub env text request ⟨s.pool.client, s.pool.loops, r, e⟩ =
      .ok call := by
    simp only [TopicConsumer.onStub, hsome, hmetadata, call]
  refine ⟨_, ?_, call, rfl, rfl⟩
  simp only [onConsumer, hr, hsc, Option.map_some, hcall]

theorem step_received {s s' : ConsumerState} {l : ConsumerLabel} {m : StreamMessage} {r : Nat}
    (h : Received s m r) (hstep : step s l = some s') : Received s' m r := by
  obtain ⟨i, t, ht, rfl, hm⟩ := h
  cases step_receives hstep i with
  | idle l _ htask hlog =>
    rcases htask with heq | ⟨hnone, -⟩
    · exact ⟨i, t, heq.trans ht, rfl, hlog ▸ hm⟩
    · rw [ht] at hnone
      cases hnone
  | piece w env u hu sc hsc queue ran hran htask hlog =>
    obtain rfl : t = u := Option.some.inj (ht.symm.trans hu)
    refine ⟨i, _, htask, rfl, ?_⟩
    rw [hlog, taken_append]
    exact List.mem_append_left _ hm
  | close htask hlog => exact ⟨i, cancel t, by rw [htask, ht]; rfl, cancel_ref t, hlog ▸ hm⟩

/-- What holds of a run in which the broker stamps its messages. -/
structure Traced (s : ConsumerState) : Prop where
  handed : Handed s
  routed : Routed s
  topics : TopicsTaken s

theorem exec_traced {client : Client} {config : ConsumerConfig} {ls : List ConsumerLabel}
    {s : ConsumerState} (hstamped : Steps step Stamped (init client config) ls)
    (h : exec step (init client config) ls = some s) : Traced s := by
  refine exec_invariant_of_steps (P := Traced) (fun s l s' hs hl hstep => ?_) ?_ hstamped h
  · exact ⟨step_handed hs.handed hstep,
      step_routed hs.routed hs.handed.sound hs.handed.distinct hstep,
      step_topicsTaken hs.topics hs.handed hl hstep⟩
  · refine ⟨handed_init client config, routed_init client config, ?_⟩
    rintro m r ⟨i, t, ht, -⟩
    simp [init] at ht

theorem Traced.found {s : ConsumerState} (h : Traced s) {m : StreamMessage} {r : Nat}
    (hm : Received s m r) : Found s m r := by
  have hlookup : ∀ r', Received s m r' → s.consumers.lookup m.msgId.topicName = some r' := by
    rintro r' ⟨i, t, ht, rfl, hmem⟩
    obtain ⟨⟨name, ref⟩, hx, href⟩ := h.routed.tasks t (List.mem_of_getElem? ht)
    have htopic := h.topics m t.ref ⟨i, t, ht, rfl, hmem⟩
    rw [← href, h.routed.consumers _ hx, Option.some.injEq] at htopic
    rw [← htopic, ← href]
    exact lookup_of_mem h.routed.names hx
  refine ⟨hlookup r hm, hm, fun r' hr' => ?_, h.handed.sound.connected (hlookup r hm)⟩
  exact Option.some.inj ((hlookup r' hr').symm.trans (hlookup r hm))

/-- The application took `m` from a queue in the run. -/
def Gets (s : ConsumerState) (ls : List ConsumerLabel) (m : StreamMessage) : Prop :=
  ∃ pre q post t rest, ls = pre ++ .get q :: post ∧ exec step s pre = some t ∧
    t.queues[q]? = some (m :: rest)

theorem received_of_gets {client : Client} {config : ConsumerConfig} {ls : List ConsumerLabel}
    {s : ConsumerState} (h : exec step (init client config) ls = some s) {m : StreamMessage}
    (hgets : Gets (init client config) ls m) : ∃ r, Received s m r := by
  obtain ⟨pre, q, post, t, rest, rfl, hpre, hq⟩ := hgets
  obtain ⟨i, u, hu, -, hm⟩ := (exec_handed hpre).fansIn.read q (m :: rest) hq m List.mem_cons_self
  obtain ⟨t', ht', hpost⟩ := exec_append.mp h
  obtain rfl : t = t' := Option.some.inj (hpre.symm.trans ht')
  exact ⟨u.ref, exec_invariant (P := fun s => Received s m u.ref)
    (fun _ _ _ hs hstep => step_received hs hstep) ⟨i, u, hu, rfl, hm⟩ hpost⟩

/-- The `Ack` and the `Nack` of `m` at this point of the run, each one RPC of the consumer that
received it. -/
structure Acknowledged (s : ConsumerState) (m : StreamMessage) (subscription : String) (r : Nat) :
    Prop where
  found : Found s m r
  ack : ∀ env, TokenAvailable env s.pool.client → ∃ s', step s (.ack m env) = some s' ∧
    Issues s r (.ack { requestId := m.requestId, msgId := m.msgId, subscriptionName := subscription }) s'
  nack : ∀ delayMs reason env, TokenAvailable env s.pool.client →
    ∃ s', step s (.nack m delayMs reason env) = some s' ∧
      Issues s r (.nack {
        requestId := m.requestId
        msgId := m.msgId
        subscriptionName := subscription
        delayMs := delayMs
        reason := reason }) s'

/-- Whatever happened to its partition since, a message that the application took from a queue is
acknowledged on the consumer that received it. -/
theorem acks_issued {client : Client} {config : ConsumerConfig} {ls : List ConsumerLabel}
    {s : ConsumerState} (h : exec step (init client config) ls = some s)
    (hstamped : Steps step Stamped (init client config) ls) {m : StreamMessage}
    (hgets : Gets (init client config) ls m) : ∃ r, Acknowledged s m config.subscription r := by
  obtain ⟨r, hr⟩ := received_of_gets h hgets
  have hs := exec_traced hstamped h
  have hfound := hs.found hr
  have hconfig : s.config = config :=
    exec_invariant (P := fun s => s.config = config)
      (fun _ _ _ ht hstep => (step_config hstep).trans ht) rfl h
  refine ⟨r, hfound, fun env htoken => ?_, fun delayMs reason env htoken => ?_⟩
  · rw [← hconfig]
    exact onConsumer_issues hs.handed.sound hfound.lookup htoken _ _
  · rw [← hconfig]
    exact onConsumer_issues hs.handed.sound hfound.lookup htoken _ _

/-- The application has a message of the second partition when the broker refuses its next stream
and the first partition is lost. -/
def getThenLosePartitions : List ConsumerLabel :=
  [.subscribe {}, .partitions (.answer (.topicPartitions ["t-part-0", "t"])),
    .child 0 .start {}, .child 0 (.answer (.address "a")) {}, .child 0 (.answer (.registered 1)) {},
    .child 1 .start {}, .child 1 (.answer (.address "a")) {}, .child 1 (.answer (.registered 2)) {},
    .gathered, .receive, .receiving 0 .start {}, .receiving 1 .start {},
    .receiving 1 (.answer (.stream message)) {}, .get 0, .receiving 1 (.fail .unavailable) {},
    .health 0 .start {}, .health 0 (.answer (.health .close)) {},
    .receiving 0 (.fail .unavailable) {}, .receiving 0 (.answer (.address "b")) {},
    .receiving 0 (.fail .alreadyExists) {}]

theorem lost_partitions_acknowledged :
    ∃ s, exec step (init (.init "a" {}) .oneRetry) getThenLosePartitions = some s ∧
      ∃ r, Acknowledged s message ConsumerConfig.oneRetry.subscription r := by
  obtain ⟨s, hs⟩ := Option.isSome_iff_exists.mp
    (by rfl : (exec step (init (.init "a" {}) .oneRetry) getThenLosePartitions).isSome)
  have hgets : Gets (init (.init "a" {}) .oneRetry) getThenLosePartitions message :=
    ⟨getThenLosePartitions.take 13, 0, getThenLosePartitions.drop 14, _, _, rfl, rfl, rfl⟩
  exact ⟨s, hs, acks_issued hs (by decide) hgets⟩

end Consumer

end Danube
