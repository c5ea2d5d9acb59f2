import Danube.Actions
import Danube.Partitions
import Danube.ConsumerJournal

/-!
# What a step does with a pool

A step of a producer or of a consumer is a sequence of moves: the actions of one coroutine, a turn of a
health task, `stop()`, an acknowledgement. Each is written down with the RPCs that it issues.
-/

namespace Danube

open Async

def Event.call? : Event → Option Call
  | .rpc call => some call
  | _ => none

/-- The RPCs among the events. -/
def callsOf (log : List Event) : List Call := log.filterMap Event.call?

@[simp] theorem callsOf_nil : callsOf [] = [] := rfl

@[simp] theorem callsOf_append (a b : List Event) : callsOf (a ++ b) = callsOf a ++ callsOf b :=
  List.filterMap_append

namespace Pool

variable {ρ : Type}

/-- The pool with what `s` says of the client, the loops and the endpoint. -/
def put (p : Pool ρ) (s : Scope ρ) : Pool ρ :=
  { p with client := s.client, endpoints := p.endpoints.set s.ref s.self, loops := s.loops }

theorem commit_eq {κ α : Type} (p : Pool ρ) (actor : Actor) (ran : Piece ρ κ α) :
    p.commit actor ran = (p.put ran.state).write actor ran.state.ref ran.log := rfl

/-- The RPCs that were issued since `p`. -/
def newCalls (p q : Pool ρ) : List Call :=
  callsOf ((q.trace.drop p.trace.length).map Entry.event)

theorem newCalls_write {p q : Pool ρ} {actor : Actor} {ref : Nat} {log : List Event}
    (h : q.trace = p.trace ++ log.map fun e => ⟨actor, ref, e⟩) : newCalls p q = callsOf log := by
  unfold newCalls
  rw [h, List.drop_left, List.map_map]
  exact congrArg callsOf (List.map_id' log)

theorem newCalls_same {p q : Pool ρ} (h : q.trace = p.trace) : newCalls p q = [] := by
  simp [newCalls, h]

/-- One move, on endpoints that are born as `born` says and whose acknowledgements are as `acks` says,
and the RPCs that it issues. -/
inductive Move (role : Role ρ) (born : String → Endpoint ρ → Prop) (acks : Request → Prop) (env : Env) :
    Pool ρ → List Call → Pool ρ → Prop
  /-- Coroutines are scheduled or move on. -/
  | children (p : Pool ρ) (cs : List Child) : Move role born acks env p [] { p with children := cs }
  | alloc (p : Pool ρ) (es : List (Endpoint ρ)) (h : ∀ e ∈ es, born p.client.uri e) :
    Move role born acks env p [] (p.alloc es)
  | act (p : Pool ρ) (s s' : Scope ρ) (actor : Actor) (log : List Event)
    (hs : p.scope s.ref = some s) (h : Endpoint.Act role env s log s') :
    Move role born acks env p (callsOf log) ((p.put s').write actor s.ref log)
  /-- A health task finds its stop event set. -/
  | leave (p : Pool ρ) (task : Nat) (l : HealthLoop) (e : Endpoint ρ) (hl : p.loops[task]? = some l)
    (he : p.endpoints[l.owner]? = some e) (hstop : e.stopEvent = true) :
    Move role born acks env p [] (p.checked task l p.client (.finished .stopped) [] false)
  | poll (p : Pool ρ) (task : Nat) (l : HealthLoop) (e : Endpoint ρ) (metadata : Option Metadata)
    (hl : p.loops[task]? = some l) (he : p.endpoints[l.owner]? = some e) (hstop : e.stopEvent = false)
    (hmetadata : p.client.attachTokenIfNeeded env.call = .ok metadata) (call : Call)
    (hcall : call = ⟨l.conn, .healthCheck p.client.healthRequestId l.clientType l.clientId,
      insertProxyHeader metadata l.brokerAddr l.proxy⟩) :
    Move role born acks env p [call]
      (p.checked task l { p.client with healthRequestId := p.client.healthRequestId + 1 }
        (.polling call) [.rpc call] false)
  /-- A health task gets no token. -/
  | refuse (p : Pool ρ) (task : Nat) (l : HealthLoop) (e : Endpoint ρ) (hl : p.loops[task]? = some l)
    (he : p.endpoints[l.owner]? = some e) (hstop : e.stopEvent = false) :
    Move role born acks env p []
      (p.checked task l { p.client with healthRequestId := p.client.healthRequestId + 1 }
        (.finished .refused) [] false)
  | close (p : Pool ρ) (task : Nat) (l : HealthLoop) (e : Endpoint ρ) (call : Call)
    (hl : p.loops[task]? = some l) (hpolling : l.position = .polling call)
    (he : p.endpoints[l.owner]? = some e) :
    Move role born acks env p []
      (p.checked task l p.client (.finished .closed) [.closed l.clientId] true)
  /-- A health check is answered otherwise, or fails. -/
  | answer (p : Pool ρ) (task : Nat) (l : HealthLoop) (call : Call) (position : HealthAt)
    (hl : p.loops[task]? = some l) (hpolling : l.position = .polling call)
    (hposition : position = .sleeping ∨ position = .finished .failed) :
    Move role born acks env p [] (p.checked task l p.client position [] false)
  | stop (p : Pool ρ) (ref : Nat) : Move role born acks env p [] (p.stop ref)
  | ack (p : Pool ρ) (s : Scope ρ) (conn : RpcConnection) (metadata : Option Metadata)
    (request : Request) (hs : p.scope s.ref = some s) (hstub : s.self.stub = some conn)
    (hmetadata : p.client.attachTokenIfNeeded env.call = .ok metadata) (hrequest : request.isAck)
    (hacks : acks request) (hrole : role.clientType = .consumer) (call : Call)
    (hcall : call = ⟨conn, request, insertProxyHeader metadata s.self.brokerAddr s.self.proxy⟩) :
    Move role born acks env p [call] (p.write .app s.ref [.rpc call])
  /-- `subscribe()` asks for the partitions of its topic. -/
  | partitions (p : Pool ρ) (c : Client) (conn : RpcConnection) (metadata : Option Metadata)
    (topic : String) (h : p.client.prepare env.call p.client.uri = (c, .ok (conn, metadata))) :
    Move role born acks env p [⟨conn, .topicPartitions c.lookupRequestId topic, metadata⟩]
      { p with client := { c with lookupRequestId := c.lookupRequestId + 1 } }
  | unprepared (p : Pool ρ) (c : Client) (err : Error)
    (h : p.client.prepare env.call p.client.uri = (c, .error err)) :
    Move role born acks env p [] { p with client := c }

variable {role : Role ρ} {born : String → Endpoint ρ → Prop} {acks : Request → Prop} {env : Env}

abbrev Moves (role : Role ρ) (born : String → Endpoint ρ → Prop) (acks : Request → Prop) (env : Env)
    (p : Pool ρ) (calls : List Call) (q : Pool ρ) : Prop := Acts (Move role born acks env) p calls q

theorem moves_refl (p : Pool ρ) : Moves role born acks env p (newCalls p p) p := by
  rw [newCalls_same rfl]
  exact .nil p

theorem alloc_moves (p : Pool ρ) {es : List (Endpoint ρ)} (h : ∀ e ∈ es, born p.client.uri e) :
    Moves role born acks env p (newCalls p (p.alloc es)) (p.alloc es) := by
  rw [newCalls_same (show (p.alloc es).trace = p.trace from rfl)]
  exact .single (.alloc p es h)

theorem act_ref {s s' : Scope ρ} {log : List Event} (h : Endpoint.Act role env s log s') :
    s'.ref = s.ref := by
  cases h <;> rfl

theorem scope_put {p : Pool ρ} {s s' : Scope ρ} (hs : p.scope s.ref = some s) (href : s'.ref = s.ref)
    (actor : Actor) (log : List Event) : ((p.put s').write actor s.ref log).scope s'.ref = some s' := by
  obtain ⟨hself, -, -, -⟩ := scope_eq_some.mp hs
  refine scope_eq_some.mpr ⟨?_, rfl, rfl, rfl⟩
  unfold put write
  dsimp only
  rw [href]
  exact List.getElem?_set_self (List.getElem?_eq_some_iff.mp hself).1

theorem put_self {p : Pool ρ} {s : Scope ρ} (hs : p.scope s.ref = some s) : p.put s = p := by
  obtain ⟨hself, hclient, hloops, -⟩ := scope_eq_some.mp hs
  obtain ⟨hlt, hget⟩ := List.getElem?_eq_some_iff.mp hself
  unfold put
  rw [hclient, hloops, ← hget, List.set_getElem_self]

theorem put_put (p : Pool ρ) {s t : Scope ρ} (h : t.ref = s.ref) (actor : Actor) (ref : Nat)
    (a b : List Event) : (((p.put s).write actor ref a).put t).write actor ref b =
      (p.put t).write actor ref (a ++ b) := by
  simp [put, write, h]

theorem acts_moves {s s' : Scope ρ} {log : List Event} (h : Acts (Endpoint.Act role env) s log s')
    (p : Pool ρ) (hs : p.scope s.ref = some s) (actor : Actor) :
    Moves role born acks env p (callsOf log) ((p.put s').write actor s.ref log) ∧ s'.ref = s.ref := by
  induction h generalizing p with
  | nil s =>
    rw [put_self hs]
    have hnil : Moves role born acks env p [] p := .nil p
    simpa [write] using hnil
  | @cons s t u a b hact _ ih =>
    have href := act_ref hact
    have hmove : Move role born acks env p _ _ := .act p s t actor a hs hact
    obtain ⟨hmoves, hu⟩ := ih _ (scope_put hs href actor a)
    rw [callsOf_append, ← put_put p (hu.trans rfl) actor s.ref a b]
    rw [href] at hmoves hu
    exact ⟨.cons hmove hmoves, hu⟩

theorem commit_moves {κ α : Type} {p : Pool ρ} {ref : Nat} {s : Scope ρ} {ran : Piece ρ κ α}
    (hs : p.scope ref = some s) (h : Endpoint.Does role env s ran) (actor : Actor) :
    Moves role born acks env p (newCalls p (p.commit actor ran)) (p.commit actor ran) := by
  obtain rfl : s.ref = ref := (scope_eq_some.mp hs).2.2.2
  obtain ⟨hmoves, href⟩ := @acts_moves ρ role born acks env _ _ _ h p hs actor
  have hcalls : newCalls p (p.commit actor ran) = callsOf ran.log := newCalls_write rfl
  rw [hcalls, commit_eq, href]
  exact hmoves

theorem childPiece_does {s : Scope ρ} {c : Child} {w : Wake} {r : Piece ρ Registering Nat}
    (h : childPiece role env s c w = some r) : Endpoint.Does role env s r := by
  unfold childPiece at h
  split at h
  · cases h
    exact Endpoint.create_does role s
  · exact Endpoint.resume_does role h
  · cases h

theorem child_moves {p q : Pool ρ} {ref : Nat} {w : Wake} (h : p.child role ref w env = some q) :
    Moves role born acks env p (newCalls p q) q := by
  obtain ⟨c, s, ran, -, hs, hran, rfl⟩ := child_eq_some.mp h
  have hcommit : Moves role born acks env p _ _ := commit_moves hs (childPiece_does hran) (.child ref)
  have hchildren : Moves role born acks env (p.commit (.child ref) ran) [] _ :=
    .single (.children _ (p.children.set ref (.started ran.next)))
  have hboth := hcommit.trans hchildren
  rwa [List.append_nil] at hboth

theorem turn_moves (p : Pool ρ) {task : Nat} {l : HealthLoop} {e : Endpoint ρ}
    (hl : p.loops[task]? = some l) (he : p.endpoints[l.owner]? = some e) :
    Moves role born acks env p (newCalls p (p.healthTurn task l e.stopEvent env))
      (p.healthTurn task l e.stopEvent env) := by
  unfold healthTurn HealthLoop.turn
  cases hstop : e.stopEvent with
  | true =>
    have hmove : Moves role born acks env p _ _ := .single (.leave p task l e hl he hstop)
    simpa [newCalls, checked, setLoop, write] using hmove
  | false =>
    have hclient : ∀ out, Client.attachTokenIfNeeded
      { p.client with healthRequestId := p.client.healthRequestId + 1 } out =
        p.client.attachTokenIfNeeded out := fun _ => rfl
    dsimp only
    rw [if_neg Bool.false_ne_true, hclient]
    cases hmetadata : p.client.attachTokenIfNeeded env.call with
    | error err =>
      have hmove : Moves role born acks env p _ _ := .single (.refuse p task l e hl he hstop)
      simpa [newCalls, checked, setLoop, write] using hmove
    | ok metadata =>
      have hmove : Moves role born acks env p _ _ :=
        .single (.poll p task l e metadata hl he hstop hmetadata _ rfl)
      simpa [newCalls, checked, setLoop, write, callsOf, Event.call?] using hmove

theorem health_moves {p q : Pool ρ} {task : Nat} {w : Wake} (h : p.health task w env = some q) :
    Moves role born acks env p (newCalls p q) q := by
  simp only [health, Option.bind_eq_bind, Option.bind_eq_some_iff] at h
  obtain ⟨l, hl, e, he, h⟩ := h
  split at h
  · cases h
    exact turn_moves p hl he
  · cases h
    exact turn_moves p hl he
  · rename_i call hpolling
    cases h
    have hmove : Moves role born acks env p _ _ := .single (.close p task l e call hl hpolling he)
    have hcalls : newCalls p (p.checked task l p.client (.finished .closed) [.closed l.clientId] true) =
        callsOf [.closed l.clientId] := newCalls_write rfl
    exact (hcalls.trans rfl) ▸ hmove
  · rename_i call _ _ hpolling
    cases h
    have hmove : Moves role born acks env p _ _ :=
      .single (.answer p task l call .sleeping hl hpolling (Or.inl rfl))
    simpa [newCalls, checked, setLoop] using hmove
  · rename_i call _ hpolling
    cases h
    have hmove : Moves role born acks env p _ _ :=
      .single (.answer p task l call (.finished .failed) hl hpolling (Or.inr rfl))
    simpa [newCalls, checked, setLoop] using hmove
  · cases h

theorem foldl_stop_newCalls (refs : List Nat) (p : Pool ρ) : newCalls p (refs.foldl Pool.stop p) = [] := by
  obtain ⟨log, htrace, hlog⟩ := foldl_stop_writes refs p
  unfold newCalls callsOf
  rw [htrace, List.drop_left, List.filterMap_map]
  refine List.filterMap_eq_nil_iff.mpr fun x hx => ?_
  simp [(hlog x hx).1, Event.call?]

theorem foldl_stop_moves (refs : List Nat) (p : Pool ρ) :
    Moves role born acks env p (newCalls p (refs.foldl Pool.stop p)) (refs.foldl Pool.stop p) := by
  rw [foldl_stop_newCalls]
  induction refs generalizing p with
  | nil => exact .nil p
  | cons r rs ih => exact (Acts.single (.stop p r)).trans (ih (p.stop r))

end Pool

/-! ## The steps of a producer -/

/-- What the world outside does during the step. -/
def ProducerLabel.env : ProducerLabel → Env
  | .create env | .child _ _ env | .send _ _ _ env | .sending _ _ env | .health _ _ env => env
  | .gathered | .close => {}

namespace Producer

/-- A `TopicProducer` as `create()` builds it for one partition. -/
def Born (config : ProducerConfig) (uri : String) (e : TopicProducer) : Prop :=
  ∃ i, i < max config.partitions 1 ∧
    e = .init uri (topicOf config i) (nameOf config i) config.schemaRef config.dispatchStrategy
      config.options.maxRetries config.options.baseBackoffMs config.options.maxBackoffMs

theorem topicProducer_born {s : ProducerState} (h : s.config.partitions = 0) :
    Born s.config s.pool.client.uri (topicProducer s s.config.topicName s.config.producerName) :=
  ⟨0, by omega, by simp [topicOf, nameOf, h, topicProducer]⟩

theorem partitionProducers_born {s : ProducerState} (h : 0 < s.config.partitions) :
    ∀ e ∈ partitionProducers s, Born s.config s.pool.client.uri e := by
  intro e he
  obtain ⟨i, hi, rfl⟩ := List.mem_map.mp he
  have hlt := List.mem_range.mp hi
  have hne : s.config.partitions ≠ 0 := by omega
  exact ⟨i, by omega, by simp [topicOf, nameOf, hne, topicProducer, partitionTopic, partitionName]⟩

theorem pool_moves {s s' : ProducerState} {l : ProducerLabel} (hstep : step s l = some s') :
    Pool.Moves producerRole (Born s.config) (fun _ => False) l.env s.pool (s.pool.newCalls s'.pool) s'.pool := by
  cases l with
  | create env =>
    obtain ⟨-, -, ⟨hzero, p, hp, rfl⟩ | ⟨hpos, rfl⟩⟩ := create_eq_some hstep
    · rw [settle_pool]
      have hborn : ∀ e ∈ [topicProducer s s.config.topicName s.config.producerName],
          Born s.config s.pool.client.uri e := by
        simpa using topicProducer_born hzero
      have halloc : Pool.Moves producerRole _ (fun _ => False) env s.pool [] _ := .single (.alloc s.pool _ hborn)
      exact halloc.trans (Pool.child_moves hp)
    · exact Pool.alloc_moves s.pool (partitionProducers_born hpos)
  | child ref w env =>
    obtain ⟨p, hp, rfl⟩ := Option.map_eq_some_iff.mp hstep
    rw [settle_pool]
    exact Pool.child_moves hp
  | gathered =>
    obtain ⟨g, -, ⟨-, rfl⟩ | ⟨-, -, rfl⟩⟩ := gathered_eq_some hstep <;>
      exact Pool.moves_refl s.pool
  | send data attributes routingKey env =>
    obtain ⟨-, p, r, t, -, -, ⟨-, rfl⟩ | ⟨ref, sc, -, hsc, rfl⟩⟩ := send_eq_some hstep
    · exact Pool.moves_refl s.pool
    · exact Pool.commit_moves hsc (SendCall.attempt_does t.call 0 sc) _
  | sending task w env =>
    obtain ⟨t, ref, sc, k, ran, -, -, hsc, -, hran, rfl⟩ := sending_eq_some.mp hstep
    exact Pool.commit_moves hsc (SendCall.resume_does hran) _
  | health task w env =>
    obtain ⟨p, hp, rfl⟩ := Option.map_eq_some_iff.mp hstep
    exact Pool.health_moves hp
  | close =>
    cases hstep
    exact Pool.foldl_stop_moves s.producers s.pool

end Producer

/-! ## The steps of a consumer -/

/-- What the world outside does during the step. -/
def ConsumerLabel.env : ConsumerLabel → Env
  | .subscribe env | .child _ _ env | .receiving _ _ env | .ack _ env | .nack _ _ _ env
  | .health _ _ env => env
  | .partitions _ | .gathered | .receive | .get _ | .acked .. | .close => {}

namespace Consumer

/-- A `TopicConsumer` as `subscribe()` builds it for one partition. -/
def Born (config : ConsumerConfig) (uri : String) (e : TopicConsumer) : Prop :=
  ∃ partition, e = .init uri partition config.consumerName config.subscription
    config.subscriptionType (some config.keyFilters) config.options.maxRetries
    config.options.baseBackoffMs config.options.maxBackoffMs

/-- An `Ack` or `Nack` names the subscription. -/
def Acks (config : ConsumerConfig) : Request → Prop
  | .ack r => r.subscriptionName = config.subscription
  | .nack r => r.subscriptionName = config.subscription
  | _ => False

theorem topicConsumers_born (s : ConsumerState) (names : List String) :
    ∀ e ∈ names.map (topicConsumer s), Born s.config s.pool.client.uri e := by
  intro e he
  obtain ⟨name, -, rfl⟩ := List.mem_map.mp he
  exact ⟨name, rfl⟩

/-- The RPCs that a step issues. The one that asks for the partitions is about no endpoint, and stands
in no journal. -/
def issued (s s' : ConsumerState) : ConsumerLabel → List Call
  | .subscribe _ =>
    match s'.subscribing with
    | some (.partitions call) => [call]
    | _ => []
  | _ => s.pool.newCalls s'.pool

theorem subscribe_moves {s s' : ConsumerState} {env : Env} (h : subscribe s env = some s') :
    Pool.Moves consumerRole (Born s.config) (Acks s.config) env s.pool (issued s s' (.subscribe env)) s'.pool := by
  unfold subscribe Client.topicPartitions at h
  split at h
  · rename_i hfree
    cases hprepare : s.pool.client.prepare env.call s.pool.client.uri with
    | mk c x =>
      rw [hprepare] at h
      cases x with
      | error err =>
        cases h
        simp only [issued, hfree.1]
        exact .single (.unprepared s.pool c err hprepare)
      | ok x =>
        cases h
        exact .single (.partitions s.pool c x.1 x.2 s.config.topicName hprepare)
  · cases h

theorem receivePiece_does {env : Env} {a : LoopArgs} {sc : Scope ConsumerFields}
    {status : ReceiveStatus} {w : Wake} {r : Piece ConsumerFields Receiving Unit}
    (h : receivePiece env a sc status w = some r) : Endpoint.Does consumerRole env sc r := by
  unfold receivePiece at h
  split at h
  · cases h
    exact Receive.turn_does a 0 sc
  · exact Receive.resume_does h
  · cases h

theorem onConsumer_moves {s s' : ConsumerState} {topic text : String} {request : Request} {env : Env}
    (h : onConsumer s topic (TopicConsumer.onStub env text request) = some s')
    (hrequest : request.isAck) (hacks : Acks s.config request) :
    Pool.Moves consumerRole (Born s.config) (Acks s.config) env s.pool (s.pool.newCalls s'.pool) s'.pool := by
  obtain ⟨acks, rfl | ⟨ref, sc, call, -, hsc, hcall, rfl⟩⟩ := onConsumer_eq_some h
  · exact Pool.moves_refl s.pool
  · obtain ⟨-, hclient, -, rfl⟩ := Pool.scope_eq_some.mp hsc
    have hcalls : s.pool.newCalls (s.pool.write .app sc.ref [.rpc call]) = callsOf [.rpc call] :=
      Pool.newCalls_write rfl
    rw [hcalls]
    unfold TopicConsumer.onStub at hcall
    split at hcall
    · cases hcall
    · rename_i conn hstub
      split at hcall
      · cases hcall
      · rename_i metadata hmetadata
        cases hcall
        exact .single (.ack s.pool sc conn metadata request hsc hstub (hclient ▸ hmetadata) hrequest
          hacks rfl _ rfl)

theorem pool_moves {s s' : ConsumerState} {l : ConsumerLabel} (hstep : step s l = some s') :
    Pool.Moves consumerRole (Born s.config) (Acks s.config) l.env s.pool (issued s s' l) s'.pool := by
  cases l with
  | subscribe env => exact subscribe_moves hstep
  | partitions w =>
    rcases partitions_eq_some hstep with ⟨⟨names, rfl⟩, -⟩ | ⟨rfl, -⟩
    · exact Pool.alloc_moves s.pool (topicConsumers_born s names)
    · exact Pool.moves_refl s.pool
  | child ref w env =>
    obtain ⟨p, hp, rfl⟩ := Option.map_eq_some_iff.mp hstep
    obtain ⟨c, heq, -⟩ := settle_eq { s with pool := p } ref
    rw [heq]
    exact Pool.child_moves hp
  | gathered =>
    obtain ⟨names, g, -, rfl | ⟨-, rfl⟩⟩ := gathered_eq_some hstep <;>
      exact Pool.moves_refl s.pool
  | receive =>
    cases hstep
    exact Pool.moves_refl s.pool
  | receiving task w env =>
    obtain ⟨t, sc, queue, ran, -, hsc, -, hran, rfl⟩ := receiving_eq_some.mp hstep
    exact Pool.commit_moves hsc (receivePiece_does hran) _
  | get queue =>
    obtain ⟨queues, rfl⟩ := get_eq_some hstep
    exact Pool.moves_refl s.pool
  | ack message env => exact onConsumer_moves hstep rfl rfl
  | nack message delayMs reason env => exact onConsumer_moves hstep rfl rfl
  | acked call w =>
    obtain ⟨acks, rfl⟩ := acked_eq_some hstep
    exact Pool.moves_refl s.pool
  | health task w env =>
    obtain ⟨p, hp, rfl⟩ := Option.map_eq_some_iff.mp hstep
    exact Pool.health_moves hp
  | close =>
    cases hstep
    exact Pool.foldl_stop_moves _ s.pool

end Consumer

end Danube
