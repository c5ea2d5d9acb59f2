import Danube.AlikePools
import Danube.PoolMoves

/-!
# Producers on clients that are alike

A producer takes the same steps on both clients, with the same outcome of every send.
-/

namespace Danube

open Async

inductive Sending.Alike (w : Channels) : Sending → Sending → Prop
  | message (n : Nat) {x y : Call} (h : x.Alike w y) : Alike w (.message n x) (.message n y)
  | backoff (n : Nat) : Alike w (.backoff n) (.backoff n)
  | lookup (err : Error) {x y : Call} (h : x.Alike w y) : Alike w (.lookup err x) (.lookup err y)
  | create {k l : Registering} (h : k.Alike w l) : Alike w (.create k) (.create l)

theorem Sending.Alike.later {w v : Channels} (hv : w ≤ v) {k l : Sending} (h : k.Alike w l) :
    k.Alike v l := by
  cases h with
  | message n h => exact .message n (h.later hv)
  | backoff n => exact .backoff n
  | lookup err h => exact .lookup err (h.later hv)
  | create h => exact .create (h.later hv)

structure SendTask.Alike (w : Channels) (x y : SendTask) : Prop where
  partition : y.partition = x.partition
  call : y.call = x.call
  status : Outcome.Alike (Sending.Alike w) x.status y.status

theorem SendTask.Alike.later {w v : Channels} (hv : w ≤ v) {x y : SendTask} (h : x.Alike w y) :
    x.Alike v y := ⟨h.partition, h.call, h.status.imp fun _ _ hk => hk.later hv⟩

structure ProducerState.Alike (broken : String → Option String) (w : Channels) (p q : ProducerState) :
    Prop where
  pool : Pool.Alike broken w p.pool q.pool
  sends : List.Forall₂ (SendTask.Alike w) p.sends q.sends
  rest : q = { p with pool := q.pool, sends := q.sends }

theorem producerRole_hides : producerRole.Hides := fun _ _ => rfl

variable {broken : String → Option String} {w v : Channels} {env : Env}

/-! ## One send -/

section Send

variable {s t : Scope ProducerFields}

variable (env) in
theorem TopicProducer.send_alike (h : Scope.Alike broken w s t) (data : List UInt8)
    (attributes : Option (List (String × String))) (routingKey : Option String) :
    Scope.Answers broken w (send env data attributes routingKey s)
      (send env data attributes routingKey t) := by
  have hcounted := h.update (g := fun e => { e with requestId := e.requestId + 1 }) fun _ _ => rfl
  obtain ⟨stub, hself, hstub⟩ := h.self.exists_stub
  obtain ⟨d, loops, ref, f⟩ := t
  obtain rfl : f = { s.self with stub := stub } := hself
  unfold send
  dsimp only
  split
  · rename_i hnone
    rw [hnone] at hstub
    cases hstub
    exact .error h _
  · rename_i x hx
    rw [hx] at hstub
    cases hstub with
    | some hxy =>
      have hattach := h.client.attachToken env.call
      dsimp only at hattach ⊢
      rw [hattach]
      split
      · exact .error hcounted _
      · exact .ok hcounted ⟨hxy, rfl, rfl⟩

namespace SendCall

/-- The pieces of a send on alike clients. -/
abbrev InStep (broken : String → Option String) (w : Channels)
    (r q : Piece ProducerFields Sending Nat) : Prop :=
  Ran.Coupled (scopes ProducerFields broken) Sending.Alike w r q

theorem raise_alike (err : Error) (h : Scope.Alike broken w s t) :
    InStep broken w (raise err s) (raise err t) := Ran.coupled h .nil (.raise err)

variable (henv : env.Reaches broken)
include henv

theorem recreateProducer_alike (h : Scope.Alike broken w s t) :
    InStep broken w (recreateProducer env s) (recreateProducer env t) :=
  Ran.Coupled.andThen (Endpoint.create_alike henv producerRole_hides h) (fun _ _ _ hk => .create hk)
    (fun _ _ _ a => a.elim) fun _ _ _ err _ hst => raise_alike err hst

theorem lookupAndRecreate_alike (err : Error) (h : Scope.Alike broken w s t) :
    InStep broken w (lookupAndRecreate env err s) (lookupAndRecreate env err t) := by
  have hlookup := h.lookup henv.lookup
  unfold lookupAndRecreate
  generalize s.client.lookupTopic _ _ _ = r at hlookup ⊢
  generalize t.client.lookupTopic _ _ _ = q at hlookup ⊢
  cases hlookup with
  | ok hv hc hcall =>
    exact .later hv (Ran.coupled (h.go hv hc) (Endpoint.rpc_log hcall) (.await (.lookup err hcall)))
  | error hv hc _ => exact .later hv (raise_alike err (h.go hv hc))

theorem caught_alike (call : SendCall) (n : Nat) (err : Error) (h : Scope.Alike broken w s t) :
    InStep broken w (caught env call n err s) (caught env call n err t) := by
  unfold caught
  split
  · exact recreateProducer_alike henv h
  · split
    · split
      · exact lookupAndRecreate_alike henv err h
      · exact Ran.coupled h (Endpoint.same_log rfl) (.await (.backoff (n + 1)))
    · exact raise_alike err h

theorem attempt_alike (call : SendCall) (n : Nat) (h : Scope.Alike broken w s t) :
    InStep broken w (call.attempt env n s) (call.attempt env n t) := by
  have hsend := TopicProducer.send_alike env h call.data call.attributes call.routingKey
  unfold attempt
  generalize TopicProducer.send env _ _ _ s = r at hsend ⊢
  generalize TopicProducer.send env _ _ _ t = q at hsend ⊢
  cases hsend with
  | ok h hcall => exact Ran.coupled h (Endpoint.rpc_log hcall) (.await (.message n hcall))
  | error h err => exact caught_alike henv call n err h

theorem recreated_alike (call : SendCall) {r q : Piece ProducerFields Registering Nat}
    (h : Endpoint.InStep broken w r q) : InStep broken w (recreated env call r) (recreated env call q) :=
  h.andThen (fun _ _ _ hk => .create hk) (fun _ _ _ _ _ hst => attempt_alike henv call 0 hst)
    fun _ _ _ err _ hst => raise_alike err hst

theorem resume_alike (call : SendCall) (h : Scope.Alike broken w s t) {k l : Sending} (hk : k.Alike w l)
    {wake : Wake} {r : Piece ProducerFields Sending Nat} (hr : call.resume env s k wake = some r) :
    ∃ q, call.resume env t l wake = some q ∧ InStep broken w r q := by
  cases resumption hr with
  | answered n rpc id =>
    cases hk with
    | message n hcall => exact ⟨_, rfl, Ran.coupled h .nil (.ret id)⟩
  | failed n rpc err =>
    cases hk with
    | message n hcall => exact ⟨_, rfl, caught_alike henv call n _ h⟩
  | slept n =>
    cases hk with
    | backoff n => exact ⟨_, rfl, attempt_alike henv call n h⟩
  | moved err rpc response addr haddr =>
    cases hk with
    | lookup err hcall =>
      have hmoved := h.update (g := fun e => e.moveTo addr) fun _ _ => rfl
      exact ⟨_, by simp only [resume, haddr],
        (recreateProducer_alike henv hmoved).after (Endpoint.same_log rfl)⟩
  | notMoved err rpc response _ hfailed =>
    cases hk with
    | lookup err hcall => exact ⟨_, by simp only [resume, hfailed], raise_alike err h⟩
  | lookupFailed err rpc _ =>
    cases hk with
    | lookup err hcall => exact ⟨_, rfl, raise_alike err h⟩
  | creating k _ r hresume =>
    cases hk with
    | create hk =>
      obtain ⟨q, hq, hstep⟩ := Endpoint.resume_alike henv producerRole_hides h hk hresume
      have hq' : TopicProducer.createResume env t _ wake = some q := hq
      exact ⟨_, by simp only [resume, hq', Option.map_some], recreated_alike henv call hstep⟩

end SendCall

end Send

/-! ## The steps -/

namespace Producer

variable {p q p' : ProducerState}

theorem exists_pool (h : ProducerState.Alike broken w p q) : ∃ pool sends,
    q = { p with pool := pool, sends := sends } ∧ Pool.Alike broken w p.pool pool ∧
      List.Forall₂ (SendTask.Alike w) p.sends sends := ⟨q.pool, q.sends, h.rest, h.pool, h.sends⟩

theorem settle_alike (h : ProducerState.Alike broken w p q) (ref : Nat) :
    ProducerState.Alike broken w (settle p ref) (settle q ref) := by
  obtain ⟨pool, sends, rfl, hpool, hsends⟩ := exists_pool h
  unfold settle
  dsimp only
  split
  · rename_i r _
    have hr := forall₂_getElem? hpool.children r
    generalize p.pool.children[r]? = x at hr ⊢
    generalize pool.children[r]? = y at hr ⊢
    cases hr with
    | none => exact h
    | some hr =>
      cases hr with
      | scheduled => exact h
      | started hr =>
        cases hr with
        | await _ => exact h
        | ret id => exact ⟨hpool, hsends, rfl⟩
        | raise err => exact ⟨hpool, hsends, rfl⟩
  · rename_i g _
    refine ⟨hpool, hsends, ?_⟩
    rw [note_alike g ref (forall₂_getElem? hpool.children ref)]
  · exact h

theorem topicProducer_fresh_stub (s : ProducerState) (topic name : String) :
    (topicProducer s topic name).stub = none := rfl

theorem topicProducer_alike (h : ProducerState.Alike broken w p q) :
    topicProducer q = topicProducer p := by
  funext topic name
  unfold topicProducer
  rw [h.pool.client.uri, h.rest]

theorem child_alike (henv : env.Reaches broken) (h : ProducerState.Alike broken w p q) {ref : Nat}
    {wake : Wake} {pool : Pool ProducerFields}
    (hpool : p.pool.child producerRole ref wake env = some pool) :
    ∃ pool' v, w ≤ v ∧ q.pool.child producerRole ref wake env = some pool' ∧
      ProducerState.Alike broken v { p with pool := pool } { q with pool := pool' } := by
  obtain ⟨pool', v, hv, hpool', halike⟩ := h.pool.child henv producerRole_hides hpool
  refine ⟨pool', v, hv, hpool', halike, h.sends.imp fun _ _ ht => ht.later hv, ?_⟩
  rw [h.rest]

theorem create_alike (henv : env.Reaches broken) (h : ProducerState.Alike broken w p q)
    (hp : create p env = some p') :
    ∃ q' v, w ≤ v ∧ create q env = some q' ∧ ProducerState.Alike broken v p' q' := by
  obtain ⟨pool, sends, rfl, hpool, hsends⟩ := exists_pool h
  have hlength := hpool.endpoints.length_eq
  obtain ⟨hfree, hnone, ⟨hzero, pool', hpool', rfl⟩ | ⟨hpos, rfl⟩⟩ := create_eq_some hp
  · -- No partitions: the one registration starts in the call.
    have halloc := hpool.alloc [topicProducer p p.config.topicName p.config.producerName]
      (by simp [topicProducer_fresh_stub])
    have hcreating : ProducerState.Alike broken w
        { p with
          pool := p.pool.alloc [topicProducer p p.config.topicName p.config.producerName]
          creating := some (.direct p.pool.endpoints.length) }
        { p with
          pool := pool.alloc [topicProducer p p.config.topicName p.config.producerName]
          creating := some (.direct p.pool.endpoints.length)
          sends := sends } := ⟨halloc, hsends, rfl⟩
    obtain ⟨pool'', v, hv, hpool'', halike⟩ := child_alike henv hcreating hpool'
    refine ⟨_, v, hv, ?_, settle_alike halike p.pool.endpoints.length⟩
    unfold create
    rw [if_pos ⟨hfree, hnone⟩, dif_pos hzero, topicProducer_alike h]
    dsimp only at hpool'' ⊢
    rw [← hlength, hpool'', Option.map_some]
  · -- The coroutines of the partitions are only scheduled.
    have halloc := hpool.alloc (partitionProducers p) (by
      intro e he
      obtain ⟨i, -, rfl⟩ := List.mem_map.mp he
      rfl)
    have hpartitions : partitionProducers { p with pool := pool, sends := sends } =
        partitionProducers p := by
      unfold partitionProducers
      rw [topicProducer_alike h]
    refine ⟨{ p with
      pool := pool.alloc (partitionProducers p)
      router := some (.init p.config.partitions hpos)
      creating := some (.gather { refs := List.range' p.pool.endpoints.length p.config.partitions })
      sends := sends }, w, le_rfl, ?_, ⟨halloc, hsends, rfl⟩⟩
    unfold create
    rw [if_pos ⟨hfree, hnone⟩, dif_neg (Nat.ne_of_gt hpos), hpartitions]
    dsimp only
    rw [← hlength]

theorem gathered_alike (h : ProducerState.Alike broken w p q) (hp : gathered p = some p') :
    ∃ q', gathered q = some q' ∧ ProducerState.Alike broken w p' q' := by
  obtain ⟨pool, sends, rfl, hpool, hsends⟩ := exists_pool h
  obtain ⟨g, hg, ⟨hfailure, rfl⟩ | ⟨hfailure, hall, rfl⟩⟩ := gathered_eq_some hp
  · refine ⟨{ p with pool := pool, creating := none, sends := sends }, ?_, ⟨hpool, hsends, rfl⟩⟩
    unfold gathered
    simp only [hg, hfailure, if_true]
  · refine ⟨{ p with pool := pool, producers := g.refs, creating := none, sends := sends }, ?_,
      ⟨hpool, hsends, rfl⟩⟩
    unfold gathered
    simp [hg, hfailure, allReturned_alike g hpool.children, hall]

theorem commitSend_alike (h : ProducerState.Alike broken w p q) (task : Nat) {x y : SendTask}
    (hxy : x.Alike w y) {r r' : Piece ProducerFields Sending Nat} (hr : SendCall.InStep broken w r r') :
    ∃ v, w ≤ v ∧ ProducerState.Alike broken v (commitSend p task x r) (commitSend q task y r') := by
  obtain ⟨v, hv, hcommit, hnext⟩ := h.pool.commit hr (.send task)
  refine ⟨v, hv, hcommit, ?_, ?_⟩
  · exact forall₂_set (h.sends.imp fun _ _ ht => ht.later hv) ⟨hxy.partition, hxy.call, hnext⟩ task
  · unfold commitSend
    rw [h.rest]

theorem send_alike (henv : env.Reaches broken) (h : ProducerState.Alike broken w p q) {data : List UInt8}
    {attributes : Option (List (String × String))} {routingKey : Option String}
    (hp : send p data attributes routingKey env = some p') :
    ∃ q' v, w ≤ v ∧ send q data attributes routingKey env = some q' ∧
      ProducerState.Alike broken v p' q' := by
  obtain ⟨pool, sends, rfl, hpool, hsends⟩ := exists_pool h
  obtain ⟨hfree, partition, router, t, hselect, ht, hcase⟩ := send_eq_some hp
  have hself : t.Alike w t := ⟨rfl, rfl, by rw [ht]; exact .raise _⟩
  have hadded : ProducerState.Alike broken w { p with router := router, sends := p.sends ++ [t] }
      { p with pool := pool, router := router, sends := sends ++ [t] } :=
    ⟨hpool, List.rel_append hsends (.cons hself .nil), rfl⟩
  have hlength := hsends.length_eq
  have hselect' : selectPartition { p with pool := pool, sends := sends } routingKey =
      (partition, router) := hselect
  rcases hcase with ⟨hout, rfl⟩ | ⟨ref, sc, href, hsc, rfl⟩
  · -- The partition is out of range: the call raises at once.
    refine ⟨_, w, le_rfl, ?_, hadded⟩
    unfold send
    rw [if_pos hfree, hselect']
    dsimp only
    rw [hout, ht]
    rfl
  · -- The first attempt runs.
    obtain ⟨sc', hsc', hscope⟩ := hpool.scope hsc
    obtain ⟨v, hv, halike⟩ := commitSend_alike hadded p.sends.length hself
      (SendCall.attempt_alike henv t.call 0 hscope)
    refine ⟨_, v, hv, ?_, halike⟩
    unfold send
    rw [if_pos hfree, hselect']
    dsimp only
    rw [href]
    dsimp only
    rw [hsc', hlength, ht]
    rfl

theorem sending_alike (henv : env.Reaches broken) (h : ProducerState.Alike broken w p q) {task : Nat}
    {wake : Wake} (hp : sending p task wake env = some p') :
    ∃ q' v, w ≤ v ∧ sending q task wake env = some q' ∧ ProducerState.Alike broken v p' q' := by
  obtain ⟨t, ref, sc, k, ran, ht, href, hsc, hk, hran, rfl⟩ := sending_eq_some.mp hp
  obtain ⟨t', ht', htt'⟩ := forall₂_get? h.sends ht
  obtain ⟨sc', hsc', hscope⟩ := h.pool.scope hsc
  have hstatus := htt'.status
  rw [hk] at hstatus
  generalize ho : t'.status = o at hstatus
  cases hstatus with
  | await hkl =>
    obtain ⟨ran', hran', hstep⟩ := SendCall.resume_alike henv t.call hscope hkl hran
    obtain ⟨v, hv, halike⟩ := commitSend_alike h task htt' hstep
    refine ⟨_, v, hv, sending_eq_some.mpr ⟨t', ref, sc', _, ran', ht', ?_, hsc', ho, ?_, rfl⟩, halike⟩
    · rw [htt'.partition, h.rest]
      exact href
    · rw [htt'.call]
      exact hran'

theorem close_alike (h : ProducerState.Alike broken w p q) :
    ProducerState.Alike broken w (close p) (close q) := by
  obtain ⟨pool, sends, rfl, hpool, hsends⟩ := exists_pool h
  exact ⟨hpool.foldl_stop p.producers, hsends, rfl⟩

theorem step_alike (h : ProducerState.Alike broken w p q) {l : ProducerLabel}
    (henv : l.env.Reaches broken) (hp : step p l = some p') :
    ∃ q' v, w ≤ v ∧ step q l = some q' ∧ ProducerState.Alike broken v p' q' := by
  cases l with
  | create env => exact create_alike henv h hp
  | child ref wake env =>
    obtain ⟨pool, hpool, rfl⟩ := Option.map_eq_some_iff.mp hp
    obtain ⟨pool', v, hv, hpool', halike⟩ := child_alike henv h hpool
    exact ⟨_, v, hv, Option.map_eq_some_iff.mpr ⟨pool', hpool', rfl⟩, settle_alike halike ref⟩
  | gathered =>
    obtain ⟨q', hq', halike⟩ := gathered_alike h hp
    exact ⟨q', w, le_rfl, hq', halike⟩
  | send data attributes routingKey env => exact send_alike henv h hp
  | sending task wake env => exact sending_alike henv h hp
  | health task wake env =>
    obtain ⟨pool, hpool, rfl⟩ := Option.map_eq_some_iff.mp hp
    obtain ⟨pool', hpool', halike⟩ := h.pool.health hpool
    refine ⟨_, w, le_rfl, Option.map_eq_some_iff.mpr ⟨pool', hpool', rfl⟩, halike, h.sends, ?_⟩
    rw [h.rest]
  | close =>
    cases hp
    exact ⟨_, w, le_rfl, rfl, close_alike h⟩

end Producer

end Danube
