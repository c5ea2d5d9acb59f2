import Danube.MessageLoss
import Danube.StreamFailure

/-!
# The connection of an acknowledgement

`send_ack` and `send_nack` take their header from the address fields, which a lookup changes before
`_connect` builds the stub for them.
-/

namespace Danube

open Async

def Event.acks : Event → Bool
  | .rpc call => call.request.isAck
  | _ => false

/-- No `Ack` and no `Nack` is among the events. -/
def NoAck (log : List Event) : Prop := ∀ e ∈ log, e.acks = false

theorem NoAck.append {a b : List Event} (ha : NoAck a) (hb : NoAck b) : NoAck (a ++ b) := by
  intro e he
  exact (List.mem_append.mp he).elim (ha e) (hb e)

theorem Event.Inner.acks {e : Event} (h : e.Inner) : e.acks = false := by
  cases e with
  | rpc call =>
    obtain ⟨conn, request, metadata⟩ := call
    cases request <;> first | rfl | cases h
  | _ => rfl

theorem noAck_of_callLog {α : Type} {o : Outcome Registering α Error} {log : List Event}
    (h : CallLog o log) : NoAck log := by
  intro e he
  rcases h.mem he with hinner | ⟨-, id, -, rfl⟩ | ⟨err, rfl⟩
  · exact hinner.acks
  · rfl
  · rfl

namespace Receive

variable {env : Env} {a : LoopArgs}

theorem resubscribe_noAck (s : Scope ConsumerFields) : NoAck (resubscribe env s).log := by
  obtain ⟨r, hr, hshaped⟩ := Endpoint.create_shaped (α := Empty) consumerRole env s
  have hcall : NoAck r.log := noAck_of_callLog hshaped.log
  have hlog : NoAck (TopicConsumer.subscribe (α := Empty) env s).log := by
    unfold TopicConsumer.subscribe
    rw [hr]
    exact NoAck.append (by simp [NoAck, Event.acks]) hcall
  refine NoAck.append (by simp [NoAck, Event.acks]) ?_
  unfold Ran.andThen
  split
  · exact hlog
  · rename_i x _
    exact x.elim
  · exact NoAck.append hlog (by simp [NoAck, done])

theorem turn_noAck (n : Nat) (s : Scope ConsumerFields) : NoAck (turn env a n s).log := by
  unfold turn
  split
  · simp [NoAck, done]
  · split
    · rename_i s' call heq
      have hok : (TopicConsumer.receive env s).2 = .ok call := by rw [heq]
      have hrequest := (receive_ok env hok).2.1
      simp [NoAck, Event.acks, hrequest, Request.isAck]
    · exact resubscribe_noAck _
    · split
      · split
        · exact resubscribe_noAck _
        · simp [NoAck, Event.acks]
      · simp [NoAck, done]

theorem streamOver_noAck (s : Scope ConsumerFields) : NoAck (streamOver env a s).log := by
  unfold streamOver
  split
  · simp [NoAck, done]
  · split
    · exact NoAck.append (by simp [NoAck, Event.acks]) (resubscribe_noAck _)
    · exact turn_noAck 0 s

theorem taken_noAck (call : Call) (m : StreamMessage) (s : Scope ConsumerFields) :
    NoAck (taken env a call m s).log := by
  unfold taken
  split
  · simp [NoAck, done]
  · split
    · exact streamOver_noAck s
    · split <;> simp [NoAck, Event.acks]

theorem resubscribed_noAck {r : Piece ConsumerFields Registering Nat} (h : NoAck r.log) :
    NoAck (resubscribed env a r).log := by
  unfold resubscribed Ran.andThen
  split
  · exact h
  · exact h.append (turn_noAck 0 _)
  · exact h.append (by simp [NoAck, done])

end Receive

theorem Consumer.receivePiece_noAck {env : Env} {a : LoopArgs} {s : Scope ConsumerFields}
    {status : ReceiveStatus} {w : Wake} {r : Piece ConsumerFields Receiving Unit}
    (hstub : s.self.stub ≠ none) (h : receivePiece env a s status w = some r) : NoAck r.log := by
  rcases receivePiece_cases env h with ⟨-, -, rfl⟩ | ⟨k, -, hresume⟩
  · exact Receive.turn_noAck 0 s
  cases Receive.resumption hresume with
  | took call m => exact NoAck.append (by simp [NoAck, Event.acks]) (Receive.taken_noAck call m s)
  | ended | failed => exact NoAck.append (by simp [NoAck, Event.acks]) (Receive.streamOver_noAck s)
  | room => simp [NoAck, Event.acks]
  | slept n => exact Receive.turn_noAck n s
  | subscribing k w r' hr' =>
    exact Receive.resubscribed_noAck
      (noAck_of_callLog (Endpoint.resume_shaped consumerRole env (fun _ => hstub) hr').log)

/-! ## The address fields since the last `_connect` -/

/-- The answer of the last lookup since the last `_connect`, if one answered. -/
def movedTo (log : List Event) : Option BrokerAddress :=
  replay (fun moved e =>
    match e with
    | .moved addr => some addr
    | .connected .. => none
    | _ => moved) none log

theorem addr_eq_moved {topic : String} {ref : Nat} {v : View} (hv : v.stub = none) {log : List Event}
    (h : Always View.apply (Fits topic ref) v log) {a : BrokerAddress} {conn : RpcConnection}
    (hstub : (replay View.apply v log).stub = some (a, conn)) :
    (replay View.apply v log).addr = (movedTo log).getD a := by
  induction log using List.reverseRecOn generalizing a conn with
  | nil =>
    rw [replay_nil, hv] at hstub
    cases hstub
  | append_singleton log e ih =>
    obtain ⟨hlog, he, -⟩ := (always_append _ _ _ _).mp h
    unfold movedTo
    rw [replay_append] at hstub ⊢
    rw [replay_append]
    cases e with
    | moved addr => rfl
    | connected addr conn' =>
      simp only [replay_cons, replay_nil, View.apply, Option.some.injEq, Prod.mk.injEq] at hstub ⊢
      rw [← hstub.1]
      exact he.symm
    | _ => exact ih hlog hstub

/-- The RPC goes out on a stub that `_connect` built for the address fields that its header is taken
from. -/
def ConnectedTo (v : View) (call : Call) : Prop :=
  v.stub = some (v.addr, call.conn) ∧
    ∃ metadata, call.metadata = insertProxyHeader metadata v.addr.brokerUrl v.addr.proxy

def AckFits (v : View) (e : Event) : Prop :=
  ∀ call, e = .rpc call → call.request.isAck = true → ConnectedTo v call

/-- The last lookup answer since the last `_connect`, if there is one, left the address fields as that
`_connect` found them. -/
def Unmoved (log : List Event) : Prop :=
  ∀ pre a conn post, log = pre ++ .connected a conn :: post →
    (∀ b c, .connected b c ∉ post) → ∀ addr, movedTo log = some addr → addr = a

theorem replay_stub {v : View} {log : List Event} (h : ∀ b c, .connected b c ∉ log) :
    (replay View.apply v log).stub = v.stub := by
  induction log generalizing v with
  | nil => rfl
  | cons e es ih =>
    have hes := ih (v := v.apply e) fun b c hmem => h b c (List.mem_cons_of_mem _ hmem)
    rw [replay_cons, hes]
    cases e with
    | connected b c => exact (h b c (by simp)).elim
    | _ => rfl

theorem stub_eq_some {v : View} (hv : v.stub = none) {log : List Event} {a : BrokerAddress}
    {conn : RpcConnection} :
    (replay View.apply v log).stub = some (a, conn) ↔
      ∃ pre post, log = pre ++ .connected a conn :: post ∧ ∀ b c, .connected b c ∉ post := by
  constructor
  · intro h
    induction log using List.reverseRecOn with
    | nil =>
      rw [replay_nil, hv] at h
      cases h
    | append_singleton log e ih =>
      by_cases he : e = .connected a conn
      · exact ⟨log, [], by rw [he], by simp⟩
      · rw [replay_append, replay_cons, replay_nil] at h
        have hother : ∀ b c, e ≠ .connected b c := by
          rintro b c rfl
          simp only [View.apply, Option.some.injEq, Prod.mk.injEq] at h
          exact he (by rw [h.1, h.2])
        obtain ⟨pre, post, rfl, hpost⟩ := ih (by cases e <;> first | exact h | exact (hother _ _ rfl).elim)
        refine ⟨pre, post ++ [e], by simp, fun b c hmem => ?_⟩
        rcases List.mem_append.mp hmem with hmem | hmem
        · exact hpost b c hmem
        · exact hother b c (List.mem_singleton.mp hmem).symm
  · rintro ⟨pre, post, rfl, hpost⟩
    rw [replay_append, replay_cons, replay_stub hpost]
    rfl

theorem connectedTo_iff {topic : String} {ref : Nat} {v : View} (hv : v.stub = none)
    {log : List Event} (h : Always View.apply (Fits topic ref) v log) {call : Call}
    (hcall : Fits topic ref (replay View.apply v log) (.rpc call))
    (hack : call.request.isAck = true) :
    ConnectedTo (replay View.apply v log) call ↔ Unmoved log := by
  have honStub : call.request.onStub = true := by
    obtain ⟨conn, request, metadata⟩ := call
    cases request <;> first | rfl | cases hack
  obtain ⟨⟨a, ha⟩, hheader, -⟩ := hcall honStub
  have haddr := addr_eq_moved hv h ha
  constructor
  · -- What moved the fields after the last `_connect` named the address of the stub.
    rintro ⟨hstub, -⟩ pre b conn post hlog hpost addr hmoved
    have hb := (stub_eq_some hv).mpr ⟨pre, post, hlog, hpost⟩
    rw [hstub, Option.some.injEq, Prod.mk.injEq] at hb
    rw [hmoved] at haddr
    exact haddr.symm.trans hb.1
  · -- Nothing moved the fields since the last `_connect`, or only to the same address.
    intro hunmoved
    obtain ⟨pre, post, hlog, hpost⟩ := (stub_eq_some hv).mp ha
    refine ⟨?_, hheader⟩
    cases hmoved : movedTo log with
    | none =>
      rw [hmoved] at haddr
      rw [haddr]
      exact ha
    | some addr =>
      rw [hmoved] at haddr
      rw [haddr, Option.getD_some, hunmoved pre a call.conn post hlog hpost addr hmoved]
      exact ha

namespace Consumer

/-- Every `Ack` and `Nack` agrees with its connection. -/
def AcksCoherent (s : ConsumerState) : Prop :=
  ∀ r, Always View.apply AckFits (View.init s.pool.client.uri) (logOf r s.pool.trace)

/-- A message is not acknowledged between a lookup answer that moves its partition and the `_connect`
that follows. -/
def AcksUnmoved (s : ConsumerState) : ConsumerLabel → Prop
  | .ack message env | .nack message _ _ env => TokenAvailable env s.pool.client →
    ∀ r, s.consumers.lookup message.msgId.topicName = some r → Unmoved (logOf r s.pool.trace)
  | _ => True

theorem onStub_token {env : Env} {text : String} {request : Request} {s : Scope ConsumerFields}
    {call : Call} (h : TopicConsumer.onStub env text request s = .ok call) :
    TokenAvailable env s.client := by
  unfold TopicConsumer.onStub at h
  split at h
  · cases h
  · split at h
    · cases h
    · rename_i metadata hattach
      exact ⟨metadata, hattach⟩

theorem onStub_no_token {env : Env} {text : String} {request : Request} {s : Scope ConsumerFields}
    {err : Error} (hstub : s.self.stub ≠ none)
    (h : TopicConsumer.onStub env text request s = .error err) : ¬ TokenAvailable env s.client := by
  rintro ⟨metadata, hattach⟩
  unfold TopicConsumer.onStub at h
  split at h
  · rename_i hnone
    exact hstub hnone
  · rw [hattach] at h
    cases h

/-- The application acknowledges a message. -/
def Acknowledges : ConsumerLabel → Prop
  | .ack .. | .nack .. => True
  | _ => False

theorem step_noAck {s s' : ConsumerState} {l : ConsumerLabel} (hs : Sound s) (hl : ¬ Acknowledges l)
    (hstep : step s l = some s') : s'.pool.client.uri = s.pool.client.uri ∧
      ∃ log, s'.pool.trace = s.pool.trace ++ log ∧ ∀ x ∈ log, x.event.acks = false := by
  cases l with
  | subscribe env =>
    obtain ⟨-, -, c, x, hc, -, rfl⟩ := subscribe_eq_some hstep
    exact ⟨hc.uri, [], by simp, by simp⟩
  | partitions w =>
    rcases partitions_eq_some hstep with ⟨⟨names, rfl⟩, -⟩ | ⟨rfl, -⟩ <;>
      exact ⟨rfl, [], by simp [Pool.alloc], by simp⟩
  | child ref w env =>
    obtain ⟨p, hp, rfl⟩ := Option.map_eq_some_iff.mp hstep
    obtain ⟨c, heq, -⟩ := settle_eq { s with pool := p } ref
    obtain ⟨⟨log, hlog, htrace⟩, -⟩ := Pool.child_writes hs.pool hp
    obtain ⟨_, sc, ran, -, hsc, hran, rfl⟩ := Pool.child_eq_some.mp hp
    have hext := (Pool.childPiece_journaled hran).client
    rw [(Pool.scope_eq_some.mp hsc).2.1] at hext
    rw [heq]
    refine ⟨hext.uri, _, htrace, fun x hx => ?_⟩
    obtain ⟨e, he, rfl⟩ := List.mem_map.mp hx
    cases hlog with
    | starts log o _ hcall =>
      rcases List.mem_cons.mp he with rfl | he
      · rfl
      · exact noAck_of_callLog hcall e he
    | resumes k log o _ hcall => exact noAck_of_callLog hcall e he
  | gathered =>
    obtain ⟨names, g, -, rfl | ⟨-, rfl⟩⟩ := gathered_eq_some hstep <;>
      exact ⟨rfl, [], by simp, by simp⟩
  | receive => cases hstep; exact ⟨rfl, [], by simp [receive], by simp⟩
  | receiving task w env =>
    obtain ⟨t, sc, queue, ran, ht, hsc, -, hran, rfl⟩ := receiving_eq_some.mp hstep
    -- The loop may clear the stop event, and still acknowledges nothing.
    have hext : sc.client.Extends ran.state.client := by
      rcases receivePiece_cleared env hran with hj | ⟨-, hj⟩
      · exact hj.client
      · exact hj.client
    rw [(Pool.scope_eq_some.mp hsc).2.1] at hext
    refine ⟨hext.uri, _, rfl, fun x hx => ?_⟩
    obtain ⟨e, he, rfl⟩ := List.mem_map.mp hx
    exact receivePiece_noAck (hs.stub ht hsc) hran e he
  | get queue => obtain ⟨queues, rfl⟩ := get_eq_some hstep; exact ⟨rfl, [], by simp, by simp⟩
  | ack message env => exact (hl trivial).elim
  | nack message delayMs reason env => exact (hl trivial).elim
  | acked call w => obtain ⟨acks, rfl⟩ := acked_eq_some hstep; exact ⟨rfl, [], by simp, by simp⟩
  | health task w env =>
    obtain ⟨p, hp, rfl⟩ := Option.map_eq_some_iff.mp hstep
    obtain ⟨l, e, c, pos, log, stop, -, -, hc, hchecks, rfl⟩ := Pool.health_eq_some hp
    refine ⟨hc.uri, _, rfl, fun x hx => ?_⟩
    obtain ⟨event, hevent, rfl⟩ := List.mem_map.mp hx
    cases hchecks with
    | poll _ _ call n hcall =>
      rw [List.mem_singleton.mp hevent]
      simp [Event.acks, hcall, Request.isAck]
    | close call =>
      rw [List.mem_singleton.mp hevent]
      rfl
    | _ => simp at hevent
  | close =>
    cases hstep
    obtain ⟨log, htrace, hlog⟩ := Pool.foldl_stop_writes (s.consumers.map Prod.snd) s.pool
    refine ⟨?_, log, htrace, fun x hx => by rw [(hlog x hx).1]; rfl⟩
    rw [close, Pool.foldl_stop_client]

theorem onConsumer_coherent {s s' : ConsumerState} (hs : Sound s) (hs' : Sound s')
    {topic text : String} {request : Request} (hrequest : request.isAck = true) {env : Env}
    (hstep : onConsumer s topic (TopicConsumer.onStub env text request) = some s') :
    AcksCoherent s' ↔ AcksCoherent s ∧ (TokenAvailable env s.pool.client →
      ∀ r, s.consumers.lookup topic = some r → Unmoved (logOf r s.pool.trace)) := by
  unfold onConsumer at hstep
  split at hstep
  · -- No partition has the topic: nothing is issued.
    rename_i hnone
    cases hstep
    rw [and_iff_left (by simp [hnone])]
    exact Iff.rfl
  · rename_i ref href
    obtain ⟨sc, hsc, hstep⟩ := Option.map_eq_some_iff.mp hstep
    have hself := (Pool.scope_eq_some.mp hsc).1
    have hclient := (Pool.scope_eq_some.mp hsc).2.1
    obtain ⟨id, hid⟩ := hs.consumers _ (mem_of_lookup href)
    have hstub : sc.self.stub ≠ none := (hs.pool.ready ref _ sc.self hid hself).stubRet id rfl
    split at hstep
    · rename_i call hcall
      subst hstep
      obtain ⟨-, hreq, -⟩ := onStub_ok env hcall
      -- The RPC is issued, on the journal of `ref` alone.
      have htoken : TokenAvailable env s.pool.client := by
        rw [← hclient]
        exact onStub_token hcall
      have hlog : logOf ref (s.pool.write .app ref [.rpc call]).trace =
          logOf ref s.pool.trace ++ [.rpc call] := by
        simp only [Pool.write, logOf_append, logOf_entries_self]
      have hfits := hs'.kept.fits ref sc.self hself
      rw [hlog, always_append] at hfits
      have hiff := connectedTo_iff rfl hfits.1 hfits.2.1 (hreq ▸ hrequest)
      have hothers : ∀ r, r ≠ ref → logOf r (s.pool.write .app ref [.rpc call]).trace =
          logOf r s.pool.trace := by
        intro r hr
        simp only [Pool.write, logOf_append, logOf_entries_ne hr, List.append_nil]
      unfold AcksCoherent
      rw [forall_always_append hlog hothers]
      refine and_congr_right fun _ => ?_
      simp only [htoken, href, Option.some.injEq, forall_eq', true_implies, always_cons, always_nil,
        and_true]
      rw [← hiff]
      exact ⟨fun hf => hf call rfl (hreq ▸ hrequest), fun hc call' heq _ => by cases heq; exact hc⟩
    · -- The token supplier raised: nothing is issued.
      rename_i err herror
      subst hstep
      have hno : ¬ TokenAvailable env s.pool.client := by
        rw [← hclient]
        exact onStub_no_token hstub herror
      rw [and_iff_left fun htoken => (hno htoken).elim]
      exact Iff.rfl

theorem step_acksCoherent {s s' : ConsumerState} {l : ConsumerLabel} (hs : Sound s)
    (hstep : step s l = some s') : AcksCoherent s' ↔ AcksCoherent s ∧ AcksUnmoved s l := by
  by_cases hl : Acknowledges l
  · have hs' := step_sound hs hstep
    cases l with
    | ack message env => exact onConsumer_coherent hs hs' rfl hstep
    | nack message delayMs reason env => exact onConsumer_coherent hs hs' rfl hstep
    | _ => exact hl.elim
  · have hunmoved : AcksUnmoved s l := by
      cases l with
      | ack => exact (hl trivial).elim
      | nack => exact (hl trivial).elim
      | _ => trivial
    obtain ⟨huri, log, htrace, hlog⟩ := step_noAck hs hl hstep
    rw [and_iff_left hunmoved]
    refine forall_congr' fun r => ?_
    rw [huri, htrace, logOf_append, always_append, and_iff_left]
    refine always_of_forall (fun e he v call heq hack => ?_) _
    obtain ⟨actor, hactor⟩ := mem_logOf.mp he
    have hno := hlog _ hactor
    rw [heq] at hno
    cases hack.symm.trans hno

/-- The acknowledgements agree with their connections exactly when each of them is made while its
partition is connected to where the last lookup found it. -/
theorem acks_coherent_iff {client : Client} {config : ConsumerConfig} {ls : List ConsumerLabel}
    {s : ConsumerState} (h : exec step (init client config) ls = some s) :
    AcksCoherent s ↔ Steps step AcksUnmoved (init client config) ls := by
  have hrun := exec_iff_steps (Q := AcksCoherent) (C := AcksUnmoved)
    (fun s l s' hs hstep => ⟨step_sound hs hstep, step_acksCoherent hs hstep⟩)
    (sound_init client config) h
  have hinit : AcksCoherent (init client config) := fun r => trivial
  rw [hrun, and_iff_right hinit]

/-- The header of an acknowledgement is taken from the address that the stub was built for. -/
def StubAt (v : View) (e : Event) : Prop := e.acks = true → v.stub.map Prod.fst = some v.addr

instance (v : View) (e : Event) : Decidable (StubAt v e) := inferInstanceAs (Decidable (_ → _))

theorem AcksCoherent.stubAt {s : ConsumerState} (h : AcksCoherent s) (r : Nat) :
    Always View.apply StubAt (View.init s.pool.client.uri) (logOf r s.pool.trace) := by
  refine (h r).mono fun v e hfits hack => ?_
  cases e with
  | rpc call => rw [(hfits call rfl hack).1]; rfl
  | _ => cases hack

/-- After the broker at `b` refused the `Subscribe`, the lookup answers that `c` owns the partition
and is reached through a proxy. -/
def viaProxy : Response := .topicLookup {
  responseType := .redirect
  connectUrl := "proxy"
  brokerUrl := "c"
  proxy := true }

/-- The application acknowledges a message while the resubscription sleeps. -/
def ackAmidBackoff : List ConsumerLabel :=
  [.subscribe {}, .partitions (.answer (.topicPartitions ["t"])), .child 0 .start {},
    .child 0 (.answer (.address "a")) {}, .child 0 (.answer (.registered 1)) {}, .gathered,
    .receive, .receiving 0 .start {}, .receiving 0 (.answer (.stream message)) {}, .get 0,
    .health 0 .start {}, .health 0 (.answer (.health .close)) {},
    .receiving 0 (.answer .streamEnd) {}, .receiving 0 (.answer (.address "b")) {},
    .receiving 0 (.fail .unavailable) {}, .receiving 0 (.answer viaProxy) {}, .ack message {}]

/-- The header names `c`, and the channel leads to `b`. -/
theorem ack_amid_backoff_incoherent :
    ∃ s, exec step (init (.init "a" {}) .oneRetry) ackAmidBackoff = some s ∧ ¬ AcksCoherent s :=
  ⟨_, rfl, fun h => absurd (h.stubAt 0) (by decide)⟩

theorem ack_amid_backoff_moved :
    ∃ s, exec step (init (.init "a" {}) .oneRetry) ackAmidBackoff = some s ∧
      (AcksCoherent s ↔ Steps step AcksUnmoved (init (.init "a" {}) .oneRetry) ackAmidBackoff) := by
  obtain ⟨s, hs⟩ := Option.isSome_iff_exists.mp
    (by rfl : (exec step (init (.init "a" {}) .oneRetry) ackAmidBackoff).isSome)
  exact ⟨s, hs, acks_coherent_iff hs⟩

end Consumer

end Danube
