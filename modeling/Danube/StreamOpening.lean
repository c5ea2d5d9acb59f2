import Danube.ConsumerSteps

/-!
# The subscription a stream is opened with

`consumer_id`, the stub and the address fields are set at different points of a registration, which
may move to other brokers between its attempts.
-/

namespace Danube

open Async

/-- The metadata names the broker of `addr`, if there is a proxy. -/
def Call.Header (call : Call) (addr : BrokerAddress) : Prop :=
  ∃ metadata, call.metadata = insertProxyHeader metadata addr.brokerUrl addr.proxy

/-- The last stub and the address that it was built for, the last `Subscribe`, the last one that was
answered and the id that it got, and whether a `subscribe()` raised. -/
structure Subscription where
  stub : Option (BrokerAddress × RpcConnection) := none
  asked : Option (Call × BrokerAddress) := none
  current : Option (Call × BrokerAddress × Nat) := none
  raised : Bool := false

namespace Subscription

def apply (v : Subscription) : Event → Subscription
  | .connected addr conn => { v with stub := some (addr, conn) }
  | .rpc call =>
    match call.request with
    | .subscribe _ => { v with asked := v.stub.map fun x => (call, x.1) }
    | _ => v
  | .registered _ id => { v with current := v.asked.map fun x => (x.1, x.2, id) }
  | .notCreated _ => { v with raised := true }
  | _ => v

/-- The stream is opened on the stub of the last `Subscribe` that was answered, with the id that it
got and the header of the address that it used. -/
structure Opens (v : Subscription) (call : Call) (id : Nat) : Prop where
  raised : v.raised = false
  current : ∃ asked addr, v.current = some (asked, addr, id) ∧ call.conn = asked.conn ∧
    asked.Header addr ∧ call.Header addr

/-- Every `ReceiveMessages` opens its stream with the current subscription. -/
def Valid (v : Subscription) (e : Event) : Prop :=
  ∀ call n id, e = .rpc call → call.request = .receiveMessages n id → v.Opens call id

theorem apply_rpc {call : Call} (h : ∀ r, call.request ≠ .subscribe r) (v : Subscription) :
    v.apply (.rpc call) = v := by
  unfold apply
  dsimp only
  split
  · rename_i r heq
    exact (h r heq).elim
  · rfl

theorem valid_rpc {call : Call} (h : ∀ n id, call.request ≠ .receiveMessages n id)
    (v : Subscription) : v.Valid (.rpc call) := by
  intro call' n id heq hr
  cases heq
  exact (h n id hr).elim

/-- The endpoint is as the last `Subscribe` that was answered left it. -/
structure Holds (v : Subscription) (e : TopicConsumer) : Prop where
  raised : v.raised = false
  current : ∃ asked, v.current = some (asked, e.address, e.id) ∧ e.stub = some asked.conn ∧
    asked.Header e.address

/-- What is known where a `subscribe()` waits or ends. -/
def During (v : Subscription) (e : TopicConsumer) {α : Type} :
    Outcome Registering α Error → Prop
  | .await (.lookup ..) | .await (.backoff _) => v.raised = false
  | .await (.request _ _ call) => v.raised = false ∧ v.asked = some (call, e.address) ∧
    e.stub = some call.conn ∧ call.Header e.address
  | .await (.latest ..) | .await (.pinned ..) => False
  | .ret _ => v.Holds e
  | .raise _ => True

/-- What a piece of a `subscribe()` leads to. -/
def Leads {α : Type} (v : Subscription) (r : Piece ConsumerFields Registering α) : Prop :=
  Always apply Valid v r.log ∧ (replay apply v r.log).During r.state.self r.next

section Pieces

variable {α : Type} {env : Env} {v : Subscription}

theorem Leads.after {r : Piece ConsumerFields Registering α} {e : Event} (he : v.Valid e)
    (h : (v.apply e).Leads r) : v.Leads (r.after [e]) := ⟨⟨he, h.1⟩, h.2⟩

theorem valid_lookup {s : Scope ConsumerFields} {c : Client} {call : Call}
    (h : s.client.lookupTopic env.lookup s.self.connectUrl s.self.topic = (c, .ok call)) :
    v.Valid (.rpc call) ∧ v.apply (.rpc call) = v := by
  obtain ⟨-, n, hn⟩ := Client.lookupTopic_ok h
  exact ⟨valid_rpc (by simp [hn]) v, apply_rpc (by simp [hn]) v⟩

theorem failed_leads (hv : v.raised = false) (n : Nat) (err : Error) (s : Scope ConsumerFields) :
    v.Leads (Endpoint.failed env n err s : Piece ConsumerFields Registering α) := by
  have hraise : v.Leads (⟨s, [.notCreated err], .raise err⟩ : Piece ConsumerFields Registering α) :=
    ⟨by simp [Valid], trivial⟩
  unfold Endpoint.failed
  split
  · split
    · exact hraise
    · unfold Endpoint.retry
      split
      · rename_i heq
        obtain ⟨hvalid, happly⟩ := valid_lookup (v := v) heq
        refine ⟨⟨hvalid, trivial⟩, ?_⟩
        rw [replay_cons, happly]
        exact hv
      · exact ⟨by simp [Valid, Endpoint.backoff], hv⟩
  · exact hraise

theorem attempt_leads (hv : v.raised = false) (n : Nat) (s : Scope ConsumerFields) :
    v.Leads (Endpoint.attempt consumerRole env n s : Piece ConsumerFields Registering α) := by
  unfold Endpoint.attempt
  split
  · exact failed_leads hv n _ _
  · rename_i c conn _
    refine Leads.after (by simp [Valid]) ?_
    split
    · exact failed_leads (by exact hv) n _ _
    · rename_i metadata _
      refine ⟨⟨valid_rpc (by simp [consumerRole]) _, trivial⟩, ?_⟩
      exact ⟨hv, rfl, rfl, metadata, rfl⟩

theorem create_leads (hv : v.raised = false) (s : Scope ConsumerFields) :
    v.Leads (Endpoint.create consumerRole env s : Piece ConsumerFields Registering α) := by
  unfold Endpoint.create
  refine Leads.after (by simp [Valid]) ?_
  split
  · rename_i heq
    obtain ⟨hvalid, happly⟩ := valid_lookup (v := v) heq
    refine ⟨⟨hvalid, trivial⟩, ?_⟩
    rw [replay_cons]
    exact happly.symm ▸ hv
  · exact attempt_leads hv 0 _

theorem afterLookup_leads (hv : v.raised = false) (n : Nat) (s : Scope ConsumerFields) :
    v.Leads (Endpoint.afterLookup consumerRole env n s : Piece ConsumerFields Registering α) := by
  unfold Endpoint.afterLookup
  split
  · exact attempt_leads hv 0 s
  · exact ⟨by simp [Valid, Endpoint.backoff], hv⟩

theorem registered_leads {n : Nat} {addr : BrokerAddress} {call : Call} {s : Scope ConsumerFields}
    (h : v.During s.self (.await (.request n addr call) : Outcome Registering Nat Error)) (id : Nat) :
    v.Leads (Endpoint.registered consumerRole env n addr id s) := by
  obtain ⟨hv, hasked, hstub, hheader⟩ := h
  refine Leads.after (by simp [Valid]) ?_
  unfold Endpoint.checkHealth
  split
  · exact failed_leads (by exact hv) n _ _
  · rename_i c conn _
    refine ⟨by simp [Valid, Endpoint.resolveSchema, consumerRole, Endpoint.returnId], hv, call, ?_, hstub,
      hheader⟩
    rw [apply, hasked]
    rfl

theorem resume_leads {k : Registering} {w : Wake} {s : Scope ConsumerFields}
    {r : Piece ConsumerFields Registering Nat}
    (h : v.During s.self (.await k : Outcome Registering Nat Error))
    (hr : Endpoint.resume consumerRole env s k w = some r) : v.Leads r := by
  cases Endpoint.resumption hr with
  | moved n => exact Leads.after (by simp [Valid]) (afterLookup_leads (by exact h) n _)
  | notMoved n | lookupFailed n => exact afterLookup_leads (by exact h) n _
  | slept n => exact attempt_leads (by exact h) n _
  | answered => exact registered_leads h _
  | refused n => exact failed_leads h.1 n _ _
  | _ => exact h.elim

end Pieces

/-! ## The receive loop -/

/-- What is known where a receive loop waits. -/
def Looping (v : Subscription) (e : TopicConsumer) : ReceiveStatus → Prop
  | .scheduled | .started (.await (.reading _)) | .started (.await (.putting ..))
  | .started (.await (.backoff _)) => v.Holds e
  | .started (.await (.subscribing k)) => v.During e (.await k : Outcome Registering Nat Error)
  | .cancelled | .started (.ret _) | .started (.raise _) => True

theorem Holds.congr {v : Subscription} {e e' : TopicConsumer} (h : v.Holds e)
    (haddress : e'.address = e.address) (hid : e'.id = e.id) (hstub : e'.stub = e.stub) :
    v.Holds e' := by
  refine ⟨h.raised, ?_⟩
  rw [haddress, hid, hstub]
  exact h.current

theorem During.congr {v : Subscription} {e e' : TopicConsumer}
    {o : Outcome Registering Nat Error} (h : v.During e o) (haddress : e'.address = e.address)
    (hid : e'.id = e.id) (hstub : e'.stub = e.stub) : v.During e' o := by
  cases o with
  | await k =>
    cases k with
    | request n addr call =>
      unfold During
      rw [haddress, hstub]
      exact h
    | _ => exact h
  | ret id => exact Holds.congr h haddress hid hstub
  | raise err => trivial

theorem Looping.congr {v : Subscription} {e e' : TopicConsumer} {status : ReceiveStatus}
    (h : v.Looping e status) (haddress : e'.address = e.address) (hid : e'.id = e.id)
    (hstub : e'.stub = e.stub) : v.Looping e' status := by
  unfold Looping at h ⊢
  split
  case h_5 => exact During.congr h haddress hid hstub
  case h_6 => trivial
  case h_7 => trivial
  case h_8 => trivial
  all_goals exact Holds.congr h haddress hid hstub

def LoopLeads (v : Subscription) (r : Piece ConsumerFields Receiving Unit) : Prop :=
  Always apply Valid v r.log ∧ (replay apply v r.log).Looping r.state.self (.started r.next)

section Loop

variable {env : Env} {a : LoopArgs} {v : Subscription}

theorem LoopLeads.after {r : Piece ConsumerFields Receiving Unit} {e : Event} (he : v.Valid e)
    (h : (v.apply e).LoopLeads r) : v.LoopLeads (r.after [e]) := ⟨⟨he, h.1⟩, h.2⟩

theorem done_leads (s : Scope ConsumerFields) : v.LoopLeads (Receive.done s) := ⟨trivial, trivial⟩

theorem resubscribe_leads (hv : v.raised = false) (s : Scope ConsumerFields) :
    v.LoopLeads (Receive.resubscribe env s) := by
  have hcreate : v.Leads (Endpoint.create consumerRole env s : Piece _ _ Empty) := create_leads hv s
  refine LoopLeads.after (by simp [Valid]) ?_
  change v.LoopLeads _
  unfold TopicConsumer.subscribe Ran.andThen
  split
  · rename_i k hk
    refine ⟨hcreate.1, ?_⟩
    have hduring := hcreate.2
    rw [hk] at hduring
    cases k <;> exact hduring
  · rename_i x _
    exact x.elim
  · exact ⟨by simpa [Receive.done] using hcreate.1, trivial⟩

theorem receive_holds {s : Scope ConsumerFields} (h : v.Holds s.self) :
    v.Holds (TopicConsumer.receive env s).1.self := by
  have hcount : v.Holds (if s.self.stub = none then s else Endpoint.countRequest s).self := by
    split
    · exact h
    · exact ⟨h.raised, h.current⟩
  unfold TopicConsumer.receive
  dsimp only
  split <;> exact hcount

theorem receive_opens {s : Scope ConsumerFields} {call : Call} (h : v.Holds s.self)
    (hcall : (TopicConsumer.receive env s).2 = .ok call) : v.Valid (.rpc call) := by
  obtain ⟨hstub, hrequest, hheader⟩ := receive_ok env hcall
  obtain ⟨asked, hcurrent, hconn, hasked⟩ := h.current
  intro call' n id heq hid
  cases heq
  rw [hrequest, Request.receiveMessages.injEq] at hid
  rw [hstub, Option.some.injEq] at hconn
  exact ⟨h.raised, asked, s.self.address, hid.2 ▸ hcurrent, hconn, hasked, hheader⟩

theorem turn_leads {s : Scope ConsumerFields} (h : v.Holds s.self) (n : Nat) :
    v.LoopLeads (Receive.turn env a n s) := by
  have hstate := @receive_holds env v s h
  unfold Receive.turn
  split
  · exact done_leads s
  · split
    · rename_i s' call heq
      have hok : (TopicConsumer.receive env s).2 = .ok call := by rw [heq]
      have hvalid := receive_opens h hok
      obtain ⟨-, hrequest, -⟩ := receive_ok env hok
      rw [heq] at hstate
      refine ⟨⟨hvalid, trivial⟩, ?_⟩
      rw [replay_cons, apply_rpc (by simp [hrequest])]
      exact hstate
    · exact resubscribe_leads h.raised _
    · rename_i s' err _ heq
      rw [heq] at hstate
      split
      · split
        · exact resubscribe_leads h.raised _
        · exact ⟨by simp [Valid], hstate⟩
      · exact done_leads _

theorem streamOver_leads {s : Scope ConsumerFields} (h : v.Holds s.self) :
    v.LoopLeads (Receive.streamOver env a s) := by
  unfold Receive.streamOver
  split
  · exact done_leads s
  · split
    · exact LoopLeads.after (by simp [Valid]) (resubscribe_leads h.raised _)
    · exact turn_leads h 0

theorem taken_leads {s : Scope ConsumerFields} (h : v.Holds s.self) (call : Call)
    (m : StreamMessage) : v.LoopLeads (Receive.taken env a call m s) := by
  unfold Receive.taken
  split
  · exact done_leads s
  · split
    · exact streamOver_leads h
    · split
      · exact ⟨trivial, h⟩
      · exact ⟨by simp [Valid], h⟩

theorem resubscribed_leads {r : Piece ConsumerFields Registering Nat} (h : v.Leads r) :
    v.LoopLeads (Receive.resubscribed env a r) := by
  obtain ⟨hlog, hduring⟩ := h
  unfold Receive.resubscribed Ran.andThen
  split
  · rename_i k hk
    rw [hk] at hduring
    refine ⟨hlog, ?_⟩
    cases k <;> exact hduring
  · rename_i id hk
    rw [hk] at hduring
    obtain ⟨hturn, hlooping⟩ :
        (replay apply v r.log).LoopLeads (Receive.turn env a 0 r.state) := turn_leads hduring 0
    refine ⟨(always_append _ _ _ _).mpr ⟨hlog, hturn⟩, ?_⟩
    rw [Ran.after_log, replay_append]
    exact hlooping
  · exact ⟨by simpa [Receive.done] using hlog, trivial⟩

theorem receivePiece_leads {s : Scope ConsumerFields} {status : ReceiveStatus} {w : Wake}
    {r : Piece ConsumerFields Receiving Unit} (h : v.Looping s.self status)
    (hr : Consumer.receivePiece env a s status w = some r) : v.LoopLeads r := by
  rcases receivePiece_cases env hr with ⟨rfl, -, rfl⟩ | ⟨k, rfl, hresume⟩
  · exact turn_leads h 0
  cases Receive.resumption hresume with
  | took call m => exact LoopLeads.after (by simp [Valid]) (taken_leads h call m)
  | ended | failed => exact LoopLeads.after (by simp [Valid]) (streamOver_leads h)
  | room => exact ⟨by simp [Valid], h⟩
  | slept n => exact turn_leads h n
  | subscribing k w r' hr' => exact resubscribed_leads (resume_leads h hr')

end Loop

end Subscription

namespace Consumer

/-- What the journal of the partition `r` says of its last subscription. -/
def subscriptionOf (s : ConsumerState) (r : Nat) : Subscription :=
  replay Subscription.apply {} (logOf r s.pool.trace)

/-- Every `ReceiveMessages` of the partition `r` opens its stream with its current subscription. -/
def OpensCurrent (s : ConsumerState) (r : Nat) : Prop :=
  Always Subscription.apply Subscription.Valid {} (logOf r s.pool.trace)

/-- The coroutine that subscribes the partition first, and then its receive loop, know where they
are. -/
structure Knows (s : ConsumerState) (r : Nat) : Prop where
  opens : OpensCurrent s r
  child : ∀ e o, s.pool.endpoints[r]? = some e → loopOf s r = none →
    s.pool.children[r]? = some (.started o) → (subscriptionOf s r).During e o
  loop : ∀ e status, s.pool.endpoints[r]? = some e → loopOf s r = some status →
    (subscriptionOf s r).Looping e status

theorem Knows.aside {s s' : ConsumerState} {r : Nat} (h : Knows s r) {log : List Event}
    (hlog : logOf r s'.pool.trace = logOf r s.pool.trace ++ log)
    (hsilent : ∀ e ∈ log, ∀ v : Subscription, v.apply e = v ∧ v.Valid e)
    (he : ∀ e', s'.pool.endpoints[r]? = some e' → ∃ e, s.pool.endpoints[r]? = some e ∧
      e'.address = e.address ∧ e'.id = e.id ∧ e'.stub = e.stub)
    (hchild : s'.pool.children[r]? = s.pool.children[r]?)
    (hnone : loopOf s' r = none → loopOf s r = none)
    (hloop : ∀ status, loopOf s' r = some status → loopOf s r = some status ∨ status.over = true) :
    Knows s' r := by
  have hsub : subscriptionOf s' r = subscriptionOf s r := by
    unfold subscriptionOf
    rw [hlog, replay_append]
    exact replay_eq_self fun e hmem => (hsilent e hmem _).1
  constructor
  · unfold OpensCurrent
    rw [hlog, always_append]
    exact ⟨h.opens, always_of_fixed fun e hmem => hsilent e hmem _⟩
  · intro e' o he' hl ho
    obtain ⟨e, hself, haddress, hid, hstub⟩ := he e' he'
    rw [hsub]
    exact (h.child e o hself (hnone hl) (hchild ▸ ho)).congr haddress hid hstub
  · intro e' status he' hl
    obtain ⟨e, hself, haddress, hid, hstub⟩ := he e' he'
    rcases hloop status hl with hsame | hover
    · rw [hsub]
      exact (h.loop e status hself hsame).congr haddress hid hstub
    · -- A loop that is over opens no stream.
      unfold ReceiveStatus.over at hover
      split at hover
      · trivial
      · trivial
      · trivial
      · cases hover

variable {s s' : ConsumerState} {r : Nat}

theorem knows_born (hs : Sound s) (hnone : s.pool.endpoints[r]? = none)
    (hchild : s'.pool.children[r]? = some .scheduled) (hlog : logOf r s'.pool.trace = [])
    (hloop : loopOf s' r = loopOf s r) : Knows s' r := by
  constructor
  · unfold OpensCurrent
    rw [hlog]
    trivial
  · intro e o _ _ ho
    rw [hchild] at ho
    cases ho
  · intro e status _ hstatus
    rw [hloop] at hstatus
    exact (endpoint_of_loop hs hstatus hnone).elim

theorem Knows.child_runs (h : Knows s r) (hs : Sound s) {w : Wake} {env : Env} {c : Child}
    (hc : s.pool.children[r]? = some c) {sc : Scope ConsumerFields} (hsc : s.pool.scope r = some sc)
    {ran : Piece ConsumerFields Registering Nat}
    (hran : Pool.childPiece consumerRole env sc c w = some ran)
    (hchild : s'.pool.children[r]? = some (.started ran.next)) (hruns : s.pool.Runs s'.pool r ran)
    (hloop : loopOf s' r = loopOf s r) : Knows s' r := by
  have hself := (Pool.scope_eq_some.mp hsc).1
  have hnone := loopOf_of_childPiece hs hc hran
  have hleads : (subscriptionOf s r).Leads ran := by
    rcases Pool.childPiece_cases hran with ⟨rfl, -, rfl⟩ | ⟨k, rfl, hresume⟩
    -- Nothing was written before the first piece.
    · have hfresh : subscriptionOf s r = {} := by
        unfold subscriptionOf
        rw [hs.pool.scheduled r hc]
        rfl
      rw [hfresh]
      exact Subscription.create_leads rfl sc
    · exact Subscription.resume_leads (h.child sc.self _ hself hnone hc) hresume
  constructor
  · unfold OpensCurrent
    rw [hruns.log, always_append]
    exact ⟨h.opens, hleads.1⟩
  · intro e o he _ ho
    rw [hruns.endpoint, Option.some.injEq] at he
    rw [hchild, Option.some.injEq, Child.started.injEq] at ho
    subst he ho
    unfold subscriptionOf
    rw [hruns.log, replay_append]
    exact hleads.2
  · intro e status _ hstatus
    rw [hloop, hnone] at hstatus
    cases hstatus

theorem Knows.starts (h : Knows s r) (hleaves : s.pool.Leaves s'.pool r) (hnone : loopOf s r = none)
    {id : Nat} (hchild : s.pool.children[r]? = some (.started (.ret id)))
    (hloop : loopOf s' r = some .scheduled) : Knows s' r := by
  have hsub : subscriptionOf s' r = subscriptionOf s r := by
    unfold subscriptionOf
    rw [hleaves.log]
  constructor
  · unfold OpensCurrent
    rw [hleaves.log]
    exact h.opens
  · intro e o _ hl _
    rw [hloop] at hl
    cases hl
  · intro e status he hstatus
    rw [hleaves.endpoint] at he
    rw [hloop, Option.some.injEq] at hstatus
    subst hstatus
    rw [hsub]
    exact h.child e _ he hnone hchild

theorem Knows.loop_runs (h : Knows s r) {w : Wake} {env : Env} {status : ReceiveStatus}
    (hstatus : loopOf s r = some status) {sc : Scope ConsumerFields} (hsc : s.pool.scope r = some sc)
    {a : LoopArgs} {ran : Piece ConsumerFields Receiving Unit}
    (hran : receivePiece env a sc status w = some ran) (hruns : s.pool.Runs s'.pool r ran)
    (hloop : loopOf s' r = some (.started ran.next)) : Knows s' r := by
  have hself := (Pool.scope_eq_some.mp hsc).1
  have hleads := Subscription.receivePiece_leads (h.loop sc.self status hself hstatus) hran
  constructor
  · unfold OpensCurrent
    rw [hruns.log, always_append]
    exact ⟨h.opens, hleads.1⟩
  · intro e o _ hl _
    rw [hloop] at hl
    cases hl
  · intro e status' he hstatus'
    rw [hruns.endpoint, Option.some.injEq] at he
    rw [hloop, Option.some.injEq] at hstatus'
    subst he hstatus'
    unfold subscriptionOf
    rw [hruns.log, replay_append]
    exact hleads.2

theorem Knows.acks (h : Knows s r) {env : Env} {text : String} {request : Request}
    (hrequest : (∃ a, request = .ack a) ∨ ∃ n, request = .nack n) {sc : Scope ConsumerFields}
    {call : Call} (hcall : TopicConsumer.onStub env text request sc = .ok call)
    (he : s'.pool.endpoints[r]? = s.pool.endpoints[r]?)
    (hchild : s'.pool.children[r]? = s.pool.children[r]?)
    (hlog : logOf r s'.pool.trace = logOf r s.pool.trace ++ [.rpc call])
    (hloop : loopOf s' r = loopOf s r) : Knows s' r := by
  refine h.aside hlog (fun e hmem v => ?_) (fun e' he' => ⟨e', he ▸ he', rfl, rfl, rfl⟩) hchild
    (fun hnone => hloop ▸ hnone) fun status hstatus => Or.inl (hloop ▸ hstatus)
  have hreq := (onStub_ok env hcall).2.1
  rw [List.mem_singleton.mp hmem]
  rcases hrequest with ⟨a, rfl⟩ | ⟨n, rfl⟩ <;>
    exact ⟨Subscription.apply_rpc (by simp [hreq]) v, Subscription.valid_rpc (by simp [hreq]) v⟩

theorem Knows.checks (h : Knows s r) {e : TopicConsumer} {l : HealthLoop} {position : HealthAt}
    {log : List Event} {stop : Bool} (hchecks : Pool.Checks l e.stopEvent position log stop)
    (hon : s.pool.ChecksOn s'.pool r e l position log stop) (hloop : loopOf s' r = loopOf s r) :
    Knows s' r := by
  refine h.aside hon.log (fun x hmem v => ?_) (fun e' he' => ⟨e, hon.self, ?_⟩) hon.child
    (fun hnone => hloop ▸ hnone) fun status hstatus => Or.inl (hloop ▸ hstatus)
  · cases hchecks with
    | poll _ _ call n hcall =>
      rw [List.mem_singleton.mp hmem]
      exact ⟨Subscription.apply_rpc (by simp [hcall]) v, Subscription.valid_rpc (by simp [hcall]) v⟩
    | close call =>
      rw [List.mem_singleton.mp hmem]
      exact ⟨rfl, by simp [Subscription.Valid]⟩
    | _ => simp at hmem
  · rw [hon.endpoint, Option.some.injEq] at he'
    subst he'
    cases stop <;> exact ⟨rfl, rfl, rfl⟩

theorem touches_knows {l : ConsumerLabel} (hs : Sound s) (htouch : Touches s s' r l) (h : Knows s r) :
    Knows s' r := by
  cases htouch with
  | leaves l hleaves hloop =>
    refine h.aside (by rw [hleaves.log, List.append_nil]) (by simp) (fun e' he' => ?_)
      hleaves.child (fun hnone => hloop ▸ hnone) fun status hstatus => Or.inl (hloop ▸ hstatus)
    exact ⟨e', hleaves.endpoint ▸ he', rfl, rfl, rfl⟩
  | born w name hnone he hchild hlog hloops hloop => exact knows_born hs hnone hchild hlog hloop
  | child w env c hc sc hsc ran hran hchild hruns hloop =>
    exact h.child_runs hs hc hsc hran hchild hruns hloop
  | starts hleaves hnone id hchild hloop => exact h.starts hleaves hnone hchild hloop
  | receiving i w env status hstatus sc hsc queue ran hran hchild hruns hloop =>
    exact h.loop_runs hstatus hsc hran hruns hloop
  | acks l env text request hrequest sc hsc call hcall he hchild hlog hloops hloop =>
    exact h.acks hrequest hcall he hchild hlog hloop
  | health task w env e l position log stop hchecks hon hloop => exact h.checks hchecks hon hloop
  | close he hchild log hlog hstopped hnone hover =>
    refine h.aside hlog (fun x hmem v => ?_) (fun e' he' => ?_) hchild hnone
      fun status hstatus => Or.inr (hover status hstatus)
    · rw [hstopped x hmem]
      exact ⟨rfl, by simp [Subscription.Valid]⟩
    · obtain ⟨e, hself, rfl | rfl⟩ := he e' he'
      · exact ⟨e', hself, rfl, rfl, rfl⟩
      · exact ⟨e, hself, rfl, rfl, rfl⟩

/-- Every stream is opened with the subscription that is current, whatever the brokers and the
lookups did. -/
theorem streams_open_current {client : Client} {config : ConsumerConfig} {ls : List ConsumerLabel}
    {s : ConsumerState} (h : exec step (init client config) ls = some s)
    (honce : ls.countP ConsumerLabel.isReceive = 1) (r : Nat) : OpensCurrent s r := by
  have hknows : Knows s r := exec_partition (L := fun _ => True)
    (fun _ _ _ _ hs _ htouch hknows => touches_knows hs htouch hknows)
    (fun _ => ⟨trivial, by simp [init], by simp [init]⟩) (fun _ _ => trivial) (Nat.le_of_eq honce) h r
  exact hknows.opens

/-- The broker moves the partition to `b` and answers the first `Subscribe` there with an error. -/
def movedResubscription : List ConsumerLabel :=
  [.subscribe {}, .partitions (.answer (.topicPartitions ["t"])), .child 0 .start {},
    .child 0 (.answer (.address "a")) {}, .child 0 (.answer (.registered 1)) {}, .gathered,
    .receive, .receiving 0 .start {}, .health 0 .start {}, .health 0 (.answer (.health .close)) {},
    .receiving 0 (.answer .streamEnd) {}, .receiving 0 (.answer (.address "b")) {},
    .receiving 0 (.fail .unavailable) {}, .receiving 0 (.answer (.address "c")) {},
    .receiving 0 .timer {}, .receiving 0 (.answer (.registered 2)) {}]

theorem moved_resubscription_opens_current :
    ∃ s, exec step (init (.init "a" {}) .oneRetry) movedResubscription = some s ∧
      OpensCurrent s 0 := by
  obtain ⟨s, hs⟩ := Option.isSome_iff_exists.mp
    (by rfl : (exec step (init (.init "a" {}) .oneRetry) movedResubscription).isSome)
  exact ⟨s, hs, streams_open_current hs (by decide) 0⟩

end Consumer

end Danube
