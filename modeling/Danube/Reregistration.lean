import Danube.Failover
import Danube.SendBudget

/-!
# Registering a name again

A broker that keeps the name of a producer refuses another `CreateProducer` for it, and the client
takes the refusal for final.
-/

namespace Danube

open Async

variable {ρ α : Type}

/-! ## The names in the requests of a registration -/

/-- What the RPC is about that the piece leaves the call waiting for. -/
structure Named (role : Role ρ) (topic name : String) (o : Outcome Registering α Error) : Prop where
  lookup : ∀ n call, o = .await (.lookup n call) → ∃ i, call.request = .topicLookup i topic
  request : ∀ n addr call, o = .await (.request n addr call) →
    ∃ e : Endpoint ρ, call.request = role.request e ∧ e.topic = topic ∧ e.name = name

namespace Endpoint

section Pieces

variable (role : Role ρ) (env : Env) {topic name : String}

theorem silent_named {o : Outcome Registering α Error}
    (hlookup : ∀ n call, o ≠ .await (.lookup n call))
    (hrequest : ∀ n addr call, o ≠ .await (.request n addr call)) : Named role topic name o where
  lookup n call h := (hlookup n call h).elim
  request n addr call h := (hrequest n addr call h).elim

theorem lookup_named {s : Scope ρ} {c : Client} {call : Call} (n : Nat) (htopic : s.self.topic = topic)
    (h : s.client.lookupTopic env.lookup s.self.connectUrl s.self.topic = (c, .ok call)) :
    Named role topic name (.await (.lookup n call) : Outcome Registering α Error) where
  lookup := by
    intro m call' ho
    cases ho
    exact htopic ▸ (Client.lookupTopic_ok h).2
  request := by simp

theorem retry_named (n : Nat) {s : Scope ρ} (htopic : s.self.topic = topic) :
    Named role topic name (retry env n s : Piece ρ Registering α).next := by
  unfold retry backoff
  split
  · rename_i heq
    exact lookup_named role env n htopic heq
  · exact silent_named role (by simp) (by simp)

theorem failed_named (n : Nat) (err : Error) {s : Scope ρ} (htopic : s.self.topic = topic) :
    Named role topic name (failed env n err s : Piece ρ Registering α).next := by
  unfold failed
  split
  · split
    · exact silent_named role (by simp) (by simp)
    · exact retry_named role env (n + 1) htopic
  · exact silent_named role (by simp) (by simp)

theorem attempt_named (n : Nat) {s : Scope ρ} (htopic : s.self.topic = topic)
    (hname : s.self.name = name) :
    Named role topic name (attempt role env n s : Piece ρ Registering α).next := by
  unfold attempt
  split
  · exact failed_named role env n _ htopic
  · rw [Ran.after_next]
    split
    · exact failed_named role env n _ htopic
    · refine ⟨by simp, fun m addr call h => ?_⟩
      cases h
      exact ⟨s.self, rfl, htopic, hname⟩

theorem create_named {s : Scope ρ} (htopic : s.self.topic = topic) (hname : s.self.name = name) :
    Named role topic name (create role env s : Piece ρ Registering α).next := by
  unfold create
  rw [Ran.after_next]
  split
  · rename_i heq
    exact lookup_named role env 0 htopic heq
  · exact attempt_named role env 0 htopic hname

theorem afterLookup_named (n : Nat) {s : Scope ρ} (htopic : s.self.topic = topic)
    (hname : s.self.name = name) :
    Named role topic name (afterLookup role env n s : Piece ρ Registering α).next := by
  unfold afterLookup backoff
  split
  · exact attempt_named role env 0 htopic hname
  · exact silent_named role (by simp) (by simp)

theorem resolveSchema_named (n : Nat) {s : Scope ρ} (htopic : s.self.topic = topic) :
    Named role topic name (resolveSchema role env n s).next := by
  unfold resolveSchema
  split
  · exact silent_named role (by simp [returnId]) (by simp [returnId])
  · split
    · exact failed_named role env n _ htopic
    · exact silent_named role (by simp) (by simp)

theorem latestSchema_named (n : Nat) (ref : SchemaReference) (latest : SchemaInfo) {s : Scope ρ}
    (htopic : s.self.topic = topic) :
    Named role topic name (latestSchema role env n ref latest s).next := by
  have hresolved : Named role topic name (resolved role latest s).next :=
    silent_named role (by simp [resolved, returnId]) (by simp [resolved, returnId])
  unfold latestSchema
  split
  · split
    · exact failed_named role env n _ htopic
    · split
      · exact hresolved
      · split
        · exact failed_named role env n _ htopic
        · exact silent_named role (by simp) (by simp)
  · split
    · exact failed_named role env n _ htopic
    · exact hresolved
  · exact hresolved

theorem registered_named (n : Nat) (addr : BrokerAddress) (id : Nat) {s : Scope ρ}
    (htopic : s.self.topic = topic) :
    Named role topic name (registered role env n addr id s).next := by
  unfold registered checkHealth
  rw [Ran.after_next]
  split
  · exact failed_named role env n _ htopic
  · exact resolveSchema_named role env n htopic

theorem resume_named {s : Scope ρ} {k : Registering} {w : Wake} {r : Piece ρ Registering Nat}
    (htopic : s.self.topic = topic) (hname : s.self.name = name)
    (h : resume role env s k w = some r) : Named role topic name r.next := by
  cases resumption h with
  | moved n | notMoved n | lookupFailed n => exact afterLookup_named role env n htopic hname
  | slept n => exact attempt_named role env n htopic hname
  | answered n addr call id => exact registered_named role env n addr id htopic
  | refused n | latestFailed n | pinnedFailed n => exact failed_named role env n _ htopic
  | latest n call info ref => exact latestSchema_named role env n ref info htopic
  | pinned => exact silent_named role (by simp [resolved, returnId]) (by simp [resolved, returnId])

theorem resume_unanswered_quiet {s : Scope ρ} {k : Registering} {w : Wake} {r : Piece ρ Registering Nat}
    (hk : k.resolving = false)
    (hw : ∀ n addr call id, k = .request n addr call → w ≠ .reply (.ok (.registered id)))
    (h : resume role env s k w = some r) : Quiet r := by
  cases resumption h with
  | moved n => exact (afterLookup_quiet role env n _).after rfl rfl
  | notMoved n | lookupFailed n => exact afterLookup_quiet role env n s
  | slept n => exact attempt_quiet role env n s
  | answered => exact (hw _ _ _ _ rfl rfl).elim
  | refused n => exact failed_quiet env n _ s
  | _ => cases hk

end Pieces

end Endpoint

/-! ## Brokers that keep a name -/

/-- The brokers refuse a `CreateProducer` for the name on the topic. -/
def KeepName (brokers : Brokers) (topic name : String) : Prop :=
  ∀ call reply r, brokers call reply → call.request = .createProducer r → r.topicName = topic →
    r.producerName = name → ∃ text, reply = .error ⟨.alreadyExists, text⟩

/-- Lookups succeed, and the topic stays where it is. -/
def KeepTopic (brokers : Brokers) (topic : String) (addr : BrokerAddress) : Prop :=
  ∀ call reply n, brokers call reply → call.request = .topicLookup n topic →
    ∃ response, reply = .ok (.topicLookup response) ∧ Client.handleLookup response = .ok addr

theorem KeepName.refuses {brokers : Brokers} {topic name : String} (h : KeepName brokers topic name)
    {o : Outcome Registering α Error} (ho : Named producerRole topic name o) {n : Nat}
    {addr : BrokerAddress} {call : Call} (hk : o = .await (.request n addr call)) {reply : Reply}
    (hreply : brokers call reply) : ∃ text, reply = .error ⟨.alreadyExists, text⟩ := by
  obtain ⟨e, hrequest, htopic, hname⟩ := ho.request n addr call hk
  exact h call reply _ hreply hrequest htopic hname

namespace TopicProducer

/-- A `create()` that is not past its `CreateProducer`, or raised. -/
structure Unregistered (topic name : String) (t : Piece ProducerFields Creating Nat) : Prop where
  topicKept : t.state.self.topic = topic
  nameKept : t.state.self.name = name
  named : Named producerRole topic name t.next
  quiet : (∃ k, t.next = .await k ∧ k.resolving = false) ∨ ∃ err, t.next = .raise err

theorem resume_unregistered {env : Env} {s : Scope ProducerFields} {k : Creating} {w : Wake}
    {r : Piece ProducerFields Creating Nat} (hk : k.resolving = false)
    (hw : ∀ n addr call id, k = .request n addr call → w ≠ .reply (.ok (.registered id)))
    (h : createResume env s k w = some r) : Unregistered s.self.topic s.self.name r := by
  have hj := resume_journaled producerRole env h
  exact ⟨hj.topic, hj.name, Endpoint.resume_named producerRole env rfl rfl h,
    (Endpoint.resume_unanswered_quiet producerRole env hk hw h).next⟩

theorem step_unregistered {brokers : Brokers} {topic name : String}
    (hkeep : KeepName brokers topic name) {t t' : Piece ProducerFields Creating Nat}
    {l : Wake × Env} (ht : Unregistered topic name t)
    (hl : brokers.Answer Registering.pending t l)
    (hstep : Endpoint.advance producerRole t l = some t') : Unregistered topic name t' := by
  obtain ⟨k, r, hk, hr, rfl⟩ := advance_eq_some.mp hstep
  have hres : k.resolving = false := by
    rcases ht.quiet with ⟨k', hk', hres⟩ | ⟨err, herr⟩
    · rw [hk, Outcome.await.injEq] at hk'
      exact hk' ▸ hres
    · rw [hk] at herr
      cases herr
  have hw : ∀ n addr call id, k = .request n addr call → l.1 ≠ .reply (.ok (.registered id)) := by
    rintro n addr call id rfl hreply
    obtain ⟨text, htext⟩ := hkeep.refuses ht.named hk (hl.reply hk rfl hreply)
    cases htext
  have hnew := resume_unregistered hres hw hr
  rw [ht.topicKept, ht.nameKept] at hnew
  exact ⟨hnew.topicKept, hnew.nameKept, hnew.named, hnew.quiet⟩

/-- After a `CreateProducer` whose response was lost, `create()` does not return. -/
theorem lost_response_unregistered {brokers : Brokers} {s : Scope ProducerFields} {env : Env}
    (hkeep : KeepName brokers s.self.topic s.self.name) {pre post : List (Wake × Env)}
    {t₀ t₁ t : Piece ProducerFields Creating Nat}
    (hpre : exec (Endpoint.advance producerRole) (create env s) pre = some t₀) {n : Nat}
    {addr : BrokerAddress} {call : Call} (hrequest : t₀.next = .await (.request n addr call))
    {err : RpcError} {env' : Env}
    (hlost : Endpoint.advance producerRole t₀ (.reply (.error err), env') = some t₁)
    (hans : Steps (Endpoint.advance producerRole) (brokers.Answer Registering.pending) t₁ post)
    (h : exec (Endpoint.advance producerRole) t₁ post = some t) :
    Unregistered s.self.topic s.self.name t := by
  have hj := Endpoint.call_journaled producerRole hpre
  obtain ⟨k, r, hk, hr, rfl⟩ := advance_eq_some.mp hlost
  rw [hrequest, Outcome.await.injEq] at hk
  subst hk
  have hfirst := resume_unregistered (by rfl) (by simp) hr
  rw [hj.topic, hj.name] at hfirst
  have hstart : Unregistered s.self.topic s.self.name (r.after t₀.log) :=
    ⟨hfirst.topicKept, hfirst.nameKept, hfirst.named, hfirst.quiet⟩
  exact exec_invariant_of_steps (P := Unregistered s.self.topic s.self.name)
    (fun _ _ _ ht hl hstep => step_unregistered hkeep ht hl hstep) hstart hans h

end TopicProducer

/-! ## When nothing in the client stands in the way -/

/-- No token supplier raises, and every channel can be created. -/
def Outside.Fine (out : Outside) : Prop :=
  (∀ supplier, ∃ token, out.token supplier = .ok token) ∧ ∀ url, out.channel url = none

def Env.Fine (env : Env) : Prop := env.lookup.Fine ∧ env.call.Fine

namespace Client

theorem attachTokenIfNeeded_fine {out : Outside} (h : out.Fine) (c : Client) :
    ∃ metadata, c.attachTokenIfNeeded out = .ok metadata := by
  unfold Client.attachTokenIfNeeded ConnectionOptions.attachTokenIfNeeded ConnectionOptions.resolveToken
  cases c.connectionManager.options.tokenSupplier with
  | none => exact ⟨_, rfl⟩
  | some supplier =>
    obtain ⟨token, htoken⟩ := h.1 supplier
    simp only [htoken]
    exact ⟨_, rfl⟩

theorem getConnection_fine {out : Outside} (h : out.Fine) (c : Client) (b u : String) :
    ∃ conn, (c.getConnection out b u).2 = .ok conn := by
  unfold getConnection ConnectionManager.getConnection
  split
  · exact ⟨_, rfl⟩
  · split
    · rename_i text htext
      rw [h.2] at htext
      cases htext
    · exact ⟨_, rfl⟩

theorem lookupTopic_fine {out : Outside} (h : out.Fine) (c : Client) (addr topic : String) :
    ∃ call, (c.lookupTopic out addr topic).2 = .ok call := by
  obtain ⟨conn, hconn⟩ := getConnection_fine h c addr addr
  obtain ⟨metadata, hmetadata⟩ :=
    attachTokenIfNeeded_fine h (c.getConnection out addr addr).1
  have hpair : c.getConnection out addr addr = ((c.getConnection out addr addr).1, .ok conn) :=
    Prod.ext rfl hconn
  have hprepare : c.prepare out addr =
      ((c.getConnection out addr addr).1, .ok (conn, metadata)) := by
    unfold prepare
    rw [hpair]
    simp only [hmetadata]
  unfold lookupTopic
  rw [hprepare]
  exact ⟨_, rfl⟩

end Client

namespace Endpoint

variable (role : Role ρ) (env : Env)

theorem attempt_sends (n : Nat) (s : Scope ρ) :
    (∃ call, (attempt role env n s : Piece ρ Registering α).next =
      .await (.request n s.self.address call)) ∨
    ∃ err, (attempt role env n s : Piece ρ Registering α).next = .raise err ∧ ¬ env.call.Fine := by
  have hother : ∀ text (s : Scope ρ),
      (failed env n (.other text) s : Piece ρ Registering α).next = .raise (.other text) := by
    intro text s
    simp [failed, RetryManager.isRetryable]
  unfold attempt
  split
  · rename_i c err hconn
    obtain ⟨text, rfl⟩ := Client.getConnection_error hconn
    refine Or.inr ⟨_, hother text _, fun hfine => ?_⟩
    obtain ⟨conn, hok⟩ := Client.getConnection_fine hfine s.client s.self.brokerAddr s.self.connectUrl
    rw [hconn] at hok
    cases hok
  · rename_i c conn hconn
    rw [Ran.after_next]
    cases htoken : c.attachTokenIfNeeded env.call with
    | error err =>
      obtain ⟨text, rfl⟩ := Client.attachTokenIfNeeded_error htoken
      refine Or.inr ⟨_, hother text _, fun hfine => ?_⟩
      obtain ⟨metadata, hok⟩ := Client.attachTokenIfNeeded_fine hfine c
      rw [htoken] at hok
      cases hok
    | ok metadata => exact Or.inl ⟨_, rfl⟩

theorem create_starts (s : Scope ρ) :
    (∃ call, (create role env s : Piece ρ Registering α).next = .await (.lookup 0 call)) ∨
    (∃ addr call, (create role env s : Piece ρ Registering α).next =
      .await (.request 0 addr call)) ∨
    ∃ err, (create role env s : Piece ρ Registering α).next = .raise err ∧ ¬ env.Fine := by
  unfold create
  rw [Ran.after_next]
  split
  · exact Or.inl ⟨_, rfl⟩
  · rename_i c err hlookup
    right
    rcases attempt_sends (α := α) role env 0 { s with client := c } with ⟨call, hcall⟩ | ⟨err, herr, hno⟩
    · exact Or.inl ⟨_, call, hcall⟩
    · exact Or.inr ⟨err, herr, fun hfine => hno hfine.2⟩

end Endpoint

/-! ## A send that has exhausted its retries -/

/-- The reply is an error that a retry loop goes on after. -/
def Reply.isRetryable : Reply → Bool
  | .error err => RetryManager.isRetryable (.rpc err)
  | .ok _ => false

/-- The reply is that of a message that the broker took. -/
def Reply.isMessage : Reply → Bool
  | .ok (.message _) => true
  | _ => false

namespace SendCall

/-- The broker's reply to the message that the send waits for. -/
def messageReply : Outcome Sending Nat Error → Wake → Option Reply
  | .await (.message ..), .reply reply => some reply
  | _, _ => none

/-- The first `max_retries + 1` messages of the send fail with retryable errors, and any further one
is taken. -/
def Exhausts (call : SendCall) (t : Piece ProducerFields Sending Nat) (l : Wake × Env) : Prop :=
  ∀ reply ∈ messageReply t.next l.1,
    if messages t.log ≤ call.retryManager.maxRetries + 1 then Reply.isRetryable reply = true
    else Reply.isMessage reply = true

instance (call : SendCall) (t : Piece ProducerFields Sending Nat) (l : Wake × Env) :
    Decidable (call.Exhausts t l) :=
  inferInstanceAs (Decidable (∀ reply ∈ messageReply t.next l.1, _))

/-- How far a send has got on its way to the refusal, with how many messages sent. -/
inductive Place (maxRetries : Nat) (fine : Prop) (topic name : String) :
    Nat → Outcome Sending Nat Error → Prop
  | message (n : Nat) (rpc : Call) (hn : n ≤ maxRetries) :
    Place maxRetries fine topic name (n + 1) (.await (.message n rpc))
  | backoff (n : Nat) (hpos : 0 < n) (hn : n ≤ maxRetries) :
    Place maxRetries fine topic name n (.await (.backoff n))
  | lookup (sent : Nat) (err : Error) (rpc : Call) (hrpc : ∃ i, rpc.request = .topicLookup i topic) :
    Place maxRetries fine topic name sent (.await (.lookup err rpc))
  | lookedUp (sent : Nat) (rpc : Call) (hrpc : ∃ i, rpc.request = .topicLookup i topic) :
    Place maxRetries fine topic name sent (.await (.create (.lookup 0 rpc)))
  | asked (sent : Nat) (addr : BrokerAddress) (rpc : Call)
    (hrpc : ∃ e : TopicProducer, rpc.request = producerRole.request e ∧ e.topic = topic ∧
      e.name = name) :
    Place maxRetries fine topic name sent (.await (.create (.request 0 addr rpc)))
  | raised (sent : Nat) (err : Error) (herr : fine → ∃ text, err = .unrecoverable text) :
    Place maxRetries fine topic name sent (.raise err)

/-- The resumptions that the place is away from the start. -/
def reached (maxRetries : Nat) : Outcome Sending Nat Error → Nat
  | .await (.message n _) => 2 * n
  | .await (.backoff n) => 2 * n - 1
  | .await (.lookup ..) => 2 * maxRetries + 1
  | .await (.create (.lookup ..)) => 2 * maxRetries + 2
  | .await (.create _) => 2 * maxRetries + 3
  | _ => 2 * maxRetries + 4

theorem Place.next_ne_ret {maxRetries sent : Nat} {fine : Prop} {topic name : String}
    {o : Outcome Sending Nat Error} (h : Place maxRetries fine topic name sent o) (id : Nat) :
    o ≠ .ret id := by
  cases h <;> simp

theorem Place.unrecoverable {maxRetries sent : Nat} {fine : Prop} {topic name : String} {err : Error}
    (h : Place maxRetries fine topic name sent (.raise err)) (hfine : fine) :
    ∃ text, err = .unrecoverable text := by
  cases h with
  | raised _ _ herr => exact herr hfine

theorem reached_le {maxRetries sent : Nat} {fine : Prop} {topic name : String}
    {o : Outcome Sending Nat Error} (h : Place maxRetries fine topic name sent o) :
    reached maxRetries o ≤ 2 * maxRetries + 4 := by
  cases h <;> simp only [reached] <;> omega

section Pieces

variable {call : SendCall} {env : Env} {s : Scope ProducerFields} {maxRetries : Nat} {fine : Prop}
  {topic name : String}

theorem Attempts.place {n : Nat} {log : List Event} {o : Outcome Sending Nat Error}
    (h : Attempts env s n log o) (topic name : String) (hfine : fine → env.Fine)
    (hn : n ≤ maxRetries) :
    Place maxRetries fine topic name (n + messages log) o ∧ 2 * n ≤ reached maxRetries o := by
  cases h with
  | issued rpc hrpc htoken =>
    simp only [messages_cons, hrpc.message?, messages_nil, if_true, Nat.zero_add]
    exact ⟨.message n rpc hn, Nat.le_refl _⟩
  | refused err htoken =>
    refine ⟨.raised _ err fun hf => ?_, ?_⟩
    · exact (htoken (Client.attachTokenIfNeeded_fine (hfine hf).2 _)).elim
    · simp only [reached]
      omega

theorem caught_place {n : Nat} {err : RpcError} (herr : RetryManager.isRetryable (.rpc err) = true)
    (hcall : call.retryManager.maxRetries = maxRetries) (hfine : fine → env.Fine)
    (htopic : s.self.topic = topic) (hn : n ≤ maxRetries) :
    Place maxRetries fine topic name (n + 1 + messages (caught env call n (.rpc err) s).log)
        (caught env call n (.rpc err) s).next ∧
      2 * n < reached maxRetries (caught env call n (.rpc err) s).next := by
  unfold caught
  dsimp only
  rw [if_pos herr]
  split
  · -- The retries are used up: the send looks its broker up.
    unfold lookupAndRecreate
    split
    · rename_i c rpc hlookup
      refine ⟨.lookup _ _ rpc (htopic ▸ (Client.lookupTopic_ok hlookup).2), ?_⟩
      simp only [reached]
      omega
    · rename_i c e hlookup
      refine ⟨.raised _ _ fun hf => ?_, ?_⟩
      · obtain ⟨rpc, hok⟩ :=
          Client.lookupTopic_fine (hfine hf).1 s.client s.self.connectUrl s.self.topic
        rw [hlookup] at hok
        cases hok
      · simp only [raise, reached]
        omega
  · refine ⟨?_, ?_⟩
    · simp only [messages_cons, messages_nil, Event.message?]
      exact .backoff (n + 1) (by omega) (by omega)
    · simp only [reached]
      omega

theorem andThen_place {r : Piece ProducerFields Registering α} {sent : Nat}
    {onRet : Scope ProducerFields → α → Piece ProducerFields Sending Nat}
    (hnamed : Named producerRole topic name r.next)
    (h : (∃ addr call, r.next = .await (.request 0 addr call)) ∨
      ∃ err, r.next = .raise err ∧ (fine → ∃ text, err = .unrecoverable text)) :
    Place maxRetries fine topic name sent (r.andThen .create onRet fun s e => raise e s).next ∧
      2 * maxRetries + 2 < reached maxRetries (r.andThen .create onRet fun s e => raise e s).next := by
  unfold Ran.andThen
  rcases h with ⟨addr, call, hnext⟩ | ⟨err, hnext, herr⟩ <;> rw [hnext]
  · exact ⟨.asked sent addr call (hnamed.request 0 addr call hnext), by simp [reached]⟩
  · exact ⟨.raised sent err herr, by simp [raise, reached]⟩

theorem recreateProducer_place {sent : Nat} (hfine : fine → env.Fine) (htopic : s.self.topic = topic)
    (hname : s.self.name = name) :
    Place maxRetries fine topic name sent (recreateProducer env s).next ∧
      2 * maxRetries + 1 < reached maxRetries (recreateProducer env s).next := by
  have hnamed := Endpoint.create_named (α := Empty) producerRole env htopic hname
  rcases Endpoint.create_starts (α := Empty) producerRole env s with
    ⟨call, hnext⟩ | hrequest | ⟨err, hnext, hno⟩
  · unfold recreateProducer TopicProducer.create Ran.andThen
    rw [hnext]
    exact ⟨.lookedUp sent call (hnamed.lookup 0 call hnext), by simp [reached]⟩
  · exact And.imp_right Nat.lt_of_succ_lt (andThen_place hnamed (Or.inl hrequest))
  · have hno' : fine → ∃ text, err = .unrecoverable text := fun hf => (hno (hfine hf)).elim
    exact And.imp_right Nat.lt_of_succ_lt (andThen_place hnamed (Or.inr ⟨err, hnext, hno'⟩))

theorem createResume_place {brokers : Brokers} (hkeep : KeepName brokers topic name)
    {addr : BrokerAddress} (hstays : KeepTopic brokers topic addr) (hfine : fine → env.Fine)
    (htopic : s.self.topic = topic) (hname : s.self.name = name) {sent sent' : Nat}
    {k : TopicProducer.Creating} {w : Wake} {r : Piece ProducerFields TopicProducer.Creating Nat}
    (hplace : Place maxRetries fine topic name sent (.await (.create k)))
    (hreply : ∀ rpc reply, k.pending = some rpc → w = .reply reply → brokers rpc reply)
    (h : TopicProducer.createResume env s k w = some r) :
    Place maxRetries fine topic name sent' (recreated env call r).next ∧
      reached maxRetries (.await (.create k)) < reached maxRetries (recreated env call r).next := by
  have hnamed := Endpoint.resume_named producerRole env htopic hname h
  cases Endpoint.resumption h with
  | moved n rpc response addr' haddr' =>
    cases hplace with
    | lookedUp _ _ hrpc =>
      -- The lookup finds the same broker.
      obtain ⟨i, hi⟩ := hrpc
      obtain ⟨response, hok, haddr⟩ := hstays rpc _ i (hreply rpc _ rfl rfl) hi
      cases hok
      obtain rfl := Except.ok.inj (haddr'.symm.trans haddr)
      have hsends := Endpoint.attempt_sends (α := Nat) producerRole env 0
        { s with self := s.self.moveTo addr' }
      refine andThen_place hnamed ?_
      rcases hsends with ⟨rpc', hnext⟩ | ⟨err, hnext, hno⟩
      · exact Or.inl ⟨_, rpc', hnext⟩
      · exact Or.inr ⟨err, hnext, fun hf => (hno (hfine hf).2).elim⟩
  | notMoved n rpc response err herr =>
    cases hplace with
    | lookedUp _ _ hrpc =>
      obtain ⟨i, hi⟩ := hrpc
      obtain ⟨response, hok, haddr⟩ := hstays rpc _ i (hreply rpc _ rfl rfl) hi
      cases hok
      cases herr.symm.trans haddr
  | lookupFailed n rpc err =>
    cases hplace with
    | lookedUp _ _ hrpc =>
      obtain ⟨i, hi⟩ := hrpc
      obtain ⟨response, hok, -⟩ := hstays rpc _ i (hreply rpc _ rfl rfl) hi
      cases hok
  | answered n addr' rpc id =>
    cases hplace with
    | asked _ _ _ hrpc =>
      obtain ⟨e, hreq, hetopic, hename⟩ := hrpc
      -- The broker knows the name, and refuses it.
      obtain ⟨text, htext⟩ := hkeep rpc _ _ (hreply rpc _ rfl rfl) hreq hetopic hename
      cases htext
  | refused n addr' rpc err =>
    cases hplace with
    | asked _ _ _ hrpc =>
      obtain ⟨e, hreq, hetopic, hename⟩ := hrpc
      obtain ⟨text, htext⟩ := hkeep rpc _ _ (hreply rpc _ rfl rfl) hreq hetopic hename
      cases htext
      exact ⟨.raised _ _ fun _ => ⟨_, rfl⟩, Nat.lt_succ_self (2 * maxRetries + 3)⟩
  | _ => cases hplace

theorem resume_place {brokers : Brokers} (hkeep : KeepName brokers topic name)
    {addr : BrokerAddress} (hstays : KeepTopic brokers topic addr)
    (hcall : call.retryManager.maxRetries = maxRetries) (hfine : fine → env.Fine)
    (htopic : s.self.topic = topic) (hname : s.self.name = name) (hs : s.self.stub ≠ none)
    {sent : Nat} {k : Sending} {w : Wake} {r : Piece ProducerFields Sending Nat}
    (hplace : Place maxRetries fine topic name sent (.await k))
    (hmessage : ∀ n rpc reply, k = .message n rpc → w = .reply reply → Reply.isRetryable reply = true)
    (hreply : ∀ rpc reply, k.pending = some rpc → w = .reply reply → brokers rpc reply)
    (h : call.resume env s k w = some r) :
    Place maxRetries fine topic name (sent + messages r.log) r.next ∧
      reached maxRetries (.await k) < reached maxRetries r.next := by
  cases resumption h with
  | answered => cases hmessage _ _ _ rfl rfl
  | failed n rpc err =>
    cases hplace with
    | message n rpc hn => exact caught_place (hmessage _ _ _ rfl rfl) hcall hfine htopic hn
  | slept =>
    cases hplace with
    | backoff _ hpos hn =>
      -- The next message of the budget.
      have hattempt := @attempt_spec call env s sent hs
      obtain ⟨hnext, hle⟩ := hattempt.place topic name hfine hn
      refine ⟨hnext, ?_⟩
      have hbackoff : reached maxRetries (.await (.backoff sent)) = 2 * sent - 1 := rfl
      omega
  | moved err rpc response addr' haddr' =>
    cases hplace with
    | lookup => exact recreateProducer_place hfine (by exact htopic) (by exact hname)
  | notMoved err rpc response err' herr =>
    cases hplace with
    | lookup _ _ _ hrpc =>
      obtain ⟨i, hi⟩ := hrpc
      obtain ⟨response', hok, haddr⟩ := hstays rpc _ i (hreply rpc _ rfl rfl) hi
      cases hok
      cases herr.symm.trans haddr
  | lookupFailed err rpc text =>
    cases hplace with
    | lookup _ _ _ hrpc =>
      obtain ⟨i, hi⟩ := hrpc
      obtain ⟨response, hok, -⟩ := hstays rpc _ i (hreply rpc _ rfl rfl) hi
      cases hok
  | creating k w r' hr' =>
    exact createResume_place hkeep hstays hfine htopic hname hplace
      (fun rpc reply hrpc hw => hreply rpc reply hrpc hw) hr'

end Pieces

/-- The send is at such a place, on the endpoint it started with. -/
structure Refused (maxRetries : Nat) (fine : Prop) (topic name : String)
    (t : Piece ProducerFields Sending Nat) : Prop where
  topicKept : t.state.self.topic = topic
  nameKept : t.state.self.name = name
  stub : t.state.self.stub ≠ none
  place : Place maxRetries fine topic name (messages t.log) t.next

theorem attempt_refused (call : SendCall) {env : Env} {s : Scope ProducerFields} {fine : Prop}
    (hfine : fine → env.Fine) (hs : s.self.stub ≠ none) :
    Refused call.retryManager.maxRetries fine s.self.topic s.self.name (attempt env call 0 s) := by
  have hj := sendAttempt_journaled env call 0 s
  have hplace := (@attempt_spec call env s 0 hs).place s.self.topic s.self.name hfine
    (Nat.zero_le call.retryManager.maxRetries)
  rw [Nat.zero_add] at hplace
  exact ⟨hj.topic, hj.name, hj.stub_ne_none hs, hplace.1⟩

theorem Exhausts.isRetryable {call : SendCall} {fine : Prop} {topic name : String}
    {t : Piece ProducerFields Sending Nat} {l : Wake × Env} (h : call.Exhausts t l)
    (hplace : Place call.retryManager.maxRetries fine topic name (messages t.log) t.next)
    {n : Nat} {rpc : Call} {reply : Reply} (hk : t.next = .await (.message n rpc))
    (hl : l.1 = .reply reply) : Reply.isRetryable reply = true := by
  have hsent : messages t.log ≤ call.retryManager.maxRetries + 1 := by
    rw [hk] at hplace
    generalize messages t.log = sent at hplace ⊢
    cases hplace with
    | message _ _ hn => omega
  have hreply : reply ∈ messageReply t.next l.1 := by rw [hk, hl]; rfl
  have hif := h reply hreply
  rwa [if_pos hsent] at hif

theorem step_refused {call : SendCall} {brokers : Brokers} {topic name : String}
    {addr : BrokerAddress} {fine : Prop} (hkeep : KeepName brokers topic name)
    (hstays : KeepTopic brokers topic addr) {t t' : Piece ProducerFields Sending Nat}
    {l : Wake × Env} (ht : Refused call.retryManager.maxRetries fine topic name t)
    (hans : brokers.Answer Sending.pending t l) (hexh : call.Exhausts t l)
    (hfine : fine → l.2.Fine) (hstep : call.advance t l = some t') :
    Refused call.retryManager.maxRetries fine topic name t' ∧
      reached call.retryManager.maxRetries t.next + 1 ≤
        reached call.retryManager.maxRetries t'.next := by
  obtain ⟨k, r, hk, hr, rfl⟩ := advance_eq_some.mp hstep
  have hj := sendResume_journaled l.2 hr
  have hplace := ht.place
  rw [hk] at hplace
  obtain ⟨hnext, hlt⟩ := resume_place hkeep hstays rfl hfine ht.topicKept ht.nameKept ht.stub hplace
    (fun n rpc reply hmessage hl => hexh.isRetryable ht.place (hmessage ▸ hk) hl)
    (fun rpc reply hrpc hl => hans.reply hk hrpc hl) hr
  refine ⟨⟨hj.topic.trans ht.topicKept, hj.name.trans ht.nameKept, hj.stub_ne_none ht.stub, ?_⟩, ?_⟩
  · rw [Ran.after_log, messages_append]
    exact hnext
  · rw [hk]
    exact hlt

end SendCall

/-- A broker that keeps the name refuses every recovery. A send whose first `max_retries + 1` messages
fail never returns, is over after `2 * max_retries + 4` resumptions, and raises `UnrecoverableError`
unless the client could not even ask. A `create()` whose response was lost never returns. -/
theorem recovery_always_refused {brokers : Brokers} {env : Env} {s : Scope ProducerFields}
    (hkeep : KeepName brokers s.self.topic s.self.name) :
    (∀ (call : SendCall) {ls : List (Wake × Env)} {t : Piece ProducerFields Sending Nat},
      KeepTopic brokers s.self.topic s.self.address → s.self.stub ≠ none →
      exec call.advance (call.attempt env 0 s) ls = some t →
      Steps call.advance (fun t l => brokers.Answer Sending.pending t l ∧ call.Exhausts t l)
        (call.attempt env 0 s) ls →
      (∀ id, t.next ≠ .ret id) ∧ ls.length ≤ 2 * call.retryManager.maxRetries + 4 ∧
        (env.Fine → (∀ l ∈ ls, l.2.Fine) → ∀ err, t.next = .raise err →
          ∃ text, err = .unrecoverable text)) ∧
    ∀ {pre post : List (Wake × Env)} {lost : RpcError} {env' : Env}
      {t₀ t₁ t : Piece ProducerFields TopicProducer.Creating Nat} {n : Nat} {addr : BrokerAddress}
      {rpc : Call},
      exec (Endpoint.advance producerRole) (TopicProducer.create env s) pre = some t₀ →
      t₀.next = .await (.request n addr rpc) →
      Endpoint.advance producerRole t₀ (.reply (.error lost), env') = some t₁ →
      exec (Endpoint.advance producerRole) t₁ post = some t →
      Steps (Endpoint.advance producerRole) (brokers.Answer Registering.pending) t₁ post →
      (∀ id, t.next ≠ .ret id) ∧
        pre.length + 1 + post.length ≤ 5 * (s.self.retryManager.maxRetries + 1) := by
  constructor
  · -- A send that used up its retries.
    intro call ls t hstays hs h hsteps
    let fine := env.Fine ∧ ∀ l ∈ ls, l.2.Fine
    have hstart := SendCall.attempt_refused call (fun hf : fine => hf.1) hs
    obtain ⟨hend, hlen⟩ := exec_length_le_of_steps
      (fun t l t' ht hc hstep => SendCall.step_refused hkeep hstays ht hc.1.1 hc.1.2 hc.2 hstep) hstart
      (hsteps.and_mem fun l hl (hf : fine) => hf.2 l hl) h
    have hle := SendCall.reached_le hend.place
    refine ⟨hend.place.next_ne_ret, by omega, fun henv hls err herr => ?_⟩
    have hplace := hend.place
    rw [herr] at hplace
    exact hplace.unrecoverable ⟨henv, hls⟩
  · -- A `create()` whose answer was lost.
    intro pre post lost env' t₀ t₁ t n addr rpc hpre hrequest hlost hpost hans
    have hend := TopicProducer.lost_response_unregistered hkeep hpre hrequest hlost hans hpost
    constructor
    · rintro id hid
      rcases hend.quiet with ⟨k, hk, -⟩ | ⟨err, herr⟩
      · rw [hid] at hk
        cases hk
      · rw [hid] at herr
        cases herr
    · have hrun : exec (Endpoint.advance producerRole) (TopicProducer.create env s)
          (pre ++ (.reply (.error lost), env') :: post) = some t :=
        exec_append.mpr ⟨t₀, hpre, exec_cons.mpr ⟨t₁, hlost, hpost⟩⟩
      have hends := Endpoint.call_ends producerRole hrun
      rw [List.length_append, List.length_cons] at hends
      omega

/-- The topic is at `a`, and its broker knows every name. -/
def knowsNames : Brokers := fun call reply =>
  match call.request with
  | .createProducer _ => reply = .error ⟨.alreadyExists, ""⟩
  | .topicLookup .. => reply = .ok (.address "a")
  | _ => True

instance (call : Call) (reply : Reply) : Decidable (knowsNames call reply) := by
  unfold knowsNames
  split <;> infer_instance

theorem knowsNames_keepName (topic name : String) : KeepName knowsNames topic name := by
  intro call reply r h hreq _ _
  unfold knowsNames at h
  rw [hreq] at h
  exact ⟨"", h⟩

theorem knowsNames_keepTopic (topic : String) : KeepTopic knowsNames topic ⟨"a", "a", false⟩ := by
  intro call reply n h hreq
  unfold knowsNames at h
  rw [hreq] at h
  exact ⟨_, h, rfl⟩

/-- A fresh producer registers at `a`. -/
def registration : List (Wake × Env) := [(.answer (.address "a"), {}), (.answer (.registered 1), {})]

/-- Two messages fail, both lookups name `a` again, and `a` refuses the name. -/
def refusal : List (Wake × Env) :=
  [(.fail .unavailable, {}), (.timer, {}), (.fail .deadlineExceeded, {}), (.answer (.address "a"), {}),
    (.answer (.address "a"), {}), (.fail .alreadyExists, {})]

/-- The registration was lost, and the retry is refused. -/
def refusedRetry : List (Wake × Env) :=
  [(.answer (.address "a"), {}), (.timer, {}), (.fail .alreadyExists, {})]

/-- A producer that its broker knows cannot send again, and one that lost the broker's answer cannot be
created. -/
theorem known_producer_refused :
    (∃ t t', exec (Endpoint.advance producerRole) (TopicProducer.create {} (TopicProducer.oneRetry none))
        registration = some t ∧ t.next = .ret 1 ∧
      exec SendCall.oneRetry.advance (SendCall.oneRetry.attempt {} 0 t.state) refusal = some t' ∧
      Steps SendCall.oneRetry.advance
        (fun t l => knowsNames.Answer Sending.pending t l ∧ SendCall.oneRetry.Exhausts t l)
        (SendCall.oneRetry.attempt {} 0 t.state) refusal ∧
      t'.next = .raise (.unrecoverable "producer already exists: ")) ∧
    ∃ t₀ t₁ t, exec (Endpoint.advance producerRole) (TopicProducer.create {} (TopicProducer.oneRetry none))
        [(.answer (.address "a"), {})] = some t₀ ∧
      Endpoint.advance producerRole t₀ (.fail .deadlineExceeded, {}) = some t₁ ∧
      exec (Endpoint.advance producerRole) t₁ refusedRetry = some t ∧
      Steps (Endpoint.advance producerRole) (knowsNames.Answer Registering.pending) t₁ refusedRetry ∧
      t.next = .raise (.unrecoverable "producer already exists: ") :=
  ⟨⟨_, _, rfl, rfl, rfl, by decide, rfl⟩, _, _, _, rfl, rfl, rfl, by decide, rfl⟩

theorem known_producer_not_returned :
    (∃ t t', exec (Endpoint.advance producerRole) (TopicProducer.create {} (TopicProducer.oneRetry none))
        registration = some t ∧
      exec SendCall.oneRetry.advance (SendCall.oneRetry.attempt {} 0 t.state) refusal = some t' ∧
      ∀ id, t'.next ≠ .ret id) ∧
    ∃ t₀ t₁ t, exec (Endpoint.advance producerRole) (TopicProducer.create {} (TopicProducer.oneRetry none))
        [(.answer (.address "a"), {})] = some t₀ ∧
      Endpoint.advance producerRole t₀ (.fail .deadlineExceeded, {}) = some t₁ ∧
      exec (Endpoint.advance producerRole) t₁ refusedRetry = some t ∧ ∀ id, t.next ≠ .ret id := by
  let call := SendCall.oneRetry
  obtain ⟨t, t', ht, hstub, haddr, hrun, hsteps⟩ : ∃ t t',
      exec (Endpoint.advance producerRole) (TopicProducer.create {} (TopicProducer.oneRetry none))
        registration = some t ∧
      t.state.self.stub ≠ none ∧ t.state.self.address = ⟨"a", "a", false⟩ ∧
      exec call.advance (call.attempt {} 0 t.state) refusal = some t' ∧
      Steps call.advance (fun t l => knowsNames.Answer Sending.pending t l ∧ call.Exhausts t l)
        (call.attempt {} 0 t.state) refusal := ⟨_, _, rfl, by decide, rfl, rfl, by decide⟩
  have hstays := haddr ▸ knowsNames_keepTopic t.state.self.topic
  obtain ⟨t₀, t₁, u, n, addr, rpc, ht₀, hrequest, ht₁, hu, hanswers⟩ :
      ∃ t₀ t₁ u n addr rpc,
        exec (Endpoint.advance producerRole) (TopicProducer.create {} (TopicProducer.oneRetry none))
          [(.answer (.address "a"), {})] = some t₀ ∧
        t₀.next = .await (.request n addr rpc) ∧
        Endpoint.advance producerRole t₀ (.fail .deadlineExceeded, {}) = some t₁ ∧
        exec (Endpoint.advance producerRole) t₁ refusedRetry = some u ∧
        Steps (Endpoint.advance producerRole) (knowsNames.Answer Registering.pending) t₁ refusedRetry :=
    ⟨_, _, _, _, _, _, rfl, rfl, rfl, rfl, by decide⟩
  refine ⟨⟨t, t', ht, hrun, ?_⟩, t₀, t₁, u, ht₀, ht₁, hu, ?_⟩
  · exact ((recovery_always_refused (knowsNames_keepName _ _)).1 call hstays hstub hrun hsteps).1
  · exact ((recovery_always_refused (knowsNames_keepName _ _)).2 ht₀ hrequest ht₁ hu hanswers).1

end Danube
