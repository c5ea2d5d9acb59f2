import Danube.Registration

/-! # Where lookups go -/

namespace Danube

open Async

variable {ρ α κ : Type}

/-- Which replies the brokers give to an RPC. -/
abbrev Brokers := Call → Reply → Prop

/-- The wake-up is a reply that the brokers give to the RPC that is awaited. -/
def Brokers.Answer (brokers : Brokers) (pending : κ → Option Call) (t : Piece ρ κ Nat)
    (l : Wake × Env) : Prop :=
  match t.next, l.1 with
  | .await k, .reply reply => ∀ call ∈ pending k, brokers call reply
  | _, _ => True

theorem Brokers.Answer.reply {brokers : Brokers} {pending : κ → Option Call} {t : Piece ρ κ Nat}
    {l : Wake × Env} (h : brokers.Answer pending t l) {k : κ} {call : Call} {reply : Reply}
    (hk : t.next = .await k) (hcall : pending k = some call) (hl : l.1 = .reply reply) :
    brokers call reply := by
  unfold Brokers.Answer at h
  rw [hk, hl] at h
  exact h call hcall

instance (brokers : Brokers) [∀ call reply, Decidable (brokers call reply)]
    (pending : κ → Option Call) (t : Piece ρ κ Nat) (l : Wake × Env) :
    Decidable (brokers.Answer pending t l) := by
  unfold Brokers.Answer
  split <;> infer_instance

/-- The broker behind `connect_url` is gone, and the service URL names one that takes
registrations. -/
structure Outage (s : Scope ρ) (brokers : Brokers) (addr : BrokerAddress) : Prop where
  gone : ∀ call reply, brokers call reply → call.conn.channel.target = targetOf s.self.connectUrl →
    ∃ text, reply = .error ⟨.unavailable, text⟩
  service : ∀ call reply n, brokers call reply → call.conn.channel.target = targetOf s.client.uri →
    call.request = .topicLookup n s.self.topic →
      reply = .ok (.topicLookup ⟨.connect, addr.connectUrl, addr.brokerUrl, addr.proxy⟩)
  accepts : ∀ call reply, brokers call reply →
    call.conn.channel.target = targetOf addr.connectUrl →
    (∃ r, call.request = .createProducer r) ∨ (∃ r, call.request = .subscribe r) →
      ∃ id, reply = .ok (.registered id)

namespace Endpoint

/-! ## A call that only knows one address -/

/-- The piece keeps `connect_url`, and its RPCs go there. -/
structure Stranded (connectUrl : String) (r : Piece ρ Registering α) : Prop where
  stays : r.state.self.connectUrl = connectUrl
  rpcs : ∀ call, .rpc call ∈ r.log → call.conn.channel.target = targetOf connectUrl
  pending : ∀ k call, r.next = .await k → k.pending = some call →
    call.conn.channel.target = targetOf connectUrl

section Pieces

variable (role : Role ρ) (env : Env) {s : Scope ρ} {u : String}

theorem backoff_stranded (n : Nat) (hs : s.self.connectUrl = u) :
    Stranded u (backoff env n s : Piece ρ Registering α) where
  stays := hs
  rpcs := by simp [backoff]
  pending := by
    intro k call hk hcall
    cases hk
    cases hcall

theorem raise_stranded (err : Error) (hs : s.self.connectUrl = u) :
    Stranded u (⟨s, [.notCreated err], .raise err⟩ : Piece ρ Registering α) where
  stays := hs
  rpcs := by simp
  pending := by
    intro k call hk
    cases hk

theorem rpc_stranded {k : Registering} {call : Call} (hs : s.self.connectUrl = u)
    (hk : k.pending = some call) (htarget : call.conn.channel.target = targetOf u) :
    Stranded u (⟨s, [.rpc call], .await k⟩ : Piece ρ Registering α) where
  stays := hs
  rpcs := by
    intro call' hmem
    simp only [List.mem_singleton, Event.rpc.injEq] at hmem
    exact hmem ▸ htarget
  pending := by
    intro k' call' hk' hcall'
    cases hk'
    rw [hk, Option.some.injEq] at hcall'
    exact hcall' ▸ htarget

theorem lookupTopic_target {c : Client} {call : Call} (hs : s.self.connectUrl = u)
    (h : s.client.lookupTopic env.lookup s.self.connectUrl s.self.topic = (c, .ok call)) :
    call.conn.channel.target = targetOf u :=
  hs ▸ ConnectionManager.target_of_connection? (Client.lookupTopic_ok h).1

theorem retry_stranded (n : Nat) (hs : s.self.connectUrl = u) :
    Stranded u (retry env n s : Piece ρ Registering α) := by
  unfold retry
  split
  · rename_i heq
    exact rpc_stranded (by exact hs) rfl (lookupTopic_target env hs heq)
  · exact backoff_stranded env n (by exact hs)

theorem failed_stranded (n : Nat) (err : Error) (hs : s.self.connectUrl = u) :
    Stranded u (failed env n err s : Piece ρ Registering α) := by
  unfold failed
  split
  · split
    · exact raise_stranded err hs
    · exact retry_stranded env (n + 1) hs
  · exact raise_stranded err hs

theorem Stranded.after {r : Piece ρ Registering α} (h : Stranded u r) {log : List Event}
    (hlog : ∀ call, .rpc call ∈ log → call.conn.channel.target = targetOf u) :
    Stranded u (r.after log) where
  stays := h.stays
  rpcs call hmem := (List.mem_append.mp hmem).elim (hlog call) (h.rpcs call)
  pending := h.pending

theorem attempt_stranded (n : Nat) (hs : s.self.connectUrl = u) :
    Stranded u (attempt role env n s : Piece ρ Registering α) := by
  unfold attempt
  split
  · exact failed_stranded env n _ (by exact hs)
  · rename_i c conn heq
    refine Stranded.after ?_ (by simp)
    split
    · exact failed_stranded env n _ (by exact hs)
    · exact rpc_stranded (by exact hs) rfl
        (hs ▸ ConnectionManager.target_of_connection? (Client.getConnection_ok heq))

theorem create_stranded (hs : s.self.connectUrl = u) :
    Stranded u (create role env s : Piece ρ Registering α) := by
  unfold create
  refine Stranded.after ?_ (by simp)
  split
  · rename_i heq
    exact rpc_stranded (by exact hs) rfl (lookupTopic_target env hs heq)
  · exact attempt_stranded role env 0 (by exact hs)

theorem afterLookup_stranded (n : Nat) (hs : s.self.connectUrl = u) :
    Stranded u (afterLookup role env n s : Piece ρ Registering α) := by
  unfold afterLookup
  split
  · exact attempt_stranded role env 0 hs
  · exact backoff_stranded env n hs

/-- When all that it hears is that the broker is unavailable, a call stays where it is. -/
theorem resume_stranded {k : Registering} {w : Wake} {r : Piece ρ Registering Nat}
    (hs : s.self.connectUrl = u) (hk : k.resolving = false)
    (hw : ∀ call reply, k.pending = some call → w = .reply reply →
      ∃ text, reply = .error ⟨.unavailable, text⟩)
    (h : resume role env s k w = some r) : Quiet r ∧ Stranded u r := by
  cases resumption h with
  | moved | notMoved | answered =>
    obtain ⟨text, htext⟩ := hw _ _ rfl rfl
    cases htext
  | lookupFailed n => exact ⟨afterLookup_quiet role env n s, afterLookup_stranded role env n hs⟩
  | slept n => exact ⟨attempt_quiet role env n s, attempt_stranded role env n hs⟩
  | refused n => exact ⟨failed_quiet env n _ s, failed_stranded env n _ hs⟩
  | _ => cases hk

end Pieces

/-! ## Runs of a call -/

/-- What the journal and the suspension point of a stranded call are like. -/
structure Lost (connectUrl : String) (t : Piece ρ Registering Nat) : Prop where
  stranded : Stranded connectUrl t
  quiet : Quiet t

theorem lost_run {role : Role ρ} {env : Env} {s : Scope ρ} {ls : List (Wake × Env)}
    {t : Piece ρ Registering Nat} {brokers : Brokers} {addr : BrokerAddress}
    (hout : Outage s brokers addr) (h : exec (advance role) (create role env s) ls = some t)
    (hans : Steps (advance role) (brokers.Answer Registering.pending) (create role env s) ls) :
    Lost s.self.connectUrl t := by
  refine exec_invariant_of_steps (P := Lost s.self.connectUrl) (fun t l t' ht hc hstep => ?_)
    ⟨create_stranded role env rfl, create_quiet role env s⟩ hans h
  obtain ⟨k, r, hk, hr, rfl⟩ := advance_eq_some.mp hstep
  have hres : k.resolving = false := by
    rcases ht.quiet.next with ⟨k', hk', hres⟩ | ⟨err, herr⟩ <;> simp_all
  have hreply : ∀ call reply, k.pending = some call → l.1 = .reply reply →
      ∃ text, reply = .error ⟨.unavailable, text⟩ := fun call reply hcall hl =>
    hout.gone call reply (hc.reply hk hcall hl) (ht.stranded.pending k call hk hcall)
  obtain ⟨hquiet, hstr⟩ := resume_stranded role l.2 ht.stranded.stays hres hreply hr
  exact ⟨hstr.after ht.stranded.rpcs, hquiet.after ht.quiet.registrations ht.quiet.loops⟩

end Endpoint

/-! ## Runs of a send -/

namespace SendCall

/-- A send whose lookup and recreation only know one address. -/
structure Lost (connectUrl : String) (t : Piece ProducerFields Sending Nat) : Prop where
  stays : t.state.self.connectUrl = connectUrl
  registrations : registrations t.log = []
  lookup : ∀ err call, t.next = .await (.lookup err call) →
    call.conn.channel.target = targetOf connectUrl
  create : ∀ k, t.next = .await (.create k) → k.resolving = false ∧
    ∀ call, k.pending = some call → call.conn.channel.target = targetOf connectUrl

section Pieces

variable {env : Env} {s : Scope ProducerFields} {u : String}

theorem Lost.after {t : Piece ProducerFields Sending Nat} (h : Lost u t) {log : List Event}
    (hlog : Danube.registrations log = []) : Lost u (t.after log) where
  stays := h.stays
  registrations := by simp [hlog, h.registrations]
  lookup := h.lookup
  create := h.create

theorem idle_lost {t : Piece ProducerFields Sending Nat} (hs : t.state.self.connectUrl = u)
    (hreg : Danube.registrations t.log = []) (hlookup : ∀ err c, t.next ≠ .await (.lookup err c))
    (hcreate : ∀ k, t.next ≠ .await (.create k)) : Lost u t where
  stays := hs
  registrations := hreg
  lookup err c h := (hlookup err c h).elim
  create k h := (hcreate k h).elim

theorem raise_lost (err : Error) (hs : s.self.connectUrl = u) : Lost u (raise err s) :=
  idle_lost hs rfl (by simp [raise]) (by simp [raise])

theorem andThen_lost {α : Type} {r : Piece ProducerFields Registering α}
    {onRet : Scope ProducerFields → α → Piece ProducerFields Sending Nat}
    (hquiet : Endpoint.Quiet r) (hstr : Endpoint.Stranded u r) :
    Lost u (r.andThen .create onRet fun s e => raise e s) := by
  rcases hquiet.next with ⟨k, hk, hres⟩ | ⟨err, herr⟩
  · unfold Ran.andThen
    rw [hk]
    refine ⟨hstr.stays, hquiet.registrations, ?_, ?_⟩
    · intro _ _ h
      cases h
    · intro k' h
      cases h
      exact ⟨hres, fun call hcall => hstr.pending k call hk hcall⟩
  · unfold Ran.andThen
    rw [herr]
    exact (raise_lost err hstr.stays).after hquiet.registrations

theorem recreateProducer_lost (hs : s.self.connectUrl = u) : Lost u (recreateProducer env s) :=
  andThen_lost (Endpoint.create_quiet producerRole env s)
    (Endpoint.create_stranded producerRole env hs)

theorem lookupAndRecreate_lost (err : Error) (hs : s.self.connectUrl = u) :
    Lost u (lookupAndRecreate env err s) := by
  unfold lookupAndRecreate
  split
  · rename_i heq
    refine ⟨hs, rfl, fun _ _ h => ?_, by simp⟩
    cases h
    exact Endpoint.lookupTopic_target env hs heq
  · exact raise_lost err (by exact hs)

theorem caught_lost (call : SendCall) (n : Nat) (err : Error) (hs : s.self.connectUrl = u) :
    Lost u (caught env call n err s) := by
  unfold caught
  split
  · exact recreateProducer_lost hs
  · split
    · split
      · exact lookupAndRecreate_lost err hs
      · exact idle_lost hs rfl (by simp) (by simp)
    · exact raise_lost err hs

theorem topicProducerSend_stays (call : SendCall) :
    (TopicProducer.send env call.data call.attributes call.routingKey s).1.self.connectUrl =
      s.self.connectUrl := by
  unfold TopicProducer.send
  split
  · rfl
  · dsimp only
    split <;> rfl

theorem attempt_lost (call : SendCall) (n : Nat) (hs : s.self.connectUrl = u) :
    Lost u (attempt env call n s) := by
  have hstays := @topicProducerSend_stays env s call
  unfold attempt
  split <;> rename_i heq <;> rw [heq] at hstays
  · exact idle_lost (hstays.trans hs) rfl (by simp) (by simp)
  · exact caught_lost call n _ (hstays.trans hs)

end Pieces

theorem lost_step {call : SendCall} {brokers : Brokers} {addr : BrokerAddress}
    {s : Scope ProducerFields} (hout : Outage s brokers addr)
    {t : Piece ProducerFields Sending Nat} (ht : Lost s.self.connectUrl t) {l : Wake × Env}
    (hans : brokers.Answer Sending.pending t l) {k : Sending} (hk : t.next = .await k)
    {r : Piece ProducerFields Sending Nat} (h : call.resume l.2 t.state k l.1 = some r) :
    Lost s.self.connectUrl r ∧ ∀ err c, k = .lookup err c → r.next = .raise err := by
  have hgone : ∀ c reply, k.pending = some c → l.1 = .reply reply →
      c.conn.channel.target = targetOf s.self.connectUrl →
      ∃ text, reply = .error ⟨.unavailable, text⟩ := fun c reply hc hl htarget =>
    hout.gone c reply (hans.reply hk hc hl) htarget
  obtain ⟨w, env⟩ := l
  dsimp only at h hgone
  cases resumption h with
  | answered => exact ⟨idle_lost ht.stays rfl (by simp) (by simp), by simp⟩
  | failed n => exact ⟨caught_lost call n _ ht.stays, by simp⟩
  | slept n => exact ⟨attempt_lost call n ht.stays, by simp⟩
  | moved | notMoved =>
    -- A broker that is gone answers no lookup.
    obtain ⟨text, htext⟩ := hgone _ _ rfl rfl (ht.lookup _ _ hk)
    cases htext
  | lookupFailed err =>
    refine ⟨raise_lost err ht.stays, ?_⟩
    intro err' c heq
    cases heq
    rfl
  | creating k w r' hr' =>
    -- `create()` under the send hears as little.
    obtain ⟨hres, htarget⟩ := ht.create _ hk
    obtain ⟨hquiet, hstr⟩ := Endpoint.resume_stranded producerRole env ht.stays hres
      (fun c reply hc hl => hgone c reply hc hl (htarget c hc)) hr'
    exact ⟨andThen_lost hquiet hstr, by simp⟩

theorem lost_run {call : SendCall} {env : Env} {s : Scope ProducerFields} {ls : List (Wake × Env)}
    {t : Piece ProducerFields Sending Nat} {brokers : Brokers} {addr : BrokerAddress}
    (hout : Outage s brokers addr) (h : exec (advance call) (call.attempt env 0 s) ls = some t)
    (hans : Steps (advance call) (brokers.Answer Sending.pending) (call.attempt env 0 s) ls) :
    Lost s.self.connectUrl t := by
  refine exec_invariant_of_steps (P := Lost s.self.connectUrl) (fun t l t' ht hc hstep => ?_)
    (attempt_lost call 0 rfl) hans h
  obtain ⟨k, r, hk, hr, rfl⟩ := advance_eq_some.mp hstep
  exact (lost_step hout ht hc hk hr).1.after ht.registrations

end SendCall

/-- Under an outage no call registers anywhere, whatever the service URL would answer: it asks the
broker that is gone until its budget is used up. A send that exhausts its retries raises the error it
was sent to recover from. -/
theorem outage_never_fails_over {brokers : Brokers} {addr : BrokerAddress} {env : Env} :
    (∀ {ρ : Type} (role : Role ρ) {s : Scope ρ} {ls : List (Wake × Env)}
      {t : Piece ρ Registering Nat},
      Outage s brokers addr → exec (Endpoint.advance role) (Endpoint.create role env s) ls = some t →
      Steps (Endpoint.advance role) (brokers.Answer Registering.pending)
        (Endpoint.create role env s) ls →
      registrations t.log = [] ∧ (∀ id, t.next ≠ .ret id) ∧
        (∀ call, .rpc call ∈ t.log →
          call.conn.channel.target = targetOf s.self.connectUrl) ∧
        ls.length ≤ 5 * (s.self.retryManager.maxRetries + 1)) ∧
    ∀ (call : SendCall) {s : Scope ProducerFields} {ls : List (Wake × Env)}
      {t : Piece ProducerFields Sending Nat},
      Outage s brokers addr → exec call.advance (call.attempt env 0 s) ls = some t →
      Steps call.advance (brokers.Answer Sending.pending) (call.attempt env 0 s) ls →
      registrations t.log = [] ∧
        ∀ err c l t', t.next = .await (.lookup err c) → brokers.Answer Sending.pending t l →
          call.advance t l = some t' → t'.next = .raise err := by
  constructor
  · -- `create()` and `subscribe()`.
    intro ρ role s ls t hout h hans
    have hlost := Endpoint.lost_run hout h hans
    refine ⟨hlost.quiet.registrations, fun id hid => ?_, hlost.stranded.rpcs,
      Endpoint.call_ends role h⟩
    rcases hlost.quiet.next with ⟨k, hk, -⟩ | ⟨err, herr⟩ <;> simp_all
  · -- A send.
    intro call s ls t hout h hans
    have hlost := SendCall.lost_run hout h hans
    refine ⟨hlost.registrations, fun err c l t' hk hl ht' => ?_⟩
    obtain ⟨k, r, hk', hr, rfl⟩ := advance_eq_some.mp ht'
    rw [hk, Outcome.await.injEq] at hk'
    subst hk'
    exact (SendCall.lost_step hout hlost hl hk hr).2 err c rfl

/-- A producer of the service URL `u` that a lookup has moved to the broker `a`. -/
def movedProducer : Scope ProducerFields where
  client := .init "u" {}
  loops := []
  ref := 0
  self := (TopicProducer.init "u" "t" "p" none .nonReliable 1 0 0).moveTo ⟨"a", "a", false⟩

/-- `a` is gone, lookups name `c`, and `c` takes registrations. -/
def withoutA : Brokers := fun call reply =>
  reply = if call.conn.channel.target = "a" then .error ⟨.unavailable, ""⟩
    else match call.request with
      | .topicLookup .. => .ok (.address "c")
      | .createProducer _ | .subscribe _ => .ok (.registered 1)
      | _ => .error ⟨.unknown, ""⟩

instance (call : Call) (reply : Reply) : Decidable (withoutA call reply) :=
  inferInstanceAs (Decidable (_ = _))

theorem withoutA_outage {s : Scope ProducerFields} (hconnect : targetOf s.self.connectUrl = "a")
    (huri : targetOf s.client.uri = "u") : Outage s withoutA ⟨"c", "c", false⟩ where
  gone := by
    intro call reply h htarget
    have htarget' : call.conn.channel.target = "a" := htarget.trans hconnect
    exact ⟨"", by rw [h, if_pos htarget']⟩
  service := by
    intro call reply n h htarget hreq
    have htarget' : call.conn.channel.target = "u" := htarget.trans huri
    rw [h, if_neg (by rw [htarget']; decide), hreq]
    rfl
  accepts := by
    intro call reply h htarget hreq
    have htarget' : call.conn.channel.target = "c" := htarget
    rw [h, if_neg (by rw [htarget']; decide)]
    rcases hreq with ⟨r, hr⟩ | ⟨r, hr⟩ <;> exact ⟨1, by rw [hr]⟩

def lostCreate : List (Wake × Env) :=
  [(.fail .unavailable, {}), (.fail .unavailable, {}), (.fail .unavailable, {}), (.timer, {}),
    (.fail .unavailable, {})]

/-- The service URL names a broker that would register the producer, and `create()` raises. -/
theorem lost_create_raises :
    Outage movedProducer withoutA ⟨"c", "c", false⟩ ∧
    ∃ t, exec (Endpoint.advance producerRole) (TopicProducer.create {} movedProducer) lostCreate =
        some t ∧
      Steps (Endpoint.advance producerRole) (withoutA.Answer Registering.pending)
        (TopicProducer.create {} movedProducer) lostCreate ∧
      t.next = .raise (.rpc ⟨.unavailable, ""⟩) :=
  ⟨withoutA_outage rfl rfl, _, rfl, by decide, rfl⟩

/-- The producer was registered at `a` before. -/
def registeredAtA : List (Wake × Env) := [(.answer (.address "a"), {}), (.answer (.registered 1), {})]

def lostSend : List (Wake × Env) := [(.fail .unavailable, {}), (.timer, {}), (.fail .unavailable, {})]

theorem lost_calls_unregistered :
    (∃ t, exec (Endpoint.advance producerRole) (TopicProducer.create {} movedProducer) lostCreate =
      some t ∧ registrations t.log = []) ∧
    ∃ t u u' err c, exec (Endpoint.advance producerRole) (TopicProducer.create {} movedProducer)
        registeredAtA = some t ∧
      exec SendCall.oneRetry.advance (SendCall.oneRetry.attempt {} 0 t.state) lostSend = some u ∧
      u.next = .await (.lookup err c) ∧
      SendCall.oneRetry.advance u (.fail .unavailable, {}) = some u' ∧
      registrations u.log = [] ∧ u'.next = .raise err := by
  constructor
  · obtain ⟨t, ht⟩ := Option.isSome_iff_exists.mp
      (by rfl : (exec (Endpoint.advance producerRole) (TopicProducer.create {} movedProducer)
        lostCreate).isSome)
    exact ⟨t, ht, (outage_never_fails_over.1 producerRole (withoutA_outage rfl rfl) ht (by decide)).1⟩
  · obtain ⟨t, u, u', err, c, ht, hconnect, huri, hu, hnext, hu', hanswers, hlast⟩ : ∃ t u u' err c,
        exec (Endpoint.advance producerRole) (TopicProducer.create {} movedProducer) registeredAtA =
          some t ∧
        targetOf t.state.self.connectUrl = "a" ∧ targetOf t.state.client.uri = "u" ∧
        exec SendCall.oneRetry.advance (SendCall.oneRetry.attempt {} 0 t.state) lostSend = some u ∧
        u.next = .await (.lookup err c) ∧
        SendCall.oneRetry.advance u (.fail .unavailable, {}) = some u' ∧
        Steps SendCall.oneRetry.advance (withoutA.Answer Sending.pending)
          (SendCall.oneRetry.attempt {} 0 t.state) lostSend ∧
        withoutA.Answer Sending.pending u (.fail .unavailable, {}) :=
      ⟨_, _, _, _, _, rfl, rfl, rfl, rfl, rfl, rfl, by decide, by decide⟩
    have hlost := outage_never_fails_over.2 SendCall.oneRetry (withoutA_outage hconnect huri) hu hanswers
    exact ⟨t, u, u', err, c, ht, hu, hnext, hu', hlost.1, hlost.2 err c _ u' hnext hlast hu'⟩

end Danube
