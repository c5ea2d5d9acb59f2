import Danube.Asking

/-! # What the pieces of a send write -/

namespace Danube

open Async

namespace SendCall

/-- The token for a message can be had. -/
def Sendable (env : Env) (s : Scope ProducerFields) : Prop :=
  ∃ metadata, s.client.attachTokenIfNeeded env.call = .ok metadata

/-- A message RPC. -/
def IsMessage (rpc : Call) : Prop := ∃ m, rpc.request = .sendMessage m

/-- One attempt: the message goes out, or the token cannot be had and the send raises. -/
inductive Attempts (env : Env) (s : Scope ProducerFields) (n : Nat) :
    List Event → Outcome Sending Nat Error → Prop
  | issued (rpc : Call) (hrpc : IsMessage rpc) (htoken : Sendable env s) :
    Attempts env s n [.rpc rpc] (.await (.message n rpc))
  | refused (err : Error) (htoken : ¬ Sendable env s) : Attempts env s n [] (.raise err)

/-- A piece of `create()` under the send, which leaves the client as `c`. -/
inductive Creates (c : Client) (n : Nat) : List Event → Outcome Sending Nat Error → Prop
  | waits (log : List Event) (k : TopicProducer.Creating) (hlog : ∀ e ∈ log, e.Inner)
    (hk : k.attempts ≤ n)
    (hcached : ∀ m addr call, k = .request m addr call →
      c.connection? addr.brokerUrl addr.connectUrl ≠ none) :
    Creates c n log (.await (.create k))
  | raises (log : List Event) (err : Error) (hlog : ∀ e ∈ log, e.Inner) :
    Creates c n (log ++ [.notCreated err]) (.raise err)

/-- The piece gets a `create()` to its `CreateProducer`. -/
def AsksNext (env : Env) (s : Scope ProducerFields) : Sending → Wake → Prop
  | .lookup _ _, .reply (.ok (.topicLookup response)) => ∃ addr,
    Client.handleLookup response = .ok addr ∧
      Endpoint.AsksAtOnce env { s with self := s.self.moveTo addr }
  | .create k, w => Endpoint.AsksNext env s k w
  | _, _ => False

/-- One piece of a send on an endpoint that has a stub. -/
inductive Resumes (call : SendCall) (env : Env) (s : Scope ProducerFields) (c : Client) :
    Sending → Wake → List Event → Outcome Sending Nat Error → Prop
  | done (n : Nat) (rpc : Call) (w : Wake) (id : Nat) : Resumes call env s c (.message n rpc) w [] (.ret id)
  | failed (n : Nat) (rpc : Call) (w : Wake) (err : Error) :
    Resumes call env s c (.message n rpc) w [] (.raise err)
  | backoff (n : Nat) (rpc : Call) (w : Wake) (ms : Nat) (hn : n + 1 ≤ call.retryManager.maxRetries) :
    Resumes call env s c (.message n rpc) w [.backoff ms] (.await (.backoff (n + 1)))
  | exhausted (n : Nat) (rpc : Call) (w : Wake) (err : Error) (lookup : Call)
    (hlookup : Event.Inner (.rpc lookup)) (hasks : ¬ Asks [.rpc lookup]) :
    Resumes call env s c (.message n rpc) w [.rpc lookup] (.await (.lookup err lookup))
  | retried (n : Nat) {log : List Event} {o : Outcome Sending Nat Error}
    (h : Attempts env s n log o) : Resumes call env s c (.backoff n) .timer log o
  | notMoved (err : Error) (rpc : Call) (w : Wake)
    (hw : ∀ response addr, w = .reply (.ok (.topicLookup response)) →
      Client.handleLookup response ≠ .ok addr) :
    Resumes call env s c (.lookup err rpc) w [] (.raise err)
  | moved (err : Error) (rpc : Call) (response : TopicLookupResponse) (addr : BrokerAddress)
    (haddr : Client.handleLookup response = .ok addr) {log : List Event}
    {o : Outcome Sending Nat Error} (h : Creates c s.self.retryManager.maxRetries log o)
    (hasking : Asking .create (Endpoint.AsksAtOnce env { s with self := s.self.moveTo addr }) False
      log o) :
    Resumes call env s c (.lookup err rpc) (.reply (.ok (.topicLookup response)))
      (.moved addr :: .creating :: log) o
  | creating (k : TopicProducer.Creating) (w : Wake)
    {r : Piece ProducerFields TopicProducer.Creating Nat}
    (hr : TopicProducer.createResume env s k w = some r) (hret : ∀ id, r.next ≠ .ret id)
    {o : Outcome Sending Nat Error} (h : Creates c s.self.retryManager.maxRetries r.log o)
    (hrank : ∀ k', o = .await (.create k') → k'.rank s.self.retryManager.maxRetries <
      k.rank s.self.retryManager.maxRetries)
    (hasking : Asking .create (Endpoint.AsksNext env s k w)
      (∃ n addr call, k = .request n addr call) r.log o) :
    Resumes call env s c (.create k) w r.log o
  | created (k : TopicProducer.Creating) (w : Wake)
    {r : Piece ProducerFields TopicProducer.Creating Nat}
    (hr : TopicProducer.createResume env s k w = some r) (id id' : Nat) (hret : r.next = .ret id)
    (inner : List Event) (hinner : ∀ e ∈ inner, e.Inner) (hlog : r.log = inner ++ [.created id'])
    {log : List Event} {o : Outcome Sending Nat Error} (h : Attempts env r.state 0 log o)
    (hasks : Asks r.log ↔ Endpoint.AsksNext env s k w) :
    Resumes call env s c (.create k) w (r.log ++ log) o

variable {call : SendCall} {env : Env} {s : Scope ProducerFields}

theorem attempt_spec (n : Nat) (hs : s.self.stub ≠ none) :
    Attempts env s n (attempt env call n s).log (attempt env call n s).next := by
  obtain ⟨stub, hstub⟩ := Option.ne_none_iff_exists'.mp hs
  unfold attempt TopicProducer.send
  rw [hstub]
  dsimp only
  cases htoken : s.client.attachTokenIfNeeded env.call with
  | error err =>
    obtain ⟨text, rfl⟩ := Client.attachTokenIfNeeded_error htoken
    refine .refused _ ?_
    rintro ⟨metadata, hmd⟩
    rw [htoken] at hmd
    cases hmd
  | ok metadata => exact .issued _ ⟨_, rfl⟩ ⟨metadata, htoken⟩

theorem caught_spec (n : Nat) (err : RpcError) (rpc : Call) (w : Wake) :
    Resumes call env s (caught env call n (.rpc err) s).state.client (.message n rpc) w
      (caught env call n (.rpc err) s).log (caught env call n (.rpc err) s).next := by
  unfold caught
  dsimp only
  split
  · split
    · unfold lookupAndRecreate
      split
      · rename_i heq
        exact .exhausted n rpc w _ _ (Endpoint.lookup_inner env heq) (Endpoint.asks_lookup env heq)
      · exact .failed n rpc w _
    · rename_i hle
      exact .backoff n rpc w _ (by omega)
  · exact .failed n rpc w _

theorem andThen_creates {n : Nat} {α : Type} {r : Piece ProducerFields TopicProducer.Creating α}
    (onRet : Scope ProducerFields → α → Piece ProducerFields Sending Nat)
    (hshaped : Shaped r) (hret : ∀ a, r.next ≠ .ret a) (hn : ∀ k, r.next = .await k → k.attempts ≤ n) :
    Creates (r.andThen .create onRet fun s e => raise e s).state.client n r.log (r.andThen .create onRet fun s e => raise e s).next ∧
      (r.andThen .create onRet fun s e => raise e s).log = r.log := by
  obtain ⟨inner, tail, hlog, hinner, htail⟩ := hshaped.log
  unfold Ran.andThen
  cases hnext : r.next with
  | await k =>
    rw [hnext] at htail
    obtain rfl : tail = [] := htail
    rw [hlog, List.append_nil]
    refine ⟨.waits inner k hinner (hn k hnext) fun m addr call hk => ?_, rfl⟩
    exact hshaped.cached m addr call (hk ▸ hnext)
  | ret a => exact (hret a hnext).elim
  | raise err =>
    rw [hnext] at htail
    obtain rfl : tail = [.notCreated err] := htail
    rw [hlog]
    exact ⟨.raises inner err hinner, by simp [raise]⟩

theorem andThen_asking {α : Type} {r : Piece ProducerFields TopicProducer.Creating α}
    {onRet : Scope ProducerFields → α → Piece ProducerFields Sending Nat} {asks refusable : Prop}
    (h : Piece.Asking asks refusable r) (hret : ∀ a, r.next ≠ .ret a) :
    Asking Sending.create asks refusable r.log (r.andThen .create onRet fun s e => raise e s).next := by
  refine ⟨h.log, fun n addr call ho => ?_, fun text ho => ?_⟩ <;> unfold Ran.andThen at ho <;>
    cases hnext : r.next with
    | await k =>
      rw [hnext] at ho
      cases ho
      try exact h.request n addr call hnext
    | ret a => exact (hret a hnext).elim
    | raise err =>
      rw [hnext] at ho
      cases ho
      try exact h.refused text hnext

theorem recreateProducer_spec (s : Scope ProducerFields) :
    ∃ log, (recreateProducer env s).log = .creating :: log ∧
      Creates (recreateProducer env s).state.client s.self.retryManager.maxRetries log
        (recreateProducer env s).next ∧
      Asking .create (Endpoint.AsksAtOnce env s) False log (recreateProducer env s).next := by
  obtain ⟨r, hr, hshaped⟩ := Endpoint.create_shaped (α := Empty) producerRole env s
  have hbelow := Endpoint.create_below (α := Empty) producerRole env (s := s) rfl
  have hasking := Endpoint.create_asking (α := Empty) producerRole env s
  rw [hr] at hbelow hasking
  have hasking' : Piece.Asking (Endpoint.AsksAtOnce env s) False r :=
    ⟨by simpa [Event.asks] using hasking.log, hasking.request, hasking.refused⟩
  have hret : ∀ a, r.next ≠ .ret a := fun a => a.elim
  obtain ⟨hcreates, hlog⟩ := andThen_creates (fun _ a => a.elim) hshaped hret
    fun k hk => (hbelow k hk).1
  refine ⟨r.log, ?_⟩
  unfold recreateProducer TopicProducer.create
  rw [hr, Ran.andThen_after]
  simp only [Ran.after_log, Ran.after_next, Ran.after_state, hlog]
  exact ⟨rfl, hcreates, andThen_asking hasking' hret⟩

theorem recreated_spec {k : TopicProducer.Creating} {w : Wake}
    {r : Piece ProducerFields TopicProducer.Creating Nat} (hs : s.self.stub ≠ none)
    (hk : k.attempts ≤ s.self.retryManager.maxRetries)
    (hr : TopicProducer.createResume env s k w = some r) :
    Resumes call env s (recreated env call r).state.client (.create k) w (recreated env call r).log
      (recreated env call r).next := by
  have hshaped := Endpoint.resume_shaped producerRole env (fun _ => hs) hr
  have hbelow := Endpoint.resume_below producerRole env rfl hk hr
  have hasking := Endpoint.resume_asking producerRole env hr
  by_cases hret : ∃ id, r.next = .ret id
  · -- `create()` returned: the attempts begin again.
    obtain ⟨id, hret⟩ := hret
    obtain ⟨inner, tail, hlog, hinner, htail⟩ := hshaped.log
    rw [hret] at htail
    obtain ⟨id', rfl⟩ := htail
    have hattempt := @attempt_spec call env _ 0 (hshaped.stubRet id hret)
    have hrec : recreated env call r = (attempt env call 0 r.state).after r.log := by
      simp only [recreated, Ran.andThen, hret]
    rw [hrec]
    exact .created k w hr id id' hret inner hinner hlog hattempt hasking.log
  · -- `create()` goes on, or raised.
    push Not at hret
    obtain ⟨hcreates, hlog⟩ := andThen_creates (fun s _ => attempt env call 0 s) hshaped hret
      fun k' hk' => (hbelow k' hk').1
    unfold recreated
    rw [hlog]
    refine .creating k w hr hret hcreates (fun k' hk' => ?_) (andThen_asking hasking hret)
    unfold Ran.andThen at hk'
    cases hnext : r.next with
    | await k'' =>
      rw [hnext] at hk'
      cases hk'
      exact (hbelow _ hnext).2
    | ret id => exact (hret id hnext).elim
    | raise err =>
      rw [hnext] at hk'
      simp [raise] at hk'

theorem resume_spec {k : Sending} {w : Wake} {r : Piece ProducerFields Sending Nat}
    (hs : s.self.stub ≠ none)
    (hk : ∀ k', k = .create k' → k'.attempts ≤ s.self.retryManager.maxRetries)
    (h : call.resume env s k w = some r) : Resumes call env s r.state.client k w r.log r.next := by
  cases resumption h with
  | answered => exact .done _ _ _ _
  | failed => exact caught_spec _ _ _ _
  | slept n => exact .retried n (attempt_spec n hs)
  | moved err rpc response addr haddr =>
    obtain ⟨log, hlog, hcreates, hasking⟩ := @recreateProducer_spec env
      { s with self := s.self.moveTo addr }
    simp only [Ran.after_log, Ran.after_next, hlog, List.singleton_append]
    exact .moved _ _ _ addr haddr hcreates hasking
  | notMoved err rpc response err' herr =>
    exact .notMoved _ _ _ fun response addr hw haddr => by cases hw; simp [herr] at haddr
  | lookupFailed => exact .notMoved _ _ _ (by simp)
  | creating k w r' hr' => exact recreated_spec hs (hk k rfl) hr'

end SendCall

end Danube
