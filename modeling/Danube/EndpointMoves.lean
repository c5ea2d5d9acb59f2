import Danube.SessionSteps

/-!
# One endpoint in the moves of its pool

A move leaves an endpoint alone, or it is an action on it, a health check of it, a `stop()` or an
acknowledgement. What all of these keep holds of every endpoint of a session.
-/

namespace Danube

open Async

namespace Pool

variable {ρ : Type} {role : Role ρ} {born : String → Endpoint ρ → Prop} {acks : Request → Prop} {env : Env} {p q : Pool ρ}
  {calls : List Call}

/-- What a move between clients `c` and `c'` does to the endpoint `r`, and what it writes of it. -/
inductive Touch (role : Role ρ) (acks : Request → Prop) (env : Env) (c : Client) (loops : List HealthLoop) (c' : Client)
    (r : Nat) : Endpoint ρ → List Event → Endpoint ρ → Prop
  | idle (e : Endpoint ρ) : Touch role acks env c loops c' r e [] e
  | act (s s' : Scope ρ) (log : List Event) (href : s.ref = r) (hclient : s.client = c)
    (hclient' : s'.client = c') (h : Endpoint.Act role env s log s') :
    Touch role acks env c loops c' r s.self log s'.self
  | poll (e : Endpoint ρ) (l : HealthLoop) (metadata : Option Metadata) (hl : l ∈ loops)
    (howner : l.owner = r) (hstop : e.stopEvent = false)
    (hmetadata : c.attachTokenIfNeeded env.call = .ok metadata) :
    Touch role acks env c loops c' r e
      [.rpc ⟨l.conn, .healthCheck c.healthRequestId l.clientType l.clientId,
        insertProxyHeader metadata l.brokerAddr l.proxy⟩] e
  | close (e : Endpoint ρ) (id : Nat) :
    Touch role acks env c loops c' r e [.closed id] { e with stopEvent := true }
  | stop (e : Endpoint ρ) : Touch role acks env c loops c' r e [.stopped] e.stop
  | ack (e : Endpoint ρ) (conn : RpcConnection) (metadata : Option Metadata) (request : Request)
    (hrequest : request.isAck) (hacks : acks request) (hrole : role.clientType = .consumer) (hstub : e.stub = some conn)
    (hmetadata : c.attachTokenIfNeeded env.call = .ok metadata) :
    Touch role acks env c loops c' r e
      [.rpc ⟨conn, request, insertProxyHeader metadata e.brokerAddr e.proxy⟩] e

/-- What a move does to the endpoint `r`: it touches it, or it may build it. -/
inductive Touches (role : Role ρ) (born : String → Endpoint ρ → Prop) (acks : Request → Prop)
    (env : Env) (p q : Pool ρ) (r : Nat) : Prop
  | old (e e' : Endpoint ρ) (log : List Event) (he : p.endpoints[r]? = some e)
    (he' : q.endpoints[r]? = some e') (hlog : logOf r q.trace = logOf r p.trace ++ log)
    (h : Touch role acks env p.client p.loops q.client r e log e')
  | new (hnone : p.endpoints[r]? = none) (hlog : logOf r q.trace = logOf r p.trace)
    (hborn : ∀ e', q.endpoints[r]? = some e' → born p.client.uri e')

theorem touches_same {r : Nat} (hendpoints : q.endpoints = p.endpoints) (htrace : q.trace = p.trace) :
    Touches role born acks env p q r := by
  have hlog : logOf r q.trace = logOf r p.trace := congrArg (logOf r) htrace
  cases he : p.endpoints[r]? with
  | none => exact .new he hlog fun e' he' => by simp [hendpoints, he] at he'
  | some e => exact .old e e [] he (hendpoints ▸ he) (by simp [hlog]) (.idle e)

theorem touches_one {r ref : Nat} {e e' : Endpoint ρ} {actor : Actor} {log : List Event}
    (he : p.endpoints[ref]? = some e) (hendpoints : q.endpoints = p.endpoints.set ref e')
    (htrace : q.trace = p.trace ++ log.map fun x => ⟨actor, ref, x⟩)
    (h : Touch role acks env p.client p.loops q.client ref e log e') : Touches role born acks env p q r := by
  by_cases hr : r = ref
  · subst hr
    refine .old e e' log he ?_ ?_ h
    · rw [hendpoints, List.getElem?_set_self (List.getElem?_eq_some_iff.mp he).1]
    · rw [htrace, logOf_append, logOf_entries_self]
  · have hsame : q.endpoints[r]? = p.endpoints[r]? := by
      rw [hendpoints, List.getElem?_set_ne (Ne.symm hr)]
    have hlog : logOf r q.trace = logOf r p.trace := by
      rw [htrace, logOf_append, logOf_entries_ne hr, List.append_nil]
    cases hold : p.endpoints[r]? with
    | none => exact .new hold hlog fun x hx => by simp [hsame, hold] at hx
    | some x => exact .old x x [] hold (hsame.trans hold) (by simp [hlog]) (.idle x)

theorem set_self {e : Endpoint ρ} {ref : Nat} (he : p.endpoints[ref]? = some e) :
    p.endpoints = p.endpoints.set ref e := by
  obtain ⟨hlt, rfl⟩ := List.getElem?_eq_some_iff.mp he
  rw [List.set_getElem_self]

theorem modify_eq {e : Endpoint ρ} {ref : Nat} (he : p.endpoints[ref]? = some e)
    (f : Endpoint ρ → Endpoint ρ) : p.endpoints.modify ref f = p.endpoints.set ref (f e) := by
  obtain ⟨hlt, rfl⟩ := List.getElem?_eq_some_iff.mp he
  refine List.ext_getElem? fun i => ?_
  rw [List.getElem?_modify, List.getElem?_set]
  by_cases hi : ref = i
  · subst hi
    simp [hlt]
  · simp [hi]

theorem alloc_touches {es : List (Endpoint ρ)} (hborn : ∀ e ∈ es, born p.client.uri e) (r : Nat) :
    Touches role born acks env p (p.alloc es) r := by
  cases he : p.endpoints[r]? with
  | none =>
    refine .new he rfl fun e' he' => ?_
    rcases alloc_endpoint he' with h | ⟨-, h⟩
    · simp [he] at h
    · exact hborn e' h
  | some e =>
    have hlt := (List.getElem?_eq_some_iff.mp he).1
    refine .old e e [] he ?_ (by simp [alloc]) (.idle e)
    unfold alloc
    rw [List.getElem?_append_left hlt, he]

theorem close_touches {task : Nat} {l : HealthLoop} {e : Endpoint ρ}
    (he : p.endpoints[l.owner]? = some e) (r : Nat) :
    Touches role born acks env p
      (p.checked task l p.client (.finished .closed) [.closed l.clientId] true) r := by
  refine touches_one he ?_ rfl (.close e l.clientId)
  change p.endpoints.modify l.owner _ = _
  rw [modify_eq he]

theorem stop_touches (ref r : Nat) : Touches role born acks env p (p.stop ref) r := by
  unfold Pool.stop
  split
  · exact touches_same rfl rfl
  · rename_i e he
    exact touches_one he rfl rfl (.stop e)

theorem Move.touches (h : Move role born acks env p calls q) (r : Nat) : Touches role born acks env p q r := by
  cases h with
  | children cs => exact touches_same rfl rfl
  | alloc es hborn => exact alloc_touches hborn r
  | act s s' actor log hs h =>
    obtain ⟨hself, hclient, -⟩ := scope_eq_some.mp hs
    refine touches_one hself ?_ rfl (.act s s' log rfl hclient rfl h)
    rw [← act_ref h]
    rfl
  | leave task l e hl he hstop => exact touches_one he (set_self he) rfl (.idle e)
  | poll task l e metadata hl he hstop hmetadata call hcall =>
    subst hcall
    exact touches_one he (set_self he) rfl
      (.poll e l metadata (List.mem_of_getElem? hl) rfl hstop hmetadata)
  | refuse task l e hl he hstop => exact touches_one he (set_self he) rfl (.idle e)
  | close task l e call hl hpolling he => exact close_touches he r
  | answer task l call position hl hpolling hposition =>
    exact touches_same rfl (by simp [checked])
  | stop ref => exact stop_touches ref r
  | ack s conn metadata request hs hstub hmetadata hrequest hacks hrole call hcall =>
    subst hcall
    obtain ⟨hself, -⟩ := scope_eq_some.mp hs
    exact touches_one hself (set_self hself) rfl
      (.ack s.self conn metadata request hrequest hacks hrole hstub hmetadata)
  | partitions c conn metadata topic h => exact touches_same rfl rfl
  | unprepared c err h => exact touches_same rfl rfl

/-- The journal says that the loop was started. It may have got further since. -/
def Started (log : List Event) (l : HealthLoop) : Prop :=
  ∃ position, .healthStarted { l with position := position } ∈ log

theorem Move.trace (h : Move role born acks env p calls q) : p.trace <+: q.trace := by
  cases h with
  | children | alloc | partitions | unprepared => exact List.prefix_refl _
  | act | leave | poll | refuse | close | answer | ack => exact List.prefix_append _ _
  | stop ref =>
    unfold Pool.stop
    split
    · exact List.prefix_refl _
    · exact List.prefix_append _ _

theorem act_loops {s s' : Scope ρ} {log : List Event} (h : Endpoint.Act role env s log s') :
    ∀ l ∈ s'.loops, l ∈ s.loops ∨ l.owner = s.ref ∧ .healthStarted l ∈ log := by
  intro l hl
  cases h with
  | startHealthCheck c conn h =>
    rcases List.mem_append.mp hl with hl | hl
    · exact Or.inl hl
    · rw [List.mem_singleton.mp hl]
      exact Or.inr ⟨rfl, by simp⟩
  | _ => exact Or.inl hl

theorem mem_modify_cancel {loops : List HealthLoop} {task : Nat} {l : HealthLoop}
    (h : l ∈ loops.modify task HealthLoop.cancel) :
    ∃ position, { l with position := position } ∈ loops := by
  obtain ⟨i, hi⟩ := List.mem_iff_getElem?.mp h
  rw [List.getElem?_modify] at hi
  obtain ⟨x, hx, rfl⟩ := Option.map_eq_some_iff.mp hi
  refine ⟨x.position, ?_⟩
  have hcancel : { x.cancel with position := x.position } = x := by
    unfold HealthLoop.cancel
    split <;> rfl
  split
  · rw [hcancel]
    exact List.mem_of_getElem? hx
  · exact List.mem_of_getElem? hx

theorem Move.loops (h : Move role born acks env p calls q) : ∀ l ∈ q.loops,
    (∃ position, { l with position := position } ∈ p.loops) ∨ .healthStarted l ∈ logOf l.owner q.trace := by
  intro l hl
  have hsame : ∀ l ∈ p.loops, ∃ position, { l with position := position } ∈ p.loops :=
    fun l hl => ⟨l.position, hl⟩
  have hset : ∀ (task : Nat) (x : HealthLoop) position, p.loops[task]? = some x →
      l ∈ p.loops.set task { x with position := position } →
      ∃ position, { l with position := position } ∈ p.loops := by
    intro task x position hx hmem
    rcases List.mem_or_eq_of_mem_set hmem with hmem | rfl
    · exact hsame l hmem
    · exact ⟨x.position, List.mem_of_getElem? hx⟩
  cases h with
  | children | alloc | partitions | unprepared | ack => exact Or.inl (hsame l hl)
  | act s s' actor log hs h =>
    obtain ⟨-, -, hloops, -⟩ := scope_eq_some.mp hs
    rcases act_loops h l hl with hl | ⟨howner, hstarted⟩
    · exact Or.inl (hsame l (hloops ▸ hl))
    · right
      rw [howner]
      unfold write
      rw [logOf_append, logOf_entries_self]
      exact List.mem_append_right _ hstarted
  | leave task x e hx | refuse task x e hx => exact Or.inl (hset task x _ hx hl)
  | poll task x e metadata hx => exact Or.inl (hset task x _ hx hl)
  | close task x e call hx => exact Or.inl (hset task x _ hx hl)
  | answer task x call position hx => exact Or.inl (hset task x _ hx hl)
  | stop ref =>
    left
    unfold Pool.stop at hl
    split at hl
    · exact hsame l hl
    · split at hl
      · exact mem_modify_cancel hl
      · exact hsame l hl

/-! ## What holds of every endpoint -/

/-- `I` holds of each endpoint and its journal, no other endpoint has one, and the journals say which
health loops were started. -/
structure Each (I : Client → Endpoint ρ → List Event → Prop) (p : Pool ρ) : Prop where
  each : ∀ r e, p.endpoints[r]? = some e → I p.client e (logOf r p.trace)
  fresh : ∀ r : Nat, p.endpoints[r]? = none → logOf r p.trace = []
  started : ∀ l ∈ p.loops, Started (logOf l.owner p.trace) l

variable {I : Client → Endpoint ρ → List Event → Prop}

theorem each_init (c : Client) : Each I ({ client := c } : Pool ρ) where
  each := by simp
  fresh := by simp
  started := by simp

theorem Each.withClient (h : p.Each I) {c : Client}
    (hgrows : ∀ e log, I p.client e log → I c e log) : Each I { p with client := c } where
  each r e he := hgrows e _ (h.each r e he)
  fresh := h.fresh
  started := h.started

theorem Each.move_started (h : p.Each I) (hmove : Move role born acks env p calls q) :
    ∀ l ∈ q.loops, Started (logOf l.owner q.trace) l := by
  intro l hl
  rcases hmove.loops l hl with ⟨position, hold⟩ | hnew
  · obtain ⟨position', hstarted⟩ := h.started _ hold
    obtain ⟨more, hmore⟩ := hmove.trace
    refine ⟨position', ?_⟩
    rw [← hmore, logOf_append]
    exact List.mem_append_left _ hstarted
  · exact ⟨l.position, hnew⟩

/-- The rule for the moves: what is born has `I`, what is touched keeps it, and so does what is left
alone while the client goes on. -/
theorem Each.move (h : p.Each I) (hmove : Move role born acks env p calls q)
    (hborn : ∀ e, born p.client.uri e → I q.client e [])
    (htouch : ∀ r e log new e', I p.client e log → (∀ l ∈ p.loops, l.owner = r → Started log l) →
      Touch role acks env p.client p.loops q.client r e new e' → I q.client e' (log ++ new)) :
    q.Each I := by
  refine ⟨fun r e he => ?_, fun r hr => ?_, h.move_started hmove⟩
  · rcases hmove.touches r with ⟨x, x', log, hx, hx', hlog, ht⟩ | ⟨hnone, hlog, hnew⟩
    · rw [hx', Option.some.injEq] at he
      rw [hlog, ← he]
      refine htouch r x _ log x' (h.each r x hx) (fun l hl howner => ?_) ht
      exact howner ▸ h.started l hl
    · rw [hlog, h.fresh r hnone]
      exact hborn e (hnew e he)
  · rcases hmove.touches r with ⟨x, x', log, hx, hx', hlog, ht⟩ | ⟨hnone, hlog, hnew⟩
    · cases hx'.symm.trans hr
    · rw [hlog, h.fresh r hnone]

end Pool

namespace Session

open Pool

variable {s : Session} {uri : String} {options : List OptionsCall} {ls : List SessionLabel}

/-- What holds of every `TopicProducer` of a session and its journal. -/
theorem producers_each {I : ProducerConfig → Client → TopicProducer → List Event → Prop}
    (hborn : ∀ config c e, Producer.Born config c.uri e → I config c e [])
    (hgrows : ∀ config c c' e log, c.Grows c' → I config c e log → I config c' e log)
    (htouch : ∀ config env c loops c' r e log new e', c.Extends c' → I config c e log →
      (∀ l ∈ loops, l.owner = r → Started log l) → Touch producerRole (fun _ => False) env c loops c' r e new e' →
      I config c' e' (log ++ new))
    (h : exec step (init uri options) ls = some s) :
    ∀ p ∈ s.producers, (p.withClient s.client).pool.Each (I p.config) :=
  producers_keep (I := fun config p => p.Each (I config)) (fun _ c => each_init c)
    (fun config p c hc hp => hp.withClient fun e log => hgrows config p.client c e log hc)
    (fun config env p _ q hp hmove =>
      hp.move hmove (fun e he => hborn config q.client e (hmove.extends.uri ▸ he))
        fun r e log new e' => htouch config env p.client p.loops q.client r e log new e' hmove.extends) h

/-- What holds of every `TopicConsumer` of a session and its journal. -/
theorem consumers_each {I : ConsumerConfig → Client → TopicConsumer → List Event → Prop}
    (hborn : ∀ config c e, Consumer.Born config c.uri e → I config c e [])
    (hgrows : ∀ config c c' e log, c.Grows c' → I config c e log → I config c' e log)
    (htouch : ∀ config env c loops c' r e log new e', c.Extends c' → I config c e log →
      (∀ l ∈ loops, l.owner = r → Started log l) → Touch consumerRole (Consumer.Acks config) env c loops c' r e new e' →
      I config c' e' (log ++ new))
    (h : exec step (init uri options) ls = some s) :
    ∀ p ∈ s.consumers, (p.withClient s.client).pool.Each (I p.config) :=
  consumers_keep (I := fun config p => p.Each (I config)) (fun _ c => each_init c)
    (fun config p c hc hp => hp.withClient fun e log => hgrows config p.client c e log hc)
    (fun config env p _ q hp hmove =>
      hp.move hmove (fun e he => hborn config q.client e (hmove.extends.uri ▸ he))
        fun r e log new e' => htouch config env p.client p.loops q.client r e log new e' hmove.extends) h

end Session

end Danube
