import Danube.ConsumerClose

/-!
# The key filters in the requests of a consumer

Every `Subscribe` carries the key filters of its topic consumer, which no method of it changes.
-/

namespace Danube

open Async

def Event.subscribe? : Event → Option ConsumerRequest
  | .rpc call =>
    match call.request with
    | .subscribe request => some request
    | _ => none
  | _ => none

theorem Event.subscribe?_rpc {call : Call} (h : ∀ r, call.request ≠ .subscribe r) :
    (Event.rpc call).subscribe? = none := by
  dsimp only [subscribe?]
  split
  · rename_i r hr
    exact (h r hr).elim
  · rfl

/-- A piece keeps the fields of the topic consumer, and its requests carry their key filters. -/
structure KeepsFilters (s : Scope ConsumerFields) (log : List Event) (s' : Scope ConsumerFields) :
    Prop where
  own : s'.self.own = s.self.own
  requests : ∀ e ∈ log, ∀ r ∈ e.subscribe?, r.keyFilters = s.self.own.keyFilters

namespace KeepsFilters

variable {s t u : Scope ConsumerFields} {a b : List Event}

theorem trans (h : KeepsFilters s a t) (k : KeepsFilters t b u) : KeepsFilters s (a ++ b) u where
  own := k.own.trans h.own
  requests e he r hr := by
    rcases List.mem_append.mp he with he | he
    · exact h.requests e he r hr
    · rw [k.requests e he r hr, h.own]

theorem silent (hown : t.self.own = s.self.own) (h : ∀ e ∈ a, e.subscribe? = none) :
    KeepsFilters s a t where
  own := hown
  requests e he r hr := by
    rw [h e he] at hr
    cases hr

theorem congr (h : KeepsFilters t a u) (hown : t.self.own = s.self.own) : KeepsFilters s a u where
  own := h.own.trans hown
  requests := hown ▸ h.requests

theorem after {κ α : Type} {r : Piece ConsumerFields κ α} (h : KeepsFilters s r.log r.state)
    {log : List Event} (hlog : ∀ e ∈ log, e.subscribe? = none) :
    KeepsFilters s (r.after log).log (r.after log).state :=
  trans (silent rfl hlog) h

end KeepsFilters

/-- What `KeepsFilters` says of a piece. -/
abbrev Piece.KeepsFilters {κ α : Type} (s : Scope ConsumerFields) (r : Piece ConsumerFields κ α) :
    Prop := Danube.KeepsFilters s r.log r.state

/-! ## The pieces of `subscribe()` -/

namespace Endpoint

variable {α : Type} (env : Env)

theorem lookup_subscribe? {s : Scope ConsumerFields} {c : Client} {call : Call}
    (h : s.client.lookupTopic env.lookup s.self.connectUrl s.self.topic = (c, .ok call)) :
    (Event.rpc call).subscribe? = none := by
  obtain ⟨-, n, hn⟩ := Client.lookupTopic_ok h
  exact Event.subscribe?_rpc (by simp [hn])

theorem retry_keepsFilters (n : Nat) (s : Scope ConsumerFields) :
    Piece.KeepsFilters s (retry env n s : Piece ConsumerFields Registering α) := by
  unfold retry backoff
  split
  · rename_i heq
    exact .silent rfl (by simpa using lookup_subscribe? env heq)
  · exact .silent rfl (by simp [Event.subscribe?])

theorem failed_keepsFilters (n : Nat) (err : Error) (s : Scope ConsumerFields) :
    Piece.KeepsFilters s (failed env n err s : Piece ConsumerFields Registering α) := by
  unfold failed
  split
  · split
    · exact .silent rfl (by simp [Event.subscribe?])
    · exact retry_keepsFilters env _ s
  · exact .silent rfl (by simp [Event.subscribe?])

theorem attempt_keepsFilters (n : Nat) (s : Scope ConsumerFields) :
    Piece.KeepsFilters s
      (attempt consumerRole env n s : Piece ConsumerFields Registering α) := by
  unfold attempt
  split
  · exact (failed_keepsFilters env n _ _).congr rfl
  · refine KeepsFilters.after ?_ (by simp [Event.subscribe?])
    split
    · exact (failed_keepsFilters env n _ _).congr rfl
    · refine ⟨rfl, fun e he r hr => ?_⟩
      rw [List.mem_singleton.mp he] at hr
      cases hr
      rfl

theorem create_keepsFilters (s : Scope ConsumerFields) :
    Piece.KeepsFilters s (create consumerRole env s : Piece ConsumerFields Registering α) := by
  unfold create
  refine KeepsFilters.after ?_ (by simp [Event.subscribe?])
  split
  · rename_i heq
    exact .silent rfl (by simpa using lookup_subscribe? env heq)
  · exact (attempt_keepsFilters env 0 _).congr rfl

theorem afterLookup_keepsFilters (n : Nat) (s : Scope ConsumerFields) :
    Piece.KeepsFilters s
      (afterLookup consumerRole env n s : Piece ConsumerFields Registering α) := by
  unfold afterLookup backoff
  split
  · exact attempt_keepsFilters env 0 s
  · exact .silent rfl (by simp [Event.subscribe?])

theorem unresolved_keepsFilters (n : Nat) (err : Error) (s : Scope ConsumerFields) :
    Piece.KeepsFilters s (unresolved env n err s) :=
  (failed_keepsFilters env n err s).after (by simp [Event.subscribe?])

theorem registered_keepsFilters (n : Nat) (addr : BrokerAddress) (id : Nat)
    (s : Scope ConsumerFields) :
    Piece.KeepsFilters s (registered consumerRole env n addr id s) := by
  unfold registered checkHealth
  refine KeepsFilters.after ?_ (by simp [Event.subscribe?])
  split
  · exact (failed_keepsFilters env n _ _).congr rfl
  · refine KeepsFilters.after ?_ (by simp [Event.subscribe?])
    exact .silent rfl (by simp [resolveSchema, consumerRole, returnId, Event.subscribe?])

theorem resume_keepsFilters {s : Scope ConsumerFields} {k : Registering} {w : Wake}
    {r : Piece ConsumerFields Registering Nat} (h : resume consumerRole env s k w = some r) :
    Piece.KeepsFilters s r := by
  cases resumption h with
  | moved n =>
    refine KeepsFilters.after ?_ (by simp [Event.subscribe?])
    exact (afterLookup_keepsFilters env n _).congr rfl
  | notMoved n | lookupFailed n => exact afterLookup_keepsFilters env n s
  | slept n => exact attempt_keepsFilters env n s
  | answered n addr call id => exact registered_keepsFilters env n addr id s
  | refused n => exact failed_keepsFilters env n _ s
  | latest n call info ref href => cases href
  | latestFailed n | pinnedFailed n => exact unresolved_keepsFilters env n _ s
  | pinned => exact .silent rfl (by simp [resolved, returnId, Event.subscribe?])

end Endpoint

/-! ## The pieces of a receive loop -/

namespace Receive

variable {env : Env} {a : LoopArgs}

theorem done_keepsFilters (s : Scope ConsumerFields) : Piece.KeepsFilters s (done s) :=
  .silent rfl (by simp [done])

theorem resubscribe_keepsFilters (s : Scope ConsumerFields) :
    Piece.KeepsFilters s (resubscribe env s) := by
  refine KeepsFilters.after ?_ (by simp [Event.subscribe?])
  exact Ran.andThen_spec (J := KeepsFilters) KeepsFilters.trans
    (Endpoint.create_keepsFilters env s) (fun x _ => x.elim) fun _ _ => done_keepsFilters _

theorem turn_keepsFilters (n : Nat) (s : Scope ConsumerFields) :
    Piece.KeepsFilters s (turn env a n s) := by
  have hown : (TopicConsumer.receive env s).1.self.own = s.self.own := by
    unfold TopicConsumer.receive
    split <;> (dsimp only; split <;> rfl)
  unfold turn
  split
  · exact done_keepsFilters s
  · split <;> rename_i heq <;> rw [heq] at hown
    · rename_i s' call
      have hok : (TopicConsumer.receive env s).2 = .ok call := by rw [heq]
      have hrequest := (receive_ok env hok).2.1
      refine .silent hown fun e he => ?_
      rw [List.mem_singleton.mp he]
      exact Event.subscribe?_rpc (by simp [hrequest])
    · exact (resubscribe_keepsFilters _).congr hown
    · split
      · split
        · exact (resubscribe_keepsFilters _).congr hown
        · exact .silent hown (by simp [Event.subscribe?])
      · exact (done_keepsFilters _).congr hown

theorem streamOver_keepsFilters (s : Scope ConsumerFields) :
    Piece.KeepsFilters s (streamOver env a s) := by
  unfold streamOver
  split
  · exact done_keepsFilters s
  · split
    · exact ((resubscribe_keepsFilters _).after (by simp [Event.subscribe?])).congr rfl
    · exact turn_keepsFilters 0 s

theorem taken_keepsFilters (call : Call) (m : StreamMessage) (s : Scope ConsumerFields) :
    Piece.KeepsFilters s (taken env a call m s) := by
  unfold taken
  split
  · exact done_keepsFilters s
  · split
    · exact streamOver_keepsFilters s
    · split <;> exact .silent rfl (by simp [Event.subscribe?])

theorem resubscribed_keepsFilters {s : Scope ConsumerFields}
    {r : Piece ConsumerFields Registering Nat} (h : Piece.KeepsFilters s r) :
    Piece.KeepsFilters s (resubscribed env a r) :=
  Ran.andThen_spec (J := KeepsFilters) KeepsFilters.trans h (fun _ _ => turn_keepsFilters 0 _)
    fun _ _ => done_keepsFilters _

end Receive

theorem Consumer.receivePiece_keepsFilters {env : Env} {a : LoopArgs} {s : Scope ConsumerFields}
    {status : ReceiveStatus} {w : Wake} {r : Piece ConsumerFields Receiving Unit}
    (h : receivePiece env a s status w = some r) : Piece.KeepsFilters s r := by
  rcases receivePiece_cases env h with ⟨-, -, rfl⟩ | ⟨k, -, hresume⟩
  · exact Receive.turn_keepsFilters 0 s
  cases Receive.resumption hresume with
  | took call m => exact (Receive.taken_keepsFilters call m s).after (by simp [Event.subscribe?])
  | ended | failed => exact (Receive.streamOver_keepsFilters s).after (by simp [Event.subscribe?])
  | room => exact .silent rfl (by simp [Event.subscribe?])
  | slept n => exact Receive.turn_keepsFilters n s
  | subscribing k w r' hr' =>
    exact Receive.resubscribed_keepsFilters (Endpoint.resume_keepsFilters env hr')

/-! ## The consumer -/

namespace Consumer

/-- The consumer and its topic consumers have the key filters `filters`, and so had every `Subscribe`
so far. -/
structure Filtered (filters : List String) (s : ConsumerState) : Prop where
  config : s.config.keyFilters = filters
  endpoints : ∀ e ∈ s.pool.endpoints, e.own.keyFilters = filters
  requests : ∀ x ∈ s.pool.trace, ∀ r ∈ x.event.subscribe?, r.keyFilters = filters

variable {filters : List String}

theorem Filtered.aside {s s' : ConsumerState} (h : Filtered filters s)
    (hconfig : s'.config = s.config)
    (hown : ∀ e' ∈ s'.pool.endpoints, ∃ e ∈ s.pool.endpoints, e'.own = e.own)
    {log : List Entry} (htrace : s'.pool.trace = s.pool.trace ++ log)
    (hlog : ∀ x ∈ log, x.event.subscribe? = none) : Filtered filters s' where
  config := hconfig ▸ h.config
  endpoints e' he' := by
    obtain ⟨e, he, hsame⟩ := hown e' he'
    rw [hsame]
    exact h.endpoints e he
  requests x hx r hr := by
    rw [htrace] at hx
    rcases List.mem_append.mp hx with hx | hx
    · exact h.requests x hx r hr
    · rw [hlog x hx] at hr
      cases hr

theorem Filtered.commit {s s' : ConsumerState} (h : Filtered filters s) {κ α : Type} {ref : Nat}
    {sc : Scope ConsumerFields} {ran : Piece ConsumerFields κ α} (hsc : s.pool.scope ref = some sc)
    (hran : Piece.KeepsFilters sc ran) (actor : Actor) (hconfig : s'.config = s.config)
    (hendpoints : s'.pool.endpoints = (s.pool.commit actor ran).endpoints)
    (htrace : s'.pool.trace = (s.pool.commit actor ran).trace) : Filtered filters s' := by
  have hself : sc.self.own.keyFilters = filters :=
    h.endpoints _ (List.mem_of_getElem? (Pool.scope_eq_some.mp hsc).1)
  refine ⟨hconfig ▸ h.config, fun e he => ?_, fun x hx r hr => ?_⟩
  · rw [hendpoints] at he
    rcases List.mem_or_eq_of_mem_set he with he | rfl
    · exact h.endpoints e he
    · rw [hran.own]
      exact hself
  · rw [htrace] at hx
    rcases List.mem_append.mp hx with hx | hx
    · exact h.requests x hx r hr
    · obtain ⟨e, he, rfl⟩ := List.mem_map.mp hx
      rw [hran.requests e he r hr]
      exact hself

theorem onConsumer_filtered {s s' : ConsumerState} (h : Filtered filters s) {topic text : String}
    {request : Request} (hrequest : ∀ r, request ≠ .subscribe r) {env : Env}
    (hstep : onConsumer s topic (TopicConsumer.onStub env text request) = some s') :
    Filtered filters s' := by
  obtain ⟨acks, rfl | ⟨ref, sc, call, -, -, hcall, rfl⟩⟩ := onConsumer_eq_some hstep
  · exact h.aside rfl (fun e he => ⟨e, he, rfl⟩) (List.append_nil _).symm (by simp)
  · refine h.aside rfl (fun e he => ⟨e, he, rfl⟩) rfl fun x hx => ?_
    obtain ⟨e, he, rfl⟩ := List.mem_map.mp hx
    rw [List.mem_singleton.mp he]
    exact Event.subscribe?_rpc fun r => (onStub_ok env hcall).2.1 ▸ hrequest r

theorem foldl_stop_own (refs : List Nat) (p : Pool ConsumerFields) :
    ∀ e' ∈ (refs.foldl Pool.stop p).endpoints, ∃ e ∈ p.endpoints, e'.own = e.own := by
  intro e' he'
  obtain ⟨i, hi⟩ := List.mem_iff_getElem?.mp he'
  rw [Pool.foldl_stop_getElem] at hi
  obtain ⟨e, he, rfl⟩ := Option.map_eq_some_iff.mp hi
  refine ⟨e, List.mem_of_getElem? he, ?_⟩
  split <;> rfl

theorem step_filtered {s s' : ConsumerState} {l : ConsumerLabel} (h : Filtered filters s)
    (hstep : step s l = some s') : Filtered filters s' := by
  have hsame : ∀ e' ∈ s.pool.endpoints, ∃ e ∈ s.pool.endpoints, e'.own = e.own :=
    fun e he => ⟨e, he, rfl⟩
  cases l with
  | subscribe env =>
    obtain ⟨-, -, c, x, -, -, rfl⟩ := subscribe_eq_some hstep
    exact h.aside rfl hsame (List.append_nil _).symm (by simp)
  | partitions w =>
    rcases partitions_eq_some hstep with ⟨⟨names, rfl⟩, -⟩ | ⟨rfl, -⟩
    · -- The new endpoints get the filters of the configuration.
      refine ⟨h.config, fun e he => ?_, h.requests⟩
      rcases List.mem_append.mp he with he | he
      · exact h.endpoints e he
      · obtain ⟨name, -, rfl⟩ := List.mem_map.mp he
        exact h.config
    · exact h.aside rfl hsame (List.append_nil _).symm (by simp)
  | child ref w env =>
    obtain ⟨p, hp, rfl⟩ := Option.map_eq_some_iff.mp hstep
    obtain ⟨c, heq, -⟩ := settle_eq { s with pool := p } ref
    obtain ⟨c', sc, ran, -, hsc, hran, rfl⟩ := Pool.child_eq_some.mp hp
    rw [heq]
    have hkeeps : Piece.KeepsFilters sc ran := by
      rcases Pool.childPiece_cases hran with ⟨-, -, rfl⟩ | ⟨k, -, hresume⟩
      · exact Endpoint.create_keepsFilters env sc
      · exact Endpoint.resume_keepsFilters env hresume
    exact h.commit hsc hkeeps (.child ref) rfl rfl rfl
  | gathered =>
    obtain ⟨names, g, -, rfl | ⟨-, rfl⟩⟩ := gathered_eq_some hstep <;>
      exact h.aside rfl hsame (List.append_nil _).symm (by simp)
  | receive => cases hstep; exact h.aside rfl hsame (List.append_nil _).symm (by simp)
  | receiving task w env =>
    obtain ⟨t, sc, queue, ran, -, hsc, -, hran, rfl⟩ := receiving_eq_some.mp hstep
    exact h.commit hsc (receivePiece_keepsFilters hran) (.receive task) rfl rfl rfl
  | get queue =>
    obtain ⟨queues, rfl⟩ := get_eq_some hstep
    exact h.aside rfl hsame (List.append_nil _).symm (by simp)
  | ack message env => exact onConsumer_filtered h (by simp) hstep
  | nack message delayMs reason env => exact onConsumer_filtered h (by simp) hstep
  | acked call w =>
    obtain ⟨acks, rfl⟩ := acked_eq_some hstep
    exact h.aside rfl hsame (List.append_nil _).symm (by simp)
  | health task w env =>
    obtain ⟨p, hp, rfl⟩ := Option.map_eq_some_iff.mp hstep
    obtain ⟨l, e, c, pos, log, stop, -, -, -, hchecks, rfl⟩ := Pool.health_eq_some hp
    refine h.aside rfl ?_ rfl fun x hx => ?_
    · intro e' he'
      obtain ⟨i, hi⟩ := List.mem_iff_getElem?.mp he'
      cases stop
      · exact ⟨e', List.mem_of_getElem? hi, rfl⟩
      · simp only [Pool.checked, if_true, List.getElem?_modify, Option.map_eq_map,
          Option.map_eq_some_iff] at hi
        obtain ⟨x, hx, rfl⟩ := hi
        refine ⟨x, List.mem_of_getElem? hx, ?_⟩
        split <;> rfl
    · obtain ⟨event, hevent, rfl⟩ := List.mem_map.mp hx
      cases hchecks with
      | poll _ _ call n hcall =>
        rw [List.mem_singleton.mp hevent]
        exact Event.subscribe?_rpc (by simp [hcall])
      | close call =>
        rw [List.mem_singleton.mp hevent]
        rfl
      | _ => simp at hevent
  | close =>
    cases hstep
    obtain ⟨log, htrace, hlog⟩ := Pool.foldl_stop_writes (s.consumers.map Prod.snd) s.pool
    exact h.aside rfl (foldl_stop_own _ _) htrace fun x hx => by rw [(hlog x hx).1]; rfl

end Consumer

end Danube
