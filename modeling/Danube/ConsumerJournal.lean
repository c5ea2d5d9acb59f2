import Danube.Consumer
import Danube.PoolTasks

/-! # The journals of a consumer -/

namespace Danube

open Async

/-! ## The pieces of a receive loop -/

/-- A piece that may first clear the stop event. -/
def Cleared {κ α : Type} (s : Scope ConsumerFields) (r : Piece ConsumerFields κ α) : Prop :=
  Piece.Journaled s r ∨ (s.self.stopEvent = true ∧ Piece.Journaled (Receive.clearStop s) r)

section Pieces

variable (env : Env)

theorem onStub_ok {text : String} {request : Request} {s : Scope ConsumerFields} {call : Call}
    (h : TopicConsumer.onStub env text request s = .ok call) :
    s.self.stub = some call.conn ∧ call.request = request ∧
      ∃ metadata, call.metadata = insertProxyHeader metadata s.self.brokerAddr s.self.proxy := by
  unfold TopicConsumer.onStub at h
  split at h
  · simp at h
  · rename_i stub hstub
    split at h
    · simp at h
    · rename_i metadata _
      cases h
      exact ⟨hstub, rfl, metadata, rfl⟩

theorem receive_state (s : Scope ConsumerFields) :
    Journaled s [] (TopicConsumer.receive env s).1 := by
  have hcount : Journaled s [] (if s.self.stub = none then s else Endpoint.countRequest s) := by
    split
    · exact .refl s
    · exact .change _ rfl rfl rfl rfl rfl rfl rfl rfl
  unfold TopicConsumer.receive
  dsimp only
  split <;> exact hcount

theorem receive_ok {s : Scope ConsumerFields} {call : Call}
    (h : (TopicConsumer.receive env s).2 = .ok call) :
    s.self.stub = some call.conn ∧
      call.request = .receiveMessages s.self.requestId s.self.id ∧
      ∃ metadata, call.metadata = insertProxyHeader metadata s.self.brokerAddr s.self.proxy := by
  unfold TopicConsumer.receive at h
  dsimp only at h
  split at h
  · simp at h
  · exact onStub_ok env h

theorem receive_rpc {s : Scope ConsumerFields} {call : Call}
    (h : (TopicConsumer.receive env s).2 = .ok call) :
    Journaled s [.rpc call] (TopicConsumer.receive env s).1 := by
  obtain ⟨hstub, hreq, hmd⟩ := receive_ok env h
  refine (Journaled.rpcOnStub hstub hmd (by simp [hreq]) ?_).trans (receive_state env s)
  intro n id hn
  rw [hreq] at hn
  cases hn
  rfl

theorem resubscribe_journaled (s : Scope ConsumerFields) :
    Piece.Journaled s (Receive.resubscribe env s) := by
  have hcall : Piece.Journaled s ((TopicConsumer.subscribe env s).andThen .subscribing
      (fun _ (x : Empty) => x.elim) fun s _ => Receive.done s) :=
    andThen_journaled (create_journaled consumerRole env s) (fun _ a => a.elim) fun _ _ => .refl _
  exact (Journaled.plain (e := .resubscribing) trivial s).trans hcall

theorem turn_journaled (a : LoopArgs) (n : Nat) (s : Scope ConsumerFields) :
    Piece.Journaled s (Receive.turn env a n s) := by
  have hstate := receive_state env s
  unfold Receive.turn
  split
  · exact .refl s
  · split
    · rename_i s' call heq
      have hok : (TopicConsumer.receive env s).2 = .ok call := by rw [heq]
      have hrpc := receive_rpc env hok
      rw [heq] at hrpc
      exact hrpc
    · rename_i s' text heq
      rw [heq] at hstate
      exact hstate.trans (resubscribe_journaled env s')
    · rename_i s' err _ heq
      rw [heq] at hstate
      split
      · split
        · exact hstate.trans (resubscribe_journaled env s')
        · exact hstate.trans (Journaled.plain (e := .backoff _) trivial s')
      · exact hstate

theorem streamOver_cleared (a : LoopArgs) (s : Scope ConsumerFields) :
    Cleared s (Receive.streamOver env a s) := by
  unfold Receive.streamOver
  split
  · exact Or.inl (.refl s)
  · split
    · rename_i hstop
      have hcleared := Journaled.plain (e := .cleared) trivial (Receive.clearStop s)
      exact Or.inr ⟨hstop, hcleared.trans (resubscribe_journaled env _)⟩
    · exact Or.inl (turn_journaled env a 0 s)

theorem Cleared.after {s : Scope ConsumerFields} {r : Piece ConsumerFields Receiving Unit}
    (h : Cleared s r) {e : Event} (he : Journaled.Plain e) : Cleared s (r.after [e]) := by
  rcases h with h | ⟨hstop, h⟩
  · exact Or.inl ((Journaled.plain he s).trans h)
  · exact Or.inr ⟨hstop, (Journaled.plain he _).trans h⟩

theorem taken_cleared (a : LoopArgs) (call : Call) (m : StreamMessage) (s : Scope ConsumerFields) :
    Cleared s (Receive.taken env a call m s) := by
  unfold Receive.taken
  split
  · exact Or.inl (.refl s)
  · split
    · exact streamOver_cleared env a s
    · split
      · exact Or.inl (.refl s)
      · exact Or.inl (Journaled.plain (e := .put m) trivial s)

theorem receiveResume_cleared {a : LoopArgs} {s : Scope ConsumerFields} {k : Receiving} {w : Wake}
    {r : Piece ConsumerFields Receiving Unit} (h : Receive.resume env a s k w = some r) :
    Cleared s r := by
  cases Receive.resumption h with
  | took call m => exact (taken_cleared env a call m s).after trivial
  | ended | failed => exact (streamOver_cleared env a s).after trivial
  | room call m => exact Or.inl (Journaled.plain (e := .put m) trivial s)
  | slept n => exact Or.inl (turn_journaled env a n s)
  | subscribing k w r' hr' =>
    exact Or.inl (andThen_journaled (resume_journaled consumerRole env hr')
      (fun _ _ => turn_journaled env a 0 _) fun _ _ => .refl _)

theorem receivePiece_cases {a : LoopArgs} {s : Scope ConsumerFields} {status : ReceiveStatus}
    {w : Wake} {r : Piece ConsumerFields Receiving Unit}
    (h : Consumer.receivePiece env a s status w = some r) :
    (status = .scheduled ∧ w = .start ∧ r = Receive.turn env a 0 s) ∨
      ∃ k, status = .started (.await k) ∧ Receive.resume env a s k w = some r := by
  unfold Consumer.receivePiece at h
  split at h
  · exact Or.inl ⟨rfl, rfl, (Option.some.inj h).symm⟩
  · exact Or.inr ⟨_, rfl, h⟩
  · cases h

theorem receivePiece_cleared {a : LoopArgs} {s : Scope ConsumerFields} {status : ReceiveStatus}
    {w : Wake} {r : Piece ConsumerFields Receiving Unit}
    (h : Consumer.receivePiece env a s status w = some r) : Cleared s r := by
  rcases receivePiece_cases env h with ⟨-, -, rfl⟩ | ⟨k, -, hresume⟩
  · exact Or.inl (turn_journaled env a 0 s)
  · exact receiveResume_cleared env hresume

end Pieces

/-! ## The pool under a piece that clears the stop event -/

namespace Pool

variable {p : Pool ConsumerFields} {ref : Nat} {s : Scope ConsumerFields}

theorem scope_setStop (hs : p.scope ref = some s) :
    (p.setStop ref false).scope ref = some (Receive.clearStop s) := by
  obtain ⟨hself, hclient, hloops, href⟩ := scope_eq_some.mp hs
  refine scope_eq_some.mpr ⟨?_, hclient, hloops, href⟩
  simp [setStop, hself, Receive.clearStop]

theorem commit_setStop {κ α : Type} (b : Bool) (actor : Actor) (ran : Piece ConsumerFields κ α)
    (href : ran.state.ref = ref) : (p.setStop ref b).commit actor ran = p.commit actor ran := by
  simp only [commit, setStop, href, mk.injEq, true_and, and_true]
  refine List.ext_getElem? fun i => ?_
  simp only [List.getElem?_set, List.getElem?_modify, List.length_modify]
  split
  · rfl
  · cases p.endpoints[i]? <;> simp

theorem setStop_sound (h : p.Sound) (ref : Nat) (b : Bool) : (p.setStop ref b).Sound := by
  refine h.congr (.refl _) rfl (by simp [setStop]) (fun _ _ => rfl) rfl fun r e e' he he' => ?_
  simp only [setStop, List.getElem?_modify, he] at he'
  split at he' <;> cases he' <;> exact ⟨rfl, Or.inl rfl⟩

end Pool

/-! ## The steps -/

namespace Consumer

theorem topicConsumer_fresh (s : ConsumerState) (partition : String) :
    Pool.Fresh s.pool.client.uri (topicConsumer s partition) := ⟨rfl, rfl, rfl, rfl, rfl⟩

theorem topicConsumers_fresh (s : ConsumerState) (names : List String) :
    ∀ e ∈ names.map (topicConsumer s), Pool.Fresh s.pool.client.uri e := by
  intro e he
  obtain ⟨name, -, rfl⟩ := List.mem_map.mp he
  exact topicConsumer_fresh s name

theorem settle_eq (s : ConsumerState) (ref : Nat) :
    ∃ c, settle s ref = { s with subscribing := c } ∧ (c = none ↔ s.subscribing = none) ∧
      ∀ names g, c = some (.gather names g) → ∃ g', s.subscribing = some (.gather names g') ∧
        g.refs = g'.refs := by
  unfold settle
  split
  · rename_i names g hg
    refine ⟨_, rfl, by simp [hg], fun names' g' h => ?_⟩
    simp only [Option.some.injEq, SubscribeCall.gather.injEq] at h
    obtain ⟨rfl, rfl⟩ := h
    refine ⟨g, hg, ?_⟩
    unfold Gather.note
    split
    · split <;> rfl
    · rfl
  · exact ⟨s.subscribing, rfl, Iff.rfl, fun names g h => ⟨g, h, rfl⟩⟩

theorem subscribe_eq_some {s s' : ConsumerState} {env : Env} (h : subscribe s env = some s') :
    s.subscribing = none ∧ s.consumers = [] ∧ ∃ c x, s.pool.client.Extends c ∧
      (∀ names g, x ≠ some (.gather names g)) ∧
      s' = { s with pool := { s.pool with client := c }, subscribing := x } := by
  unfold subscribe at h
  split at h
  · rename_i hfree
    refine ⟨hfree.1, hfree.2, ?_⟩
    have hext : s.pool.client.Extends
        (s.pool.client.topicPartitions env.call s.pool.client.uri s.config.topicName).1 := by
      have hp := s.pool.client.prepare_extends env.call s.pool.client.uri
      unfold Client.topicPartitions
      split <;> rename_i heq <;> rw [heq] at hp
      · exact hp
      · exact ⟨hp.uri, hp.connections⟩
    split at h <;> rename_i heq <;> rw [heq] at hext <;> cases h
    · exact ⟨_, _, hext, by simp, rfl⟩
    · exact ⟨_, s.subscribing, hext, by simp [hfree.1], rfl⟩
  · simp at h

theorem partitions_eq_some {s s' : ConsumerState} {w : Wake} (h : partitions s w = some s') :
    (∃ names, s' = { s with
      pool := s.pool.alloc (names.map (topicConsumer s))
      subscribing := some
        (.gather names { refs := List.range' s.pool.endpoints.length names.length }) }) ∧
        (∃ call, s.subscribing = some (.partitions call)) ∨
      s' = { s with subscribing := none } ∧ ∃ call, s.subscribing = some (.partitions call) := by
  unfold partitions at h
  split at h
  · rename_i call names hsub
    cases h
    exact Or.inl ⟨⟨names, rfl⟩, call, hsub⟩
  · rename_i call err hsub
    cases h
    exact Or.inr ⟨rfl, call, hsub⟩
  · simp at h

theorem gathered_eq_some {s s' : ConsumerState} (h : gathered s = some s') :
    ∃ names g, s.subscribing = some (.gather names g) ∧
      (s' = { s with subscribing := none } ∨
        g.allReturned s.pool.children = true ∧ s' = { s with
          consumers := (names.zip g.refs).foldl (fun d x => setItem d x.1 x.2) []
          subscribing := none }) := by
  unfold gathered at h
  split at h
  · rename_i names g hg
    refine ⟨names, g, hg, ?_⟩
    split at h
    · cases h
      exact Or.inl rfl
    · split at h
      · rename_i hall
        cases h
        exact Or.inr ⟨hall, rfl⟩
      · simp at h
  · simp at h

theorem receiving_eq_some {s s' : ConsumerState} {task : Nat} {w : Wake} {env : Env} :
    receiving s task w env = some s' ↔ ∃ t sc queue ran, s.tasks[task]? = some t ∧
      s.pool.scope t.ref = some sc ∧ s.queues[t.queue]? = some queue ∧
      receivePiece env (loopArgs s queue) sc t.status w = some ran ∧
      s' = { s with
        pool := s.pool.commit (.receive task) ran
        queues := s.queues.set t.queue (queue ++ ran.log.filterMap Event.put?)
        tasks := s.tasks.set task { t with status := .started ran.next } } := by
  simp only [receiving, Option.bind_eq_bind, Option.bind_eq_some_iff, Option.pure_def,
    Option.some.injEq]
  constructor
  · rintro ⟨t, ht, sc, hsc, queue, hq, ran, hran, rfl⟩
    exact ⟨t, sc, queue, ran, ht, hsc, hq, hran, rfl⟩
  · rintro ⟨t, sc, queue, ran, ht, hsc, hq, hran, rfl⟩
    exact ⟨t, ht, sc, hsc, queue, hq, ran, hran, rfl⟩

theorem get_eq_some {s s' : ConsumerState} {queue : Nat} (h : get s queue = some s') :
    ∃ queues, s' = { s with queues := queues } := by
  unfold get at h
  split at h
  · cases h
    exact ⟨_, rfl⟩
  · simp at h

theorem onConsumer_eq_some {s s' : ConsumerState} {topic : String}
    {send : Scope ConsumerFields → Except Error Call} (h : onConsumer s topic send = some s') :
    ∃ acks, s' = { s with acks := acks } ∨ ∃ ref sc call, s.consumers.lookup topic = some ref ∧
      s.pool.scope ref = some sc ∧ send sc = .ok call ∧
      s' = { s with pool := s.pool.write .app ref [.rpc call], acks := acks } := by
  unfold onConsumer at h
  split at h
  · cases h
    exact ⟨_, Or.inl rfl⟩
  · rename_i ref href
    obtain ⟨sc, hsc, h⟩ := Option.map_eq_some_iff.mp h
    split at h
    · rename_i call hcall
      subst h
      exact ⟨_, Or.inr ⟨ref, sc, call, href, hsc, hcall, rfl⟩⟩
    · subst h
      exact ⟨_, Or.inl rfl⟩

theorem acked_eq_some {s s' : ConsumerState} {call : Nat} {w : Wake}
    (h : acked s call w = some s') : ∃ acks, s' = { s with acks := acks } := by
  unfold acked at h
  split at h
  · cases h
    exact ⟨_, rfl⟩
  · cases h
    exact ⟨_, rfl⟩
  · simp at h

end Consumer

end Danube
