import Danube.AlikePools
import Danube.PoolMoves

/-!
# Consumers on clients that are alike

A consumer takes the same steps on both clients, and puts the same messages on its queues.
-/

namespace Danube

open Async

inductive Receiving.Alike (w : Channels) : Receiving → Receiving → Prop
  | reading {x y : Call} (h : x.Alike w y) : Alike w (.reading x) (.reading y)
  | putting {x y : Call} (h : x.Alike w y) (message : StreamMessage) :
    Alike w (.putting x message) (.putting y message)
  | backoff (n : Nat) : Alike w (.backoff n) (.backoff n)
  | subscribing {k l : Registering} (h : k.Alike w l) : Alike w (.subscribing k) (.subscribing l)

inductive ReceiveStatus.Alike (w : Channels) : ReceiveStatus → ReceiveStatus → Prop
  | scheduled : Alike w .scheduled .scheduled
  | started {o o' : Outcome Receiving Unit Error} (h : Outcome.Alike (Receiving.Alike w) o o') :
    Alike w (.started o) (.started o')
  | cancelled : Alike w .cancelled .cancelled

structure ReceiveTask.Alike (w : Channels) (x y : ReceiveTask) : Prop where
  status : ReceiveStatus.Alike w x.status y.status
  rest : y = { x with status := y.status }

inductive SubscribeCall.Alike (w : Channels) : SubscribeCall → SubscribeCall → Prop
  | partitions {x y : Call} (h : x.Alike w y) : Alike w (.partitions x) (.partitions y)
  | gather (names : List String) (g : Gather) : Alike w (.gather names g) (.gather names g)

structure ConsumerState.Alike (broken : String → Option String) (w : Channels) (p q : ConsumerState) :
    Prop where
  pool : Pool.Alike broken w p.pool q.pool
  subscribing : Option.Rel (SubscribeCall.Alike w) p.subscribing q.subscribing
  tasks : List.Forall₂ (ReceiveTask.Alike w) p.tasks q.tasks
  acks : List.Forall₂ (Outcome.Alike (Call.Alike w)) p.acks q.acks
  rest : q = { p with pool := q.pool, subscribing := q.subscribing, tasks := q.tasks, acks := q.acks }

section Later

variable {w v : Channels} (hv : w ≤ v)
include hv

theorem Receiving.Alike.later {k l : Receiving} (h : k.Alike w l) : k.Alike v l := by
  cases h with
  | reading h => exact .reading (h.later hv)
  | putting h message => exact .putting (h.later hv) message
  | backoff n => exact .backoff n
  | subscribing h => exact .subscribing (h.later hv)

theorem ReceiveTask.Alike.later {x y : ReceiveTask} (h : x.Alike w y) : x.Alike v y := by
  refine ⟨?_, h.rest⟩
  have hstatus := h.status
  generalize x.status = a at hstatus ⊢
  generalize y.status = b at hstatus ⊢
  cases hstatus with
  | scheduled => exact .scheduled
  | started h => exact .started (h.imp fun _ _ hk => hk.later hv)
  | cancelled => exact .cancelled

theorem subscribing_later {x y : Option SubscribeCall} (h : Option.Rel (SubscribeCall.Alike w) x y) :
    Option.Rel (SubscribeCall.Alike v) x y := by
  cases h with
  | none => exact .none
  | some h =>
    cases h with
    | partitions h => exact .some (.partitions (h.later hv))
    | gather names g => exact .some (.gather names g)

end Later

theorem consumerRole_hides : consumerRole.Hides := fun _ _ => rfl

variable {broken : String → Option String} {w v : Channels} {env : Env}

/-! ## The receive loop -/

section Receive

variable {s t : Scope ConsumerFields}

variable (env) in
theorem TopicConsumer.onStub_alike (h : Scope.Alike broken w s t) (text : String) (request : Request) :
    Scope.Answers broken w (s, onStub env text request s) (t, onStub env text request t) := by
  obtain ⟨stub, hself, hstub⟩ := h.self.exists_stub
  obtain ⟨d, loops, ref, f⟩ := t
  obtain rfl : f = { s.self with stub := stub } := hself
  unfold onStub
  dsimp only
  split
  · rename_i hnone
    rw [hnone] at hstub
    cases hstub
    exact .error h _
  · rename_i x hx
    rw [hx] at hstub
    cases hstub with
    | some hxy =>
      have hattach := h.client.attachToken env.call
      dsimp only at hattach ⊢
      rw [hattach]
      split
      · exact .error h _
      · exact .ok h ⟨hxy, rfl, rfl⟩

variable (env) in
theorem TopicConsumer.receive_alike (h : Scope.Alike broken w s t) :
    Scope.Answers broken w (receive env s) (receive env t) := by
  have hrequest : Request.receiveMessages t.self.requestId t.self.id =
      .receiveMessages s.self.requestId s.self.id := by rw [h.self.rest]
  have hcall := onStub_alike env h "receive: consumer is not connected"
    (.receiveMessages s.self.requestId s.self.id)
  have hcounted : Scope.Alike broken w
      (if s.self.stub = none then s else Endpoint.countRequest s)
      (if t.self.stub = none then t else Endpoint.countRequest t) := by
    have hstub := h.self.stub
    generalize hx : s.self.stub = x at hstub ⊢
    generalize hy : t.self.stub = y at hstub ⊢
    cases hstub with
    | none => exact h
    | some _ =>
      rw [if_neg (by simp), if_neg (by simp)]
      exact h.update (g := fun e => { e with requestId := e.requestId + 1 }) fun _ _ => rfl
  unfold receive
  rw [hrequest]
  dsimp only
  generalize onStub env _ _ s = r at hcall ⊢
  generalize onStub env _ _ t = q at hcall ⊢
  cases hcall with
  | ok _ hxy =>
    cases env.receiveMessages with
    | none => exact .ok hcounted hxy
    | some err => exact .error hcounted _
  | error _ err => exact .error hcounted err

namespace Receive

variable {a : LoopArgs}

/-- The pieces of a receive loop on alike clients. -/
abbrev InStep (broken : String → Option String) (w : Channels)
    (r q : Piece ConsumerFields Receiving Unit) : Prop :=
  Ran.Coupled (scopes ConsumerFields broken) Receiving.Alike w r q

theorem done_alike (h : Scope.Alike broken w s t) : InStep broken w (done s) (done t) :=
  Ran.coupled h .nil (.ret ())

variable (henv : env.Reaches broken)
include henv

theorem resubscribe_alike (h : Scope.Alike broken w s t) :
    InStep broken w (resubscribe env s) (resubscribe env t) := by
  refine Ran.Coupled.after ?_ (Endpoint.same_log rfl)
  exact Ran.Coupled.andThen (Endpoint.create_alike henv consumerRole_hides h)
    (fun _ _ _ hk => .subscribing hk) (fun _ _ _ x => x.elim) fun _ _ _ _ _ hst => done_alike hst

theorem turn_alike (n : Nat) (h : Scope.Alike broken w s t) :
    InStep broken w (turn env a n s) (turn env a n t) := by
  have hreceive := TopicConsumer.receive_alike env h
  unfold turn
  split
  · exact done_alike h
  · generalize TopicConsumer.receive env s = r at hreceive ⊢
    generalize TopicConsumer.receive env t = q at hreceive ⊢
    cases hreceive with
    | ok h hcall => exact Ran.coupled h (Endpoint.rpc_log hcall) (.await (.reading hcall))
    | error h err =>
      cases err with
      | unrecoverable _ => exact resubscribe_alike henv h
      | _ =>
        dsimp only
        split
        · split
          · exact resubscribe_alike henv h
          · exact Ran.coupled h (Endpoint.same_log rfl) (.await (.backoff (n + 1)))
        · exact done_alike h

theorem streamOver_alike (h : Scope.Alike broken w s t) :
    InStep broken w (streamOver env a s) (streamOver env a t) := by
  have hstop : t.self.stopEvent = s.self.stopEvent := by rw [h.self.rest]
  unfold streamOver
  rw [hstop]
  split
  · exact done_alike h
  · split
    · have hcleared := h.update (g := fun e => { e with stopEvent := false }) fun _ _ => rfl
      exact (resubscribe_alike henv hcleared).after (Endpoint.same_log rfl)
    · exact turn_alike henv 0 h

theorem taken_alike {x y : Call} (hxy : x.Alike w y) (message : StreamMessage)
    (h : Scope.Alike broken w s t) :
    InStep broken w (taken env a x message s) (taken env a y message t) := by
  have hstop : t.self.stopEvent = s.self.stopEvent := by rw [h.self.rest]
  unfold taken
  rw [hstop]
  split
  · exact done_alike h
  · split
    · exact streamOver_alike henv h
    · split
      · exact Ran.coupled h .nil (.await (.putting hxy message))
      · exact Ran.coupled h (Endpoint.same_log rfl) (.await (.reading hxy))

theorem resubscribed_alike {r q : Piece ConsumerFields Registering Nat} (h : Endpoint.InStep broken w r q) :
    InStep broken w (resubscribed env a r) (resubscribed env a q) :=
  h.andThen (fun _ _ _ hk => .subscribing hk) (fun _ _ _ _ _ hst => turn_alike henv 0 hst)
    fun _ _ _ _ _ hst => done_alike hst

theorem resume_alike (h : Scope.Alike broken w s t) {k l : Receiving} (hk : k.Alike w l) {wake : Wake}
    {r : Piece ConsumerFields Receiving Unit} (hr : resume env a s k wake = some r) :
    ∃ q, resume env a t l wake = some q ∧ InStep broken w r q := by
  have hroom : ∀ call message, resume env a s (.putting call message) .room = some r → a.full = false := by
    intro call message hroom
    unfold resume at hroom
    cases hfull : a.full with
    | false => rfl
    | true => simp [hfull] at hroom
  cases resumption hr with
  | took call message =>
    cases hk with
    | reading hcall => exact ⟨_, rfl, (taken_alike henv hcall message h).after (Endpoint.same_log rfl)⟩
  | ended call =>
    cases hk with
    | reading hcall => exact ⟨_, rfl, (streamOver_alike henv h).after (Endpoint.same_log rfl)⟩
  | failed call err =>
    cases hk with
    | reading hcall => exact ⟨_, rfl, (streamOver_alike henv h).after (Endpoint.same_log rfl)⟩
  | room call message =>
    cases hk with
    | putting hcall message =>
      refine ⟨_, ?_, Ran.coupled h (Endpoint.same_log rfl) (.await (.reading hcall))⟩
      simp [resume, hroom call message hr]
  | slept n =>
    cases hk with
    | backoff n => exact ⟨_, rfl, turn_alike henv n h⟩
  | subscribing k _ r hresume =>
    cases hk with
    | subscribing hk =>
      obtain ⟨q, hq, hstep⟩ := Endpoint.resume_alike henv consumerRole_hides h hk hresume
      have hq' : TopicConsumer.subscribeResume env t _ wake = some q := hq
      exact ⟨_, by simp only [resume, hq', Option.map_some], resubscribed_alike henv hstep⟩

end Receive

end Receive

/-! ## The steps -/

theorem puts_alike {x y : List Event} (h : List.Forall₂ (Event.Alike w) x y) :
    y.filterMap Event.put? = x.filterMap Event.put? := by
  induction h with
  | nil => rfl
  | cons he _ ih =>
    rw [List.filterMap_cons, List.filterMap_cons, ih]
    cases he <;> rfl

namespace Consumer

variable {p q p' : ConsumerState}

theorem exists_pool (h : ConsumerState.Alike broken w p q) : ∃ pool subscribing tasks acks,
    q = { p with pool := pool, subscribing := subscribing, tasks := tasks, acks := acks } ∧
      Pool.Alike broken w p.pool pool ∧ Option.Rel (SubscribeCall.Alike w) p.subscribing subscribing ∧
      List.Forall₂ (ReceiveTask.Alike w) p.tasks tasks ∧
      List.Forall₂ (Outcome.Alike (Call.Alike w)) p.acks acks :=
  ⟨q.pool, q.subscribing, q.tasks, q.acks, h.rest, h.pool, h.subscribing, h.tasks, h.acks⟩

theorem go (h : ConsumerState.Alike broken w p q) (hv : w ≤ v) {pool pool' : Pool ConsumerFields}
    (hpool : Pool.Alike broken v pool pool') :
    ConsumerState.Alike broken v { p with pool := pool } { q with pool := pool' } where
  pool := hpool
  subscribing := subscribing_later hv h.subscribing
  tasks := h.tasks.imp fun _ _ ht => ht.later hv
  acks := h.acks.imp fun _ _ ho => ho.imp fun _ _ hcall => hcall.later hv
  rest := by rw [h.rest]

theorem subscribe_alike (henv : env.Reaches broken) (h : ConsumerState.Alike broken w p q)
    (hp : subscribe p env = some p') :
    ∃ q' v, w ≤ v ∧ subscribe q env = some q' ∧ ConsumerState.Alike broken v p' q' := by
  obtain ⟨pool, subscribing, tasks, acks, rfl, hpool, hsub, htasks, hacks⟩ := exists_pool h
  have hask := Client.topicPartitions_alike hpool.client henv.call p.pool.client.uri p.config.topicName
  unfold subscribe at hp
  split at hp
  · rename_i hfree
    rw [hfree.1] at hsub
    cases hsub
    unfold subscribe
    dsimp only
    rw [if_pos ⟨rfl, hfree.2⟩, hpool.client.uri]
    generalize p.pool.client.topicPartitions _ _ _ = r at hask hp
    generalize pool.client.topicPartitions _ _ _ = r' at hask ⊢
    cases hask with
    | ok hv hc hcall =>
      cases hp
      have hgone := go h hv (hpool.go hv hc)
      exact ⟨_, _, hv, rfl, hgone.pool, .some (.partitions hcall), hgone.tasks, hgone.acks, rfl⟩
    | error hv hc err =>
      cases hp
      exact ⟨_, _, hv, rfl, go h hv (hpool.go hv hc)⟩
  · cases hp

theorem topicConsumer_alike (h : ConsumerState.Alike broken w p q) :
    topicConsumer q = topicConsumer p := by
  funext partition
  unfold topicConsumer
  rw [h.pool.client.uri, h.rest]

theorem partitions_alike (h : ConsumerState.Alike broken w p q) {wake : Wake}
    (hp : partitions p wake = some p') :
    ∃ q', partitions q wake = some q' ∧ ConsumerState.Alike broken w p' q' := by
  have hconsumer := topicConsumer_alike h
  obtain ⟨pool, subscribing, tasks, acks, rfl, hpool, hsub, htasks, hacks⟩ := exists_pool h
  unfold partitions at hp
  split at hp
  · rename_i names hpartitions
    cases hp
    rw [hpartitions] at hsub
    cases hsub with
    | some hsub =>
      cases hsub with
      | partitions hcall =>
        -- Both build a `TopicConsumer` for each name, and these have no stub yet.
        have halloc := hpool.alloc (names.map (topicConsumer p)) (by
          intro e he
          obtain ⟨partition, -, rfl⟩ := List.mem_map.mp he
          rfl)
        have hlength := hpool.endpoints.length_eq
        refine ⟨_, rfl, ?_, .some ?_, htasks, hacks, rfl⟩
        · dsimp only
          rw [hconsumer]
          exact halloc
        · dsimp only
          rw [← hlength]
          exact .gather names _
  · rename_i hpartitions
    cases hp
    rw [hpartitions] at hsub
    cases hsub with
    | some hsub =>
      cases hsub with
      | partitions hcall => exact ⟨_, rfl, hpool, .none, htasks, hacks, rfl⟩
  · cases hp

theorem settle_alike (h : ConsumerState.Alike broken w p q) (ref : Nat) :
    ConsumerState.Alike broken w (settle p ref) (settle q ref) := by
  obtain ⟨pool, subscribing, tasks, acks, rfl, hpool, hsub, htasks, hacks⟩ := exists_pool h
  unfold settle
  dsimp only
  split
  · rename_i names g hgather
    rw [hgather] at hsub
    cases hsub with
    | some hsub =>
      cases hsub
      refine ⟨hpool, .some ?_, htasks, hacks, rfl⟩
      rw [note_alike g ref (forall₂_getElem? hpool.children ref)]
      exact .gather names _
  · rename_i hother
    generalize p.subscribing = x at hsub hother
    cases hsub with
    | none => exact h
    | some hsub =>
      cases hsub with
      | partitions hcall => exact h
      | gather names g => exact (hother names g rfl).elim

theorem gathered_alike (h : ConsumerState.Alike broken w p q) (hp : gathered p = some p') :
    ∃ q', gathered q = some q' ∧ ConsumerState.Alike broken w p' q' := by
  obtain ⟨pool, subscribing, tasks, acks, rfl, hpool, hsub, htasks, hacks⟩ := exists_pool h
  unfold gathered at hp
  split at hp
  · rename_i names g hgather
    rw [hgather] at hsub
    cases hsub with
    | some hsub =>
      cases hsub
      have hreturned := allReturned_alike g hpool.children
      unfold gathered
      dsimp only
      rw [hreturned]
      split at hp
      · rename_i hfailure
        cases hp
        rw [if_pos hfailure]
        exact ⟨_, rfl, hpool, .none, htasks, hacks, rfl⟩
      · rename_i hfailure
        rw [if_neg hfailure]
        split at hp
        · rename_i hall
          cases hp
          rw [if_pos hall]
          exact ⟨_, rfl, hpool, .none, htasks, hacks, rfl⟩
        · cases hp
  · cases hp

theorem receive_alike (h : ConsumerState.Alike broken w p q) :
    ConsumerState.Alike broken w (receive p) (receive q) := by
  obtain ⟨pool, subscribing, tasks, acks, rfl, hpool, hsub, htasks, hacks⟩ := exists_pool h
  refine ⟨hpool, hsub, List.rel_append htasks (List.forall₂_same.mpr fun x hx => ?_), hacks, rfl⟩
  obtain ⟨-, -, rfl⟩ := List.mem_map.mp hx
  exact ⟨.scheduled, rfl⟩

theorem receivePiece_alike (henv : env.Reaches broken) {a : LoopArgs} {s t : Scope ConsumerFields}
    (h : Scope.Alike broken w s t) {x y : ReceiveStatus} (hxy : x.Alike w y) {wake : Wake}
    {ran : Piece ConsumerFields Receiving Unit} (hran : receivePiece env a s x wake = some ran) :
    ∃ ran', receivePiece env a t y wake = some ran' ∧ Receive.InStep broken w ran ran' := by
  unfold receivePiece at hran
  split at hran
  · cases hxy
    cases hran
    exact ⟨_, rfl, Receive.turn_alike henv 0 h⟩
  · cases hxy with
    | started ho =>
      cases ho with
      | await hk => exact Receive.resume_alike henv h hk hran
  · cases hran

theorem receiving_alike (henv : env.Reaches broken) (h : ConsumerState.Alike broken w p q) {task : Nat}
    {wake : Wake} (hp : receiving p task wake env = some p') :
    ∃ q' v, w ≤ v ∧ receiving q task wake env = some q' ∧ ConsumerState.Alike broken v p' q' := by
  obtain ⟨x, sc, queue, ran, hx, hsc, hqueue, hran, rfl⟩ := receiving_eq_some.mp hp
  obtain ⟨pool, subscribing, tasks, acks, rfl, hpool, -, htasks, -⟩ := exists_pool h
  obtain ⟨y, hy, hxy⟩ := forall₂_get? htasks hx
  obtain ⟨sc', hsc', hscope⟩ := hpool.scope hsc
  obtain ⟨ran', hran', hstep⟩ := receivePiece_alike henv hscope hxy.status hran
  have href : y.ref = x.ref := by rw [hxy.rest]
  have hqueue' : y.queue = x.queue := by rw [hxy.rest]
  have hputs : ran'.log.filterMap Event.put? = ran.log.filterMap Event.put? := by
    obtain ⟨_, _, _, hlog, _⟩ := hstep
    exact puts_alike hlog
  obtain ⟨v, hv, hcommit, hnext⟩ := hpool.commit hstep (.receive task)
  have hgone := go h hv hcommit
  refine ⟨_, v, hv, receiving_eq_some.mpr ⟨y, sc', queue, ran', hy, href ▸ hsc', hqueue' ▸ hqueue,
    hran', rfl⟩, hcommit, hgone.subscribing, ?_, hgone.acks, ?_⟩
  · refine forall₂_set hgone.tasks ⟨.started hnext, ?_⟩ task
    rw [hxy.rest]
  · dsimp only
    rw [hputs, hqueue']

theorem get_alike (h : ConsumerState.Alike broken w p q) {queue : Nat} (hp : get p queue = some p') :
    ∃ q', get q queue = some q' ∧ ConsumerState.Alike broken w p' q' := by
  obtain ⟨pool, subscribing, tasks, acks, rfl, hpool, hsub, htasks, hacks⟩ := exists_pool h
  unfold get at hp
  split at hp
  · rename_i message rest hqueue
    cases hp
    refine ⟨{ p with
      queues := p.queues.set queue rest
      pool := pool
      subscribing := subscribing
      tasks := tasks
      acks := acks }, ?_, hpool, hsub, htasks, hacks, rfl⟩
    unfold get
    simp only [hqueue]
  · cases hp

theorem onConsumer_alike (h : ConsumerState.Alike broken w p q) {topic text : String} {request : Request}
    (hp : onConsumer p topic (TopicConsumer.onStub env text request) = some p') :
    ∃ q', onConsumer q topic (TopicConsumer.onStub env text request) = some q' ∧
      ConsumerState.Alike broken w p' q' := by
  obtain ⟨pool, subscribing, tasks, acks, rfl, hpool, hsub, htasks, hacks⟩ := exists_pool h
  unfold onConsumer at hp ⊢
  dsimp only
  split at hp
  · cases hp
    exact ⟨_, rfl, hpool, hsub, htasks, List.rel_append hacks (.cons (.ret ()) .nil), rfl⟩
  · rename_i ref href
    obtain ⟨sc, hsc, rfl⟩ := Option.map_eq_some_iff.mp hp
    obtain ⟨sc', hsc', hscope⟩ := hpool.scope hsc
    have hcall := TopicConsumer.onStub_alike env hscope text request
    rw [hsc', Option.map_some]
    generalize TopicConsumer.onStub env text request sc = r at hcall ⊢
    generalize TopicConsumer.onStub env text request sc' = r' at hcall ⊢
    cases hcall with
    | ok _ hcall =>
      refine ⟨_, rfl, ⟨hpool.client, hpool.endpoints, hpool.children, hpool.loops, ?_⟩, hsub, htasks,
        List.rel_append hacks (.cons (.await hcall) .nil), rfl⟩
      exact List.rel_append hpool.trace (.cons ⟨rfl, rfl, .rpc hcall⟩ .nil)
    | error _ err =>
      exact ⟨_, rfl, hpool, hsub, htasks, List.rel_append hacks (.cons (.raise err) .nil), rfl⟩

theorem acked_alike (h : ConsumerState.Alike broken w p q) {call : Nat} {wake : Wake}
    (hp : acked p call wake = some p') :
    ∃ q', acked q call wake = some q' ∧ ConsumerState.Alike broken w p' q' := by
  obtain ⟨pool, subscribing, tasks, acks, rfl, hpool, hsub, htasks, hacks⟩ := exists_pool h
  have hcall := forall₂_getElem? hacks call
  unfold acked at hp ⊢
  dsimp only
  generalize p.acks[call]? = x at hcall hp
  generalize acks[call]? = y at hcall ⊢
  split at hp
  · cases hp
    cases hcall with
    | some hcall =>
      cases hcall
      exact ⟨_, rfl, hpool, hsub, htasks, forall₂_set hacks (.ret ()) call, rfl⟩
  · cases hp
    cases hcall with
    | some hcall =>
      cases hcall
      exact ⟨_, rfl, hpool, hsub, htasks, forall₂_set hacks (.raise _) call, rfl⟩
  · cases hp

theorem cancel_alike {x y : ReceiveTask} (h : x.Alike w y) : (cancel x).Alike w (cancel y) := by
  obtain ⟨ref, queue, status⟩ := x
  obtain ⟨ref', queue', status'⟩ := y
  obtain ⟨hstatus, hrest⟩ := h
  cases hrest
  cases hstatus with
  | scheduled | cancelled => exact ⟨.cancelled, rfl⟩
  | started ho =>
    cases ho with
    | await _ => exact ⟨.cancelled, rfl⟩
    | ret a => exact ⟨.started (.ret a), rfl⟩
    | raise err => exact ⟨.started (.raise err), rfl⟩

theorem close_alike (h : ConsumerState.Alike broken w p q) :
    ConsumerState.Alike broken w (close p) (close q) := by
  obtain ⟨pool, subscribing, tasks, acks, rfl, hpool, hsub, htasks, hacks⟩ := exists_pool h
  exact ⟨hpool.foldl_stop _, hsub, forall₂_map htasks fun _ _ ht => cancel_alike ht, hacks, rfl⟩

theorem step_alike (h : ConsumerState.Alike broken w p q) {l : ConsumerLabel}
    (henv : l.env.Reaches broken) (hp : step p l = some p') :
    ∃ q' v, w ≤ v ∧ step q l = some q' ∧ ConsumerState.Alike broken v p' q' := by
  have hhere : (∃ q', step q l = some q' ∧ ConsumerState.Alike broken w p' q') →
      ∃ q' v, w ≤ v ∧ step q l = some q' ∧ ConsumerState.Alike broken v p' q' :=
    fun ⟨q', hq', halike⟩ => ⟨q', w, le_rfl, hq', halike⟩
  cases l with
  | subscribe env => exact subscribe_alike henv h hp
  | partitions wake => exact hhere (partitions_alike h hp)
  | child ref wake env =>
    obtain ⟨pool, hpool, rfl⟩ := Option.map_eq_some_iff.mp hp
    obtain ⟨pool', v, hv, hpool', halike⟩ := h.pool.child henv consumerRole_hides hpool
    exact ⟨_, v, hv, Option.map_eq_some_iff.mpr ⟨pool', hpool', rfl⟩, settle_alike (go h hv halike) ref⟩
  | gathered => exact hhere (gathered_alike h hp)
  | receive =>
    cases hp
    exact hhere ⟨_, rfl, receive_alike h⟩
  | receiving task wake env => exact receiving_alike henv h hp
  | get queue => exact hhere (get_alike h hp)
  | ack message env =>
    -- The subscription that is named is the same.
    have hsubscription : q.config = p.config := by rw [h.rest]
    obtain ⟨q', hq', halike⟩ := onConsumer_alike h hp
    refine hhere ⟨q', ?_, halike⟩
    change ack q message env = some q'
    unfold ack
    rw [hsubscription]
    exact hq'
  | nack message delayMs reason env =>
    have hsubscription : q.config = p.config := by rw [h.rest]
    obtain ⟨q', hq', halike⟩ := onConsumer_alike h hp
    refine hhere ⟨q', ?_, halike⟩
    change nack q message delayMs reason env = some q'
    unfold nack
    rw [hsubscription]
    exact hq'
  | acked call wake => exact hhere (acked_alike h hp)
  | health task wake env =>
    obtain ⟨pool, hpool, rfl⟩ := Option.map_eq_some_iff.mp hp
    obtain ⟨pool', hpool', halike⟩ := h.pool.health hpool
    exact hhere ⟨_, Option.map_eq_some_iff.mpr ⟨pool', hpool', rfl⟩, go h le_rfl halike⟩
  | close =>
    cases hp
    exact hhere ⟨_, rfl, close_alike h⟩

end Consumer

end Danube
