import Danube.FanIn

/-!
# A closed consumer

`close()` sets the shutdown event, stops every topic consumer and cancels the receive loops, wherever
they are suspended.
-/

namespace Danube

open Async

def ConsumerLabel.isSubscribe : ConsumerLabel → Bool
  | .subscribe _ => true
  | _ => false

/-- The broker names each partition of the topic once. -/
def ConsumerLabel.NamesOnce : ConsumerLabel → Prop
  | .partitions (.reply (.ok (.topicPartitions names))) => names.Nodup
  | _ => True

/-- Neither a message on the queue nor an RPC, but that the application acknowledges messages. -/
def Event.AfterClose (e : Event) : Prop :=
  e.put? = none ∧
    ∀ call, e = .rpc call → (∃ r, call.request = .ack r) ∨ ∃ r, call.request = .nack r

/-! ## The pool -/

namespace Pool

variable {ρ : Type} {p : Pool ρ}

/-- Every stop event is set. -/
def Stopped (p : Pool ρ) : Prop := ∀ e ∈ p.endpoints, e.stopEvent = true

theorem stop_getElem (p : Pool ρ) (ref r : Nat) :
    (p.stop ref).endpoints[r]? =
      if r = ref then p.endpoints[r]?.map Endpoint.stop else p.endpoints[r]? := by
  unfold stop
  split
  · rename_i hnone
    split
    · rename_i heq
      rw [heq, hnone]
      rfl
    · rfl
  · rename_i e he
    simp only [List.getElem?_set]
    by_cases hr : r = ref
    · subst hr
      rw [if_pos rfl, if_pos (List.getElem?_eq_some_iff.mp he).1, if_pos rfl, he]
      rfl
    · rw [if_neg (Ne.symm hr), if_neg hr]

theorem foldl_stop_getElem (refs : List Nat) (p : Pool ρ) (r : Nat) :
    (refs.foldl stop p).endpoints[r]? =
      p.endpoints[r]?.map fun e => if r ∈ refs then e.stop else e := by
  induction refs generalizing p with
  | nil => simp
  | cons ref refs ih =>
    rw [List.foldl_cons, ih, stop_getElem]
    by_cases hr : r = ref
    · rw [if_pos hr, Option.map_map]
      congr 1
      funext e
      simp [hr, Endpoint.stop]
    · simp [hr]

theorem foldl_stop_length (refs : List Nat) (p : Pool ρ) :
    (refs.foldl stop p).endpoints.length = p.endpoints.length := by
  refine Nat.le_antisymm ?_ ?_ <;> refine Nat.le_of_not_lt fun hlt => ?_
  · have hsome := List.getElem?_eq_getElem hlt
    rw [foldl_stop_getElem, List.getElem?_eq_none (Nat.le_refl _)] at hsome
    cases hsome
  · have hnone := foldl_stop_getElem refs p (refs.foldl stop p).endpoints.length
    rw [List.getElem?_eq_none (Nat.le_refl _), List.getElem?_eq_getElem hlt] at hnone
    cases hnone

theorem Stopped.health (h : p.Stopped) {q : Pool ρ} {task : Nat} {w : Wake} {env : Env}
    (hq : p.health task w env = some q) : q.Stopped ∧ ∃ log, q.trace = p.trace ++ log ∧
      ∀ x ∈ log, x.event.AfterClose := by
  obtain ⟨l, e, c, position, log, stop, -, he, -, hchecks, rfl⟩ := health_eq_some hq
  have hstop : e.stopEvent = true := h e (List.mem_of_getElem? he)
  refine ⟨?_, _, rfl, ?_⟩
  · intro e' he'
    cases stop
    · exact h e' he'
    · simp only [checked, if_true] at he'
      obtain ⟨i, hi, rfl⟩ := List.mem_iff_getElem.mp he'
      rw [List.getElem_modify]
      split
      · rfl
      · exact h _ (List.getElem_mem _)
  · intro x hx
    obtain ⟨event, hevent, rfl⟩ := List.mem_map.mp hx
    rw [hstop] at hchecks
    cases hchecks with
    | stopped => simp at hevent
    | refused _ hopen => cases hopen
    | poll _ hopen => cases hopen
    | close call =>
      rw [List.mem_singleton.mp hevent]
      exact ⟨rfl, by simp⟩
    | alive => simp at hevent
    | failed => simp at hevent

end Pool

namespace Consumer

/-! ## Every topic consumer is stopped -/

/-- When `subscribe()` was called once, the topic consumers are those that it gathers. -/
structure Covered (s : ConsumerState) : Prop where
  asking : ∀ call, s.subscribing = some (.partitions call) → s.pool.endpoints = []
  gather : ∀ names g, s.subscribing = some (.gather names g) → names.Nodup ∧
    names.length = s.pool.endpoints.length ∧ g.refs = List.range s.pool.endpoints.length
  consumers : s.consumers ≠ [] →
    s.consumers.map Prod.snd = List.range s.pool.endpoints.length

/-- What the number of calls of `subscribe()` says of the topic consumers. -/
def Subscribes (ls : List ConsumerLabel) (s : ConsumerState) : Prop :=
  (ls.countP ConsumerLabel.isSubscribe = 0 → s.subscribing = none ∧ s.pool.endpoints = []) ∧
    (ls.countP ConsumerLabel.isSubscribe ≤ 1 → Covered s)

theorem setItem_of_new {d : List (String × Nat)} {name : String} (ref : Nat)
    (h : name ∉ d.map Prod.fst) : setItem d name ref = d ++ [(name, ref)] := if_neg h

theorem foldl_setItem_of_nodup {xs d : List (String × Nat)} (hxs : (xs.map Prod.fst).Nodup)
    (hd : ∀ x ∈ xs, x.1 ∉ d.map Prod.fst) :
    xs.foldl (fun d x => setItem d x.1 x.2) d = d ++ xs := by
  induction xs generalizing d with
  | nil => simp
  | cons x xs ih =>
    rw [List.map_cons, List.nodup_cons] at hxs
    rw [List.foldl_cons, setItem_of_new _ (hd x (by simp)), ih hxs.2]
    · simp
    · intro y hy hmem
      rw [List.map_append, List.mem_append] at hmem
      rcases hmem with hmem | hmem
      · exact hd y (List.mem_cons_of_mem _ hy) hmem
      · have hyx : y.1 = x.1 := by simpa using hmem
        exact hxs.1 (hyx ▸ List.mem_map_of_mem hy)

theorem gathered_refs {names : List String} {refs : List Nat} (hnames : names.Nodup)
    (hlen : names.length = refs.length) :
    ((names.zip refs).foldl (fun d x => setItem d x.1 x.2) []).map Prod.snd = refs := by
  have hkeys : ((names.zip refs).map Prod.fst).Nodup := by
    rwa [List.map_fst_zip (Nat.le_of_eq hlen)]
  rw [foldl_setItem_of_nodup hkeys (by simp), List.nil_append,
    List.map_snd_zip (Nat.le_of_eq hlen.symm)]

theorem Covered.aside {s s' : ConsumerState} (h : Covered s)
    (hlen : s'.pool.endpoints.length = s.pool.endpoints.length)
    (hconsumers : s'.consumers = s.consumers)
    (hasking : ∀ call, s'.subscribing = some (.partitions call) →
      s.subscribing = some (.partitions call))
    (hgather : ∀ names g, s'.subscribing = some (.gather names g) →
      ∃ g', s.subscribing = some (.gather names g') ∧ g.refs = g'.refs) : Covered s' where
  asking call hcall := by
    have hnil := h.asking call (hasking call hcall)
    rw [hnil] at hlen
    exact List.length_eq_zero_iff.mp hlen
  gather names g hg := by
    obtain ⟨g', hg', hrefs⟩ := hgather names g hg
    rw [hlen, hrefs]
    exact h.gather names g' hg'
  consumers hne := by
    rw [hconsumers] at hne ⊢
    rw [hlen]
    exact h.consumers hne

theorem settle_partitions {s : ConsumerState} {ref : Nat} {call : Call}
    (h : (settle s ref).subscribing = some (.partitions call)) :
    s.subscribing = some (.partitions call) := by
  unfold settle at h
  split at h
  · simp at h
  · exact h

theorem step_keeps {s s' : ConsumerState} {l : ConsumerLabel} (hstep : step s l = some s')
    (hsubscribe : ∀ env, l ≠ .subscribe env) (hpartitions : ∀ w, l ≠ .partitions w)
    (hgathered : l ≠ .gathered) :
    s'.pool.endpoints.length = s.pool.endpoints.length ∧ s'.consumers = s.consumers ∧
      (∀ call, s'.subscribing = some (.partitions call) →
        s.subscribing = some (.partitions call)) ∧
      (s'.subscribing = none ↔ s.subscribing = none) ∧
      ∀ names g, s'.subscribing = some (.gather names g) →
        ∃ g', s.subscribing = some (.gather names g') ∧ g.refs = g'.refs := by
  have hsame : ∀ names g, s.subscribing = some (.gather names g) →
      ∃ g', s.subscribing = some (.gather names g') ∧ g.refs = g'.refs :=
    fun names g hg => ⟨g, hg, rfl⟩
  cases l with
  | subscribe env => exact (hsubscribe env rfl).elim
  | partitions w => exact (hpartitions w rfl).elim
  | gathered => exact (hgathered rfl).elim
  | child ref w env =>
    obtain ⟨p, hp, rfl⟩ := Option.map_eq_some_iff.mp hstep
    obtain ⟨_, _, ran, -, -, -, rfl⟩ := Pool.child_eq_some.mp hp
    let run : ConsumerState := { s with pool := { s.pool.commit (.child ref) ran with
      children := s.pool.children.set ref (.started ran.next) } }
    have hasking : ∀ call, (settle run ref).subscribing = some (.partitions call) →
        s.subscribing = some (.partitions call) := fun call => settle_partitions
    obtain ⟨c, heq, hnone, hgather⟩ := settle_eq run ref
    change _ ∧ (settle run ref).consumers = _ ∧ _
    rw [heq] at hasking ⊢
    exact ⟨by simp [run, Pool.commit], rfl, hasking, hnone, hgather⟩
  | receive => cases hstep; exact ⟨rfl, rfl, fun _ h => h, Iff.rfl, hsame⟩
  | receiving task w env =>
    obtain ⟨t, sc, queue, ran, -, -, -, -, rfl⟩ := receiving_eq_some.mp hstep
    exact ⟨by simp [Pool.commit], rfl, fun _ h => h, Iff.rfl, hsame⟩
  | get queue =>
    obtain ⟨queues, rfl⟩ := get_eq_some hstep
    exact ⟨rfl, rfl, fun _ h => h, Iff.rfl, hsame⟩
  | ack message env =>
    obtain ⟨acks, rfl | ⟨ref, sc, call, -, -, -, rfl⟩⟩ := onConsumer_eq_some hstep <;>
      exact ⟨rfl, rfl, fun _ h => h, Iff.rfl, hsame⟩
  | nack message delayMs reason env =>
    obtain ⟨acks, rfl | ⟨ref, sc, call, -, -, -, rfl⟩⟩ := onConsumer_eq_some hstep <;>
      exact ⟨rfl, rfl, fun _ h => h, Iff.rfl, hsame⟩
  | acked call w =>
    obtain ⟨acks, rfl⟩ := acked_eq_some hstep
    exact ⟨rfl, rfl, fun _ h => h, Iff.rfl, hsame⟩
  | health task w env =>
    obtain ⟨p, hp, rfl⟩ := Option.map_eq_some_iff.mp hstep
    obtain ⟨l, e, c, pos, log, stop, -, -, -, -, rfl⟩ := Pool.health_eq_some hp
    refine ⟨?_, rfl, fun _ h => h, Iff.rfl, hsame⟩
    cases stop <;> simp [Pool.checked]
  | close =>
    cases hstep
    exact ⟨Pool.foldl_stop_length _ _, rfl, fun _ h => h, Iff.rfl, hsame⟩

theorem step_subscribes {ls : List ConsumerLabel} {s s' : ConsumerState} {l : ConsumerLabel}
    (h : Subscribes ls s) (hs : Sound s) (hl : l.NamesOnce) (hstep : step s l = some s') :
    Subscribes (ls ++ [l]) s' := by
  unfold Subscribes
  rw [List.countP_append, List.countP_singleton]
  by_cases hcalls : l.isSubscribe = true
  · rw [if_pos hcalls]
    refine ⟨by omega, fun hle => ?_⟩
    cases l with
    | subscribe env =>
      -- The first call finds no endpoints.
      have hnil : s.pool.endpoints = [] := (h.1 (by omega)).2
      obtain ⟨-, hconsumers, c, x, -, hx, rfl⟩ := subscribe_eq_some hstep
      exact ⟨fun _ _ => hnil, fun names g hg => (hx names g hg).elim, fun hne => (hne hconsumers).elim⟩
    | _ => cases hcalls
  · rw [if_neg hcalls, Nat.add_zero]
    have hsubscribe : ∀ env, l ≠ .subscribe env := by
      rintro env rfl
      exact hcalls rfl
    by_cases hpartitions : ∃ w, l = .partitions w
    · -- The names arrive: the endpoints are built for them, as there were none.
      obtain ⟨w, rfl⟩ := hpartitions
      refine ⟨fun hzero => ?_, fun hle => ?_⟩
      · have hnone := (h.1 hzero).1
        rcases partitions_eq_some hstep with ⟨-, call, hcall⟩ | ⟨-, call, hcall⟩ <;>
          · rw [hnone] at hcall
            cases hcall
      · have hcovered := h.2 hle
        simp only [step, partitions] at hstep
        split at hstep
        · rename_i call names hcall
          cases hstep
          have hnil := hcovered.asking call hcall
          have hconsumers := hs.subscribing (by simp [hcall])
          refine ⟨by simp, fun names' g hg => ?_, fun hne => (hne hconsumers).elim⟩
          simp only [Option.some.injEq, SubscribeCall.gather.injEq] at hg
          obtain ⟨rfl, rfl⟩ := hg
          refine ⟨hl, by simp [Pool.alloc, hnil], ?_⟩
          simp [Pool.alloc, hnil, List.range_eq_range']
        · cases hstep
          exact hcovered.aside rfl rfl (by simp) (by simp)
        · cases hstep
    · by_cases hgathered : l = .gathered
      · -- `gather` fills the dict, or raises.
        subst hgathered
        obtain ⟨names, g, hg, hcase⟩ := gathered_eq_some hstep
        refine ⟨fun hzero => ?_, fun hle => ?_⟩
        · rw [(h.1 hzero).1] at hg
          cases hg
        · have hcovered := h.2 hle
          rcases hcase with rfl | ⟨-, rfl⟩
          · exact hcovered.aside rfl rfl (by simp) (by simp)
          · obtain ⟨hnames, hlen, hrefs⟩ := hcovered.gather names g hg
            refine ⟨by simp, by simp, fun _ => ?_⟩
            simp only
            rw [gathered_refs hnames (by simp [hlen, hrefs]), hrefs]
      · -- The other steps build no endpoint.
        obtain ⟨hlen, hconsumers, hasking, hnone, hgather⟩ :=
          step_keeps hstep hsubscribe (fun w hw => hpartitions ⟨w, hw⟩) hgathered
        refine ⟨fun hzero => ?_, fun hle => (h.2 hle).aside hlen hconsumers hasking hgather⟩
        obtain ⟨hidle, hnil⟩ := h.1 hzero
        rw [hnil] at hlen
        exact ⟨hnone.mpr hidle, List.length_eq_zero_iff.mp hlen⟩

theorem subscribes_init (client : Client) (config : ConsumerConfig) :
    Subscribes [] (init client config) :=
  ⟨fun _ => ⟨rfl, rfl⟩, fun _ => ⟨by simp [init], by simp [init], by simp [init]⟩⟩

theorem exec_covered {client : Client} {config : ConsumerConfig} {ls : List ConsumerLabel}
    {s : ConsumerState} (h : exec step (init client config) ls = some s)
    (honce : ls.countP ConsumerLabel.isSubscribe ≤ 1) (hnames : ∀ l ∈ ls, l.NamesOnce) :
    Covered s := by
  have hrun : (∀ l ∈ ls, l.NamesOnce) → Subscribes ls s :=
    exec_induction (P := fun ls s => (∀ l ∈ ls, l.NamesOnce) → Subscribes ls s)
      (fun _ => subscribes_init client config)
      (fun ls t l u ht ih hl hnames => step_subscribes
        (ih fun x hx => hnames x (List.mem_append_left _ hx)) (exec_sound ht)
        (hnames l (by simp)) hl) h
  exact (hrun hnames).2 honce

/-! ## Nothing goes on -/

/-- A consumer that was closed: its topic consumers are stopped, and none of its tasks but the health
loops waits for anything. -/
structure Closed (s : ConsumerState) : Prop where
  shutdown : s.shutdown = true
  consumers : s.consumers ≠ []
  subscribing : s.subscribing = none
  stopped : s.pool.Stopped
  children : ∀ (r : Nat) c, s.pool.children[r]? = some c → ∃ id, c = .started (.ret id)
  tasks : ∀ t ∈ s.tasks, ∀ k, t.status ≠ .started (.await k)

theorem cancel_not_await (t : ReceiveTask) (k : Receiving) :
    (cancel t).status ≠ .started (.await k) := by
  unfold cancel
  split
  · rename_i hret
    simp [hret]
  · rename_i hraise
    simp [hraise]
  · simp

theorem closed_of_close {s s' : ConsumerState} (h : Sound s) (hcovered : Covered s)
    (hreturned : s.consumers ≠ []) (hclose : step s .close = some s') : Closed s' := by
  cases hclose
  have hrefs := hcovered.consumers hreturned
  constructor
  · rfl
  · exact hreturned
  · exact Classical.not_not.mp fun hne => hreturned (h.subscribing hne)
  · intro e he
    obtain ⟨r, hr⟩ := List.mem_iff_getElem?.mp he
    have hlt : r < s.pool.endpoints.length := by
      rw [← Pool.foldl_stop_length (s.consumers.map Prod.snd)]
      exact (List.getElem?_eq_some_iff.mp hr).1
    rw [close, Pool.foldl_stop_getElem] at hr
    obtain ⟨e', -, rfl⟩ := Option.map_eq_some_iff.mp hr
    -- The dict has every endpoint, so each of them is stopped.
    rw [if_pos (by rw [hrefs]; exact List.mem_range.mpr hlt)]
    rfl
  · intro r c hc
    rw [close, Pool.foldl_stop_children] at hc
    have hlt : r < s.pool.endpoints.length := by
      rw [← h.pool.length]
      exact (List.getElem?_eq_some_iff.mp hc).1
    -- And each of their coroutines has returned.
    obtain ⟨x, hx, rfl⟩ := List.mem_map.mp (hrefs ▸ List.mem_range.mpr hlt)
    obtain ⟨id, hid⟩ := h.consumers x hx
    exact ⟨id, Option.some.inj (hc.symm.trans hid)⟩
  · intro t ht k
    obtain ⟨t', -, rfl⟩ := List.mem_map.mp ht
    exact cancel_not_await t' k

theorem receivePiece_of_closed {s : ConsumerState} (h : Closed s) {t : ReceiveTask} (ht : t ∈ s.tasks)
    {env : Env} {queue : List StreamMessage} {sc : Scope ConsumerFields} {w : Wake}
    {ran : Piece ConsumerFields Receiving Unit}
    (hran : receivePiece env (loopArgs s queue) sc t.status w = some ran) : ran = Receive.done sc := by
  rcases receivePiece_cases env hran with ⟨-, -, rfl⟩ | ⟨k, heq, -⟩
  · rw [Receive.turn, if_pos (by exact h.shutdown)]
  · exact (h.tasks t ht k heq).elim

theorem onConsumer_closed {s s' : ConsumerState} (h : Closed s) {topic : String}
    {send : Scope ConsumerFields → Except Error Call}
    (hsend : ∀ sc call, send sc = .ok call → (Event.rpc call).AfterClose)
    (hstep : onConsumer s topic send = some s') :
    Closed s' ∧ ∃ log, s'.pool.trace = s.pool.trace ++ log ∧ ∀ x ∈ log, x.event.AfterClose := by
  obtain ⟨acks, rfl | ⟨ref, sc, call, -, -, hcall, rfl⟩⟩ := onConsumer_eq_some hstep
  · exact ⟨⟨h.shutdown, h.consumers, h.subscribing, h.stopped, h.children, h.tasks⟩, [], by simp,
      by simp⟩
  · refine ⟨⟨h.shutdown, h.consumers, h.subscribing, h.stopped, h.children, h.tasks⟩,
      [⟨.app, ref, .rpc call⟩], rfl, fun x hx => ?_⟩
    rw [List.mem_singleton.mp hx]
    exact hsend sc call hcall

theorem receiving_closed {s s' : ConsumerState} (h : Closed s) {task : Nat} {w : Wake} {env : Env}
    (hstep : receiving s task w env = some s') :
    Closed s' ∧ ∃ log, s'.pool.trace = s.pool.trace ++ log ∧ ∀ x ∈ log, x.event.AfterClose := by
  obtain ⟨t, sc, queue, ran, ht, hsc, -, hran, rfl⟩ := receiving_eq_some.mp hstep
  obtain rfl := receivePiece_of_closed h (List.mem_of_getElem? ht) hran
  obtain ⟨hself, -, -, -⟩ := Pool.scope_eq_some.mp hsc
  refine ⟨⟨h.shutdown, h.consumers, h.subscribing, fun e he => ?_, h.children, fun t' ht' k => ?_⟩,
    [], by simp [Pool.commit, Receive.done], by simp⟩
  · rcases List.mem_or_eq_of_mem_set he with he | rfl
    · exact h.stopped e he
    · exact h.stopped _ (List.mem_of_getElem? hself)
  · rcases List.mem_or_eq_of_mem_set ht' with ht' | rfl
    · exact h.tasks t' ht' k
    · simp [Receive.done]

theorem close_closed {s : ConsumerState} (h : Closed s) :
    Closed (close s) ∧
      ∃ log, (close s).pool.trace = s.pool.trace ++ log ∧ ∀ x ∈ log, x.event.AfterClose := by
  obtain ⟨log, htrace, hlog⟩ := Pool.foldl_stop_writes (s.consumers.map Prod.snd) s.pool
  refine ⟨⟨rfl, h.consumers, h.subscribing, fun e he => ?_, ?_, fun t ht k => ?_⟩, log, htrace,
    fun x hx => ?_⟩
  · obtain ⟨r, hr⟩ := List.mem_iff_getElem?.mp he
    rw [close, Pool.foldl_stop_getElem] at hr
    obtain ⟨e', he', rfl⟩ := Option.map_eq_some_iff.mp hr
    split
    · rfl
    · exact h.stopped e' (List.mem_of_getElem? he')
  · rw [close, Pool.foldl_stop_children]
    exact h.children
  · obtain ⟨t', -, rfl⟩ := List.mem_map.mp ht
    exact cancel_not_await t' k
  · rw [(hlog x hx).1]
    exact ⟨rfl, by simp⟩

theorem step_closed {s s' : ConsumerState} {l : ConsumerLabel} (h : Closed s)
    (hstep : step s l = some s') :
    Closed s' ∧ ∃ log, s'.pool.trace = s.pool.trace ++ log ∧ ∀ x ∈ log, x.event.AfterClose := by
  have hsilent : ∀ {t : ConsumerState}, t.pool.trace = s.pool.trace →
      ∃ log, t.pool.trace = s.pool.trace ++ log ∧ ∀ x ∈ log, x.event.AfterClose :=
    fun ht => ⟨[], by simpa using ht, by simp⟩
  cases l with
  | subscribe env =>
    obtain ⟨-, hnil, -⟩ := subscribe_eq_some hstep
    -- `subscribe()` was called and has left consumers.
    exact (h.consumers hnil).elim
  | partitions w =>
    rcases partitions_eq_some hstep with ⟨-, call, hcall⟩ | ⟨-, call, hcall⟩ <;>
      · rw [h.subscribing] at hcall
        cases hcall
  | child ref w env =>
    obtain ⟨p, hp, -⟩ := Option.map_eq_some_iff.mp hstep
    obtain ⟨c, sc, ran, hc, -, hran, -⟩ := Pool.child_eq_some.mp hp
    obtain ⟨id, rfl⟩ := h.children ref c hc
    -- A coroutine that has returned runs no piece.
    cases hran
  | gathered =>
    obtain ⟨names, g, hg, -⟩ := gathered_eq_some hstep
    rw [h.subscribing] at hg
    cases hg
  | receive =>
    cases hstep
    refine ⟨⟨h.shutdown, h.consumers, h.subscribing, h.stopped, h.children, fun t ht k => ?_⟩,
      hsilent rfl⟩
    -- A new loop has not run, and will find the shutdown event set.
    rcases List.mem_append.mp ht with ht | ht
    · exact h.tasks t ht k
    · obtain ⟨x, -, rfl⟩ := List.mem_map.mp ht
      simp
  | receiving task w env => exact receiving_closed h hstep
  | get queue =>
    obtain ⟨queues, rfl⟩ := get_eq_some hstep
    exact ⟨⟨h.shutdown, h.consumers, h.subscribing, h.stopped, h.children, h.tasks⟩, hsilent rfl⟩
  | ack message env =>
    refine onConsumer_closed h (fun sc call hcall => ⟨rfl, fun call' heq => ?_⟩) hstep
    cases heq
    exact Or.inl ⟨_, (onStub_ok env hcall).2.1⟩
  | nack message delayMs reason env =>
    refine onConsumer_closed h (fun sc call hcall => ⟨rfl, fun call' heq => ?_⟩) hstep
    cases heq
    exact Or.inr ⟨_, (onStub_ok env hcall).2.1⟩
  | acked call w =>
    obtain ⟨acks, rfl⟩ := acked_eq_some hstep
    exact ⟨⟨h.shutdown, h.consumers, h.subscribing, h.stopped, h.children, h.tasks⟩, hsilent rfl⟩
  | health task w env =>
    obtain ⟨p, hp, rfl⟩ := Option.map_eq_some_iff.mp hstep
    obtain ⟨hstopped, hlog⟩ := h.stopped.health hp
    obtain ⟨l, e, c, pos, log, stop, -, -, -, -, rfl⟩ := Pool.health_eq_some hp
    exact ⟨⟨h.shutdown, h.consumers, h.subscribing, hstopped, h.children, h.tasks⟩, hlog⟩
  | close =>
    cases hstep
    exact close_closed h

theorem exec_closed {ls : List ConsumerLabel} {s s' : ConsumerState} (h : Closed s)
    (hrun : exec step s ls = some s') :
    Closed s' ∧ ∃ log, s'.pool.trace = s.pool.trace ++ log ∧ ∀ x ∈ log, x.event.AfterClose := by
  refine exec_invariant (P := fun t => Closed t ∧
    ∃ log, t.pool.trace = s.pool.trace ++ log ∧ ∀ x ∈ log, x.event.AfterClose) ?_
    ⟨h, [], by simp, by simp⟩ hrun
  rintro t l u ⟨ht, log, htrace, hlog⟩ hstep
  obtain ⟨hu, log', htrace', hlog'⟩ := step_closed ht hstep
  refine ⟨hu, log ++ log', by rw [htrace', htrace, List.append_assoc], fun x hx => ?_⟩
  exact (List.mem_append.mp hx).elim (hlog x) (hlog' x)

/-- After `close()` no message is put on a queue, no RPC but an acknowledgement is issued, and every
stop event stays set. -/
theorem close_is_final {client : Client} {config : ConsumerConfig} {ls after : List ConsumerLabel}
    {s closed s' : ConsumerState} (hrun : exec step (init client config) ls = some s)
    (honce : ls.countP ConsumerLabel.isSubscribe = 1) (hnames : ∀ l ∈ ls, l.NamesOnce)
    (hreturned : s.consumers ≠ []) (hclose : step s .close = some closed)
    (hafter : exec step closed after = some s') :
    s'.pool.Stopped ∧
      ∃ log, s'.pool.trace = closed.pool.trace ++ log ∧ ∀ x ∈ log, x.event.AfterClose := by
  have hcovered := exec_covered hrun (Nat.le_of_eq honce) hnames
  obtain ⟨hclosed, hlog⟩ := exec_closed
    (closed_of_close (exec_sound hrun) hcovered hreturned hclose) hafter
  exact ⟨hclosed.stopped, hlog⟩

/-- One loop waits in a lookup, as its broker answered CLOSE, and the other one on its stream. -/
def closeAmidLookup : List ConsumerLabel :=
  [.subscribe {}, .partitions (.answer (.topicPartitions ["t", "u"])), .child 0 .start {},
    .child 0 (.answer (.address "a")) {}, .child 0 (.answer (.registered 1)) {}, .child 1 .start {},
    .child 1 (.answer (.address "a")) {}, .child 1 (.answer (.registered 2)) {}, .gathered, .receive,
    .receiving 0 .start {}, .receiving 1 .start {}, .health 0 .start {}, .health 1 .start {},
    .health 0 (.answer (.health .close)) {}, .receiving 0 (.answer (.stream message)) {}]

/-- The application acknowledges a message and calls `receive()` again. -/
def closedAmidLookup : List ConsumerLabel := [.ack message {}, .receive, .receiving 2 .start {}]

theorem close_amid_lookup_final : ∃ s closed s',
    exec step (init (.init "a" {}) .oneRetry) closeAmidLookup = some s ∧
      step s .close = some closed ∧ exec step closed closedAmidLookup = some s' ∧
      s'.pool.Stopped ∧
      ∃ log, s'.pool.trace = closed.pool.trace ++ log ∧ ∀ x ∈ log, x.event.AfterClose := by
  have hrun : exec step (init (.init "a" {}) .oneRetry) closeAmidLookup = some _ := rfl
  have hnames : ∀ l ∈ closeAmidLookup, l.NamesOnce := by
    simp [closeAmidLookup, ConsumerLabel.NamesOnce, Wake.answer]
  exact ⟨_, _, _, hrun, rfl, rfl, @close_is_final _ _ _ closedAmidLookup _ _ _ hrun (by decide) hnames
    (by decide) rfl rfl⟩

/-- The broker names a partition twice, and the dict keeps the second of the two topic consumers. -/
def repeatedPartition : List ConsumerLabel :=
  [.subscribe {}, .partitions (.answer (.topicPartitions ["t", "t"])), .child 0 .start {},
    .child 0 (.answer (.address "a")) {}, .child 0 (.answer (.registered 1)) {}, .child 1 .start {},
    .child 1 (.answer (.address "a")) {}, .child 1 (.answer (.registered 2)) {}, .gathered, .receive]

/-- `close()` does not reach the first one, whose health task goes on. -/
theorem unnamed_consumer_checked : ∃ s closed s',
    exec step (init (.init "a" {}) .oneRetry) repeatedPartition = some s ∧
      repeatedPartition.countP ConsumerLabel.isSubscribe = 1 ∧ s.consumers ≠ [] ∧
      step s .close = some closed ∧ exec step closed [.health 0 .start {}] = some s' ∧
      ∃ x call, s'.pool.trace = closed.pool.trace ++ [x] ∧ x.event = .rpc call ∧
        call.request = .healthCheck 1 .consumer 1 := by
  refine ⟨_, _, _, rfl, by decide, by decide, rfl, rfl, _, _, rfl, rfl, rfl⟩

end Consumer

end Danube
