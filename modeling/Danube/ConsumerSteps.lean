import Danube.PoolSteps
import Danube.ConsumerClose

/-!
# What a step of a consumer does to one partition

After one call of `receive()`, each partition has one receive loop.
-/

namespace Danube

open Async

def ConsumerLabel.isReceive : ConsumerLabel → Bool
  | .receive => true
  | _ => false

def ReceiveStatus.over : ReceiveStatus → Bool
  | .cancelled | .started (.ret _) | .started (.raise _) => true
  | _ => false

theorem grows_of_cleared {s : Scope ConsumerFields} {κ α : Type} {ran : Piece ConsumerFields κ α}
    (h : Cleared s ran) : Pool.Grows s ran := by
  rcases h with hj | ⟨-, hj⟩
  · exact Pool.grows_of_journaled hj
  · exact ⟨hj.ref, hj.loops, fun _ hl => hj.owner hl⟩

namespace Consumer

/-- Where the receive loop of the endpoint `r` is. -/
def loopOf (s : ConsumerState) (r : Nat) : Option ReceiveStatus :=
  (s.tasks.find? fun t => t.ref = r).map ReceiveTask.status

/-- No two receive loops run on one endpoint. -/
def OneLoop (s : ConsumerState) : Prop := (s.tasks.map ReceiveTask.ref).Nodup

theorem loopOf_eq_some {s : ConsumerState} (h : OneLoop s) {t : ReceiveTask} (ht : t ∈ s.tasks) :
    loopOf s t.ref = some t.status := by
  unfold loopOf
  cases hfind : s.tasks.find? fun u => decide (u.ref = t.ref) with
  | none =>
    have hne := List.find?_eq_none.mp hfind t ht
    simp at hne
  | some u =>
    have href : u.ref = t.ref := by simpa using List.find?_some hfind
    rw [List.inj_on_of_nodup_map h (List.mem_of_find?_eq_some hfind) ht href]
    rfl

theorem mem_of_loopOf {s : ConsumerState} {r : Nat} {status : ReceiveStatus}
    (h : loopOf s r = some status) : ∃ t ∈ s.tasks, t.ref = r ∧ t.status = status := by
  obtain ⟨t, ht, hstatus⟩ := Option.map_eq_some_iff.mp h
  exact ⟨t, List.mem_of_find?_eq_some ht, by simpa using List.find?_some ht, hstatus⟩

theorem loopOf_set {s s' : ConsumerState} (h : OneLoop s) {i : Nat} {t : ReceiveTask}
    (ht : s.tasks[i]? = some t) {status : ReceiveStatus}
    (htasks : s'.tasks = s.tasks.set i { t with status := status }) :
    loopOf s' t.ref = some status ∧ ∀ r, r ≠ t.ref → loopOf s' r = loopOf s r := by
  have hmap : s'.tasks.map ReceiveTask.ref = s.tasks.map ReceiveTask.ref := by
    rw [htasks]
    exact tasks_set ht rfl
  have hone : OneLoop s' := by
    unfold OneLoop
    rw [hmap]
    exact h
  refine ⟨?_, fun r hr => ?_⟩
  · have hmem : { t with status := status } ∈ s'.tasks := by
      rw [htasks]
      exact List.mem_set (List.getElem?_eq_some_iff.mp ht).1 _
    exact loopOf_eq_some hone hmem
  · unfold loopOf
    rw [htasks, ← List.head?_filter, ← List.head?_filter,
      filter_set_of_neg ht (by simpa using Ne.symm hr) (by simpa using Ne.symm hr)]

theorem cancel_over (t : ReceiveTask) : (cancel t).status.over = true := by
  rcases cancel_status t with h | ⟨a, h⟩ | ⟨e, h⟩ <;> rw [h] <;> rfl

/-- The step `l` on the endpoint `r`. -/
inductive Touches (s s' : ConsumerState) (r : Nat) : ConsumerLabel → Prop
  | leaves (l : ConsumerLabel) (h : s.pool.Leaves s'.pool r) (hloop : loopOf s' r = loopOf s r) :
    Touches s s' r l
  | born (w : Wake) (name : String) (hnone : s.pool.endpoints[r]? = none)
    (he : s'.pool.endpoints[r]? = some (topicConsumer s name))
    (hchild : s'.pool.children[r]? = some .scheduled) (hlog : logOf r s'.pool.trace = [])
    (hloops : s'.pool.loopsOf r = []) (hloop : loopOf s' r = loopOf s r) :
    Touches s s' r (.partitions w)
  | child (w : Wake) (env : Env) (c : Child) (hc : s.pool.children[r]? = some c)
    (sc : Scope ConsumerFields) (hsc : s.pool.scope r = some sc)
    (ran : Piece ConsumerFields Registering Nat)
    (hran : Pool.childPiece consumerRole env sc c w = some ran)
    (hchild : s'.pool.children[r]? = some (.started ran.next)) (h : s.pool.Runs s'.pool r ran)
    (hloop : loopOf s' r = loopOf s r) : Touches s s' r (.child r w env)
  | starts (h : s.pool.Leaves s'.pool r) (hnone : loopOf s r = none)
    (id : Nat) (hchild : s.pool.children[r]? = some (.started (.ret id)))
    (hloop : loopOf s' r = some .scheduled) : Touches s s' r .receive
  | receiving (i : Nat) (w : Wake) (env : Env) (status : ReceiveStatus)
    (hstatus : loopOf s r = some status) (sc : Scope ConsumerFields)
    (hsc : s.pool.scope r = some sc) (queue : List StreamMessage)
    (ran : Piece ConsumerFields Receiving Unit)
    (hran : receivePiece env (loopArgs s queue) sc status w = some ran)
    (hchild : s'.pool.children[r]? = s.pool.children[r]?) (h : s.pool.Runs s'.pool r ran)
    (hloop : loopOf s' r = some (.started ran.next)) : Touches s s' r (.receiving i w env)
  | acks (l : ConsumerLabel) (env : Env) (text : String) (request : Request)
    (hrequest : (∃ a, request = .ack a) ∨ ∃ n, request = .nack n) (sc : Scope ConsumerFields)
    (hsc : s.pool.scope r = some sc) (call : Call)
    (hcall : TopicConsumer.onStub env text request sc = .ok call)
    (he : s'.pool.endpoints[r]? = s.pool.endpoints[r]?)
    (hchild : s'.pool.children[r]? = s.pool.children[r]?)
    (hlog : logOf r s'.pool.trace = logOf r s.pool.trace ++ [.rpc call])
    (hloops : s'.pool.loopsOf r = s.pool.loopsOf r) (hloop : loopOf s' r = loopOf s r) :
    Touches s s' r l
  | health (task : Nat) (w : Wake) (env : Env) (e : TopicConsumer) (l : HealthLoop)
    (position : HealthAt) (log : List Event) (stop : Bool)
    (hchecks : Pool.Checks l e.stopEvent position log stop)
    (h : s.pool.ChecksOn s'.pool r e l position log stop) (hloop : loopOf s' r = loopOf s r) :
    Touches s s' r (.health task w env)
  | close (he : ∀ e', s'.pool.endpoints[r]? = some e' →
      ∃ e, s.pool.endpoints[r]? = some e ∧ (e' = e ∨ e' = e.stop))
    (hchild : s'.pool.children[r]? = s.pool.children[r]?) (log : List Event)
    (hlog : logOf r s'.pool.trace = logOf r s.pool.trace ++ log) (hstopped : ∀ e ∈ log, e = .stopped)
    (hnone : loopOf s' r = none → loopOf s r = none)
    (hloop : ∀ status, loopOf s' r = some status → status.over = true) : Touches s s' r .close

theorem onConsumer_touches {s s' : ConsumerState} {topic text : String} {request : Request}
    {env : Env} (hrequest : (∃ a, request = .ack a) ∨ ∃ n, request = .nack n) {l : ConsumerLabel}
    (hstep : onConsumer s topic (TopicConsumer.onStub env text request) = some s') (r : Nat) :
    Touches s s' r l := by
  obtain ⟨acks, rfl | ⟨ref, sc, call, -, hsc, hcall, rfl⟩⟩ := onConsumer_eq_some hstep
  · exact .leaves _ (.refl _ _) rfl
  · by_cases hr : r = ref
    · subst hr
      refine .acks _ env text request hrequest sc hsc call hcall rfl rfl ?_ rfl rfl
      simp only [Pool.write, logOf_append, logOf_entries_self]
    · refine .leaves _ ⟨rfl, rfl, ?_, rfl⟩ rfl
      simp only [Pool.write, logOf_append, logOf_entries_ne hr, List.append_nil]

theorem partitions_touches {s s' : ConsumerState} {w : Wake} (h : Sound s)
    (hstep : partitions s w = some s') (r : Nat) : Touches s s' r (.partitions w) := by
  rcases partitions_eq_some hstep with ⟨⟨names, rfl⟩, -⟩ | ⟨rfl, -⟩
  · rcases Nat.lt_or_ge r s.pool.endpoints.length with hlt | hge
    -- An endpoint that was there before.
    · exact .leaves _ (Pool.alloc_leaves h.pool hlt _) rfl
    · have hnone := List.getElem?_eq_none hge
      obtain ⟨hendpoint, hchild⟩ := Pool.alloc_fresh h.pool hge (names.map (topicConsumer s))
      rw [List.getElem?_map] at hendpoint hchild
      cases hname : names[r - s.pool.endpoints.length]? with
      | none =>
        rw [hname] at hendpoint hchild
        have hunborn := List.getElem?_eq_none (h.pool.length ▸ hge)
        exact .leaves _ ⟨hendpoint.trans hnone.symm, hchild.trans hunborn.symm, rfl, rfl⟩ rfl
      | some name =>
        rw [hname] at hendpoint hchild
        have hloops := Pool.loopsOf_of_length_le h.pool hge
        exact .born w name hnone hendpoint hchild (h.kept.fresh r hge) hloops rfl
  · exact .leaves _ (.refl _ _) rfl

theorem child_touches {s s' : ConsumerState} {ref : Nat} {w : Wake} {env : Env}
    (hstep : step s (.child ref w env) = some s') (r : Nat) : Touches s s' r (.child ref w env) := by
  obtain ⟨p, hp, rfl⟩ := Option.map_eq_some_iff.mp hstep
  obtain ⟨cs, heq, -⟩ := settle_eq { s with pool := p } ref
  rw [heq]
  by_cases hr : r = ref
  · subst hr
    obtain ⟨c, sc, ran, hc, hsc, hran, hchild, hruns⟩ := Pool.child_runs hp
    exact .child w env c hc sc hsc ran hran hchild hruns rfl
  · exact .leaves _ (Pool.child_leaves hp hr) rfl

theorem receive_touches {s : ConsumerState} (h : Sound s) (hone : OneLoop s)
    (hone' : OneLoop (receive s)) (r : Nat) : Touches s (receive s) r .receive := by
  cases hloop : loopOf s r with
  | some status =>
    refine .leaves _ (.refl _ _) ?_
    obtain ⟨t, ht, rfl, rfl⟩ := mem_of_loopOf hloop
    rw [hloop]
    exact loopOf_eq_some hone' (List.mem_append_left _ ht)
  | none =>
    cases hnew : loopOf (receive s) r with
    | none => exact .leaves _ (.refl _ _) (by rw [hnew, hloop])
    | some status =>
      obtain ⟨t, ht, rfl, rfl⟩ := mem_of_loopOf hnew
      rcases List.mem_append.mp ht with ht | ht
      · rw [loopOf_eq_some hone ht] at hloop
        cases hloop
      · obtain ⟨x, hx, rfl⟩ := List.mem_map.mp ht
        obtain ⟨id, hid⟩ := h.consumers x hx
        exact .starts (.refl _ _) hloop id hid hnew

theorem receiving_touches {s s' : ConsumerState} (hone : OneLoop s) {task : Nat} {w : Wake} {env : Env}
    (hstep : step s (.receiving task w env) = some s') (r : Nat) :
    Touches s s' r (.receiving task w env) := by
  obtain ⟨t, sc, queue, ran, ht, hsc, -, hran, rfl⟩ := receiving_eq_some.mp hstep
  have hgrows := grows_of_cleared (receivePiece_cleared env hran)
  let s' : ConsumerState := { s with
    pool := s.pool.commit (.receive task) ran
    queues := s.queues.set t.queue (queue ++ ran.log.filterMap Event.put?)
    tasks := s.tasks.set task { t with status := .started ran.next } }
  obtain ⟨hself, hothers⟩ := @loopOf_set s s' hone task t ht _ rfl
  by_cases hr : r = t.ref
  · subst hr
    exact .receiving task w env t.status (loopOf_eq_some hone (List.mem_of_getElem? ht)) sc hsc queue
      ran hran rfl (Pool.commit_runs hsc hgrows _) hself
  · exact .leaves _ (Pool.commit_leaves hsc hgrows _ hr) (hothers r hr)

theorem health_touches {s s' : ConsumerState} {task : Nat} {w : Wake} {env : Env}
    (hstep : step s (.health task w env) = some s') (r : Nat) :
    Touches s s' r (.health task w env) := by
  obtain ⟨p, hp, rfl⟩ := Option.map_eq_some_iff.mp hstep
  obtain ⟨l, e, c, pos, log, stop, hl, he, -, hchecks, rfl⟩ := Pool.health_eq_some hp
  by_cases hr : r = l.owner
  · subst hr
    exact .health task w env e l pos log stop hchecks (Pool.checked_on hl he c pos log stop) rfl
  · exact .leaves _ (Pool.checked_leaves hl hr c pos log stop) rfl

theorem close_touches {s : ConsumerState} (hone' : OneLoop (close s)) (r : Nat) :
    Touches s (close s) r .close := by
  obtain ⟨log, htrace, hlog⟩ := Pool.foldl_stop_writes (s.consumers.map Prod.snd) s.pool
  refine .close (fun e' he' => ?_) (by rw [close, Pool.foldl_stop_children]) (logOf r log) ?_ ?_ ?_ ?_
  · rw [close, Pool.foldl_stop_getElem] at he'
    obtain ⟨e, he, heq⟩ := Option.map_eq_some_iff.mp he'
    refine ⟨e, he, ?_⟩
    split at heq
    · exact Or.inr heq.symm
    · exact Or.inl heq.symm
  · rw [close, htrace, logOf_append]
  · intro e he
    obtain ⟨actor, hactor⟩ := mem_logOf.mp he
    exact (hlog _ hactor).1
  -- Every loop is cancelled, and none goes away.
  · intro hnone
    cases hloop : loopOf s r with
    | none => rfl
    | some status =>
      obtain ⟨t, ht, href, -⟩ := mem_of_loopOf hloop
      have hsome := loopOf_eq_some hone' (List.mem_map_of_mem (f := cancel) ht)
      rw [cancel_ref, href, hnone] at hsome
      cases hsome
  · intro status hstatus
    obtain ⟨t, ht, -, rfl⟩ := mem_of_loopOf hstatus
    obtain ⟨t', -, rfl⟩ := List.mem_map.mp ht
    exact cancel_over t'

theorem step_touches {s s' : ConsumerState} {l : ConsumerLabel} (h : Sound s) (hone : OneLoop s)
    (hone' : OneLoop s') (hstep : step s l = some s') (r : Nat) : Touches s s' r l := by
  cases l with
  | subscribe env =>
    obtain ⟨-, -, c, x, -, -, rfl⟩ := subscribe_eq_some hstep
    exact .leaves _ ⟨rfl, rfl, rfl, rfl⟩ rfl
  | partitions w => exact partitions_touches h hstep r
  | child ref w env => exact child_touches hstep r
  | gathered =>
    obtain ⟨names, g, -, rfl | ⟨-, rfl⟩⟩ := gathered_eq_some hstep <;>
      exact .leaves _ (.refl _ _) rfl
  | receive =>
    cases hstep
    exact receive_touches h hone hone' r
  | receiving task w env => exact receiving_touches hone hstep r
  | get queue =>
    obtain ⟨queues, rfl⟩ := get_eq_some hstep
    exact .leaves _ (.refl _ _) rfl
  | ack message env => exact onConsumer_touches (Or.inl ⟨_, rfl⟩) hstep r
  | nack message delayMs reason env => exact onConsumer_touches (Or.inr ⟨_, rfl⟩) hstep r
  | acked call w =>
    obtain ⟨acks, rfl⟩ := acked_eq_some hstep
    exact .leaves _ (.refl _ _) rfl
  | health task w env => exact health_touches hstep r
  | close =>
    cases hstep
    exact close_touches hone' r

theorem returned_of_loop {s : ConsumerState} (hs : Sound s) {r : Nat} {status : ReceiveStatus}
    (h : loopOf s r = some status) : ∃ id, s.pool.children[r]? = some (.started (.ret id)) := by
  obtain ⟨t, ht, rfl, -⟩ := mem_of_loopOf h
  exact hs.tasks t ht

theorem endpoint_of_loop {s : ConsumerState} (hs : Sound s) {r : Nat} {status : ReceiveStatus}
    (h : loopOf s r = some status) (hnone : s.pool.endpoints[r]? = none) : False := by
  obtain ⟨id, hid⟩ := returned_of_loop hs h
  have hlt := (List.getElem?_eq_some_iff.mp hid).1
  rw [hs.pool.length] at hlt
  rw [List.getElem?_eq_getElem hlt] at hnone
  cases hnone

theorem loopOf_of_childPiece {s : ConsumerState} (hs : Sound s) {r : Nat} {c : Child}
    (hc : s.pool.children[r]? = some c) {env : Env} {sc : Scope ConsumerFields} {w : Wake}
    {ran : Piece ConsumerFields Registering Nat}
    (hran : Pool.childPiece consumerRole env sc c w = some ran) : loopOf s r = none := by
  cases hl : loopOf s r with
  | none => rfl
  | some status =>
    obtain ⟨id, hid⟩ := returned_of_loop hs hl
    rw [hc, Option.some.injEq] at hid
    subst hid
    cases hran

/-! ## The runs with one call of `receive()` -/

theorem step_queues {s s' : ConsumerState} {l : ConsumerLabel} (hstep : step s l = some s') :
    s'.queues.length = s.queues.length + if l.isReceive then 1 else 0 := by
  cases l with
  | subscribe env => obtain ⟨-, -, c, x, -, -, rfl⟩ := subscribe_eq_some hstep; rfl
  | partitions w =>
    rcases partitions_eq_some hstep with ⟨⟨names, rfl⟩, -⟩ | ⟨rfl, -⟩ <;> rfl
  | child ref w env =>
    obtain ⟨p, hp, rfl⟩ := Option.map_eq_some_iff.mp hstep
    obtain ⟨c, heq, -⟩ := settle_eq { s with pool := p } ref
    rw [heq]
    rfl
  | gathered => obtain ⟨names, g, -, rfl | ⟨-, rfl⟩⟩ := gathered_eq_some hstep <;> rfl
  | receive => cases hstep; simp [receive, ConsumerLabel.isReceive]
  | receiving task w env =>
    obtain ⟨t, sc, queue, ran, -, -, -, -, rfl⟩ := receiving_eq_some.mp hstep
    simp [ConsumerLabel.isReceive]
  | get queue =>
    simp only [step, get] at hstep
    split at hstep
    · cases hstep
      simp [ConsumerLabel.isReceive]
    · cases hstep
  | ack message env =>
    obtain ⟨acks, rfl | ⟨ref, sc, call, -, -, -, rfl⟩⟩ := onConsumer_eq_some hstep <;> rfl
  | nack message delayMs reason env =>
    obtain ⟨acks, rfl | ⟨ref, sc, call, -, -, -, rfl⟩⟩ := onConsumer_eq_some hstep <;> rfl
  | acked call w => obtain ⟨acks, rfl⟩ := acked_eq_some hstep; rfl
  | health task w env => obtain ⟨p, -, rfl⟩ := Option.map_eq_some_iff.mp hstep; rfl
  | close => cases hstep; rfl

theorem exec_queues {client : Client} {config : ConsumerConfig} {ls : List ConsumerLabel}
    {s : ConsumerState} (h : exec step (init client config) ls = some s) :
    s.queues.length = ls.countP ConsumerLabel.isReceive := by
  refine exec_induction (P := fun ls s => s.queues.length = ls.countP ConsumerLabel.isReceive) rfl
    (fun ls t l u _ ih hl => ?_) h
  rw [step_queues hl, ih, List.countP_append, List.countP_singleton]

theorem oneLoop_of_queues {s : ConsumerState} (h : Distinct s) (hf : Fed s)
    (hq : s.queues.length ≤ 1) : OneLoop s := by
  refine List.pairwise_map.mpr ((List.pairwise_map.mp h.tasks).imp_of_mem fun ht hu hne href => ?_)
  have hqt := hf.queues _ ht
  have hqu := hf.queues _ hu
  exact hne (Prod.ext (by dsimp only; omega) href)

/-- The invariant rule for one partition: what the steps on it keep, every run with one call of
`receive()` keeps. -/
theorem exec_partition {J : ConsumerState → Nat → Prop} {L : ConsumerLabel → Prop}
    (hkeeps : ∀ s l s' r, Sound s → L l → Touches s s' r l → J s r → J s' r)
    {client : Client} {config : ConsumerConfig} (hinit : ∀ r, J (init client config) r)
    {ls : List ConsumerLabel} {s : ConsumerState} (hL : ∀ l ∈ ls, L l)
    (honce : ls.countP ConsumerLabel.isReceive ≤ 1) (h : exec step (init client config) ls = some s)
    (r : Nat) : J s r := by
  have hrun : (∀ l ∈ ls, L l) → ls.countP ConsumerLabel.isReceive ≤ 1 → ∀ r, J s r := by
    refine exec_induction (P := fun ls s => (∀ l ∈ ls, L l) →
      ls.countP ConsumerLabel.isReceive ≤ 1 → ∀ r, J s r) (fun _ _ => hinit) ?_ h
    intro ls t l u ht ih hl hL hle r
    rw [List.countP_append] at hle
    have hht := exec_handed ht
    have hhu := step_handed hht hl
    have hone : OneLoop t :=
      oneLoop_of_queues hht.distinct hht.fed (by rw [exec_queues ht]; omega)
    have hone' : OneLoop u := by
      refine oneLoop_of_queues hhu.distinct hhu.fed ?_
      rw [step_queues hl, exec_queues ht]
      rwa [List.countP_singleton] at hle
    exact hkeeps t l u r hht.sound (hL l (by simp)) (step_touches hht.sound hone hone' hl r)
      (ih (fun x hx => hL x (List.mem_append_left _ hx)) (by omega) r)
  exact hrun hL honce r

end Consumer

end Danube
