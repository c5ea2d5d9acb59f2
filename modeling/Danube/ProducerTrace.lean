import Danube.ProducerTasks

/-! # What the steps of a producer write -/

namespace Danube

open Async

theorem SendCall.Creates.callLog {c : Client} {n : Nat} {log : List Event}
    {o : Outcome Sending Nat Error} (h : SendCall.Creates c n log o) :
    ∃ o' : Outcome Registering Nat Error, CallLog o' log := by
  cases h with
  | waits log k hlog _ _ => exact ⟨.await k, log, [], by simp, hlog, rfl⟩
  | raises log err hlog => exact ⟨.raise err, log, _, rfl, hlog, rfl⟩

namespace Producer

/-- The steps of `create()`. -/
def Registers : ProducerLabel → Prop
  | .create _ | .child .. | .gathered => True
  | _ => False

theorem step_serves {s s' : ProducerState} {l : ProducerLabel} (hstep : step s l = some s')
    (hl : ¬ Registers l) : s'.producers = s.producers ∧ s'.creating = s.creating ∧
      s'.pool.children = s.pool.children := by
  cases l with
  | create | child | gathered => exact (hl trivial).elim
  | send data attributes routingKey env =>
    obtain ⟨-, p, router, t, -, -, ⟨-, rfl⟩ | ⟨ref, sc, -, -, rfl⟩⟩ := send_eq_some hstep <;>
      exact ⟨rfl, rfl, rfl⟩
  | sending task w env =>
    obtain ⟨t, ref, sc, k, ran, -, -, -, -, -, rfl⟩ := sending_eq_some.mp hstep
    exact ⟨rfl, rfl, rfl⟩
  | health task w env =>
    obtain ⟨p, hp, rfl⟩ := Option.map_eq_some_iff.mp hstep
    obtain ⟨l, e, c, pos, log, stop, -, -, -, -, rfl⟩ := Pool.health_eq_some hp
    exact ⟨rfl, rfl, rfl⟩
  | close =>
    cases hstep
    exact ⟨rfl, rfl, Pool.foldl_stop_children s.producers s.pool⟩

theorem forall_resumed {s : ProducerState} {task ref : Nat} {t : SendTask} {sc : Scope ProducerFields}
    {k : Sending} {P : SendTask → Nat → Scope ProducerFields → Sending → Prop}
    (ht : s.sends[task]? = some t) (hr : s.producers[t.partition]? = some ref)
    (hsc : s.pool.scope ref = some sc) (hk : t.status = .await k) :
    (∀ t ref sc k, s.sends[task]? = some t → s.producers[t.partition]? = some ref →
      s.pool.scope ref = some sc → t.status = .await k → P t ref sc k) ↔ P t ref sc k := by
  constructor
  · intro h
    exact h t ref sc k ht hr hsc hk
  · intro h t' ref' sc' k' ht' hr' hsc' hk'
    obtain rfl : t = t' := Option.some.inj (ht.symm.trans ht')
    obtain rfl : ref = ref' := Option.some.inj (hr.symm.trans hr')
    obtain rfl : sc = sc' := Option.some.inj (hsc.symm.trans hsc')
    obtain rfl : k = k' := Outcome.await.inj (hk.symm.trans hk')
    exact h

/-- What a step adds to the trace. -/
inductive Writes (s s' : ProducerState) : ProducerLabel → Prop
  | silent (l : ProducerLabel) (hl : Registers l) (htrace : s'.pool.trace = s.pool.trace)
    (hsends : s'.sends = s.sends) (hchildren : ∀ (r : Nat) o, s'.pool.children[r]? = some (.started o) ↔
      s.pool.children[r]? = some (.started o)) : Writes s s' l
  | child (l : ProducerLabel) (hl : Registers l) (p : Pool ProducerFields)
    (hp : p.trace = s.pool.trace) (ref : Nat) (log : List Event)
    (hlog : Pool.ChildWrites p s'.pool ref log)
    (htrace : s'.pool.trace = s.pool.trace ++ log.map fun e => ⟨.child ref, ref, e⟩)
    (hchildren : ∀ (r : Nat) o, p.children[r]? = some (.started o) ↔
      s.pool.children[r]? = some (.started o))
    (hothers : ∀ r : Nat, r ≠ ref → s'.pool.children[r]? = p.children[r]?)
    (hsends : s'.sends = s.sends) : Writes s s' l
  | outOfRange (data : List UInt8) (attributes : Option (List (String × String)))
    (routingKey : Option String) (env : Env)
    (hr : s.producers[(selectPartition s routingKey).1]? = none)
    (htrace : s'.pool.trace = s.pool.trace) (hchildren : s'.pool.children = s.pool.children)
    (t : SendTask) (hsends : s'.sends = s.sends ++ [t]) (err : Error) (ht : t.status = .raise err) :
    Writes s s' (.send data attributes routingKey env)
  | attempt (data : List UInt8) (attributes : Option (List (String × String)))
    (routingKey : Option String) (env : Env) (ref : Nat)
    (hr : s.producers[(selectPartition s routingKey).1]? = some ref) (sc : Scope ProducerFields)
    (hsc : s.pool.scope ref = some sc) (log : List Event) (t : SendTask)
    (ht : t.partition = (selectPartition s routingKey).1)
    (h : SendCall.Attempts env sc 0 log t.status)
    (htrace : s'.pool.trace =
      s.pool.trace ++ log.map fun e => ⟨.send s.sends.length, ref, e⟩)
    (hchildren : s'.pool.children = s.pool.children) (hsends : s'.sends = s.sends ++ [t]) :
    Writes s s' (.send data attributes routingKey env)
  | sending (task : Nat) (w : Wake) (env : Env) (t : SendTask) (ht : s.sends[task]? = some t)
    (ref : Nat) (hr : s.producers[t.partition]? = some ref) (sc : Scope ProducerFields)
    (hsc : s.pool.scope ref = some sc) (k : Sending) (hk : t.status = .await k) (c : Client)
    (log : List Event) (o : Outcome Sending Nat Error)
    (h : SendCall.Resumes t.call env sc c k w log o)
    (htrace : s'.pool.trace = s.pool.trace ++ log.map fun e => ⟨.send task, ref, e⟩)
    (hchildren : s'.pool.children = s.pool.children)
    (hsends : s'.sends = s.sends.set task { t with status := o }) :
    Writes s s' (.sending task w env)
  | health (task : Nat) (w : Wake) (env : Env) (l : HealthLoop) (hl : s.pool.loops[task]? = some l)
    (stopEvent : Bool) (position : HealthAt) (log : List Event) (stop : Bool)
    (h : Pool.Checks l stopEvent position log stop)
    (htrace : s'.pool.trace = s.pool.trace ++ log.map fun e => ⟨.health task, l.owner, e⟩)
    (hchildren : s'.pool.children = s.pool.children) (hsends : s'.sends = s.sends) :
    Writes s s' (.health task w env)
  | close (log : List Entry) (hlog : ∀ x ∈ log, x.event = .stopped ∧ x.actor = .app)
    (htrace : s'.pool.trace = s.pool.trace ++ log)
    (hchildren : s'.pool.children = s.pool.children) (hsends : s'.sends = s.sends) :
    Writes s s' .close

theorem writes_of_child {s : ProducerState} {p q : Pool ProducerFields} {ref : Nat} {w : Wake}
    {env : Env} (h : p.Sound) (htrace : p.trace = s.pool.trace)
    (hchildren : ∀ (r : Nat) o, p.children[r]? = some (.started o) ↔
      s.pool.children[r]? = some (.started o))
    (hq : p.child producerRole ref w env = some q) {s' : ProducerState} (hs' : s'.pool = q)
    (hsends : s'.sends = s.sends) {l : ProducerLabel} (hl : Registers l) : Writes s s' l := by
  subst hs'
  obtain ⟨⟨log, hlog, hq'⟩, hothers⟩ := Pool.child_writes h hq
  exact .child l hl p htrace ref log hlog (by rw [hq', htrace]) hchildren hothers hsends

theorem commitSend_trace {s : ProducerState} (task : Nat) (t : SendTask) {ref : Nat}
    {sc : Scope ProducerFields} (hsc : s.pool.scope ref = some sc)
    {ran : Piece ProducerFields Sending Nat} (hj : Piece.Journaled sc ran) :
    (commitSend s task t ran).pool.trace =
      s.pool.trace ++ ran.log.map fun e => ⟨.send task, ref, e⟩ := by
  have href : ran.state.ref = ref := hj.ref.trans (Pool.scope_eq_some.mp hsc).2.2.2
  simp [commitSend, Pool.commit, href]

theorem step_writes {s s' : ProducerState} {l : ProducerLabel} (h : Sound s)
    (hstep : step s l = some s') : Writes s s' l := by
  cases l with
  | create env =>
    obtain ⟨-, -, ⟨-, p, hp, rfl⟩ | ⟨hpos, rfl⟩⟩ := create_eq_some hstep
    · exact writes_of_child (p := s.pool.alloc _) (Pool.alloc_sound h.pool h.kept (by simpa using (topicProducer_fresh s _ _).healthTask)) rfl
        (Pool.alloc_started s.pool _) hp (by rw [settle_pool]) (by rw [settle_sends]) trivial
    · exact .silent _ trivial rfl rfl (Pool.alloc_started s.pool _)
  | child ref w env =>
    obtain ⟨p, hp, rfl⟩ := Option.map_eq_some_iff.mp hstep
    exact writes_of_child h.pool rfl (fun _ _ => Iff.rfl) hp (by rw [settle_pool])
      (by rw [settle_sends]) trivial
  | gathered =>
    obtain ⟨g, -, ⟨-, rfl⟩ | ⟨-, -, rfl⟩⟩ := gathered_eq_some hstep <;>
      exact .silent _ trivial rfl rfl fun _ _ => Iff.rfl
  | send data attributes routingKey env =>
    obtain ⟨-, partition, router, t, hsel, ht, hcase⟩ := send_eq_some hstep
    -- The call is out of range, or makes its first attempt.
    have hpart : (selectPartition s routingKey).1 = partition := congrArg Prod.fst hsel
    rcases hcase with ⟨hnone, rfl⟩ | ⟨r, sc, hr, hsc, rfl⟩
    · exact .outOfRange _ _ _ _ (hpart ▸ hnone) rfl rfl t rfl _ (by rw [ht])
    · exact .attempt _ _ _ _ r (hpart ▸ hr) sc hsc _
        { t with status := (t.call.attempt env 0 sc).next } (by rw [ht, hpart]) (SendCall.attempt_spec 0 (h.stub hr hsc))
        (commitSend_trace _ t hsc (sendAttempt_journaled env t.call 0 sc)) rfl (by simp [commitSend])
  | sending task w env =>
    obtain ⟨t, r, sc, k, ran, ht, hr, hsc, hk, hran, rfl⟩ := sending_eq_some.mp hstep
    exact .sending task w env t ht r hr sc hsc k hk _ _ _ (h.resumes ht hr hsc hk hran)
      (commitSend_trace task t hsc (sendResume_journaled env hran)) rfl rfl
  | health task w env =>
    obtain ⟨p, hp, rfl⟩ := Option.map_eq_some_iff.mp hstep
    obtain ⟨l, e, c, pos, log, stop, hl, -, -, hchecks, rfl⟩ := Pool.health_eq_some hp
    exact .health task w env l hl _ _ log stop hchecks rfl rfl rfl
  | close =>
    cases hstep
    obtain ⟨log, hlog, hall⟩ := Pool.foldl_stop_writes s.producers s.pool
    exact .close log hall hlog (Pool.foldl_stop_children s.producers s.pool) rfl

/-! ## What a step does to one send -/

/-- What a step does to the send `i`. -/
inductive Moves (s s' : ProducerState) (i : Nat) : ProducerLabel → Prop
  | idle (l : ProducerLabel) (hl : ∀ w env, l ≠ .sending i w env)
    (htask : s'.sends[i]? = s.sends[i]?)
    (hlog : journalOf (.send i) s'.pool.trace = journalOf (.send i) s.pool.trace) : Moves s s' i l
  | outOfRange (l : ProducerLabel) (hl : ∀ w env, l ≠ .sending i w env)
    (hnew : s.sends[i]? = none) (t : SendTask) (htask : s'.sends[i]? = some t) (err : Error)
    (ht : t.status = .raise err)
    (hlog : journalOf (.send i) s'.pool.trace = journalOf (.send i) s.pool.trace) : Moves s s' i l
  | starts (l : ProducerLabel) (hl : ∀ w env, l ≠ .sending i w env) (hnew : s.sends[i]? = none)
    (t : SendTask) (htask : s'.sends[i]? = some t) (env : Env) (sc : Scope ProducerFields)
    (log : List Event) (h : SendCall.Attempts env sc 0 log t.status)
    (hlog : journalOf (.send i) s'.pool.trace = journalOf (.send i) s.pool.trace ++ log) :
    Moves s s' i l
  | resumes (w : Wake) (env : Env) (t : SendTask) (htask : s.sends[i]? = some t) (r : Nat)
    (hr : s.producers[t.partition]? = some r) (sc : Scope ProducerFields)
    (hsc : s.pool.scope r = some sc) (k : Sending) (hk : t.status = .await k) (c : Client)
    (log : List Event) (o : Outcome Sending Nat Error)
    (h : SendCall.Resumes t.call env sc c k w log o)
    (htask' : s'.sends[i]? = some { t with status := o })
    (hlog : journalOf (.send i) s'.pool.trace = journalOf (.send i) s.pool.trace ++ log) :
    Moves s s' i (.sending i w env)

theorem getElem?_append_singleton_ne {β : Type} {l : List β} {i : Nat} (h : i ≠ l.length) (x : β) :
    (l ++ [x])[i]? = l[i]? := by
  rcases Nat.lt_or_ge i l.length with hlt | hge
  · exact List.getElem?_append_left hlt
  · rw [List.getElem?_eq_none (by simp; omega), List.getElem?_eq_none hge]

theorem step_moves {s s' : ProducerState} {l : ProducerLabel} (h : Sound s)
    (hstep : step s l = some s') (i : Nat) : Moves s s' i l := by
  -- Another actor writes nothing on the journal of the send.
  have hother : ∀ {actor : Actor} {ref : Nat} {log : List Event}, .send i ≠ actor →
      s'.pool.trace = s.pool.trace ++ log.map (fun e => ⟨actor, ref, e⟩) →
      journalOf (.send i) s'.pool.trace = journalOf (.send i) s.pool.trace := by
    intro actor ref log hne htrace
    rw [htrace, journalOf_append, journalOf_entries_ne hne, List.append_nil]
  have hself : ∀ {ref : Nat} {log : List Event},
      s'.pool.trace = s.pool.trace ++ log.map (fun e => ⟨.send i, ref, e⟩) →
      journalOf (.send i) s'.pool.trace = journalOf (.send i) s.pool.trace ++ log := by
    intro ref log htrace
    rw [htrace, journalOf_append, journalOf_entries_self]
  cases step_writes h hstep with
  | silent l hl htrace hsends hchildren =>
    refine .idle l ?_ (by rw [hsends]) (by rw [htrace])
    rintro w env rfl
    exact hl
  | child l hl p hp ref log hlog htrace hchildren hothers hsends =>
    refine .idle l ?_ (by rw [hsends]) (hother (by simp) htrace)
    rintro w env rfl
    exact hl
  | outOfRange data attributes routingKey env hr htrace hchildren t hsends err ht =>
    by_cases hi : i = s.sends.length
    · subst hi
      exact .outOfRange _ (by simp) (by simp) t (by simp [hsends]) err ht (by rw [htrace])
    · exact .idle _ (by simp) (by rw [hsends, getElem?_append_singleton_ne hi]) (by rw [htrace])
  | attempt data attributes routingKey env ref hr sc hsc log t ht hatt htrace hchildren hsends =>
    by_cases hi : i = s.sends.length
    · subst hi
      exact .starts _ (by simp) (by simp) t (by simp [hsends]) env sc log hatt (hself htrace)
    · exact .idle _ (by simp) (by rw [hsends, getElem?_append_singleton_ne hi])
        (hother (by simpa using hi) htrace)
  | sending task w env t ht ref hr sc hsc k hk c log o hres htrace hchildren hsends =>
    by_cases hi : i = task
    · subst hi
      refine .resumes w env t ht ref hr sc hsc k hk c log o hres ?_ (hself htrace)
      rw [hsends, List.getElem?_set_self (List.getElem?_eq_some_iff.mp ht).1]
    · refine .idle _ (by simpa using fun h => (hi h.symm).elim) ?_ (hother (by simpa using hi) htrace)
      rw [hsends, List.getElem?_set_ne (Ne.symm hi)]
  | health task w env l hl stopEvent position log stop hchecks htrace hchildren hsends =>
    exact .idle _ (by simp) (by rw [hsends]) (hother (by simp) htrace)
  | close log hlog htrace hchildren hsends =>
    refine .idle _ (by simp) (by rw [hsends]) ?_
    rw [htrace, journalOf_append, journalOf_of_app (fun x hx => (hlog x hx).2) (by simp), List.append_nil]

end Producer

end Danube
