import Danube.ProducerTrace
import Danube.Async.Overlap

/-! # Recreations of one `TopicProducer` -/

namespace Danube

open Async

/-- A send tries, and the operation that sends must not overlap in is `create()`. -/
def phaseOf : Event → Phase
  | .rpc call =>
    match call.request with
    | .sendMessage _ => .tries
    | .createProducer _ | .subscribe _ => .requests
    | _ => .other
  | .creating => .starts
  | .created _ => .returns
  | .notCreated (.unrecoverable _) => .refused
  | .notCreated _ => .raises
  | _ => .other

/-- What the tasks of the client did on one endpoint. -/
def phasesOn (ref : Nat) (trace : List Entry) : List (Actor × Phase) :=
  (entriesOf ref trace).map fun x => (x.actor, phaseOf x.event)

/-- The calls of `create()` that are in progress on one endpoint, and the tasks that another call
has helped since their last message. -/
def overlap (ref : Nat) (trace : List Entry) : Overlap Actor :=
  replay Overlap.apply {} (phasesOn ref trace)

theorem Event.Inner.phaseOf {e : Event} (h : e.Inner) :
    phaseOf e = if e.asks then .requests else .other := by
  cases e with
  | rpc call =>
    obtain ⟨conn, request, metadata⟩ := call
    cases request <;> simp [Event.Inner, Request.registering] at h <;> rfl
  | _ => first | rfl | exact h.elim

theorem phaseOf_message {rpc : Call} (h : SendCall.IsMessage rpc) : phaseOf (.rpc rpc) = .tries := by
  obtain ⟨m, hm⟩ := h
  simp [phaseOf, hm]

theorem Pool.Checks.phaseOf {l : HealthLoop} {stopEvent : Bool} {position : HealthAt}
    {log : List Event} {stop : Bool} (h : Pool.Checks l stopEvent position log stop) :
    ∀ e ∈ log, phaseOf e = .other := by
  cases h with
  | poll _ _ call n hcall =>
    intro e he
    rw [List.mem_singleton.mp he]
    simp [Danube.phaseOf, hcall]
  | close call _ =>
    intro e he
    rw [List.mem_singleton.mp he]
    rfl
  | _ => simp

/-! ## Calls in progress -/

/-- Where a coroutine is in its call. -/
def Child.call? : Option Child → Option Registering
  | some (.started (.await k)) => some k
  | _ => none

/-- The call of `create()` that a send is in. -/
def SendTask.call? (t : SendTask) : Option Registering :=
  match t.status with
  | .await (.create k) => some k
  | _ => none

theorem SendTask.call?_eq_some {t : SendTask} {k : Registering} :
    t.call? = some k ↔ t.status = .await (.create k) := by
  unfold call?
  split
  · rename_i k' hk
    simp [hk]
  · rename_i hk
    simpa using hk k

namespace Producer

/-- At most one `create()` is in progress on each endpoint at any time, no `CreateProducer` goes out
for a task that another call has helped since its last message, and none of its calls is refused. -/
def OneAtATime (s : ProducerState) : Prop :=
  ∀ ref, Always Overlap.apply Overlap.Alone {} (phasesOn ref s.pool.trace)

/-- The call of `create()` on `ref` that a task is in. -/
def callOn (s : ProducerState) (ref : Nat) : Actor → Option Registering
  | .child r => if r = ref then Child.call? s.pool.children[r]? else none
  | .send i => s.sends[i]?.bind fun t =>
    if s.producers[t.partition]? = some ref then t.call? else none
  | _ => none

/-- A send that has exhausted its retries learns the address to recreate at. -/
def Recreates (k : Sending) (w : Wake) : Prop :=
  ∃ err rpc response addr, k = .lookup err rpc ∧ w = .reply (.ok (.topicLookup response)) ∧
    Client.handleLookup response = .ok addr

/-- The step starts a recreation only while no `create()` of the endpoint is in progress, and gets
one to its `CreateProducer` only if no other task's call returned since the last message. -/
def RecreatesFree (s : ProducerState) : ProducerLabel → Prop
  | .sending task w env => ∀ t ref sc k, s.sends[task]? = some t →
    s.producers[t.partition]? = some ref → s.pool.scope ref = some sc → t.status = .await k →
    (Recreates k w → ∀ a, callOn s ref a = none) ∧
      (SendCall.AsksNext env sc k w → (overlap ref s.pool.trace).renewed (.send task) = false)
  | _ => True

/-! ## What the journals of pieces do -/

/-- The phases of events that one task wrote. -/
def phases (actor : Actor) (log : List Event) : List (Actor × Phase) :=
  log.map fun e => (actor, phaseOf e)

@[simp] theorem phases_nil (actor : Actor) : phases actor [] = [] := rfl

@[simp] theorem phases_cons (actor : Actor) (e : Event) (log : List Event) :
    phases actor (e :: log) = (actor, phaseOf e) :: phases actor log := rfl

@[simp] theorem phases_append (actor : Actor) (a b : List Event) :
    phases actor (a ++ b) = phases actor a ++ phases actor b := List.map_append

theorem phases_eq_map (actor : Actor) (log : List Event) :
    phases actor log = (log.map phaseOf).map fun p => (actor, p) := by
  simp [phases]

theorem phasesOn_append (r : Nat) (t u : List Entry) :
    phasesOn r (t ++ u) = phasesOn r t ++ phasesOn r u := by
  simp [phasesOn]

section Inner

variable {v : Overlap Actor} {actor : Actor} {log : List Event}

theorem replay_inner (h : ∀ e ∈ log, e.Inner) :
    (replay Overlap.apply v (phases actor log)).running = v.running ∧
      (replay Overlap.apply v (phases actor log)).renewed = v.renewed ∧
      ((replay Overlap.apply v (phases actor log)).asked actor = true ↔
        Asks log ∨ v.asked actor = true) := by
  induction log generalizing v with
  | nil => simp
  | cons e es ih =>
    have hes := ih (v := v.apply (actor, phaseOf e)) fun x hx => h x (List.mem_cons_of_mem _ hx)
    rw [phases_cons, replay_cons, asks_cons]
    have he := (h e (List.mem_cons_self ..)).phaseOf
    by_cases hasks : e.asks = true
    · rw [he, if_pos hasks] at hes ⊢
      refine ⟨hes.1, hes.2.1, hes.2.2.trans ?_⟩
      simp [Overlap.apply, hasks]
    · rw [he, if_neg hasks] at hes ⊢
      refine ⟨hes.1, hes.2.1, hes.2.2.trans ?_⟩
      simp [Overlap.apply, hasks]

theorem balanced_inner (h : ∀ e ∈ log, e.Inner) :
    Always Overlap.apply Overlap.Balanced v (phases actor log) := by
  refine always_of_forall (fun x hx v => ?_) v
  obtain ⟨e, he, rfl⟩ := List.mem_map.mp hx
  rw [(h e he).phaseOf]
  by_cases hasks : e.asks = true <;> simp [Overlap.Balanced, hasks]

theorem apart_inner (h : ∀ e ∈ log, e.Inner) (hv : v.running.length ≤ 1) :
    Always Overlap.apply Overlap.Apart v (phases actor log) ↔
      (Asks log → v.renewed actor = false) := by
  induction log generalizing v with
  | nil => simp
  | cons e es ih =>
    rw [phases_cons, always_cons, asks_cons, (h e (List.mem_cons_self ..)).phaseOf]
    have hes : ∀ x ∈ es, x.Inner := fun x hx => h x (List.mem_cons_of_mem _ hx)
    by_cases hasks : e.asks = true
    · rw [if_pos hasks, ih (v := v.apply (actor, .requests)) hes hv]
      simp only [Overlap.Apart, Overlap.apply, hasks, true_or, forall_const]
      exact ⟨fun hx => hx.1.2, fun hx => ⟨⟨hv, hx⟩, fun _ => hx⟩⟩
    · rw [if_neg hasks, ih (v := v.apply (actor, .other)) hes hv]
      simp only [Overlap.Apart, Overlap.apply, hasks, Bool.false_eq_true, false_or]
      exact ⟨fun hx => hx.2, fun hx => ⟨⟨hv, by simp⟩, hx⟩⟩

end Inner

/-! ## One piece -/

/-- A piece of the task `actor` that leaves it in the call `k`. -/
structure Orderly (v : Overlap Actor) (actor : Actor) (log : List Event) (k : Option Registering) :
    Prop where
  balanced : Always Overlap.apply Overlap.Balanced v (phases actor log)
  count : (replay Overlap.apply v (phases actor log)).running.count actor =
    if k.isSome then 1 else 0
  asked : ∀ n addr call, k = some (.request n addr call) →
    (replay Overlap.apply v (phases actor log)).asked actor = true

section Piece

variable {v : Overlap Actor} {actor : Actor} {log : List Event}

/-- The call that an outcome of a coroutine leaves it in. -/
def stage? {α : Type} : Outcome Registering α Error → Option Registering
  | .await k => some k
  | _ => none

theorem callLog_orderly {α : Type} {o : Outcome Registering α Error} {asks refusable : Prop}
    (h : CallLog o log) (hasking : Asking (fun k => k) asks refusable log o)
    (hv : v.running.count actor = 1) (hrefusable : refusable → v.asked actor = true) :
    Orderly v actor log (stage? o) := by
  have hmem : actor ∈ v.running := List.count_pos_iff.mp (by omega)
  have hrequest : ∀ n addr call, stage? o = some (.request n addr call) → Asks log := by
    intro n addr call ho
    cases o <;> simp only [stage?, Option.some.injEq, reduceCtorEq] at ho
    subst ho
    exact hasking.log.mpr (hasking.request n addr call rfl)
  obtain ⟨inner, tail, rfl, hinner, htail⟩ := h
  obtain ⟨hrunning, -, hasked⟩ := @replay_inner v actor _ hinner
  have hbal := @balanced_inner v actor _ hinner
  cases o with
  | await k =>
    -- The call goes on: it has asked if it waits for its request.
    obtain rfl : tail = [] := htail
    rw [List.append_nil] at hrequest ⊢
    refine ⟨hbal, ?_, fun n addr call ho => hasked.mpr (Or.inl (hrequest n addr call ho))⟩
    rw [hrunning, hv]
    rfl
  | ret a =>
    -- The call returns, and is counted no more.
    obtain ⟨id, rfl⟩ := htail
    refine ⟨?_, ?_, by simp [stage?]⟩ <;> rw [phases_append]
    · exact (always_append ..).mpr ⟨hbal, ⟨fun _ => hrunning ▸ hmem, by simp [phaseOf]⟩, trivial⟩
    · rw [replay_append]
      simp only [phases_cons, phases_nil, replay_cons, replay_nil, phaseOf, Overlap.apply]
      rw [hrunning, List.count_erase_self, hv]
      rfl
  | raise err =>
    -- The call raises. It is refused only after it has asked.
    obtain rfl : tail = [.notCreated err] := htail
    refine ⟨?_, ?_, by simp [stage?]⟩ <;> rw [phases_append]
    · refine (always_append ..).mpr ⟨hbal, ⟨fun _ => hrunning ▸ hmem, fun hphase => ?_⟩, trivial⟩
      refine hasked.mpr (Or.inr (hrefusable ?_))
      cases err with
      | unrecoverable text => exact hasking.refused text rfl
      | _ => simp [phaseOf] at hphase
    · rw [replay_append]
      cases err <;> simp only [phases_cons, phases_nil, replay_cons, replay_nil, phaseOf,
        Overlap.apply] <;> rw [hrunning, List.count_erase_self, hv] <;> rfl

theorem callLog_apart {α : Type} {o : Outcome Registering α Error} (h : CallLog o log)
    (hv : v.running.length ≤ 1) :
    Always Overlap.apply Overlap.Apart v (phases actor log) ↔
      (Asks log → v.renewed actor = false) := by
  obtain ⟨inner, tail, rfl, hinner, htail⟩ := h
  obtain ⟨hrunning, -, -⟩ := @replay_inner v actor _ hinner
  rw [phases_append, always_append, apart_inner hinner hv, asks_append]
  have herase : (v.running.erase actor).length ≤ 1 := (List.length_erase_le ..).trans hv
  cases o with
  | await k =>
    obtain rfl : tail = [] := htail
    simp
  | ret a =>
    obtain ⟨id, rfl⟩ := htail
    simp [phaseOf, Overlap.Apart, Overlap.apply, hrunning, herase, Event.asks]
  | raise err =>
    obtain rfl : tail = [.notCreated err] := htail
    cases err <;> simp [phaseOf, Overlap.Apart, Overlap.apply, hrunning, herase, Event.asks]

theorem callLog_length {α : Type} {o : Outcome Registering α Error} (h : CallLog o log)
    (hv : v.running.length ≤ 1) :
    (replay Overlap.apply v (phases actor log)).running.length ≤ 1 := by
  obtain ⟨inner, tail, rfl, hinner, htail⟩ := h
  obtain ⟨hrunning, -, -⟩ := @replay_inner v actor _ hinner
  have herase : (v.running.erase actor).length ≤ 1 := (List.length_erase_le ..).trans hv
  rw [phases_append, replay_append]
  cases o with
  | await k =>
    obtain rfl : tail = [] := htail
    exact hrunning ▸ hv
  | ret a =>
    obtain ⟨id, rfl⟩ := htail
    simpa [phaseOf, Overlap.apply, hrunning] using herase
  | raise err =>
    obtain rfl : tail = [.notCreated err] := htail
    cases err <;> simpa [phaseOf, Overlap.apply, hrunning] using herase

theorem creates_callLog {c : Client} {n : Nat} {o : Outcome Sending Nat Error} {asks refusable : Prop}
    (h : SendCall.Creates c n log o) (hasking : Asking .create asks refusable log o) (t : SendTask)
    (ht : t.status = o) :
    ∃ o' : Outcome Registering Nat Error, CallLog o' log ∧
      Asking (fun k => k) asks refusable log o' ∧ t.call? = stage? o' := by
  cases h with
  | waits log k hlog _ _ =>
    refine ⟨.await k, ⟨log, [], by simp, hlog, rfl⟩, ⟨hasking.log, fun n addr call hk => ?_, by simp⟩, ?_⟩
    · cases hk
      exact hasking.request n addr call rfl
    · rw [SendTask.call?, ht]
      rfl
  | raises log err hlog =>
    refine ⟨.raise err, ⟨log, _, rfl, hlog, rfl⟩, ⟨hasking.log, by simp, fun text herr => ?_⟩, ?_⟩
    · cases herr
      exact hasking.refused text rfl
    · rw [SendTask.call?, ht]
      rfl

theorem attempts_orderly {env : Env} {sc : Scope ProducerFields} {n : Nat}
    {o : Outcome Sending Nat Error} (h : SendCall.Attempts env sc n log o)
    (hv : v.running.count actor = 0) (t : SendTask) (ht : t.status = o) :
    Orderly v actor log t.call? := by
  cases h with
  | issued rpc hrpc _ =>
    rw [SendTask.call?, ht]
    refine ⟨?_, ?_, by simp⟩ <;> rw [phases_cons, phaseOf_message hrpc]
    · exact ⟨by simp [Overlap.Balanced], trivial⟩
    · exact hv
  | refused err _ =>
    rw [SendTask.call?, ht]
    exact ⟨trivial, hv, by simp⟩

theorem attempts_apart {env : Env} {sc : Scope ProducerFields} {n : Nat}
    {o : Outcome Sending Nat Error} (h : SendCall.Attempts env sc n log o)
    (hv : v.running.length ≤ 1) : Always Overlap.apply Overlap.Apart v (phases actor log) := by
  cases h with
  | issued rpc hrpc _ =>
    rw [phases_cons, phaseOf_message hrpc]
    exact ⟨⟨hv, by simp⟩, trivial⟩
  | refused err _ => trivial

theorem resumes_orderly {call : SendCall} {env : Env} {sc : Scope ProducerFields} {c : Client}
    {k : Sending} {w : Wake} {t t' : SendTask}
    (h : SendCall.Resumes call env sc c k w log t'.status) (hk : t.status = .await k)
    (hcount : v.running.count actor = if t.call?.isSome then 1 else 0)
    (hasked : ∀ n addr rpc, t.call? = some (.request n addr rpc) → v.asked actor = true) :
    Orderly v actor log t'.call? := by
  generalize ho : t'.status = o at h
  -- A send that waits for no `create()` is in no call.
  have hidle : (∀ k', k ≠ .create k') → v.running.count actor = 0 := by
    intro hne
    have hnone : t.call? = none := by
      rw [Option.eq_none_iff_forall_ne_some]
      intro k' hk'
      rw [SendTask.call?_eq_some, hk] at hk'
      cases hk'
      exact hne k' rfl
    rw [hcount, hnone]
    rfl
  have hsome : ∀ k', k = .create k' → t.call? = some k' := by
    rintro k' rfl
    exact SendTask.call?_eq_some.mpr hk
  have hnext : (∀ k', o ≠ .await (.create k')) → t'.call? = none := by
    intro hne
    rw [Option.eq_none_iff_forall_ne_some]
    intro k' hk'
    rw [SendTask.call?_eq_some, ho] at hk'
    exact hne k' hk'
  cases h with
  | done | failed | notMoved =>
    rw [hnext (by simp)]
    exact ⟨trivial, hidle (by simp), by simp⟩
  | backoff n rpc w ms hn =>
    rw [hnext (by simp)]
    exact ⟨⟨by simp [phaseOf, Overlap.Balanced], trivial⟩, hidle (by simp), by simp⟩
  | exhausted n rpc w err lookup hlookup =>
    have hinner : ∀ e ∈ [Event.rpc lookup], e.Inner := by simpa using hlookup
    rw [hnext (by simp)]
    refine ⟨balanced_inner hinner, ?_, by simp⟩
    rw [(replay_inner hinner).1]
    exact hidle (by simp)
  | retried n h => exact attempts_orderly h (hidle (by simp)) t' ho
  | moved err rpc response addr haddr h hasking =>
    obtain ⟨o', hlog, hasking', hcall⟩ := creates_callLog h hasking t' ho
    -- The address moves, and then the call starts.
    have hstart : ((v.apply (actor, .other)).apply (actor, .starts)).running.count actor = 1 := by
      simpa [Overlap.apply] using hidle (by simp)
    have horderly := callLog_orderly hlog hasking' hstart False.elim
    rw [hcall]
    refine ⟨⟨by simp [phaseOf, Overlap.Balanced], by simp [phaseOf, Overlap.Balanced], ?_⟩, ?_, ?_⟩
    · exact horderly.balanced
    · exact horderly.count
    · exact horderly.asked
  | creating k w hr hret h hrank hasking =>
    obtain ⟨o', hlog, hasking', hcall⟩ := creates_callLog h hasking t' ho
    rw [hcall]
    refine callLog_orderly hlog hasking' (by rw [hcount, hsome k rfl]; rfl) ?_
    rintro ⟨n, addr, rpc, rfl⟩
    exact hasked n addr rpc (hsome _ rfl)
  | created k w hr id id' hret inner hinner hlog h hasks =>
    have hcallLog : CallLog (.ret id : Outcome Registering Nat Error) (inner ++ [.created id']) :=
      ⟨inner, _, rfl, hinner, id', rfl⟩
    -- The call returns, and then the attempts of the send begin again.
    have hone : v.running.count actor = 1 := by rw [hcount, hsome k rfl]; rfl
    have hasking : Asking (fun k => k) (Asks (inner ++ [.created id'])) False _ (.ret id) :=
      ⟨Iff.rfl, by simp, by simp⟩
    have hfirst := callLog_orderly hcallLog hasking hone False.elim
    have hrest := attempts_orderly h hfirst.count t' ho
    rw [hlog]
    refine ⟨?_, ?_, fun n addr rpc hk' => ?_⟩ <;> rw [phases_append]
    · exact (always_append ..).mpr ⟨hfirst.balanced, hrest.balanced⟩
    · rw [replay_append]
      exact hrest.count
    · rw [replay_append]
      exact hrest.asked n addr rpc hk'

/-- A resumed send stays apart from other calls if it recreates while none is in progress, and asks
only if none has returned since its last message. -/
theorem resumes_apart {call : SendCall} {env : Env} {sc : Scope ProducerFields} {c : Client}
    {k : Sending} {w : Wake} {o : Outcome Sending Nat Error}
    (h : SendCall.Resumes call env sc c k w log o) (hv : v.running.length ≤ 1) :
    Always Overlap.apply Overlap.Apart v (phases actor log) ↔
      (Recreates k w → v.running = []) ∧
        (SendCall.AsksNext env sc k w → v.renewed actor = false) := by
  have hno : (∀ err rpc, k ≠ .lookup err rpc) → ¬ Recreates k w := by
    rintro hk ⟨err, rpc, response, addr, heq, -⟩
    exact hk err rpc heq
  have hquiet : ¬ Recreates k w → ¬ SendCall.AsksNext env sc k w →
      ((Recreates k w → v.running = []) ∧
        (SendCall.AsksNext env sc k w → v.renewed actor = false)) :=
    fun h h' => ⟨fun hx => (h hx).elim, fun hx => (h' hx).elim⟩
  cases h with
  | done | failed => exact iff_of_true trivial (hquiet (hno (by simp)) (by simp [SendCall.AsksNext]))
  | backoff n rpc w ms hn =>
    refine iff_of_true ⟨?_, trivial⟩ (hquiet (hno (by simp)) (by simp [SendCall.AsksNext]))
    exact ⟨hv, by simp [phaseOf]⟩
  | exhausted n rpc w err lookup hlookup hasks =>
    -- The lookup is no registration.
    have hinner : ∀ e ∈ [Event.rpc lookup], e.Inner := by simpa using hlookup
    refine iff_of_true ?_ (hquiet (hno (by simp)) (by simp [SendCall.AsksNext]))
    exact (apart_inner hinner hv).mpr fun h => (hasks h).elim
  | retried n h =>
    exact iff_of_true (attempts_apart h hv) (hquiet (hno (by simp)) (by simp [SendCall.AsksNext]))
  | notMoved err rpc w hw =>
    refine iff_of_true trivial (hquiet ?_ ?_)
    · rintro ⟨err', rpc', response, addr, heq, hreply, haddr⟩
      exact hw response addr hreply haddr
    · intro hasks
      unfold SendCall.AsksNext at hasks
      split at hasks
      · obtain ⟨addr, haddr, -⟩ := hasks
        exact hw _ addr rfl haddr
      · rename_i heq
        cases heq
      · exact hasks
  | moved err rpc response addr haddr h hasking =>
    rename_i creating
    obtain ⟨o', hlog⟩ := h.callLog
    -- The call starts here, so no other may be running.
    have hrec : Recreates (.lookup err rpc) (.reply (.ok (.topicLookup response))) :=
      ⟨err, rpc, response, addr, rfl, rfl, haddr⟩
    have hasks : SendCall.AsksNext env sc (.lookup err rpc) (.reply (.ok (.topicLookup response))) ↔
        Asks creating := by
      simp only [SendCall.AsksNext, haddr, Except.ok.injEq, exists_eq_left', hasking.log]
    rw [hasks, phases_cons, phases_cons, always_cons, always_cons]
    constructor
    · rintro ⟨-, hstart, hrest⟩
      have hnil : v.running = [] := by
        simpa [Overlap.apply, phaseOf] using hstart.1
      exact ⟨fun _ => hnil, (callLog_apart hlog hstart.1).mp hrest⟩
    · rintro ⟨hnil, hfresh⟩
      have hone : ((v.apply (actor, .other)).apply (actor, .starts)).running.length ≤ 1 := by
        simp [Overlap.apply, hnil hrec]
      exact ⟨⟨hv, by simp [phaseOf]⟩, ⟨hone, by simp [phaseOf]⟩, (callLog_apart hlog hone).mpr hfresh⟩
  | creating k w hr hret h hrank hasking =>
    obtain ⟨o', hlog⟩ := h.callLog
    rw [callLog_apart hlog hv, hasking.log]
    exact (and_iff_right fun h => (hno (by simp) h).elim).symm
  | created k w hr id id' hret inner hinner hlog h hasks =>
    -- The call returns: it may ask once more, and the attempts after it do not.
    have hcallLog : CallLog (.ret id : Outcome Registering Nat Error) _ :=
      ⟨inner, _, hlog, hinner, id', rfl⟩
    have hone := @callLog_length v actor _ _ _ hcallLog hv
    rw [phases_append, always_append, callLog_apart hcallLog hv, hasks,
      and_iff_left (attempts_apart h hone)]
    exact (and_iff_right fun h => (hno (by simp) h).elim).symm

end Piece

/-! ## Every step -/

/-- The calls of `create()` that are in progress are those in the journals. -/
structure InProgress (s : ProducerState) : Prop where
  sound : Sound s
  balanced : ∀ ref, Always Overlap.apply Overlap.Balanced {} (phasesOn ref s.pool.trace)
  count : ∀ ref a, (overlap ref s.pool.trace).running.count a =
    if (callOn s ref a).isSome then 1 else 0
  asked : ∀ ref a n addr call, callOn s ref a = some (.request n addr call) →
    (overlap ref s.pool.trace).asked a = true
  initial : ∀ ref k, callOn s ref (.child ref) = some k →
    (overlap ref s.pool.trace).renewed (.child ref) = false

/-- No journal has calls that were not apart. -/
def Apart (s : ProducerState) : Prop :=
  ∀ ref, Always Overlap.apply Overlap.Apart {} (phasesOn ref s.pool.trace)

theorem inProgress_init (client : Client) (config : ProducerConfig) :
    InProgress (init client config) where
  sound := sound_init client config
  balanced := by simp [init, phasesOn, entriesOf]
  count ref a := by cases a <;> simp [init, overlap, phasesOn, entriesOf, callOn, Child.call?]
  asked ref a n addr call := by cases a <;> simp [init, callOn, Child.call?]
  initial ref k := by simp [init, callOn, Child.call?]

theorem InProgress.single {s : ProducerState} (h : InProgress s) (hapart : Apart s) (ref : Nat) :
    (overlap ref s.pool.trace).Single :=
  Overlap.single_replay Overlap.single_empty (hapart ref) (h.balanced ref)

theorem InProgress.oneAtATime_iff {s : ProducerState} (h : InProgress s) :
    OneAtATime s ↔ Apart s :=
  forall_congr' fun ref => Overlap.always_alone_iff Overlap.single_empty (h.balanced ref)

theorem InProgress.running_eq_nil {s : ProducerState} (h : InProgress s) (ref : Nat) :
    (overlap ref s.pool.trace).running = [] ↔ ∀ a, callOn s ref a = none := by
  rw [List.eq_nil_iff_forall_not_mem]
  refine forall_congr' fun a => ?_
  rw [← List.count_eq_zero, h.count]
  cases callOn s ref a <;> simp

theorem overlap_append (r : Nat) (t : List Entry) (actor : Actor) (ref : Nat) (log : List Event) :
    overlap r (t ++ log.map fun e => ⟨actor, ref, e⟩) =
      if r = ref then replay Overlap.apply (overlap ref t) (phases actor log) else overlap r t :=
  replay_append_entries _ _ r t actor ref log

theorem always_append_piece (P : Overlap Actor → Actor × Phase → Prop) (t : List Entry)
    (actor : Actor) (ref : Nat) (log : List Event) :
    (∀ r, Always Overlap.apply P {} (phasesOn r (t ++ log.map fun e => ⟨actor, ref, e⟩))) ↔
      (∀ r, Always Overlap.apply P {} (phasesOn r t)) ∧
        Always Overlap.apply P (overlap ref t) (phases actor log) :=
  always_append_entries P _ _ t actor ref log

/-! ### Which task is in which call -/

theorem call?_congr {c c' : Option Child} (h : ∀ o, c' = some (.started o) ↔ c = some (.started o)) :
    Child.call? c' = Child.call? c := by
  rcases c' with _ | _ | o'
  · rcases c with _ | _ | o
    · rfl
    · rfl
    · exact absurd ((h o).mpr rfl) (by simp)
  · rcases c with _ | _ | o
    · rfl
    · rfl
    · exact absurd ((h o).mpr rfl) (by simp)
  · rw [(h o').mp rfl]

theorem callOn_child {s s' : ProducerState} {ref r : Nat}
    (h : ∀ o, s'.pool.children[r]? = some (.started o) ↔ s.pool.children[r]? = some (.started o)) :
    callOn s' ref (.child r) = callOn s ref (.child r) := by
  simp only [callOn, call?_congr h]

theorem callOn_send {s s' : ProducerState} {l : ProducerLabel} (h : Sound s)
    (hstep : step s l = some s') {i : Nat} (hi : s'.sends[i]? = s.sends[i]?) (ref : Nat) :
    callOn s' ref (.send i) = callOn s ref (.send i) := by
  simp only [callOn, hi]
  cases ht : s.sends[i]? with
  | none => rfl
  | some t =>
    simp only [Option.bind_some]
    cases hk : t.call? with
    | none => simp
    | some k =>
      obtain ⟨r, hr⟩ := h.ref t (List.mem_of_getElem? ht) _ (SendTask.call?_eq_some.mp hk)
      have hne : s.producers ≠ [] := by
        rintro hnil
        simp [hnil] at hr
      rw [step_producers h hstep hne]

theorem step_quiet {s s' : ProducerState} {l : ProducerLabel} (h : InProgress s)
    (hstep : step s l = some s') (log : List Entry) (hlog : ∀ x ∈ log, phaseOf x.event = .other)
    (htrace : s'.pool.trace = s.pool.trace ++ log)
    (hcalls : ∀ ref a, callOn s' ref a = callOn s ref a) :
    InProgress s' ∧ (Apart s' ↔ Apart s) := by
  -- The calls in progress are those from before.
  have hother : ∀ r, ∀ x ∈ phasesOn r log, x.2 = .other := by
    intro r x hx
    obtain ⟨y, hy, rfl⟩ := List.mem_map.mp hx
    exact hlog y (List.mem_of_mem_filter hy)
  have hoverlap : ∀ r, overlap r s'.pool.trace = overlap r s.pool.trace := by
    intro r
    unfold overlap
    rw [htrace, phasesOn_append, replay_append]
    refine replay_eq_self fun x hx => ?_
    obtain ⟨a, p⟩ := x
    obtain rfl : p = .other := hother r _ hx
    rfl
  refine ⟨⟨step_sound h.sound hstep, fun r => ?_, fun r a => ?_, fun r a => ?_, fun r => ?_⟩, ?_⟩
  · rw [htrace, phasesOn_append, always_append]
    refine ⟨h.balanced r, always_of_forall (fun x hx v => ?_) _⟩
    simp [Overlap.Balanced, hother r x hx]
  · rw [hoverlap, hcalls]
    exact h.count r a
  · rw [hoverlap, hcalls]
    exact h.asked r a
  · rw [hoverlap, hcalls]
    exact h.initial r
  · refine ⟨fun hapart r => ?_, fun hapart r => ?_⟩
    · have hr := hapart r
      rw [htrace, phasesOn_append, always_append] at hr
      exact hr.1
    · rw [htrace, phasesOn_append, always_append]
      refine ⟨hapart r, always_of_fixed fun x hx => ?_⟩
      obtain ⟨a, p⟩ := x
      obtain rfl : p = .other := hother r _ hx
      exact ⟨rfl, (h.single hapart r).one, by simp⟩

theorem step_piece {s s' : ProducerState} {l : ProducerLabel} (h : InProgress s)
    (hstep : step s l = some s') {actor : Actor} {ref : Nat} {log : List Event}
    (htrace : s'.pool.trace = s.pool.trace ++ log.map fun e => ⟨actor, ref, e⟩)
    (hothers : ∀ r a, ¬ (r = ref ∧ a = actor) → callOn s' r a = callOn s r a)
    (horderly : Orderly (overlap ref s.pool.trace) actor log (callOn s' ref actor))
    (hinitial : ∀ k, callOn s' ref (.child ref) = some k →
      (overlap ref s'.pool.trace).renewed (.child ref) = false) :
    InProgress s' ∧ (Apart s' ↔ Apart s ∧
      Always Overlap.apply Overlap.Apart (overlap ref s.pool.trace) (phases actor log)) := by
  refine ⟨⟨step_sound h.sound hstep, ?_, fun r a => ?_, fun r a n addr call hcall => ?_,
    fun r k hk => ?_⟩, ?_⟩
  · rw [htrace]
    exact (always_append_piece _ _ _ _ _).mpr ⟨h.balanced, horderly.balanced⟩
  · rw [htrace, overlap_append]
    by_cases hra : r = ref ∧ a = actor
    · obtain ⟨rfl, rfl⟩ := hra
      rw [if_pos rfl]
      exact horderly.count
    · rw [hothers r a hra, ← h.count]
      split
      · rename_i hr
        rw [phases_eq_map, hr]
        exact Overlap.count_replay (fun ha => hra ⟨hr, ha⟩) _
      · rfl
  · rw [htrace, overlap_append]
    by_cases hra : r = ref ∧ a = actor
    · obtain ⟨rfl, rfl⟩ := hra
      rw [if_pos rfl]
      exact horderly.asked n addr call hcall
    · rw [hothers r a hra] at hcall
      split
      · rename_i hr
        rw [phases_eq_map, Overlap.asked_replay fun ha => hra ⟨hr, ha⟩, ← hr]
        exact h.asked r a n addr call hcall
      · exact h.asked r a n addr call hcall
  · by_cases hr : r = ref
    · subst hr
      exact hinitial k hk
    · rw [hothers r _ fun hra => hr hra.1] at hk
      rw [htrace, overlap_append, if_neg hr]
      exact h.initial r k hk
  · unfold Apart
    rw [htrace, always_append_piece]

theorem callOn_send_ne {s : ProducerState} {i r ref : Nat} {t : SendTask}
    (ht : s.sends[i]? = some t) (hr : s.producers[t.partition]? = some ref) (hne : r ≠ ref) :
    callOn s r (.send i) = none := by
  simp [callOn, ht, hr, Ne.symm hne]

theorem callOn_send_self {s : ProducerState} {i ref : Nat} {t : SendTask}
    (ht : s.sends[i]? = some t) (hr : s.producers[t.partition]? = some ref) :
    callOn s ref (.send i) = t.call? := by
  simp [callOn, ht, hr]

theorem callOn_child_of_producers {s : ProducerState} (h : Sound s) {i ref : Nat}
    (hr : s.producers[i]? = some ref) : callOn s ref (.child ref) = none := by
  obtain ⟨id, hret⟩ := h.producers ref (List.mem_of_getElem? hr)
  simp [callOn, hret, Child.call?]

theorem step_child {s s' : ProducerState} {l : ProducerLabel} (h : InProgress s)
    (hstep : step s l = some s') {p : Pool ProducerFields} (hp : p.trace = s.pool.trace) {ref : Nat}
    {log : List Event} (hlog : Pool.ChildWrites p s'.pool ref log)
    (htrace : s'.pool.trace = s.pool.trace ++ log.map fun e => ⟨.child ref, ref, e⟩)
    (hchildren : ∀ (r : Nat) o, p.children[r]? = some (.started o) ↔
      s.pool.children[r]? = some (.started o))
    (hothers : ∀ r : Nat, r ≠ ref → s'.pool.children[r]? = p.children[r]?)
    (hsends : s'.sends = s.sends) : InProgress s' ∧ (Apart s' ↔ Apart s) := by
  -- The other calls are where they were.
  have hcalls : ∀ r a, ¬ (r = ref ∧ a = .child ref) → callOn s' r a = callOn s r a := by
    rintro r a hra
    cases a with
    | child r' =>
      by_cases hr' : r' = r
      · subst hr'
        have hne : r' ≠ ref := fun heq => hra ⟨heq, by rw [heq]⟩
        exact callOn_child fun o => by rw [hothers r' hne, hchildren]
      · simp [callOn, hr']
    | send i => exact callOn_send h.sound hstep (by rw [hsends]) r
    | _ => rfl
  have hpiece : Orderly (overlap ref s.pool.trace) (.child ref) log (callOn s' ref (.child ref)) ∧
      (overlap ref s.pool.trace).renewed (.child ref) = false ∧
      ((overlap ref s.pool.trace).running.length ≤ 1 →
        Always Overlap.apply Overlap.Apart (overlap ref s.pool.trace) (phases (.child ref) log)) := by
    cases hlog with
    | starts log o hfresh hcall hasking ho =>
      -- The first piece of the coroutine: nothing has been written on its endpoint.
      have hempty : overlap ref s.pool.trace = {} := by
        rw [hp, logOf_eq_map, List.map_eq_nil_iff] at hfresh
        simp [overlap, phasesOn, hfresh]
      have hcount : ((({} : Overlap Actor).apply (.child ref, .starts)).running.count (.child ref)) = 1 := by
        simp [Overlap.apply]
      have hstage : callOn s' ref (.child ref) = stage? o := by
        simp only [callOn, ho, if_pos]
        cases o <;> rfl
      have horderly := callLog_orderly hcall hasking hcount False.elim
      rw [hempty, hstage]
      refine ⟨⟨⟨by simp [phaseOf, Overlap.Balanced], horderly.balanced⟩, horderly.count,
        horderly.asked⟩, rfl, fun _ => ⟨⟨by simp [phaseOf, Overlap.apply], by simp [phaseOf]⟩, ?_⟩⟩
      exact (callLog_apart hcall (by simp [phaseOf, Overlap.apply])).mpr fun _ => rfl
    | resumes k log o hk hcall hasking ho =>
      -- The coroutine is resumed in its call, which is the first one.
      have hin : callOn s ref (.child ref) = some k := by
        simp [callOn, (hchildren ref _).mp hk, Child.call?]
      have hcount := h.count ref (.child ref)
      rw [hin] at hcount
      have hfresh := h.initial ref k hin
      have hstage : callOn s' ref (.child ref) = stage? o := by
        simp only [callOn, ho, if_pos]
        cases o <;> rfl
      rw [hstage]
      refine ⟨callLog_orderly hcall hasking hcount ?_, hfresh,
        fun hv => (callLog_apart hcall hv).mpr fun _ => hfresh⟩
      rintro ⟨n, addr, call, rfl⟩
      exact h.asked ref _ n addr call hin
  obtain ⟨horderly, hfresh, hapart⟩ := hpiece
  obtain ⟨hs', hiff⟩ := step_piece h hstep htrace hcalls horderly fun k hk => by
    rw [htrace, overlap_append, if_pos rfl, phases_eq_map]
    exact Overlap.renewed_replay_self hfresh _
  exact ⟨hs', hiff.trans (and_iff_left_of_imp fun hs => hapart (h.single hs ref).one)⟩

theorem step_task {s s' : ProducerState} {l : ProducerLabel} (h : InProgress s)
    (hstep : step s l = some s') {task ref : Nat} {log : List Event}
    (htrace : s'.pool.trace = s.pool.trace ++ log.map fun e => ⟨.send task, ref, e⟩)
    (hchildren : s'.pool.children = s.pool.children)
    (hothers : ∀ i, i ≠ task → s'.sends[i]? = s.sends[i]?) {t : SendTask}
    (ht : s'.sends[task]? = some t) (hr : s.producers[t.partition]? = some ref)
    (hbefore : ∀ t', s.sends[task]? = some t' → t'.partition = t.partition)
    (horderly : Orderly (overlap ref s.pool.trace) (.send task) log t.call?) :
    InProgress s' ∧ (Apart s' ↔ Apart s ∧
      Always Overlap.apply Overlap.Apart (overlap ref s.pool.trace) (phases (.send task) log)) := by
  have hne : s.producers ≠ [] := by
    rintro hnil
    simp [hnil] at hr
  have hproducers := step_producers h.sound hstep hne
  refine step_piece h hstep htrace (fun r a hra => ?_) ?_ fun k hk => ?_
  · cases a with
    | child r' => exact callOn_child fun o => by rw [hchildren]
    | send i =>
      by_cases hi : i = task
      · subst hi
        have hr' : r ≠ ref := fun heq => hra ⟨heq, rfl⟩
        rw [callOn_send_ne ht (by rw [hproducers, hr]) hr']
        cases hold : s.sends[i]? with
        | none => simp [callOn, hold]
        | some t' => rw [callOn_send_ne hold (by rw [hbefore t' hold, hr]) hr']
      · exact callOn_send h.sound hstep (hothers i hi) r
    | _ => rfl
  · rw [callOn_send_self ht (by rw [hproducers, hr])]
    exact horderly
  · have hnone := callOn_child_of_producers (s := s') (step_sound h.sound hstep)
      (by rw [hproducers, hr])
    rw [hnone] at hk
    cases hk

theorem recreatesFree_of_registers {s : ProducerState} {l : ProducerLabel} (hl : Registers l) :
    RecreatesFree s l := by
  cases l <;> trivial

theorem step_inProgress {s s' : ProducerState} {l : ProducerLabel} (h : InProgress s)
    (hstep : step s l = some s') :
    InProgress s' ∧ (Apart s' ↔ Apart s ∧ RecreatesFree s l) := by
  cases step_writes h.sound hstep with
  | silent l hl htrace hsends hchildren =>
    obtain ⟨hs', hiff⟩ := step_quiet h hstep [] (by simp) (by simpa using htrace)
      fun ref a => by
        cases a with
        | child r => exact callOn_child (hchildren r)
        | send i => exact callOn_send h.sound hstep (by rw [hsends]) ref
        | _ => rfl
    exact ⟨hs', hiff.trans (and_iff_left (recreatesFree_of_registers hl)).symm⟩
  | child l hl p hp ref log hlog htrace hchildren hothers hsends =>
    obtain ⟨hs', hiff⟩ := step_child h hstep hp hlog htrace hchildren hothers hsends
    exact ⟨hs', hiff.trans (and_iff_left (recreatesFree_of_registers hl)).symm⟩
  | outOfRange data attributes routingKey env hr htrace hchildren t hsends err ht =>
    obtain ⟨hs', hiff⟩ := step_quiet h hstep [] (by simp) (by simpa using htrace)
      fun ref a => by
        cases a with
        | child r => exact callOn_child fun o => by rw [hchildren]
        | send i =>
          -- The new send has ended, so it is in no call.
          rcases Nat.lt_trichotomy i s.sends.length with hi | rfl | hi
          · exact callOn_send h.sound hstep (by rw [hsends, List.getElem?_append_left hi]) ref
          · simp [callOn, hsends, SendTask.call?, ht]
          · exact callOn_send h.sound hstep (by
              rw [hsends, List.getElem?_eq_none (by simp; omega), List.getElem?_eq_none hi.le]) ref
        | _ => rfl
    exact ⟨hs', hiff.trans (and_iff_left trivial).symm⟩
  | attempt data attributes routingKey env ref hr sc hsc log t ht hatt htrace hchildren hsends =>
    -- The new send has written nothing before.
    have hcount : (overlap ref s.pool.trace).running.count (.send s.sends.length) = 0 := by
      rw [h.count]
      simp [callOn]
    obtain ⟨hs', hiff⟩ := step_task h hstep htrace hchildren
      (fun i hi => by
        rcases Nat.lt_or_gt_of_ne hi with hlt | hgt
        · rw [hsends, List.getElem?_append_left hlt]
        · rw [hsends, List.getElem?_eq_none (by simp; omega), List.getElem?_eq_none hgt.le])
      (t := t) (by simp [hsends]) (by rw [ht, hr]) (by simp) (attempts_orderly hatt hcount t rfl)
    refine ⟨hs', hiff.trans (and_congr_right fun hs => ?_)⟩
    exact iff_of_true (attempts_apart hatt (h.single hs ref).one) trivial
  | sending task w env t ht ref hr sc hsc k hk c log o hres htrace hchildren hsends =>
    have hcall := callOn_send_self ht hr
    have hlt := (List.getElem?_eq_some_iff.mp ht).1
    obtain ⟨hs', hiff⟩ := step_task h hstep htrace hchildren
      (fun i hi => by rw [hsends, List.getElem?_set_ne (Ne.symm hi)]) (t := { t with status := o })
      (by rw [hsends, List.getElem?_set_self hlt]) hr (fun t' ht' => by rw [ht] at ht'; cases ht'; rfl)
      (resumes_orderly hres hk (hcall ▸ h.count ref (.send task))
        fun n addr rpc hk' => h.asked ref _ n addr rpc (hcall.trans hk'))
    refine ⟨hs', hiff.trans (and_congr_right fun hs => ?_)⟩
    rw [resumes_apart hres (h.single hs ref).one, h.running_eq_nil]
    exact (forall_resumed (P := fun _ ref sc k => (Recreates k w → ∀ a, callOn s ref a = none) ∧
      (SendCall.AsksNext env sc k w → (overlap ref s.pool.trace).renewed (.send task) = false))
      ht hr hsc hk).symm
  | health task w env l hl stopEvent position log stop hchecks htrace hchildren hsends =>
    have hlog : ∀ x ∈ log.map (fun e => (⟨.health task, l.owner, e⟩ : Entry)),
        phaseOf x.event = .other := by
      intro x hx
      obtain ⟨e, he, rfl⟩ := List.mem_map.mp hx
      exact hchecks.phaseOf e he
    obtain ⟨hs', hiff⟩ := step_quiet h hstep _ hlog htrace fun ref a => by
      cases a with
      | child r => exact callOn_child fun o => by rw [hchildren]
      | send i => exact callOn_send h.sound hstep (by rw [hsends]) ref
      | _ => rfl
    exact ⟨hs', hiff.trans (and_iff_left trivial).symm⟩
  | close log hlog htrace hchildren hsends =>
    have hother : ∀ x ∈ log, phaseOf x.event = .other := fun x hx => by rw [(hlog x hx).1]; rfl
    obtain ⟨hs', hiff⟩ := step_quiet h hstep _ hother htrace fun ref a => by
      cases a with
      | child r => exact callOn_child fun o => by rw [hchildren]
      | send i => exact callOn_send h.sound hstep (by rw [hsends]) ref
      | _ => rfl
    exact ⟨hs', hiff.trans (and_iff_left trivial).symm⟩

/-- Recreations of an endpoint are one at a time exactly if each of them starts while no other is
in progress and none has returned since the last message of its send. -/
theorem recreations_one_at_a_time_iff {client : Client} {config : ProducerConfig}
    {ls : List ProducerLabel} {s : ProducerState} (h : exec step (init client config) ls = some s) :
    OneAtATime s ↔ Steps step RecreatesFree (init client config) ls := by
  have hinit := inProgress_init client config
  have hs : InProgress s :=
    exec_invariant (fun _ _ _ hs hstep => (step_inProgress hs hstep).1) hinit h
  have hrun := exec_iff_steps (fun _ _ _ hs hstep => step_inProgress hs hstep) hinit h
  have hnone : Apart (init client config) := fun ref => by simp [init, phasesOn, entriesOf]
  rw [hs.oneAtATime_iff, hrun, and_iff_right hnone]

/-- Two sends exhaust their retries, and both look the broker up. The first recreates the producer
before the second learns the address. -/
def bothRecreate : List ProducerLabel :=
  [.create {}, .child 0 (.answer (.address "a")) {}, .child 0 (.answer (.registered 1)) {},
    .send [1] none none {}, .send [2] none none {},
    .sending 0 (.fail .unavailable) {}, .sending 1 (.fail .unavailable) {},
    .sending 0 .timer {}, .sending 1 .timer {},
    .sending 0 (.fail .unavailable) {}, .sending 1 (.fail .unavailable) {},
    .sending 0 (.answer (.address "a")) {}, .sending 0 (.answer (.address "a")) {},
    .sending 0 (.answer (.registered 2)) {},
    .sending 1 (.answer (.address "a")) {}, .sending 1 (.answer (.address "a")) {},
    .sending 1 (.fail .alreadyExists) {}]

/-- The second send asks for the name that the first one has just registered, and raises. -/
theorem second_recreation_refused :
    ∃ s, exec step (init (.init "a" {}) (.oneRetry none)) bothRecreate = some s ∧
      ¬ OneAtATime s ∧
      s.sends[1]?.map SendTask.status = some (.raise (.unrecoverable "producer already exists: ")) :=
  ⟨_, rfl, fun h => absurd (h 0) (by decide), rfl⟩

theorem second_recreation_not_free :
    ∃ s, exec step (init (.init "a" {}) (.oneRetry none)) bothRecreate = some s ∧
      (OneAtATime s ↔ Steps step RecreatesFree (init (.init "a" {}) (.oneRetry none)) bothRecreate) := by
  obtain ⟨s, hs⟩ := Option.isSome_iff_exists.mp
    (by rfl : (exec step (init (.init "a" {}) (.oneRetry none)) bothRecreate).isSome)
  exact ⟨s, hs, recreations_one_at_a_time_iff hs⟩

end Producer

end Danube
