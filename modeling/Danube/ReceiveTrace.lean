import Danube.ConsumerTasks

/-! # What the pieces of a receive loop write -/

namespace Danube

open Async

/-- What the loop does with the messages and the end of a stream. -/
def Event.ofStream : Event → Bool
  | .took _ | .put _ | .streamFailed _ | .streamEnded => true
  | _ => false

/-- The RPC that opens a stream. -/
def Event.opens : Event → Bool
  | .rpc call =>
    match call.request with
    | .receiveMessages .. => true
    | _ => false
  | _ => false

theorem Event.Inner.ofStream {e : Event} (h : e.Inner) : e.ofStream = false := by
  cases e <;> first | rfl | exact h.elim

/-- The events have nothing to do with a stream. -/
def OffStream (log : List Event) : Prop := ∀ e ∈ log, e.ofStream = false

theorem OffStream.append {a b : List Event} (ha : OffStream a) (hb : OffStream b) :
    OffStream (a ++ b) := by
  intro e he
  rcases List.mem_append.mp he with he | he
  · exact ha e he
  · exact hb e he

theorem CallLog.offStream {α : Type} {o : Outcome Registering α Error} {log : List Event}
    (h : CallLog o log) : OffStream log := by
  intro e he
  rcases h.mem he with hinner | ⟨-, id, -, rfl⟩ | ⟨err, rfl⟩
  · exact hinner.ofStream
  · rfl
  · rfl

namespace Receive

variable {env : Env} {a : LoopArgs}

/-- A piece that touches no message. -/
structure Aside (r : Piece ConsumerFields Receiving Unit) : Prop where
  log : OffStream r.log
  next : ∀ call m, r.next ≠ .await (.putting call m)

theorem Aside.after {r : Piece ConsumerFields Receiving Unit} (h : Aside r) {log : List Event}
    (hlog : OffStream log) : Aside (r.after log) where
  log := hlog.append h.log
  next := h.next

theorem done_aside (s : Scope ConsumerFields) : Aside (done s) where
  log := by simp [done, OffStream]
  next := by simp [done]

theorem resubscribe_aside (env : Env) (s : Scope ConsumerFields) :
    ∃ r, resubscribe env s = r.after [.resubscribing] ∧ Aside r := by
  obtain ⟨r, hr, hshaped⟩ := Endpoint.create_shaped (α := Empty) consumerRole env s
  have hcall : CallLog r.next r.log := hshaped.log
  have hlog : OffStream (r.after [.creating]).log :=
    OffStream.append (by simp [OffStream, Event.ofStream]) hcall.offStream
  refine ⟨_, rfl, ?_⟩
  unfold TopicConsumer.subscribe
  rw [hr]
  unfold Ran.andThen
  split
  · exact ⟨hlog, by simp⟩
  · rename_i x _
    exact x.elim
  · exact (done_aside _).after hlog

theorem turn_aside (env : Env) (a : LoopArgs) (n : Nat) (s : Scope ConsumerFields) :
    Aside (turn env a n s) := by
  have hresubscribe : ∀ s', Aside (resubscribe env s') := by
    intro s'
    obtain ⟨r, hr, haside⟩ := resubscribe_aside env s'
    rw [hr]
    exact haside.after (by simp [OffStream, Event.ofStream])
  unfold turn
  split
  · exact done_aside s
  · split
    · exact ⟨by simp [OffStream, Event.ofStream], by simp⟩
    · exact hresubscribe _
    · split
      · split
        · exact hresubscribe _
        · exact ⟨by simp [OffStream, Event.ofStream], by simp⟩
      · exact done_aside _

theorem resubscribed_aside {s : Scope ConsumerFields} {k : TopicConsumer.Subscribing} {w : Wake}
    {r : Piece ConsumerFields TopicConsumer.Subscribing Nat} (hstub : s.self.stub ≠ none)
    (h : TopicConsumer.subscribeResume env s k w = some r) : Aside (resubscribed env a r) := by
  have hcall : CallLog r.next r.log :=
    (Endpoint.resume_shaped consumerRole env (fun _ => hstub) h).log
  unfold resubscribed Ran.andThen
  split
  · exact ⟨hcall.offStream, by simp⟩
  · exact (turn_aside env a 0 _).after hcall.offStream
  · exact (done_aside _).after hcall.offStream

theorem streamOver_aside (env : Env) (a : LoopArgs) (s : Scope ConsumerFields) :
    Aside (streamOver env a s) := by
  unfold streamOver
  split
  · exact done_aside s
  · split
    · obtain ⟨r, hr, haside⟩ := resubscribe_aside env (clearStop s)
      have hresubscribe : Aside (resubscribe env (clearStop s)) :=
        hr ▸ haside.after (by simp [OffStream, Event.ofStream])
      exact hresubscribe.after (by simp [OffStream, Event.ofStream])
    · exact turn_aside env a 0 s

end Receive

/-- What a piece of a receive loop is, by what woke the loop. -/
inductive Woken (env : Env) (a : LoopArgs) (s : Scope ConsumerFields) :
    ReceiveStatus → Wake → Piece ConsumerFields Receiving Unit → Prop
  | took (call : Call) (m : StreamMessage) :
    Woken env a s (.started (.await (.reading call))) (.reply (.ok (.stream m)))
      ((Receive.taken env a call m s).after [.took m])
  | ended (call : Call) :
    Woken env a s (.started (.await (.reading call))) (.reply (.ok .streamEnd))
      ((Receive.streamOver env a s).after [.streamEnded])
  | failed (call : Call) (err : RpcError) :
    Woken env a s (.started (.await (.reading call))) (.reply (.error err))
      ((Receive.streamOver env a s).after [.streamFailed err])
  | room (call : Call) (m : StreamMessage) :
    Woken env a s (.started (.await (.putting call m))) .room
      ⟨s, [.put m], .await (.reading call)⟩
  | aside (status : ReceiveStatus) (w : Wake) (r : Piece ConsumerFields Receiving Unit)
    (hreading : ∀ call, status ≠ .started (.await (.reading call)))
    (hputting : ∀ call m, status ≠ .started (.await (.putting call m))) (hr : Receive.Aside r) :
    Woken env a s status w r

theorem Consumer.receivePiece_woken {env : Env} {a : LoopArgs} {s : Scope ConsumerFields}
    {status : ReceiveStatus} {w : Wake} {r : Piece ConsumerFields Receiving Unit}
    (hstub : s.self.stub ≠ none) (h : receivePiece env a s status w = some r) :
    Woken env a s status w r := by
  rcases receivePiece_cases env h with ⟨rfl, -, rfl⟩ | ⟨k, rfl, hresume⟩
  · exact .aside _ _ _ (by simp) (by simp) (Receive.turn_aside env a 0 s)
  cases Receive.resumption hresume with
  | took call m => exact .took call m
  | ended call => exact .ended call
  | failed call err => exact .failed call err
  | room call m => exact .room call m
  | slept n => exact .aside _ _ _ (by simp) (by simp) (Receive.turn_aside env a n s)
  | subscribing k w r' hr' =>
    exact .aside _ _ _ (by simp) (by simp) (Receive.resubscribed_aside hstub hr')

namespace Consumer

theorem Sound.stub {s : ConsumerState} (h : Sound s) {i : Nat} {t : ReceiveTask}
    (ht : s.tasks[i]? = some t) {sc : Scope ConsumerFields} (hsc : s.pool.scope t.ref = some sc) :
    sc.self.stub ≠ none := by
  obtain ⟨id, hid⟩ := h.tasks t (List.mem_of_getElem? ht)
  exact (h.pool.ready t.ref _ sc.self hid (Pool.scope_eq_some.mp hsc).1).stubRet id rfl

theorem step_journals {s s' : ConsumerState} {l : ConsumerLabel} (hstep : step s l = some s') :
    ((∀ i w env, l ≠ .receiving i w env) ∧
      ∀ i, journalOf (.receive i) s'.pool.trace = journalOf (.receive i) s.pool.trace) ∨
    ∃ i w env t sc queue ran, l = .receiving i w env ∧ s.tasks[i]? = some t ∧
      s.pool.scope t.ref = some sc ∧ receivePiece env (loopArgs s queue) sc t.status w = some ran ∧
      journalOf (.receive i) s'.pool.trace = journalOf (.receive i) s.pool.trace ++ ran.log ∧
      ∀ j, j ≠ i →
        journalOf (.receive j) s'.pool.trace = journalOf (.receive j) s.pool.trace := by
  by_cases hpiece : ∃ i w env, l = .receiving i w env
  · obtain ⟨i, w, env, rfl⟩ := hpiece
    right
    cases step_receives hstep i with
    | idle l hl => exact (hl w env rfl).elim
    | piece w env t ht sc hsc queue ran hran htask hlog =>
      refine ⟨i, w, env, t, sc, queue, ran, rfl, ht, hsc, hran, hlog, fun j hj => ?_⟩
      cases step_receives hstep j with
      | idle l hl htask hlog => exact hlog
      | piece => exact (hj rfl).elim
  · left
    refine ⟨fun i w env hl => hpiece ⟨i, w, env, hl⟩, fun i => ?_⟩
    cases step_receives hstep i with
    | idle l hl htask hlog => exact hlog
    | piece w env => exact (hpiece ⟨i, w, env, rfl⟩).elim
    | close htask hlog => exact hlog

theorem step_fixed {s s' : ConsumerState} {l : ConsumerLabel} (hstep : step s l = some s') :
    s'.config = s.config ∧ (l ≠ .close → s'.shutdown = s.shutdown) := by
  cases l with
  | subscribe env =>
    obtain ⟨-, -, c, x, -, -, rfl⟩ := subscribe_eq_some hstep
    exact ⟨rfl, fun _ => rfl⟩
  | partitions w =>
    rcases partitions_eq_some hstep with ⟨⟨names, rfl⟩, -⟩ | ⟨rfl, -⟩ <;> exact ⟨rfl, fun _ => rfl⟩
  | child ref w env =>
    obtain ⟨p, -, rfl⟩ := Option.map_eq_some_iff.mp hstep
    obtain ⟨c, heq, -⟩ := settle_eq { s with pool := p } ref
    rw [heq]
    exact ⟨rfl, fun _ => rfl⟩
  | gathered =>
    obtain ⟨names, g, -, rfl | ⟨-, rfl⟩⟩ := gathered_eq_some hstep <;> exact ⟨rfl, fun _ => rfl⟩
  | receive =>
    cases hstep
    exact ⟨rfl, fun _ => rfl⟩
  | receiving task w env =>
    obtain ⟨t, sc, queue, ran, -, -, -, -, rfl⟩ := receiving_eq_some.mp hstep
    exact ⟨rfl, fun _ => rfl⟩
  | get queue =>
    obtain ⟨queues, rfl⟩ := get_eq_some hstep
    exact ⟨rfl, fun _ => rfl⟩
  | ack | nack =>
    obtain ⟨acks, rfl | ⟨ref, sc, call, -, -, -, rfl⟩⟩ := onConsumer_eq_some hstep <;>
      exact ⟨rfl, fun _ => rfl⟩
  | acked call w =>
    obtain ⟨acks, rfl⟩ := acked_eq_some hstep
    exact ⟨rfl, fun _ => rfl⟩
  | health task w env =>
    obtain ⟨p, -, rfl⟩ := Option.map_eq_some_iff.mp hstep
    exact ⟨rfl, fun _ => rfl⟩
  | close =>
    cases hstep
    exact ⟨rfl, fun h => (h rfl).elim⟩

theorem step_config {s s' : ConsumerState} {l : ConsumerLabel} (hstep : step s l = some s') :
    s'.config = s.config := (step_fixed hstep).1

theorem step_shutdown {s s' : ConsumerState} {l : ConsumerLabel} (hl : l ≠ .close)
    (hstep : step s l = some s') : s'.shutdown = s.shutdown := (step_fixed hstep).2 hl

end Consumer

end Danube
