import Danube.ReceiveTrace

/-!
# Messages that a receive loop drops

The loop takes a message from its stream before it looks at the stop event.
-/

namespace Danube

open Async

/-- The loop takes a message, subscribes again or opens a stream. -/
def Event.goesOn : Event → Bool
  | .took _ | .resubscribing => true
  | e => e.opens

namespace Hand

/-- The message that the loop took last, until it puts it on the queue. A new subscription leaves it
behind. -/
def apply (v : Option StreamMessage) : Event → Option StreamMessage
  | .took m => some m
  | .put m => if v = some m then none else v
  | .resubscribing => none
  | _ => v

/-- The loop goes on with no message in hand. -/
def Free (v : Option StreamMessage) (e : Event) : Prop := e.goesOn = true → v = none

instance (v : Option StreamMessage) (e : Event) : Decidable (Free v e) :=
  inferInstanceAs (Decidable (_ → _))

theorem free_none (e : Event) : Free none e := fun _ => rfl

theorem offStream {log : List Event} (h : OffStream log) :
    replay apply none log = none ∧ Always apply Free none log := by
  have hfixed : ∀ e ∈ log, apply none e = none := by
    intro e he
    have := h e he
    cases e <;> simp_all [apply, Event.ofStream]
  exact ⟨replay_eq_self hfixed, always_of_fixed fun e he => ⟨hfixed e he, free_none e⟩⟩

end Hand

/-- The message that a loop waits to put on the queue. -/
def ReceiveStatus.hand : ReceiveStatus → Option StreamMessage
  | .started (.await (.putting _ m)) => some m
  | _ => none

theorem ReceiveStatus.hand_eq_none {status : ReceiveStatus}
    (h : ∀ call m, status ≠ .started (.await (.putting call m))) : status.hand = none := by
  unfold hand
  split
  · exact (h _ _ rfl).elim
  · rfl

namespace Receive

variable {env : Env} {a : LoopArgs} {s : Scope ConsumerFields}

theorem Aside.hand {r : Piece ConsumerFields Receiving Unit} (h : Aside r) :
    (ReceiveStatus.started r.next).hand = none := by
  unfold ReceiveStatus.hand
  split
  · rename_i call m heq
    rw [ReceiveStatus.started.injEq] at heq
    exact (h.next call m heq).elim
  · rfl

theorem taken_free (hshutdown : a.shutdown = false) (call : Call) (m : StreamMessage) :
    Always Hand.apply Hand.Free none ((taken env a call m s).after [.took m]).log ↔
      s.self.stopEvent = false := by
  simp only [Ran.after_log, List.singleton_append, always_cons]
  rw [and_iff_right (Hand.free_none _)]
  unfold taken
  rw [hshutdown]
  cases hstop : s.self.stopEvent with
  | true =>
    refine iff_of_false ?_ (by simp)
    obtain ⟨r, hr, -⟩ := resubscribe_aside env (clearStop s)
    simp only [Bool.false_eq_true, if_false, if_true]
    unfold streamOver
    simp only [hshutdown, hstop, Bool.false_eq_true, if_false, if_true]
    rw [hr]
    simp [Hand.apply, Hand.Free, Event.goesOn]
  | false =>
    refine iff_of_true ?_ rfl
    simp only [Bool.false_eq_true, if_false]
    split <;> simp [Hand.Free, Event.goesOn, Event.opens]

theorem taken_hand (hshutdown : a.shutdown = false) (call : Call) (m : StreamMessage) :
    replay Hand.apply none ((taken env a call m s).after [.took m]).log =
      (ReceiveStatus.started (taken env a call m s).next).hand := by
  simp only [Ran.after_log, List.singleton_append, replay_cons]
  unfold taken
  rw [hshutdown]
  simp only [Bool.false_eq_true, if_false]
  split
  · rename_i hstop
    obtain ⟨r, hr, haside⟩ := resubscribe_aside env (clearStop s)
    unfold streamOver
    simp only [hshutdown, hstop, Bool.false_eq_true, if_false, if_true]
    rw [hr, Ran.after_next, Ran.after_next, haside.hand]
    exact (Hand.offStream haside.log).1
  · split
    · rfl
    · simp [Hand.apply, ReceiveStatus.hand]

end Receive

namespace Consumer

/-- No message that a receive loop took is lost. -/
def NothingLost (s : ConsumerState) : Prop :=
  ∀ i, Always Hand.apply Hand.Free none (journalOf (.receive i) s.pool.trace)

/-- No message arrives on a stream whose consumer has its stop event set. -/
def TakesOpen (s : ConsumerState) : ConsumerLabel → Prop
  | .receiving task w _ => ∀ t e call m, s.tasks[task]? = some t →
    s.pool.endpoints[t.ref]? = some e → t.status = .started (.await (.reading call)) →
    w = .reply (.ok (.stream m)) → e.stopEvent = false
  | _ => True

/-- What a loop has in hand, it waits to put. -/
structure InHand (s : ConsumerState) : Prop where
  sound : Sound s
  shutdown : s.shutdown = false
  started : ∀ i t, s.tasks[i]? = some t →
    replay Hand.apply none (journalOf (.receive i) s.pool.trace) = t.status.hand
  absent : ∀ i, s.tasks[i]? = none →
    replay Hand.apply none (journalOf (.receive i) s.pool.trace) = none

theorem woken_hand {env : Env} {a : LoopArgs} {sc : Scope ConsumerFields} {status : ReceiveStatus}
    {w : Wake} {r : Piece ConsumerFields Receiving Unit} (h : Woken env a sc status w r)
    (hshutdown : a.shutdown = false) :
    replay Hand.apply status.hand r.log = (ReceiveStatus.started r.next).hand := by
  cases h with
  | took call m => exact Receive.taken_hand hshutdown call m
  | ended call =>
    have haside := Receive.streamOver_aside env a sc
    rw [Ran.after_next, haside.hand]
    exact (Hand.offStream haside.log).1
  | failed call err =>
    have haside := Receive.streamOver_aside env a sc
    rw [Ran.after_next, haside.hand]
    exact (Hand.offStream haside.log).1
  | room call m => simp [ReceiveStatus.hand, Hand.apply]
  | aside status w r hreading hputting hr =>
    have hnone := ReceiveStatus.hand_eq_none hputting
    rw [hnone, hr.hand]
    exact (Hand.offStream hr.log).1

theorem woken_free {env : Env} {a : LoopArgs} {sc : Scope ConsumerFields} {status : ReceiveStatus}
    {w : Wake} {r : Piece ConsumerFields Receiving Unit} (h : Woken env a sc status w r)
    (hshutdown : a.shutdown = false) :
    Always Hand.apply Hand.Free status.hand r.log ↔
      ∀ call m, status = .started (.await (.reading call)) → w = .reply (.ok (.stream m)) →
        sc.self.stopEvent = false := by
  cases h with
  | took call m =>
    rw [show (ReceiveStatus.started (.await (.reading call))).hand = none from rfl,
      Receive.taken_free hshutdown call m]
    exact ⟨fun h _ _ _ _ => h, fun h => h call m rfl rfl⟩
  | ended call =>
    refine iff_of_true ?_ (by simp)
    exact ⟨Hand.free_none _, (Hand.offStream (Receive.streamOver_aside env a sc).log).2⟩
  | failed call err =>
    refine iff_of_true ?_ (by simp)
    exact ⟨Hand.free_none _, (Hand.offStream (Receive.streamOver_aside env a sc).log).2⟩
  | room call m => exact iff_of_true ⟨by simp [Hand.Free, Event.goesOn, Event.opens], trivial⟩ (by simp)
  | aside status w r hreading hputting hr =>
    have hnone := ReceiveStatus.hand_eq_none hputting
    rw [hnone]
    exact iff_of_true (Hand.offStream hr.log).2 fun call _ h => (hreading call h).elim

theorem step_inHand {s s' : ConsumerState} {l : ConsumerLabel} (h : InHand s) (hl : l ≠ .close)
    (hstep : step s l = some s') : InHand s' where
  sound := step_sound h.sound hstep
  shutdown := (step_shutdown hl hstep).trans h.shutdown
  started i t' ht' := by
    cases step_receives hstep i with
    | idle l hl' htask hlog =>
      rw [hlog]
      rcases htask with heq | ⟨hnone, t, ht, hnew⟩
      · exact h.started i t' (heq ▸ ht')
      · rw [ht, Option.some.injEq] at ht'
        subst ht'
        rw [h.absent i hnone, hnew]
        rfl
    | piece w env t ht sc hsc queue ran hran htask hlog =>
      rw [htask, Option.some.injEq] at ht'
      subst ht'
      rw [hlog, replay_append, h.started i t ht]
      exact woken_hand (receivePiece_woken (h.sound.stub ht hsc) hran) h.shutdown
    | close htask hlog => exact (hl rfl).elim
  absent i hi := by
    cases step_receives hstep i with
    | idle l hl' htask hlog =>
      rw [hlog]
      rcases htask with heq | ⟨hnone, -⟩
      · exact h.absent i (heq ▸ hi)
      · exact h.absent i hnone
    | piece w env t ht sc hsc queue ran hran htask hlog =>
      rw [htask] at hi
      cases hi
    | close htask hlog => exact (hl rfl).elim

theorem step_nothingLost {s s' : ConsumerState} {l : ConsumerLabel} (h : InHand s)
    (hstep : step s l = some s') : NothingLost s' ↔ NothingLost s ∧ TakesOpen s l := by
  unfold NothingLost
  rcases step_journals hstep with
    ⟨hl, hsame⟩ | ⟨i, w, env, t, sc, queue, ran, rfl, ht, hsc, hran, hlog, hothers⟩
  · have hopen : TakesOpen s l := by
      cases l with
      | receiving i w env => exact (hl i w env rfl).elim
      | _ => trivial
    simp only [hsame, hopen, and_true]
  · have hself := (Pool.scope_eq_some.mp hsc).1
    rw [forall_always_append hlog hothers, h.started i t ht,
      woken_free (receivePiece_woken (h.sound.stub ht hsc) hran) h.shutdown]
    refine and_congr_right fun _ => ⟨?_, ?_⟩
    · intro hopen t' e call m ht' he hstatus hw
      obtain rfl : t = t' := Option.some.inj (ht.symm.trans ht')
      obtain rfl : sc.self = e := Option.some.inj (hself.symm.trans he)
      exact hopen call m hstatus hw
    · intro hopen call m hstatus hw
      exact hopen t sc.self call m ht hself hstatus hw

theorem inHand_init (client : Client) (config : ConsumerConfig) : InHand (init client config) where
  sound := sound_init client config
  shutdown := rfl
  started := by simp [init]
  absent i _ := rfl

/-- As long as the consumer is not closed, it loses exactly the messages that arrive on a stream while
the stop event is set. -/
theorem nothing_lost_iff {client : Client} {config : ConsumerConfig} {ls : List ConsumerLabel}
    {s : ConsumerState} (hclose : ∀ l ∈ ls, l ≠ .close)
    (h : exec step (init client config) ls = some s) :
    NothingLost s ↔ Steps step TakesOpen (init client config) ls := by
  have hrun := exec_iff_steps_of (Q := NothingLost) (C := TakesOpen)
    (fun s l s' hs hl hstep => ⟨step_inHand hs hl hstep, step_nothingLost hs hstep⟩)
    (inHand_init client config) hclose h
  have hinit : NothingLost (init client config) := fun i => trivial
  rw [hrun, and_iff_right hinit]

/-- A message of the topic. -/
def message : StreamMessage where
  requestId := 1
  msgId := ⟨1, "t", "a", 0⟩
  payload := [1]
  publishTime := 0
  producerName := "p"
  subscriptionName := "s"
  attributes := []

/-- The broker answers CLOSE, and then a message arrives. -/
def messageAfterClose : List ConsumerLabel :=
  [.subscribe {}, .partitions (.answer (.topicPartitions ["t"])), .child 0 .start {},
    .child 0 (.answer (.address "a")) {}, .child 0 (.answer (.registered 1)) {}, .gathered,
    .receive, .receiving 0 .start {}, .health 0 .start {}, .health 0 (.answer (.health .close)) {},
    .receiving 0 (.answer (.stream message)) {}]

/-- The loop drops the message and subscribes again. -/
theorem message_after_close_lost :
    ∃ s, exec step (init (.init "a" {}) .oneRetry) messageAfterClose = some s ∧ ¬ NothingLost s :=
  ⟨_, rfl, fun h => absurd (h 0) (by decide)⟩

theorem message_after_close_not_open :
    ∃ s, exec step (init (.init "a" {}) .oneRetry) messageAfterClose = some s ∧
      (NothingLost s ↔ Steps step TakesOpen (init (.init "a" {}) .oneRetry) messageAfterClose) := by
  obtain ⟨s, hs⟩ := Option.isSome_iff_exists.mp
    (by rfl : (exec step (init (.init "a" {}) .oneRetry) messageAfterClose).isSome)
  exact ⟨s, hs, nothing_lost_iff (by simp [messageAfterClose]) hs⟩

end Consumer

end Danube
