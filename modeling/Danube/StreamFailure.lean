import Danube.ReceiveTrace

/-!
# Streams that fail

`receive()` does not raise for a stream that the broker refuses: the error comes when the stream is
read, where the loop only logs it.
-/

namespace Danube

open Async

/-- What is known of the streams of a receive loop: the consumer id of the last one and whether it
yielded a message, whether one failed since the last sleep or `subscribe()`, how many in a row failed
with a retryable code, and the consumer ids of those that failed with another one. -/
structure Streams where
  opened : Nat := 0
  yielded : Bool := false
  failed : Bool := false
  failures : Nat := 0
  refused : List Nat := []
  deriving DecidableEq, Repr

/-- The consumer id that a stream is opened with. -/
def Event.openedId? : Event → Option Nat
  | .rpc call =>
    match call.request with
    | .receiveMessages _ id => some id
    | _ => none
  | _ => none

namespace Streams

/-- The stream failed. One that had yielded a message starts a new row of failures. -/
def fail (v : Streams) (err : RpcError) : Streams :=
  if RetryManager.isRetryable (.rpc err) then
    { v with failed := true, failures := if v.yielded then 0 else v.failures + 1 }
  else { v with failed := true, failures := 0, refused := v.opened :: v.refused }

def apply (v : Streams) (e : Event) : Streams :=
  match e.openedId? with
  | some id => { v with opened := id, yielded := false }
  | none =>
    match e with
    | .took _ => { v with yielded := true }
    | .streamFailed err => v.fail err
    | .streamEnded => { v with failures := 0 }
    | .backoff _ => { v with failed := false }
    | .created _ => { v with failed := false, failures := 0 }
    | _ => v

/-- A stream is opened as the retry policy says. -/
def Obeys (maxRetries : Nat) (v : Streams) (e : Event) : Prop :=
  ∀ id ∈ e.openedId?, v.failed = false ∧ v.failures ≤ maxRetries ∧ id ∉ v.refused

instance (maxRetries : Nat) (v : Streams) (e : Event) : Decidable (v.Obeys maxRetries e) :=
  decidable_of_iff (∀ id ∈ e.openedId?.toList,
    v.failed = false ∧ v.failures ≤ maxRetries ∧ id ∉ v.refused) (by simp [Obeys])

/-- No stream has failed. -/
structure Fine (v : Streams) : Prop where
  failed : v.failed = false
  failures : v.failures = 0
  refused : v.refused = []

theorem Fine.obeys {v : Streams} (h : v.Fine) (maxRetries : Nat) (e : Event) :
    v.Obeys maxRetries e := by
  intro id _
  simp [h.failed, h.failures, h.refused]

theorem Fine.apply {v : Streams} (h : v.Fine) {e : Event} (he : ∀ err, e ≠ .streamFailed err) :
    (v.apply e).Fine := by
  unfold Streams.apply
  split
  · exact ⟨h.failed, h.failures, h.refused⟩
  · split
    · exact ⟨h.failed, h.failures, h.refused⟩
    · exact (he _ rfl).elim
    · exact ⟨h.failed, rfl, h.refused⟩
    · exact ⟨rfl, h.failures, h.refused⟩
    · exact ⟨rfl, rfl, h.refused⟩
    · exact h

theorem Fine.log {v : Streams} (h : v.Fine) {log : List Event}
    (hlog : ∀ e ∈ log, ∀ err, e ≠ .streamFailed err) (maxRetries : Nat) :
    (replay Streams.apply v log).Fine ∧ Always Streams.apply (Obeys maxRetries) v log := by
  induction log generalizing v with
  | nil => exact ⟨h, trivial⟩
  | cons e es ih =>
    obtain ⟨hfine, hall⟩ := ih (h.apply (hlog e (by simp))) fun x hx =>
      hlog x (List.mem_cons_of_mem _ hx)
    exact ⟨hfine, h.obeys maxRetries e, hall⟩

theorem fail_failed (v : Streams) (err : RpcError) : (v.fail err).failed = true := by
  unfold fail
  split <;> rfl

end Streams

theorem OffStream.not_failed {log : List Event} (h : OffStream log) :
    ∀ e ∈ log, ∀ err, e ≠ .streamFailed err := by
  rintro e he err rfl
  simpa [Event.ofStream] using h _ he

/-- The token for the next RPC can be had. -/
def TokenAvailable (env : Env) (c : Client) : Prop :=
  ∃ metadata, c.attachTokenIfNeeded env.call = .ok metadata

namespace Receive

variable {env : Env} {a : LoopArgs} {s : Scope ConsumerFields}

theorem taken_not_failed (call : Call) (m : StreamMessage) :
    ∀ e ∈ (taken env a call m s).log, ∀ err, e ≠ .streamFailed err := by
  unfold taken
  split
  · simp [done]
  · split
    · exact (streamOver_aside env a s).log.not_failed
    · split <;> simp

theorem streamOver_failed (hshutdown : a.shutdown = false) (hstop : s.self.stopEvent = false)
    (hstub : s.self.stub ≠ none) (hopens : env.receiveMessages = none) :
    (TokenAvailable env s.client ∧ ∃ call id, (streamOver env a s).log = [.rpc call] ∧
      Event.openedId? (.rpc call) = some id) ∨
    (¬ TokenAvailable env s.client ∧ (streamOver env a s).log = [] ∧
      (streamOver env a s).next = .ret ()) := by
  obtain ⟨stub, hs⟩ := Option.ne_none_iff_exists'.mp hstub
  unfold streamOver turn TopicConsumer.receive TopicConsumer.onStub TokenAvailable
  simp only [hshutdown, hstop, hs, hopens, Bool.false_eq_true, if_false]
  cases htoken : s.client.attachTokenIfNeeded env.call with
  | ok metadata => exact Or.inl ⟨⟨metadata, rfl⟩, _, _, rfl, rfl⟩
  | error err =>
    obtain ⟨text, rfl⟩ := Client.attachTokenIfNeeded_error htoken
    exact Or.inr ⟨by simp, rfl, rfl⟩

end Receive

/-! ## While nothing closes -/

namespace Pool

/-- No stop event is set. -/
def Open {ρ : Type} (p : Pool ρ) : Prop := ∀ e ∈ p.endpoints, e.stopEvent = false

section Open

variable {ρ κ α : Type} {p q : Pool ρ}

theorem Open.commit (h : p.Open) {ran : Piece ρ κ α} (hran : ran.state.self.stopEvent = false)
    (actor : Actor) : (p.commit actor ran).Open := by
  intro e he
  rcases List.mem_or_eq_of_mem_set he with he | rfl
  · exact h e he
  · exact hran

theorem Open.scope (h : p.Open) {ref : Nat} {s : Scope ρ} (hs : p.scope ref = some s) :
    s.self.stopEvent = false :=
  h _ (List.mem_of_getElem? (scope_eq_some.mp hs).1)

theorem Open.alloc (h : p.Open) {es : List (Endpoint ρ)} (hes : ∀ e ∈ es, e.stopEvent = false) :
    (p.alloc es).Open := by
  intro e he
  rcases List.mem_append.mp he with he | he
  · exact h e he
  · exact hes e he

theorem Open.child {role : Role ρ} (h : p.Open) {ref : Nat} {w : Wake} {env : Env}
    (hq : p.child role ref w env = some q) : q.Open := by
  obtain ⟨c, s, ran, -, hs, hran, rfl⟩ := child_eq_some.mp hq
  exact h.commit ((childPiece_journaled hran).stopEvent.trans (h.scope hs)) (.child ref)

theorem health_endpoints {task : Nat} {w : Wake} {env : Env}
    (hw : w ≠ .reply (.ok (.health .close))) (hq : p.health task w env = some q) :
    q.endpoints = p.endpoints := by
  simp only [health, Option.bind_eq_bind, Option.bind_eq_some_iff] at hq
  obtain ⟨l, -, e, -, hq⟩ := hq
  split at hq
  · cases hq
    rfl
  · cases hq
    rfl
  · exact (hw rfl).elim
  · cases hq
    rfl
  · cases hq
    rfl
  · simp at hq

end Open

end Pool

/-- The consumer is closed neither by the application nor by the broker. -/
def ConsumerLabel.StaysOpen : ConsumerLabel → Prop
  | .close => False
  | .health _ w _ => w ≠ .reply (.ok (.health .close))
  | _ => True

/-- The call of `ReceiveMessages` itself does not raise. -/
def ConsumerLabel.OpensStreams : ConsumerLabel → Prop
  | .receiving _ _ env => env.receiveMessages = none
  | _ => True

namespace Consumer

/-- Every receive loop opens its streams as the retry policy says. -/
def PolicyKept (maxRetries : Nat) (s : ConsumerState) : Prop :=
  ∀ i, Always Streams.apply (Streams.Obeys maxRetries) {} (journalOf (.receive i) s.pool.trace)

/-- No stream fails while the token for the next one can be had. -/
def StreamsHold (s : ConsumerState) : ConsumerLabel → Prop
  | .receiving task w env => ∀ t call err, s.tasks[task]? = some t →
    t.status = .started (.await (.reading call)) → w = .reply (.error err) →
    ¬ TokenAvailable env s.pool.client
  | _ => True

theorem step_open {s s' : ConsumerState} {l : ConsumerLabel} (h : s.pool.Open) (hl : l.StaysOpen)
    (hstep : step s l = some s') : s'.pool.Open := by
  cases l with
  | subscribe env =>
    obtain ⟨-, -, c, x, -, -, rfl⟩ := subscribe_eq_some hstep
    exact h
  | partitions w =>
    rcases partitions_eq_some hstep with ⟨⟨names, rfl⟩, -⟩ | ⟨rfl, -⟩
    · refine h.alloc fun e he => ?_
      obtain ⟨name, -, rfl⟩ := List.mem_map.mp he
      rfl
    · exact h
  | child ref w env =>
    obtain ⟨p, hp, rfl⟩ := Option.map_eq_some_iff.mp hstep
    obtain ⟨c, heq, -⟩ := settle_eq { s with pool := p } ref
    rw [heq]
    exact h.child hp
  | gathered => obtain ⟨names, g, -, rfl | ⟨-, rfl⟩⟩ := gathered_eq_some hstep <;> exact h
  | receive => cases hstep; exact h
  | receiving task w env =>
    obtain ⟨t, sc, queue, ran, -, hsc, -, hran, rfl⟩ := receiving_eq_some.mp hstep
    refine h.commit ?_ (.receive task)
    -- A loop only ever clears the stop event.
    rcases receivePiece_cleared env hran with hj | ⟨-, hj⟩
    · exact hj.stopEvent.trans (h.scope hsc)
    · exact hj.stopEvent
  | get queue => obtain ⟨queues, rfl⟩ := get_eq_some hstep; exact h
  | ack message env =>
    obtain ⟨acks, rfl | ⟨ref, sc, call, -, -, -, rfl⟩⟩ := onConsumer_eq_some hstep <;> exact h
  | nack message delayMs reason env =>
    obtain ⟨acks, rfl | ⟨ref, sc, call, -, -, -, rfl⟩⟩ := onConsumer_eq_some hstep <;> exact h
  | acked call w => obtain ⟨acks, rfl⟩ := acked_eq_some hstep; exact h
  | health task w env =>
    obtain ⟨p, hp, rfl⟩ := Option.map_eq_some_iff.mp hstep
    intro e he
    rw [Pool.health_endpoints hl hp] at he
    exact h e he
  | close => exact hl.elim

/-- The loops have seen no failure, or are over. -/
structure Unfailed (maxRetries : Nat) (s : ConsumerState) : Prop where
  sound : Sound s
  shutdown : s.shutdown = false
  pool : s.pool.Open
  fine : PolicyKept maxRetries s → ∀ i,
    (replay Streams.apply {} (journalOf (.receive i) s.pool.trace)).Fine ∨
      ∃ t, s.tasks[i]? = some t ∧ t.status = .started (.ret ())

/-- A piece of a loop that has seen no failure obeys the policy exactly if no stream fails in it while
the token can be had. -/
theorem woken_obeys {env : Env} {a : LoopArgs} {sc : Scope ConsumerFields} {status : ReceiveStatus}
    {w : Wake} {r : Piece ConsumerFields Receiving Unit} (h : Woken env a sc status w r)
    (hshutdown : a.shutdown = false) (hstop : sc.self.stopEvent = false)
    (hstub : sc.self.stub ≠ none) (hopens : env.receiveMessages = none) {v : Streams} (hv : v.Fine)
    (maxRetries : Nat) :
    (Always Streams.apply (Streams.Obeys maxRetries) v r.log ↔
      ∀ call err, status = .started (.await (.reading call)) → w = .reply (.error err) →
        ¬ TokenAvailable env sc.client) ∧
    (Always Streams.apply (Streams.Obeys maxRetries) v r.log →
      (replay Streams.apply v r.log).Fine ∨ r.next = .ret ()) := by
  have hother : (∀ e ∈ r.log, ∀ err, e ≠ .streamFailed err) →
      (∀ call err, status = .started (.await (.reading call)) → w ≠ .reply (.error err)) →
      (Always Streams.apply (Streams.Obeys maxRetries) v r.log ↔
        ∀ call err, status = .started (.await (.reading call)) → w = .reply (.error err) →
          ¬ TokenAvailable env sc.client) ∧
      (Always Streams.apply (Streams.Obeys maxRetries) v r.log →
        (replay Streams.apply v r.log).Fine ∨ r.next = .ret ()) := by
    intro hlog hw
    obtain ⟨hfine, hall⟩ := hv.log hlog maxRetries
    exact ⟨iff_of_true hall fun call err hs he => (hw call err hs he).elim, fun _ => Or.inl hfine⟩
  cases h with
  | took call m =>
    refine hother ?_ (by simp)
    simpa using Receive.taken_not_failed call m
  | ended call =>
    refine hother ?_ (by simp)
    simpa using (Receive.streamOver_aside env a sc).log.not_failed
  | failed call err =>
    have hobeys := hv.obeys maxRetries (.streamFailed err)
    rcases Receive.streamOver_failed hshutdown hstop hstub hopens with
      ⟨htoken, rpc, id, hlog, hid⟩ | ⟨htoken, hlog, hnext⟩
    · -- The next stream is opened in the same piece.
      have hnot : ¬ Always Streams.apply (Streams.Obeys maxRetries) v
          ((Receive.streamOver env a sc).after [.streamFailed err]).log := by
        rw [Ran.after_log, hlog]
        rintro ⟨-, hrpc, -⟩
        have hfailed := (hrpc id hid).1
        rw [show v.apply (.streamFailed err) = v.fail err from rfl, v.fail_failed err] at hfailed
        cases hfailed
      exact ⟨iff_of_false hnot fun h => h call err rfl rfl htoken, fun h => (hnot h).elim⟩
    · -- Without a token the loop is over.
      refine ⟨iff_of_true ?_ fun _ _ _ _ => htoken, fun _ => Or.inr hnext⟩
      rw [Ran.after_log, hlog]
      exact ⟨hobeys, trivial⟩
  | room call m => exact hother (by simp) (by simp)
  | aside status w r hreading hputting hr =>
    exact hother hr.log.not_failed fun call _ h => (hreading call h).elim

theorem step_policyKept {maxRetries : Nat} {s s' : ConsumerState} {l : ConsumerLabel}
    (h : Unfailed maxRetries s) (hopens : l.OpensStreams) (hstep : step s l = some s') :
    PolicyKept maxRetries s' ↔ PolicyKept maxRetries s ∧ StreamsHold s l := by
  rcases step_journals hstep with
    ⟨hl, hsame⟩ | ⟨i, w, env, t, sc, queue, ran, rfl, ht, hsc, hran, hlog, hothers⟩
  · -- No loop runs.
    have hhold : StreamsHold s l := by
      cases l with
      | receiving i w env => exact (hl i w env rfl).elim
      | _ => trivial
    unfold PolicyKept
    simp only [hsame, hhold, and_true]
  · have hwoken := receivePiece_woken (h.sound.stub ht hsc) hran
    have hclient := (Pool.scope_eq_some.mp hsc).2.1
    unfold PolicyKept
    rw [forall_always_append hlog hothers]
    refine and_congr_right fun hkept => ?_
    rcases h.fine hkept i with hfine | ⟨t', ht', hover⟩
    · rw [(woken_obeys hwoken h.shutdown (h.pool.scope hsc) (h.sound.stub ht hsc) hopens hfine
        maxRetries).1, hclient]
      constructor
      · intro hhold t' call err ht' hstatus hw
        obtain rfl : t = t' := Option.some.inj (ht.symm.trans ht')
        exact hhold call err hstatus hw
      · intro hhold call err hstatus hw
        exact hhold t call err ht hstatus hw
    · -- A loop that is over runs no piece.
      obtain rfl : t = t' := Option.some.inj (ht.symm.trans ht')
      simp [receivePiece, hover] at hran

theorem step_unfailed {maxRetries : Nat} {s s' : ConsumerState} {l : ConsumerLabel}
    (h : Unfailed maxRetries s) (hl : l.StaysOpen) (hopens : l.OpensStreams)
    (hstep : step s l = some s') : Unfailed maxRetries s' where
  sound := step_sound h.sound hstep
  shutdown := (step_shutdown (by rintro rfl; exact hl) hstep).trans h.shutdown
  pool := step_open h.pool hl hstep
  fine hkept' i := by
    have hkept := ((step_policyKept h hopens hstep).mp hkept').1
    cases step_receives hstep i with
    | idle l hl' htask hlog =>
      rw [hlog]
      rcases h.fine hkept i with hfine | ⟨t, ht, hover⟩
      · exact Or.inl hfine
      · rcases htask with heq | ⟨hnone, -⟩
        · exact Or.inr ⟨t, heq.trans ht, hover⟩
        · rw [hnone] at ht
          cases ht
    | piece w env t ht sc hsc queue ran hran htask hlog =>
      rcases h.fine hkept i with hfine | ⟨t', ht', hover⟩
      · have hall := hkept' i
        rw [hlog, always_append] at hall
        rw [hlog, replay_append]
        rcases (woken_obeys (receivePiece_woken (h.sound.stub ht hsc) hran) h.shutdown
          (h.pool.scope hsc) (h.sound.stub ht hsc) hopens hfine maxRetries).2 hall.2 with hf | hret
        · exact Or.inl hf
        · exact Or.inr ⟨_, htask, by rw [hret]⟩
      · obtain rfl : t = t' := Option.some.inj (ht.symm.trans ht')
        simp [receivePiece, hover] at hran
    | close => exact hl.elim

theorem unfailed_init (maxRetries : Nat) (client : Client) (config : ConsumerConfig) :
    Unfailed maxRetries (init client config) where
  sound := sound_init client config
  shutdown := rfl
  pool := by simp [init, Pool.Open]
  fine _ i := Or.inl ⟨rfl, rfl, rfl⟩

/-- As long as nothing closes the consumer, its retry policy covers the failures of streams exactly if
there are none that the loop survives. -/
theorem policy_kept_iff {client : Client} {config : ConsumerConfig} {ls : List ConsumerLabel}
    {s : ConsumerState} (hopen : ∀ l ∈ ls, l.StaysOpen) (hstreams : ∀ l ∈ ls, l.OpensStreams)
    (h : exec step (init client config) ls = some s) :
    PolicyKept (retryManager config).maxRetries s ↔
      Steps step StreamsHold (init client config) ls := by
  have hrun := exec_iff_steps_of (Q := PolicyKept (retryManager config).maxRetries)
    (C := StreamsHold) (L := fun l => l.StaysOpen ∧ l.OpensStreams)
    (fun s l s' hs hl hstep =>
      ⟨step_unfailed hs hl.1 hl.2 hstep, step_policyKept hs hl.2 hstep⟩)
    (unfailed_init _ client config) (fun l hl => ⟨hopen l hl, hstreams l hl⟩) h
  have hinit : PolicyKept (retryManager config).maxRetries (init client config) := fun i => trivial
  rw [hrun, and_iff_right hinit]

/-- The broker refuses the stream. -/
def refusedStream : List ConsumerLabel :=
  [.subscribe {}, .partitions (.answer (.topicPartitions ["t"])), .child 0 .start {},
    .child 0 (.answer (.address "a")) {}, .child 0 (.answer (.registered 1)) {}, .gathered,
    .receive, .receiving 0 .start {}, .receiving 0 (.fail .unavailable) {}]

/-- The loop opens the next stream at once. -/
theorem refused_stream_reopened :
    ∃ s, exec step (init (.init "a" {}) .oneRetry) refusedStream = some s ∧
      ¬ PolicyKept (retryManager .oneRetry).maxRetries s :=
  ⟨_, rfl, fun h => absurd (h 0) (by decide)⟩

theorem refused_stream_not_held :
    ∃ s, exec step (init (.init "a" {}) .oneRetry) refusedStream = some s ∧
      (PolicyKept (retryManager .oneRetry).maxRetries s ↔
        Steps step StreamsHold (init (.init "a" {}) .oneRetry) refusedStream) := by
  obtain ⟨s, hs⟩ := Option.isSome_iff_exists.mp
    (by rfl : (exec step (init (.init "a" {}) .oneRetry) refusedStream).isSome)
  exact ⟨s, hs, policy_kept_iff (by simp [refusedStream, ConsumerLabel.StaysOpen])
    (by simp [refusedStream, ConsumerLabel.OpensStreams]) hs⟩

end Consumer

end Danube
