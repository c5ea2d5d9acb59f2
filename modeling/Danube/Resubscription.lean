import Danube.ConsumerSteps
import Danube.StreamFailure

/-!
# What causes a resubscription

A partition's health loop sets the stop event when the broker answers CLOSE, and its receive loop
clears the stop event before it subscribes again.
-/

namespace Danube

open Async

/-- The current consumer id, and whether the broker asked to close it and the receive loop did not
subscribe again yet. -/
structure Closing where
  id : Nat := 0
  pending : Bool := false
  deriving DecidableEq, Repr

namespace Closing

def apply (v : Closing) : Event → Closing
  | .registered _ id => { v with id := id }
  | .closed _ => { v with pending := true }
  | .resubscribing => { v with pending := false }
  | _ => v

/-- A CLOSE answer is for the current id and is the first one, a resubscription has a CLOSE answer to
act on, and none is left when the broker gives out a new id. -/
def Valid (v : Closing) : Event → Prop
  | .closed id => id = v.id ∧ v.pending = false
  | .resubscribing => v.pending = true
  | .registered .. => v.pending = false
  | _ => True

/-- Events that have nothing to do with it. -/
def Calm (log : List Event) : Prop := ∀ e ∈ log, ∀ v : Closing, v.apply e = v ∧ v.Valid e

theorem Calm.replay {log : List Event} (h : Calm log) (v : Closing) :
    Async.replay apply v log = v := replay_eq_self fun e he => (h e he v).1

theorem Calm.always {log : List Event} (h : Calm log) (v : Closing) : Always apply Valid v log :=
  always_of_fixed fun e he => h e he v

theorem calm_of_callLog {α : Type} {o : Outcome Registering α Error} {log : List Event}
    (h : CallLog o log) (hreg : registrations log = []) : Calm log := by
  intro e he v
  have hnone := List.filterMap_eq_nil_iff.mp hreg e he
  rcases h.mem he with hinner | ⟨-, id, -, rfl⟩ | ⟨err, rfl⟩
  · cases e with
    | registered => cases hnone
    | _ => first | exact ⟨rfl, trivial⟩ | exact hinner.elim
  · exact ⟨rfl, trivial⟩
  · exact ⟨rfl, trivial⟩

theorem replay_id (v : Closing) (u : View) (h : v.id = u.id) (log : List Event) :
    (Async.replay apply v log).id = (Async.replay View.apply u log).id := by
  induction log generalizing v u with
  | nil => exact h
  | cons e es ih =>
    refine ih _ _ ?_
    cases e <;> first | exact h | rfl

/-! ## The health loops -/

/-- How many of the loops go on. -/
def unfinished (loops : List HealthLoop) : Nat := loops.countP fun l => !decide l.Finished

theorem unfinished_eq_zero {loops : List HealthLoop} :
    unfinished loops = 0 ↔ ∀ l ∈ loops, l.Finished := by
  simp [unfinished, List.countP_eq_zero]

/-- Nothing is to be closed, and no loop goes on. -/
structure Idle (v : Closing) (e : TopicConsumer) (loops : List HealthLoop) : Prop where
  pending : v.pending = false
  stop : e.stopEvent = false
  finished : unfinished loops = 0

/-- At most one loop goes on, for the current id, and only until the broker answers CLOSE. -/
structure Settled (v : Closing) (e : TopicConsumer) (loops : List HealthLoop) : Prop where
  stop : e.stopEvent = v.pending
  one : unfinished loops ≤ 1
  current : ∀ l ∈ loops, ¬ l.Finished → l.clientId = e.id
  closed : v.pending = true → unfinished loops = 0

theorem Idle.settled {v : Closing} {e : TopicConsumer} {loops : List HealthLoop}
    (h : Idle v e loops) : Settled v e loops where
  stop := h.stop.trans h.pending.symm
  one := by
    rw [h.finished]
    omega
  current l hl hnot := (hnot (unfinished_eq_zero.mp h.finished l hl)).elim
  closed _ := h.finished

theorem Settled.congr {v : Closing} {e e' : TopicConsumer} {loops : List HealthLoop}
    (h : Settled v e loops) (hstop : e'.stopEvent = e.stopEvent) (hid : e'.id = e.id) :
    Settled v e' loops where
  stop := hstop.trans h.stop
  one := h.one
  current := hid ▸ h.current
  closed := h.closed

theorem unfinished_append (a b : List HealthLoop) :
    unfinished (a ++ b) = unfinished a + unfinished b := List.countP_append

theorem unfinished_singleton_le (l : HealthLoop) : unfinished [l] ≤ 1 := by
  have hle : unfinished [l] ≤ [l].length := List.countP_le_length
  exact hle

theorem idle_grows {v : Closing} {e e' : TopicConsumer} {loops : List HealthLoop} (h : Idle v e loops)
    (l : HealthLoop) (hl : l.clientId = e'.id) (hstop : e'.stopEvent = e.stopEvent) :
    Settled v e' (loops ++ [l]) where
  stop := hstop.trans (h.stop.trans h.pending.symm)
  one := by
    have hle := unfinished_singleton_le l
    rw [unfinished_append, h.finished]
    omega
  current l' hl' hnot := by
    rcases List.mem_append.mp hl' with hl' | hl'
    · exact (hnot (unfinished_eq_zero.mp h.finished l' hl')).elim
    · rw [List.mem_singleton.mp hl', hl]
  closed hpending := by
    rw [h.pending] at hpending
    cases hpending

/-! ## A call of `subscribe()` -/

/-- What holds where the coroutine is. -/
def Placed {α : Type} (v : Closing) (e : TopicConsumer) (loops : List HealthLoop) :
    Outcome Registering α Error → Prop
  | .await k => Idle v e loops ∧ k.resolving = false
  | .ret _ => Settled v e loops
  | .raise _ => Idle v e loops

def Leads {α : Type} (v : Closing) (loops : List HealthLoop)
    (r : Piece ConsumerFields Registering α) : Prop :=
  Always apply Valid v r.log ∧
    Placed (Async.replay apply v r.log) r.state.self (loops ++ startedLoops r.log) r.next

section Pieces

variable {α : Type} {env : Env} {v : Closing} {loops : List HealthLoop}

theorem leads_of_quiet {s : Scope ConsumerFields} {r : Piece ConsumerFields Registering α}
    (h : Idle v s.self loops) (hquiet : Endpoint.Quiet r) (hcall : CallLog r.next r.log)
    (hstop : r.state.self.stopEvent = s.self.stopEvent) : Leads v loops r := by
  have hcalm := calm_of_callLog hcall hquiet.registrations
  have hidle : Idle v r.state.self loops := ⟨h.pending, hstop.trans h.stop, h.finished⟩
  refine ⟨hcalm.always v, ?_⟩
  rw [hcalm.replay, hquiet.loops, List.append_nil]
  rcases hquiet.next with ⟨k, hk, hres⟩ | ⟨err, herr⟩
  · rw [hk]
    exact ⟨hidle, hres⟩
  · rw [herr]
    exact hidle

theorem Leads.after {r : Piece ConsumerFields Registering α} {e : Event}
    (h : Leads (v.apply e) loops r) (hvalid : v.Valid e) (hloop : e.loop? = none) :
    Leads v loops (r.after [e]) := by
  refine ⟨⟨hvalid, h.1⟩, ?_⟩
  have hstarted : startedLoops [e] = [] := by simp [startedLoops, hloop]
  rw [Ran.after_log, startedLoops_append, hstarted]
  exact h.2

theorem failed_leads {s : Scope ConsumerFields} (h : Idle v s.self loops) (n : Nat) (err : Error) :
    Leads v loops (Endpoint.failed env n err s : Piece ConsumerFields Registering α) :=
  leads_of_quiet h (Endpoint.failed_quiet env n err s) (Endpoint.failed_shaped env n err s).log
    (failed_journaled env n err s).stopEvent

theorem attempt_leads {s : Scope ConsumerFields} (h : Idle v s.self loops) (n : Nat) :
    Leads v loops
      (Endpoint.attempt consumerRole env n s : Piece ConsumerFields Registering α) :=
  leads_of_quiet h (Endpoint.attempt_quiet consumerRole env n s)
    (Endpoint.attempt_shaped consumerRole env n s).log
    (attempt_journaled consumerRole env n s).stopEvent

theorem afterLookup_leads {s : Scope ConsumerFields} (h : Idle v s.self loops) (n : Nat) :
    Leads v loops
      (Endpoint.afterLookup consumerRole env n s : Piece ConsumerFields Registering α) :=
  leads_of_quiet h (Endpoint.afterLookup_quiet consumerRole env n s)
    (Endpoint.afterLookup_shaped consumerRole env n s).log
    (afterLookup_journaled consumerRole env n s).stopEvent

theorem create_leads {s : Scope ConsumerFields} (h : Idle v s.self loops) :
    Leads v loops (Endpoint.create consumerRole env s : Piece ConsumerFields Registering α) := by
  obtain ⟨r, hr, hshaped⟩ := Endpoint.create_shaped (α := α) consumerRole env s
  have hquiet := Endpoint.create_quiet (α := α) consumerRole env s
  have hstop := (create_journaled (α := α) consumerRole env s).stopEvent
  rw [hr] at hquiet hstop ⊢
  refine Leads.after (leads_of_quiet (by exact h) ⟨?_, ?_, hquiet.next⟩ hshaped.log hstop) trivial rfl
  · simpa [registrations, Event.registeredId?] using hquiet.registrations
  · simpa [startedLoops, Event.loop?] using hquiet.loops

theorem registered_leads {s : Scope ConsumerFields} (h : Idle v s.self loops) (n : Nat)
    (addr : BrokerAddress) (id : Nat) :
    Leads v loops (Endpoint.registered consumerRole env n addr id s) := by
  have hidle : Idle (v.apply (.registered addr id)) (Endpoint.withId id s).self loops :=
    ⟨h.pending, h.stop, h.finished⟩
  refine Leads.after ?_ h.pending rfl
  unfold Endpoint.checkHealth
  split
  · exact failed_leads (by exact hidle) n _
  · rename_i c conn _
    refine ⟨⟨trivial, trivial, trivial⟩, ?_⟩
    exact idle_grows hidle (Endpoint.healthLoop consumerRole conn (Endpoint.withId id s)) rfl rfl

theorem resume_leads {s : Scope ConsumerFields} {k : Registering} {w : Wake}
    {r : Piece ConsumerFields Registering Nat} (h : Idle v s.self loops) (hk : k.resolving = false)
    (hr : Endpoint.resume consumerRole env s k w = some r) : Leads v loops r := by
  cases Endpoint.resumption hr with
  | moved n =>
    exact Leads.after (afterLookup_leads (by exact ⟨h.pending, h.stop, h.finished⟩) n) trivial rfl
  | notMoved n | lookupFailed n => exact afterLookup_leads h n
  | slept n => exact attempt_leads h n
  | answered n addr call id => exact registered_leads h n addr id
  | refused n => exact failed_leads h n _
  | _ => cases hk

end Pieces

/-! ## The receive loop -/

/-- What holds where the receive loop is. -/
def Looping (v : Closing) (e : TopicConsumer) (loops : List HealthLoop) : ReceiveStatus → Prop
  | .started (.await (.subscribing k)) => Idle v e loops ∧ k.resolving = false
  | _ => Settled v e loops

def LoopLeads (v : Closing) (loops : List HealthLoop) (r : Piece ConsumerFields Receiving Unit) :
    Prop :=
  Always apply Valid v r.log ∧
    Looping (Async.replay apply v r.log) r.state.self (loops ++ startedLoops r.log) (.started r.next)

section Loop

variable {env : Env} {a : LoopArgs} {v : Closing} {loops : List HealthLoop}
  {s : Scope ConsumerFields}

theorem loopLeads_of_calm {r : Piece ConsumerFields Receiving Unit}
    (h : Settled v r.state.self loops) (hlog : Calm r.log) (hloops : startedLoops r.log = [])
    (hnext : ∀ k, r.next ≠ .await (.subscribing k)) : LoopLeads v loops r := by
  refine ⟨hlog.always v, ?_⟩
  rw [hlog.replay, hloops, List.append_nil]
  unfold Looping
  split
  · rename_i k heq
    rw [ReceiveStatus.started.injEq] at heq
    exact (hnext k heq).elim
  · exact h

theorem LoopLeads.after {r : Piece ConsumerFields Receiving Unit} {e : Event}
    (h : LoopLeads (v.apply e) loops r) (hvalid : v.Valid e) (hloop : e.loop? = none) :
    LoopLeads v loops (r.after [e]) := by
  refine ⟨⟨hvalid, h.1⟩, ?_⟩
  have hstarted : startedLoops [e] = [] := by simp [startedLoops, hloop]
  rw [Ran.after_log, startedLoops_append, hstarted]
  exact h.2

theorem done_leads (h : Settled v s.self loops) : LoopLeads v loops (Receive.done s) :=
  loopLeads_of_calm h (by simp [Calm, Receive.done]) rfl (by simp [Receive.done])

theorem subscribing_leads {α : Type} {r : Piece ConsumerFields Registering α} (h : Leads v loops r)
    {onRet : Scope ConsumerFields → α → Piece ConsumerFields Receiving Unit}
    (hret : ∀ x v' loops', r.next = .ret x → Settled v' r.state.self loops' →
      LoopLeads v' loops' (onRet r.state x)) :
    LoopLeads v loops (r.andThen .subscribing onRet fun s _ => Receive.done s) := by
  obtain ⟨hlog, hplaced⟩ := h
  have hafter : ∀ {r' : Piece ConsumerFields Receiving Unit},
      LoopLeads (Async.replay apply v r.log) (loops ++ startedLoops r.log) r' →
        LoopLeads v loops (r'.after r.log) := by
    intro r' hr'
    refine ⟨(always_append _ _ _ _).mpr ⟨hlog, hr'.1⟩, ?_⟩
    rw [Ran.after_log, replay_append, startedLoops_append, ← List.append_assoc]
    exact hr'.2
  unfold Ran.andThen
  split
  · rename_i k hk
    rw [hk] at hplaced
    exact ⟨hlog, hplaced⟩
  · rename_i x hk
    rw [hk] at hplaced
    exact hafter (hret x _ _ hk hplaced)
  · rename_i err hk
    rw [hk] at hplaced
    exact hafter (done_leads hplaced.settled)

theorem resubscribe_leads (h : Settled v s.self loops) (hpending : v.pending = true) :
    LoopLeads v loops ((Receive.resubscribe env (Receive.clearStop s)).after [.cleared]) := by
  have hidle : Idle (v.apply .resubscribing) (Receive.clearStop s).self loops :=
    ⟨rfl, rfl, h.closed hpending⟩
  have hsubscribe : LoopLeads v loops (Receive.resubscribe env (Receive.clearStop s)) :=
    LoopLeads.after (subscribing_leads (create_leads hidle) fun x => x.elim) hpending rfl
  exact LoopLeads.after hsubscribe trivial rfl

theorem receive_settled (h : Settled v s.self loops) :
    Settled v (TopicConsumer.receive env s).1.self loops := by
  have hcount : Settled v (if s.self.stub = none then s else Endpoint.countRequest s).self loops := by
    split
    · exact h
    · exact h.congr rfl rfl
  unfold TopicConsumer.receive
  dsimp only
  split <;> exact hcount

theorem onStub_error {text : String} {request : Request} (hstub : s.self.stub ≠ none) {err : Error}
    (h : TopicConsumer.onStub env text request s = .error err) : ∃ text', err = .other text' := by
  unfold TopicConsumer.onStub at h
  split at h
  · rename_i hnone
    exact (hstub hnone).elim
  · split at h
    · rename_i hattach
      obtain ⟨text', rfl⟩ := Client.attachTokenIfNeeded_error hattach
      cases h
      exact ⟨text', rfl⟩
    · cases h

theorem receive_error (hstub : s.self.stub ≠ none) (henv : env.receiveMessages = none) {err : Error}
    (h : (TopicConsumer.receive env s).2 = .error err) : ∃ text, err = .other text := by
  unfold TopicConsumer.receive at h
  dsimp only at h
  rw [henv] at h
  split at h
  · rename_i hraises
    cases hraises
  · exact onStub_error hstub h

theorem turn_leads (h : Settled v s.self loops) (hstub : s.self.stub ≠ none)
    (henv : env.receiveMessages = none) (n : Nat) : LoopLeads v loops (Receive.turn env a n s) := by
  have hstate := @receive_settled env _ _ _ h
  have herror : ∀ err, (TopicConsumer.receive env s).2 = .error err → ∃ text, err = .other text :=
    fun err => receive_error hstub henv
  unfold Receive.turn
  split
  · exact done_leads h
  · split
    · rename_i s' call heq
      rw [heq] at hstate
      refine loopLeads_of_calm hstate (fun e he v => ?_) rfl (by simp)
      rw [List.mem_singleton.mp he]
      exact ⟨rfl, trivial⟩
    · rename_i s' text heq
      obtain ⟨text', htext⟩ := herror _ (by rw [heq])
      cases htext
    · rename_i s' err _ heq
      obtain ⟨text, rfl⟩ := herror _ (by rw [heq])
      rw [heq] at hstate
      exact done_leads hstate

theorem streamOver_leads (h : Settled v s.self loops) (hstub : s.self.stub ≠ none)
    (henv : env.receiveMessages = none) : LoopLeads v loops (Receive.streamOver env a s) := by
  unfold Receive.streamOver
  split
  · exact done_leads h
  · split
    · rename_i hstop
      exact resubscribe_leads h (h.stop.symm.trans hstop)
    · exact turn_leads h hstub henv 0

theorem taken_leads (h : Settled v s.self loops) (hstub : s.self.stub ≠ none)
    (henv : env.receiveMessages = none) (call : Call) (m : StreamMessage) :
    LoopLeads v loops (Receive.taken env a call m s) := by
  unfold Receive.taken
  split
  · exact done_leads h
  · split
    · exact streamOver_leads h hstub henv
    · split
      · exact loopLeads_of_calm h (by simp [Calm]) rfl (by simp)
      · refine loopLeads_of_calm h (fun e he v => ?_) rfl (by simp)
        rw [List.mem_singleton.mp he]
        exact ⟨rfl, trivial⟩

theorem receivePiece_leads {status : ReceiveStatus} {w : Wake}
    {r : Piece ConsumerFields Receiving Unit} (h : Looping v s.self loops status)
    (hstub : s.self.stub ≠ none) (henv : env.receiveMessages = none)
    (hr : Consumer.receivePiece env a s status w = some r) : LoopLeads v loops r := by
  rcases receivePiece_cases env hr with ⟨rfl, -, rfl⟩ | ⟨k, rfl, hresume⟩
  · exact turn_leads h hstub henv 0
  cases Receive.resumption hresume with
  | took call m => exact LoopLeads.after (taken_leads h hstub henv call m) trivial rfl
  | ended | failed => exact LoopLeads.after (streamOver_leads h hstub henv) trivial rfl
  | room call m =>
    refine loopLeads_of_calm h (fun e he v => ?_) rfl (by simp)
    rw [List.mem_singleton.mp he]
    exact ⟨rfl, trivial⟩
  | slept n => exact turn_leads h hstub henv n
  | subscribing k w r' hr' =>
    obtain ⟨hidle, hk⟩ := h
    refine subscribing_leads (resume_leads hidle hk hr') fun x v' loops' hx hsettled => ?_
    exact turn_leads hsettled ((resume_journaled consumerRole env hr').stub_ne_none hstub) henv 0

end Loop

/-! ## The health loop -/

theorem unfinished_cons (l : HealthLoop) (loops : List HealthLoop) :
    unfinished (l :: loops) = unfinished [l] + unfinished loops :=
  unfinished_append [l] loops

theorem unfinished_one {l : HealthLoop} (h : ¬ l.Finished) : unfinished [l] = 1 := by
  simp [unfinished, h]

theorem checks_settled {v : Closing} {e : TopicConsumer} {pre post : List HealthLoop} {l : HealthLoop}
    {position : HealthAt} {log : List Event} {stop : Bool}
    (h : Settled v e (pre ++ l :: post)) (hid : e.id = v.id)
    (hchecks : Pool.Checks l e.stopEvent position log stop) :
    Always apply Valid v log ∧ Settled (Async.replay apply v log)
      (if stop then { e with stopEvent := true } else e)
      (pre ++ { l with position := position } :: post) := by
  have hgoes := hchecks.unfinished
  have hone := h.one
  rw [unfinished_append, unfinished_cons, unfinished_one hgoes] at hone
  -- The loop that takes the step is the one that goes on.
  have hothers : unfinished pre = 0 ∧ unfinished post = 0 := by omega
  have hopen : v.pending = false := by
    cases hpending : v.pending with
    | false => rfl
    | true =>
      have hzero := h.closed hpending
      rw [unfinished_append, unfinished_cons, unfinished_one hgoes] at hzero
      omega
  have hclient : l.clientId = e.id := h.current l (by simp) hgoes
  have hcount : ∀ position, unfinished (pre ++ { l with position := position } :: post) ≤ 1 := by
    intro position
    have hle := unfinished_singleton_le { l with position := position }
    rw [unfinished_append, unfinished_cons, hothers.1, hothers.2]
    omega
  have hsettled : ∀ position, Settled v e (pre ++ { l with position := position } :: post) := by
    refine fun position => ⟨h.stop, hcount position, fun l' hl' hnot => ?_, ?_⟩
    · rcases List.mem_append.mp hl' with hl' | hl'
      · exact h.current l' (by simp [hl']) hnot
      · rcases List.mem_cons.mp hl' with rfl | hl'
        · exact hclient
        · exact h.current l' (by simp [hl']) hnot
    · rw [hopen]
      simp
  cases hchecks with
  | close call hpolling =>
    -- The CLOSE answer is for the current id, and no loop goes on after it.
    refine ⟨⟨⟨hclient.trans hid, hopen⟩, trivial⟩, rfl, hcount _, (hsettled _).current, fun _ => ?_⟩
    have hfinished : HealthLoop.Finished { l with position := .finished .closed } := ⟨_, rfl⟩
    rw [unfinished_append, unfinished_cons, hothers.1, hothers.2]
    simp [unfinished, hfinished]
  | poll _ _ call n hcall => exact ⟨⟨trivial, trivial⟩, hsettled _⟩
  | _ => exact ⟨trivial, hsettled _⟩

theorem Idle.not_checks {v : Closing} {e : TopicConsumer} {pre post : List HealthLoop}
    {l : HealthLoop} (h : Idle v e (pre ++ l :: post)) {stopEvent : Bool} {position : HealthAt}
    {log : List Event} {stop : Bool} (hchecks : Pool.Checks l stopEvent position log stop) : False :=
  hchecks.unfinished (unfinished_eq_zero.mp h.finished l (by simp))

theorem Looping.idle_or {v : Closing} {e : TopicConsumer} {loops : List HealthLoop}
    {status : ReceiveStatus} (h : Looping v e loops status) :
    Idle v e loops ∨ Settled v e loops ∧
      ∀ v' e' loops', Settled v' e' loops' → Looping v' e' loops' status := by
  unfold Looping at h
  split at h
  · exact Or.inl h.1
  · rename_i hother
    refine Or.inr ⟨h, fun v' e' loops' h' => ?_⟩
    unfold Looping
    split
    · exact (hother _ rfl).elim
    · exact h'

theorem Placed.idle_or {α : Type} {v : Closing} {e : TopicConsumer} {loops : List HealthLoop}
    {o : Outcome Registering α Error} (h : Placed v e loops o) :
    Idle v e loops ∨ Settled v e loops ∧
      ∀ v' e' loops', Settled v' e' loops' → Placed v' e' loops' o := by
  cases o with
  | await k => exact Or.inl h.1
  | ret a => exact Or.inr ⟨h, fun _ _ _ h' => h'⟩
  | raise err => exact Or.inl h

theorem Looping.settled {v : Closing} {e : TopicConsumer} {loops : List HealthLoop}
    {status : ReceiveStatus} (h : Looping v e loops status) : Settled v e loops :=
  h.idle_or.elim Idle.settled And.left

theorem Placed.settled {α : Type} {v : Closing} {e : TopicConsumer} {loops : List HealthLoop}
    {o : Outcome Registering α Error} (h : Placed v e loops o) : Settled v e loops :=
  h.idle_or.elim Idle.settled And.left

end Closing

namespace Consumer

def closingOf (s : ConsumerState) (r : Nat) : Closing :=
  replay Closing.apply {} (logOf r s.pool.trace)

/-- Where the first `subscribe()` of a partition is. -/
def ChildPlaced (v : Closing) (e : TopicConsumer) (loops : List HealthLoop) : Child → Prop
  | .scheduled => Closing.Idle v e loops
  | .started o => Closing.Placed v e loops o

structure Checked (s : ConsumerState) (r : Nat) : Prop where
  signals : Always Closing.apply Closing.Valid {} (logOf r s.pool.trace)
  child : ∀ e c, s.pool.endpoints[r]? = some e → loopOf s r = none →
    s.pool.children[r]? = some c → ChildPlaced (closingOf s r) e (s.pool.loopsOf r) c
  loop : ∀ e status, s.pool.endpoints[r]? = some e → loopOf s r = some status →
    Closing.Looping (closingOf s r) e (s.pool.loopsOf r) status

theorem id_eq_closingOf {s : ConsumerState} (hs : Sound s) {r : Nat} {e : TopicConsumer}
    (he : s.pool.endpoints[r]? = some e) : e.id = (closingOf s r).id := by
  rw [(hs.kept.tracks r e he).id]
  exact (Closing.replay_id {} (View.init s.pool.client.uri) rfl _).symm

theorem ChildPlaced.settled {v : Closing} {e : TopicConsumer} {loops : List HealthLoop} {c : Child}
    (h : ChildPlaced v e loops c) : Closing.Settled v e loops := by
  cases c with
  | scheduled => exact Closing.Idle.settled h
  | started o => exact Closing.Placed.settled h

theorem Checked.settled {s : ConsumerState} {r : Nat} (h : Checked s r) (hs : Sound s)
    {e : TopicConsumer} (he : s.pool.endpoints[r]? = some e) :
    Closing.Settled (closingOf s r) e (s.pool.loopsOf r) := by
  cases hloop : loopOf s r with
  | some status => exact (h.loop e status he hloop).settled
  | none =>
    have hlt := (List.getElem?_eq_some_iff.mp he).1
    rw [← hs.pool.length] at hlt
    exact (h.child e _ he hloop (List.getElem?_eq_getElem hlt)).settled

variable {s s' : ConsumerState} {r : Nat}

theorem Checked.aside (h : Checked s r) {log : List Event} (hcalm : Closing.Calm log)
    (hlog : logOf r s'.pool.trace = logOf r s.pool.trace ++ log)
    (he : s'.pool.endpoints[r]? = s.pool.endpoints[r]?)
    (hchild : s'.pool.children[r]? = s.pool.children[r]?)
    (hloops : s'.pool.loopsOf r = s.pool.loopsOf r) (hloop : loopOf s' r = loopOf s r) :
    Checked s' r := by
  have hclosing : closingOf s' r = closingOf s r := by
    unfold closingOf
    rw [hlog, replay_append, hcalm.replay]
  constructor
  · rw [hlog, always_append]
    exact ⟨h.signals, hcalm.always _⟩
  · rw [he, hloop, hchild, hclosing, hloops]
    exact h.child
  · rw [he, hloop, hclosing, hloops]
    exact h.loop

theorem checked_born (hs : Sound s) {name : String} (hnone : s.pool.endpoints[r]? = none)
    (he : s'.pool.endpoints[r]? = some (topicConsumer s name))
    (hchild : s'.pool.children[r]? = some .scheduled) (hlog : logOf r s'.pool.trace = [])
    (hloops : s'.pool.loopsOf r = []) (hloop : loopOf s' r = loopOf s r) : Checked s' r := by
  constructor
  · rw [hlog]
    trivial
  · intro e c he' _ hc
    rw [he, Option.some.injEq] at he'
    rw [hchild, Option.some.injEq] at hc
    subst he' hc
    unfold closingOf
    rw [hlog, hloops]
    exact ⟨rfl, rfl, rfl⟩
  · intro e status _ hstatus
    rw [hloop] at hstatus
    exact (endpoint_of_loop hs hstatus hnone).elim

theorem Checked.child_runs (h : Checked s r) (hs : Sound s) {w : Wake} {env : Env} {c : Child}
    (hc : s.pool.children[r]? = some c) {sc : Scope ConsumerFields} (hsc : s.pool.scope r = some sc)
    {ran : Piece ConsumerFields Registering Nat}
    (hran : Pool.childPiece consumerRole env sc c w = some ran)
    (hchild : s'.pool.children[r]? = some (.started ran.next)) (hruns : s.pool.Runs s'.pool r ran)
    (hloop : loopOf s' r = loopOf s r) : Checked s' r := by
  have hself := (Pool.scope_eq_some.mp hsc).1
  have hnone := loopOf_of_childPiece hs hc hran
  have hplaced := h.child sc.self c hself hnone hc
  have hleads : Closing.Leads (closingOf s r) (s.pool.loopsOf r) ran := by
    rcases Pool.childPiece_cases hran with ⟨rfl, -, rfl⟩ | ⟨k, rfl, hresume⟩
    · exact Closing.create_leads hplaced
    · exact Closing.resume_leads hplaced.1 hplaced.2 hresume
  constructor
  · rw [hruns.log, always_append]
    exact ⟨h.signals, hleads.1⟩
  · intro e c' he _ hc'
    rw [hruns.endpoint, Option.some.injEq] at he
    rw [hchild, Option.some.injEq] at hc'
    subst he hc'
    unfold closingOf
    rw [hruns.log, hruns.loops, replay_append]
    exact hleads.2
  · intro e status _ hstatus
    rw [hloop, hnone] at hstatus
    cases hstatus

theorem Checked.starts (h : Checked s r) (hleaves : s.pool.Leaves s'.pool r) (hnone : loopOf s r = none)
    {id : Nat} (hchild : s.pool.children[r]? = some (.started (.ret id)))
    (hloop : loopOf s' r = some .scheduled) : Checked s' r := by
  have hclosing : closingOf s' r = closingOf s r := by
    unfold closingOf
    rw [hleaves.log]
  constructor
  · rw [hleaves.log]
    exact h.signals
  · intro e c _ hl _
    rw [hloop] at hl
    cases hl
  · intro e status he hstatus
    rw [hloop, Option.some.injEq] at hstatus
    subst hstatus
    rw [hclosing, hleaves.loops]
    exact h.child e _ (hleaves.endpoint ▸ he) hnone hchild

theorem Checked.loop_runs (h : Checked s r) (hs : Sound s) {w : Wake} {env : Env}
    (hopens : env.receiveMessages = none) {status : ReceiveStatus} (hstatus : loopOf s r = some status)
    {sc : Scope ConsumerFields} (hsc : s.pool.scope r = some sc) {a : LoopArgs}
    {ran : Piece ConsumerFields Receiving Unit} (hran : receivePiece env a sc status w = some ran)
    (hruns : s.pool.Runs s'.pool r ran) (hloop : loopOf s' r = some (.started ran.next)) :
    Checked s' r := by
  have hself := (Pool.scope_eq_some.mp hsc).1
  obtain ⟨id, hid⟩ := returned_of_loop hs hstatus
  have hstub := (hs.pool.ready r _ sc.self hid hself).stubRet id rfl
  have hleads := Closing.receivePiece_leads (h.loop sc.self status hself hstatus) hstub hopens hran
  constructor
  · rw [hruns.log, always_append]
    exact ⟨h.signals, hleads.1⟩
  · intro e c _ hl _
    rw [hloop] at hl
    cases hl
  · intro e status' he hstatus'
    rw [hruns.endpoint, Option.some.injEq] at he
    rw [hloop, Option.some.injEq] at hstatus'
    subst he hstatus'
    unfold closingOf
    rw [hruns.log, hruns.loops, replay_append]
    exact hleads.2

theorem Checked.checks (h : Checked s r) (hs : Sound s) {e : TopicConsumer} {l : HealthLoop}
    {position : HealthAt} {log : List Event} {stop : Bool}
    (hchecks : Pool.Checks l e.stopEvent position log stop)
    (hon : s.pool.ChecksOn s'.pool r e l position log stop) (hloop : loopOf s' r = loopOf s r) :
    Checked s' r := by
  obtain ⟨pre, post, hpre, hpost⟩ := hon.loops
  have hsettled := h.settled hs hon.self
  rw [hpre] at hsettled
  obtain ⟨hvalid, hnext⟩ := Closing.checks_settled hsettled (id_eq_closingOf hs hon.self) hchecks
  have hclosing : closingOf s' r = replay Closing.apply (closingOf s r) log := by
    unfold closingOf
    rw [hon.log, replay_append]
  constructor
  · rw [hon.log, always_append]
    exact ⟨h.signals, hvalid⟩
  · intro e' c he' hl hc
    rw [hon.endpoint, Option.some.injEq] at he'
    rw [hloop] at hl
    rw [hon.child] at hc
    have hplaced := h.child e c hon.self hl hc
    rw [hpre] at hplaced
    rw [hclosing, hpost, ← he']
    cases c with
    | scheduled => exact (Closing.Idle.not_checks hplaced hchecks).elim
    | started o =>
      rcases Closing.Placed.idle_or hplaced with hidle | ⟨-, hkeeps⟩
      · exact (hidle.not_checks hchecks).elim
      · exact hkeeps _ _ _ hnext
  · intro e' status he' hstatus
    rw [hon.endpoint, Option.some.injEq] at he'
    have hlooping := h.loop e status hon.self (hloop ▸ hstatus)
    rw [hpre] at hlooping
    rw [hclosing, hpost, ← he']
    rcases hlooping.idle_or with hidle | ⟨-, hkeeps⟩
    · exact (hidle.not_checks hchecks).elim
    · exact hkeeps _ _ _ hnext

theorem touches_checked {l : ConsumerLabel} (hs : Sound s) (hclose : l ≠ .close)
    (hopens : l.OpensStreams) (htouch : Touches s s' r l) (h : Checked s r) : Checked s' r := by
  cases htouch with
  | leaves l hleaves hloop =>
    have hcalm : Closing.Calm [] := by simp [Closing.Calm]
    exact h.aside hcalm (by rw [hleaves.log, List.append_nil]) hleaves.endpoint hleaves.child
      hleaves.loops hloop
  | born w name hnone he hchild hlog hloops hloop =>
    exact checked_born hs hnone he hchild hlog hloops hloop
  | child w env c hc sc hsc ran hran hchild hruns hloop =>
    exact h.child_runs hs hc hsc hran hchild hruns hloop
  | starts hleaves hnone id hchild hloop => exact h.starts hleaves hnone hchild hloop
  | receiving i w env status hstatus sc hsc queue ran hran hchild hruns hloop =>
    exact h.loop_runs hs hopens hstatus hsc hran hruns hloop
  | acks l env text request hrequest sc hsc call hcall he hchild hlog hloops hloop =>
    refine h.aside (fun e he v => ?_) hlog he hchild hloops hloop
    rw [List.mem_singleton.mp he]
    exact ⟨rfl, trivial⟩
  | health task w env e l position log stop hchecks hon hloop => exact h.checks hs hchecks hon hloop
  | close => exact (hclose rfl).elim

/-- At most one health loop goes on and it polls the current id. The CLOSE answers are for the current
id and each of them causes at most one resubscription. -/
structure ClosesOnce (s : ConsumerState) (r : Nat) : Prop where
  polls : ∀ e, s.pool.endpoints[r]? = some e → Closing.unfinished (s.pool.loopsOf r) ≤ 1 ∧
    ∀ l ∈ s.pool.loopsOf r, ¬ l.Finished → l.clientId = e.id
  signals : Always Closing.apply Closing.Valid {} (logOf r s.pool.trace)
  pending : ∀ e, s.pool.endpoints[r]? = some e → e.stopEvent = (closingOf s r).pending

theorem resubscribes_once_per_close {client : Client} {config : ConsumerConfig}
    {ls : List ConsumerLabel} {s : ConsumerState}
    (h : exec step (init client config) ls = some s)
    (honce : ls.countP ConsumerLabel.isReceive = 1) (hclose : ∀ l ∈ ls, l ≠ .close)
    (hopens : ∀ l ∈ ls, l.OpensStreams) (r : Nat) : ClosesOnce s r := by
  have hchecked : Checked s r := exec_partition (L := fun l => l ≠ .close ∧ l.OpensStreams)
    (fun _ _ _ _ hs hl htouch hchecked => touches_checked hs hl.1 hl.2 htouch hchecked)
    (fun _ => ⟨trivial, by simp [init], by simp [init]⟩)
    (fun l hl => ⟨hclose l hl, hopens l hl⟩) (Nat.le_of_eq honce) h r
  have hs := exec_sound h
  refine ⟨fun e he => ?_, hchecked.signals, fun e he => (hchecked.settled hs he).stop⟩
  exact ⟨(hchecked.settled hs he).one, (hchecked.settled hs he).current⟩

/-- The broker closes two subscriptions in a row. -/
def closedTwice : List ConsumerLabel :=
  [.subscribe {}, .partitions (.answer (.topicPartitions ["t"])), .child 0 .start {},
    .child 0 (.answer (.address "a")) {}, .child 0 (.answer (.registered 1)) {}, .gathered,
    .receive, .receiving 0 .start {}, .health 0 .start {}, .health 0 (.answer (.health .close)) {},
    .receiving 0 (.answer .streamEnd) {}, .receiving 0 (.answer (.address "b")) {},
    .receiving 0 (.answer (.registered 2)) {}, .health 1 .start {},
    .health 1 (.answer (.health .close)) {}, .receiving 0 (.fail .unavailable) {}]

theorem closed_twice_resubscribes_twice :
    ∃ s, exec step (init (.init "a" {}) .oneRetry) closedTwice = some s ∧ ClosesOnce s 0 := by
  obtain ⟨s, hs⟩ := Option.isSome_iff_exists.mp
    (by rfl : (exec step (init (.init "a" {}) .oneRetry) closedTwice).isSome)
  exact ⟨s, hs, resubscribes_once_per_close hs (by decide) (by simp [closedTwice])
    (by simp [closedTwice, ConsumerLabel.OpensStreams]) 0⟩

end Consumer

end Danube
