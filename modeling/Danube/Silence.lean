import Danube.EndpointMoves
import Danube.Async.Past

/-!
# The end of health checks

A `stop_event` that is set ends the health loops of its endpoint. A producer never clears it. A receive
loop clears it when it subscribes again.
-/

namespace Danube

open Async

def Request.isHealthCheck : Request → Bool
  | .healthCheck .. => true
  | _ => false

/-- An event that comes with the setting of the stop event. -/
def Event.stops : Event → Bool
  | .stopped | .closed _ => true
  | _ => false

/-- The stop event after an event. -/
def Event.halts (halted : Bool) : Event → Bool
  | .stopped | .closed _ => true
  | .cleared => false
  | _ => halted

/-- Whether the stop event was set and not cleared since. -/
def halted (log : List Event) : Bool := replay Event.halts false log

theorem Event.halts_of_stops {e : Event} (h : e.stops = true) (halted : Bool) :
    Event.halts halted e = true := by
  cases e <;> first | rfl | cases h

theorem replay_halts {log : List Event} (h : .cleared ∉ log) : replay Event.halts true log = true := by
  refine replay_eq_self fun e he => ?_
  cases e with
  | cleared => exact (h he).elim
  | _ => rfl

theorem halted_after {before mid : List Event} {e : Event} (he : e.stops = true)
    (hmid : .cleared ∉ mid) : halted (before ++ e :: mid) = true := by
  unfold halted
  rw [replay_append, replay_cons, Event.halts_of_stops he, replay_halts hmid]

variable {ρ : Type}

/-- The stop event of the endpoint is what its journal says, no health check is issued while it is set,
and only a receive loop clears it, just before it subscribes again. -/
structure Silent (role : Role ρ) (e : Endpoint ρ) (log : List Event) : Prop where
  stopEvent : e.stopEvent = halted log
  calls : Throughout (fun before x => ∀ call, x = .rpc call → call.request.isHealthCheck = true →
    halted before = false) log
  cleared : Followed .cleared .resubscribing log
  producer : role.clientType = .producer → .cleared ∉ log

theorem SchemaReference.Asks.not_healthCheck {ref : SchemaReference} {request : Request}
    (h : ref.Asks request) : request.isHealthCheck = false := by
  cases request <;> first | rfl | cases h

theorem Request.ack_not_healthCheck {request : Request} (h : request.isAck) :
    request.isHealthCheck = false := by
  cases request <;> first | rfl | cases h

theorem Role.request_not_healthCheck (role : Role ρ) (e : Endpoint ρ) :
    (role.request e).isHealthCheck = false := by
  rcases role.registers e with ⟨r, hr⟩ | ⟨r, hr⟩ <;> rw [hr] <;> rfl

namespace Silent

variable {role : Role ρ} {e e' : Endpoint ρ} {log new : List Event}

theorem append (h : Silent role e log) (hstop : e'.stopEvent = replay Event.halts e.stopEvent new)
    (hcalls : ∀ call, .rpc call ∈ new → call.request.isHealthCheck = false)
    (hcleared : Followed .cleared .resubscribing new)
    (hproducer : role.clientType = .producer → .cleared ∉ new) : Silent role e' (log ++ new) where
  stopEvent := by rw [hstop, h.stopEvent, halted, halted, replay_append]
  calls := by
    rintro before x after hsplit call rfl hcall
    rcases List.append_eq_append_iff.mp hsplit with ⟨m, rfl, hm⟩ | ⟨m, rfl, hm⟩
    · rw [hcalls call (by simp [hm])] at hcall
      cases hcall
    · cases m with
      | nil =>
        obtain rfl : .rpc call :: after = new := hm
        rw [hcalls call List.mem_cons_self] at hcall
        cases hcall
      | cons y m =>
        obtain ⟨rfl, rfl⟩ := List.cons.inj hm
        exact h.calls before _ m rfl call rfl hcall
  cleared := h.cleared.append hcleared
  producer hrole hmem := (List.mem_append.mp hmem).elim (h.producer hrole) (hproducer hrole)

theorem say (h : Silent role e log) {x : Event} (hx : ∀ b, Event.halts b x = b)
    (hcall : ∀ call, x = .rpc call → call.request.isHealthCheck = false) :
    Silent role e (log ++ [x]) := by
  have hne : Event.cleared ∉ [x] := by
    rintro hmem
    have hkept := hx true
    rw [← List.mem_singleton.mp hmem] at hkept
    cases hkept
  exact h.append (hx _).symm (fun call hmem => hcall call (List.mem_singleton.mp hmem).symm)
    (followed_of_not_mem hne) fun _ => hne

theorem check (h : Silent role e log) (hstop : e.stopEvent = false) (call : Call) :
    Silent role e (log ++ [.rpc call]) where
  stopEvent := by
    rw [h.stopEvent, halted, halted, replay_append]
    rfl
  calls := throughout_snoc.mpr ⟨h.calls, fun _ _ _ => h.stopEvent.symm.trans hstop⟩
  cleared := h.cleared.append (followed_of_not_mem (by simp))
  producer hrole hmem := by
    rcases List.mem_append.mp hmem with hmem | hmem
    · exact h.producer hrole hmem
    · simp at hmem

theorem same (h : Silent role e log) (hstop : e'.stopEvent = e.stopEvent) : Silent role e' log where
  stopEvent := hstop.trans h.stopEvent
  calls := h.calls
  cleared := h.cleared
  producer := h.producer

end Silent

theorem act_silent {role : Role ρ} {env : Env} {s s' : Scope ρ} {log new : List Event}
    (h : Silent role s.self log) (hact : Endpoint.Act role env s new s') :
    Silent role s'.self (log ++ new) := by
  cases hact with
  | remark x hx =>
    refine h.say ?_ ?_
    · intro b
      cases x <;> first | rfl | cases hx
    · rintro call rfl
      cases hx
  | lookup c conn metadata hprepare => exact h.say (fun _ => rfl) fun call hx => by cases hx; rfl
  | registry c conn metadata ref href request hrequest hprepare =>
    refine h.say (fun _ => rfl) fun call hx => ?_
    cases hx
    exact hrequest.not_healthCheck
  | unprepared | unconnected | skip | setSchema =>
    rw [List.append_nil]
    exact h.same rfl
  | moved | connect | registered | startHealthCheck =>
    exact (h.say (fun _ => rfl) fun call hx => by cases hx).same rfl
  | register c conn metadata hconn hmetadata =>
    refine h.append rfl (fun call hcall => ?_) (followed_of_not_mem (by simp)) fun _ => by simp
    -- The registration is the only RPC of the two events.
    obtain rfl : call = _ := by simpa using hcall
    exact role.request_not_healthCheck s.self
  | stream conn metadata request hstub hmetadata hrequest =>
    refine (h.say (fun _ => rfl) fun call hx => ?_).same rfl
    cases hx
    rcases hrequest with ⟨m, rfl, -⟩ | ⟨rfl, -⟩ <;> rfl
  | clearStop hrole =>
    -- The stop event is cleared, and `subscribe()` is called right after. A producer never does it.
    refine h.append rfl (by simp) ?_ fun hproducer => ?_
    · intro a b hsplit
      cases a with
      | nil =>
        cases hsplit
        exact ⟨[], rfl⟩
      | cons x a => cases a <;> simp at hsplit
    · rw [hrole] at hproducer
      cases hproducer

theorem touch_silent {role : Role ρ} {env : Env} {c c' : Client} {loops : List HealthLoop} {r : Nat}
    {e e' : Endpoint ρ} {log new : List Event} (h : Silent role e log)
    (ht : Pool.Touch role acks env c loops c' r e new e') : Silent role e' (log ++ new) := by
  cases ht with
  | idle =>
    rw [List.append_nil]
    exact h
  | act s s' _ href hclient hclient' hact => exact act_silent h hact
  | poll _ l metadata hl howner hstop hmetadata => exact h.check hstop _
  | close | stop =>
    exact h.append rfl (by simp) (followed_of_not_mem (by simp)) fun _ => by simp
  | ack _ conn metadata request hrequest hacks hrole hstub hmetadata =>
    refine h.say (fun _ => rfl) fun call hx => ?_
    cases hx
    exact Request.ack_not_healthCheck hrequest

theorem fresh_silent {role : Role ρ} {e : Endpoint ρ} (hstop : e.stopEvent = false) :
    Silent role e [] where
  stopEvent := hstop
  calls := throughout_nil
  cleared := followed_of_not_mem (by simp)
  producer := by simp

/-- A health check that follows a CLOSE or a `stop()` has a clearing of the stop event in between, and
`subscribe()` is called right after it. -/
theorem Silent.cleared_between {role : Role ρ} {e : Endpoint ρ} {log before mid after : List Event}
    {x : Event} {call : Call} (h : Silent role e log)
    (hlog : log = before ++ x :: mid ++ .rpc call :: after) (hx : x.stops = true)
    (hcall : call.request.isHealthCheck = true) : [.cleared, .resubscribing] <:+: mid := by
  have hrunning := h.calls _ _ _ hlog call rfl hcall
  have hmem : .cleared ∈ mid := by
    by_contra hnone
    rw [halted_after hx hnone] at hrunning
    cases hrunning
  obtain ⟨a, b, rfl⟩ := List.append_of_mem hmem
  obtain ⟨c, hc⟩ := h.cleared (before ++ x :: a) (b ++ .rpc call :: after) (by simp [hlog])
  -- What follows the clearing is not the health check.
  cases b with
  | nil => cases hc
  | cons y b =>
    obtain rfl := (List.cons.inj hc).1
    exact ⟨a, b, by simp⟩

namespace Session

variable {s : Session} {uri : String} {options : List OptionsCall} {ls : List SessionLabel}

theorem producers_silent (h : exec step (init uri options) ls = some s) :
    ∀ p ∈ s.producers, (p.withClient s.client).pool.Each fun _ => Silent producerRole := by
  refine producers_each (I := fun _ _ => Silent producerRole) ?_ (fun _ _ _ _ _ _ hI => hI)
    (fun _ _ _ _ _ _ _ _ _ _ _ hI _ ht => touch_silent hI ht) h
  rintro config c e ⟨i, hi, rfl⟩
  exact fresh_silent rfl

theorem consumers_silent (h : exec step (init uri options) ls = some s) :
    ∀ p ∈ s.consumers, (p.withClient s.client).pool.Each fun _ => Silent consumerRole := by
  refine consumers_each (I := fun _ _ => Silent consumerRole) ?_ (fun _ _ _ _ _ _ hI => hI)
    (fun _ _ _ _ _ _ _ _ _ _ _ hI _ ht => touch_silent hI ht) h
  rintro config c e ⟨partition, rfl⟩
  exact fresh_silent rfl

/-- In every run no health check is issued for a `TopicProducer` after `stop()` was called on it or one
of its health checks was answered CLOSE, not even by the loops of later recreations: its stop event stays
set. -/
theorem closed_producers_unchecked (h : exec step (init uri options) ls = some s) :
    ∀ p ∈ s.producers, ∀ r before x after, logOf r p.pool.trace = before ++ x :: after →
      x.stops = true → (∃ e, p.pool.endpoints[r]? = some e ∧ e.stopEvent = true) ∧
      ∀ call, .rpc call ∈ after → call.request.isHealthCheck = false := by
  intro p hp r before x after hlog hx
  have heach := producers_silent h p hp
  cases he : p.pool.endpoints[r]? with
  | none =>
    have hnone : logOf r p.pool.trace = [] := heach.fresh r he
    simp [hnone] at hlog
  | some e =>
    have hsilent : Silent producerRole e (logOf r p.pool.trace) := heach.each r e he
    have hkept : .cleared ∉ logOf r p.pool.trace := hsilent.producer rfl
    rw [hlog] at hkept
    refine ⟨⟨e, rfl, ?_⟩, fun call hcall => ?_⟩
    · rw [hsilent.stopEvent, hlog]
      exact halted_after hx fun hmem => hkept (by simp [hmem])
    · by_contra hcheck
      obtain ⟨mid, rest, rfl⟩ := List.append_of_mem hcall
      have hsplit : logOf r p.pool.trace = before ++ x :: mid ++ .rpc call :: rest := by simp [hlog]
      have hbetween := hsilent.cleared_between hsplit hx (by simpa using hcheck)
      have hmem : .cleared ∈ mid := hbetween.subset List.mem_cons_self
      exact hkept (by simp [hmem])

theorem recreated_unchecked : ∃ s, exec step (init "a" []) closedThenRecreated = some s ∧
    ∀ p ∈ s.producers, ∀ r before x after, logOf r p.pool.trace = before ++ x :: after →
      x.stops = true → (∃ e, p.pool.endpoints[r]? = some e ∧ e.stopEvent = true) ∧
      ∀ call, .rpc call ∈ after → call.request.isHealthCheck = false := by
  obtain ⟨s, hs⟩ := Option.isSome_iff_exists.mp
    (by rfl : (exec step (init "a" []) closedThenRecreated).isSome)
  exact ⟨s, hs, closed_producers_unchecked hs⟩

/-- In every run the stop event of a `TopicConsumer` is set exactly while its last `stop()` or CLOSE was
not followed by a clearing, and a health check that is issued for it after a `stop()` or a CLOSE comes
after its receive loop cleared the stop event and subscribed again. -/
theorem closed_consumers_resubscribe_first (h : exec step (init uri options) ls = some s) :
    ∀ p ∈ s.consumers, ∀ r,
      (∀ e, p.pool.endpoints[r]? = some e → e.stopEvent = halted (logOf r p.pool.trace)) ∧
      ∀ before x mid call after, logOf r p.pool.trace = before ++ x :: mid ++ .rpc call :: after →
        x.stops = true → call.request.isHealthCheck = true → [.cleared, .resubscribing] <:+: mid := by
  intro p hp r
  have heach := consumers_silent h p hp
  refine ⟨fun e he => (heach.each r e he).stopEvent, fun before x mid call after hlog hx hcall => ?_⟩
  cases he : p.pool.endpoints[r]? with
  | none =>
    have hnone : logOf r p.pool.trace = [] := heach.fresh r he
    simp [hnone] at hlog
  | some e => exact (heach.each r e he).cleared_between hlog hx hcall

theorem resubscribed_then_checked : ∃ s, exec step (init "a" []) closedThenResubscribed = some s ∧
    ∀ p ∈ s.consumers, ∀ r,
      (∀ e, p.pool.endpoints[r]? = some e → e.stopEvent = halted (logOf r p.pool.trace)) ∧
      ∀ before x mid call after, logOf r p.pool.trace = before ++ x :: mid ++ .rpc call :: after →
        x.stops = true → call.request.isHealthCheck = true → [.cleared, .resubscribing] <:+: mid := by
  obtain ⟨s, hs⟩ := Option.isSome_iff_exists.mp
    (by rfl : (exec step (init "a" []) closedThenResubscribed).isSome)
  exact ⟨s, hs, closed_consumers_resubscribe_first hs⟩

end Session

end Danube
