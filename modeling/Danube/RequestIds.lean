import Danube.EndpointMoves
import Danube.Async.Numbering

/-!
# Request ids

The discovery service and the health check service each count the requests of a client, and each
`TopicProducer` and `TopicConsumer` counts its own.
-/

namespace Danube

open Async

/-- The number that a request takes from the counter of the discovery service. -/
def Request.lookupId? : Request → Option Nat
  | .topicLookup n _ | .topicPartitions n _ => some n
  | _ => none

/-- The number that a request takes from the counter of the health check service. -/
def Request.healthId? : Request → Option Nat
  | .healthCheck n _ _ => some n
  | _ => none

def Call.lookupId? (call : Call) : Option Nat := call.request.lookupId?

def Call.healthId? (call : Call) : Option Nat := call.request.healthId?

/-- The number that an event took from the counter of its endpoint. -/
def Event.ownId? (e : Event) : Option Nat := e.call?.bind fun call => call.request.ownId?

/-- The RPCs got their numbers from the counters of the client, which is `c` before and `c'` after. -/
structure Client.Numbers (c : Client) (calls : List Call) (c' : Client) : Prop where
  lookups : Counts Call.lookupId? c.lookupRequestId calls c'.lookupRequestId
  checks : Draws Call.healthId? c.healthRequestId calls c'.healthRequestId

namespace Client

variable {c c' d : Client} {calls : List Call}

theorem Numbers.trans {more : List Call} (h : c.Numbers calls d) (k : d.Numbers more c') :
    c.Numbers (calls ++ more) c' := ⟨h.lookups.trans k.lookups, h.checks.trans k.checks⟩

theorem numbers_same (hlookup : c'.lookupRequestId = c.lookupRequestId)
    (hhealth : c'.healthRequestId = c.healthRequestId)
    (hcalls : ∀ call ∈ calls, call.lookupId? = none ∧ call.healthId? = none) : c.Numbers calls c' := by
  have hlookups : numbers Call.lookupId? calls = [] :=
    List.filterMap_eq_nil_iff.mpr fun call h => (hcalls call h).1
  have hchecks : numbers Call.healthId? calls = [] :=
    List.filterMap_eq_nil_iff.mpr fun call h => (hcalls call h).2
  constructor
  · rw [hlookup]
    exact .refl hlookups
  · rw [hhealth]
    exact .refl hchecks

theorem numbers_lookup {call : Call} (hcall : call.lookupId? = some c.lookupRequestId)
    (hlookup : c'.lookupRequestId = c.lookupRequestId + 1)
    (hhealth : c'.healthRequestId = c.healthRequestId) (hcheck : call.healthId? = none) :
    c.Numbers [call] c' := by
  constructor
  · rw [hlookup]
    exact .one (by simp [numbers, hcall])
  · rw [hhealth]
    exact .refl (by simp [numbers, hcheck])

theorem prepare_counters {out : Outside} {addr : String}
    {x : Except Error (RpcConnection × Option Metadata)} (h : c.prepare out addr = (c', x)) :
    c'.lookupRequestId = c.lookupRequestId ∧ c'.healthRequestId = c.healthRequestId := by
  unfold prepare getConnection at h
  dsimp only at h
  split at h
  · rename_i heq
    obtain ⟨rfl, -⟩ := Prod.mk.inj heq
    cases h
    exact ⟨rfl, rfl⟩
  · rename_i heq
    obtain ⟨rfl, -⟩ := Prod.mk.inj heq
    split at h <;> cases h <;> exact ⟨rfl, rfl⟩

theorem getConnection_counters {out : Outside} {b u : String} {x : Except Error RpcConnection}
    (h : c.getConnection out b u = (c', x)) :
    c'.lookupRequestId = c.lookupRequestId ∧ c'.healthRequestId = c.healthRequestId := by
  cases h
  exact ⟨rfl, rfl⟩

end Client

theorem Role.request_ids {ρ : Type} (role : Role ρ) (e : Endpoint ρ) :
    (role.request e).lookupId? = none ∧ (role.request e).healthId? = none := by
  rcases role.registers e with ⟨r, hr⟩ | ⟨r, hr⟩ <;> rw [hr] <;> exact ⟨rfl, rfl⟩

theorem SchemaReference.Asks.ids {ref : SchemaReference} {request : Request} (h : ref.Asks request) :
    request.lookupId? = none ∧ request.healthId? = none ∧ request.ownId? = none := by
  unfold SchemaReference.Asks at h
  split at h
  · exact ⟨rfl, rfl, rfl⟩
  · exact ⟨rfl, rfl, rfl⟩
  · cases h

theorem Request.ack_ids {request : Request} (h : request.isAck) :
    request.lookupId? = none ∧ request.healthId? = none ∧ request.ownId? = none := by
  unfold isAck at h
  split at h
  · exact ⟨rfl, rfl, rfl⟩
  · exact ⟨rfl, rfl, rfl⟩
  · cases h

theorem Event.Remark.call? {e : Event} (h : e.Remark) : e.call? = none := by
  unfold Event.call?
  split
  · cases h
  · rfl

namespace Endpoint

variable {ρ : Type} {role : Role ρ} {env : Env} {s s' : Scope ρ} {log : List Event}

theorem Act.numbers (h : Act role env s log s') : s.client.Numbers (callsOf log) s'.client := by
  cases h with
  | remark e he =>
    have hcalls : callsOf [e] = [] := by simp [callsOf, he.call?]
    rw [hcalls]
    exact Client.numbers_same rfl rfl (by simp)
  | moved | skip | registered | setSchema | clearStop =>
    exact Client.numbers_same rfl rfl (by simp [callsOf, Event.call?])
  | lookup c conn metadata h =>
    obtain ⟨hlookup, hhealth⟩ := Client.prepare_counters h
    exact Client.numbers_lookup (congrArg some hlookup) (congrArg (· + 1) hlookup) hhealth rfl
  | registry c conn metadata ref href request hrequest h =>
    obtain ⟨hlookup, hhealth⟩ := Client.prepare_counters h
    obtain ⟨hl, hc, -⟩ := hrequest.ids
    exact Client.numbers_same hlookup hhealth (by
      simp [callsOf, Event.call?, Call.lookupId?, Call.healthId?, hl, hc])
  | unprepared out addr c err h =>
    obtain ⟨hlookup, hhealth⟩ := Client.prepare_counters h
    exact Client.numbers_same hlookup hhealth (by simp)
  | connect c conn h | startHealthCheck c conn h =>
    obtain ⟨hlookup, hhealth⟩ := Client.getConnection_counters h
    exact Client.numbers_same hlookup hhealth (by simp [callsOf, Event.call?])
  | unconnected out c err h =>
    obtain ⟨hlookup, hhealth⟩ := Client.getConnection_counters h
    exact Client.numbers_same hlookup hhealth (by simp)
  | register c conn metadata h hmetadata =>
    obtain ⟨hlookup, hhealth⟩ := Client.getConnection_counters h
    obtain ⟨hl, hc⟩ := role.request_ids s.self
    exact Client.numbers_same hlookup hhealth (by
      simp [callsOf, Event.call?, Call.lookupId?, Call.healthId?, hl, hc])
  | stream conn metadata request hstub hmetadata hrequest =>
    have hids : request.lookupId? = none ∧ request.healthId? = none := by
      rcases hrequest with ⟨m, rfl, -⟩ | ⟨rfl, -⟩ <;> exact ⟨rfl, rfl⟩
    exact Client.numbers_same rfl rfl (by
      simp [callsOf, Event.call?, Call.lookupId?, Call.healthId?, hids])

end Endpoint

namespace Pool

variable {ρ : Type} {role : Role ρ} {born : String → Endpoint ρ → Prop} {acks : Request → Prop} {env : Env} {p q : Pool ρ}
  {calls : List Call}

theorem Move.numbers (h : Move role born acks env p calls q) : p.client.Numbers calls q.client := by
  cases h with
  | children | alloc | leave | close | answer => exact Client.numbers_same rfl rfl (by simp)
  | act s s' actor log hs h =>
    obtain ⟨-, hclient, -⟩ := scope_eq_some.mp hs
    have hnumbers := h.numbers
    rw [hclient] at hnumbers
    exact hnumbers
  | poll task l e metadata hl he hstop hmetadata call hcall =>
    subst hcall
    constructor
    · exact .refl rfl
    · exact .one rfl
  | refuse task l e hl he hstop =>
    constructor
    · exact .refl rfl
    · -- The number is taken, and no RPC has it.
      exact .gap (Nat.le_succ _) rfl
  | stop ref =>
    unfold Pool.stop
    split <;> exact Client.numbers_same rfl rfl (by simp)
  | ack s conn metadata request hs hstub hmetadata hrequest hacks hrole call hcall =>
    subst hcall
    obtain ⟨hl, hc, -⟩ := Request.ack_ids hrequest
    exact Client.numbers_same rfl rfl (by simp [Call.lookupId?, Call.healthId?, hl, hc])
  | partitions c conn metadata topic h =>
    obtain ⟨hlookup, hhealth⟩ := Client.prepare_counters h
    exact Client.numbers_lookup (congrArg some hlookup) (congrArg (· + 1) hlookup) hhealth rfl
  | unprepared c err h =>
    obtain ⟨hlookup, hhealth⟩ := Client.prepare_counters h
    exact Client.numbers_same hlookup hhealth (by simp)

theorem Moves.numbers (h : Moves role born acks env p calls q) : p.client.Numbers calls q.client :=
  Acts.spec (J := fun p calls q => p.client.Numbers calls q.client)
    (fun _ => Client.numbers_same rfl rfl (by simp)) (fun _ _ _ h => h.numbers)
    (fun _ _ _ _ _ h k => h.trans k) h

/-- What an endpoint was counted up to, and the numbers in its journal. -/
def OwnIds {ρ : Type} (e : Endpoint ρ) (log : List Event) : Prop :=
  Draws Event.ownId? 1 log e.requestId

theorem act_ownIds (hrole : ∀ e, (role.request e).ownId? = some e.requestId) {s s' : Scope ρ}
    {log : List Event} (h : Endpoint.Act role env s log s') :
    Draws Event.ownId? s.self.requestId log s'.self.requestId := by
  cases h with
  | remark e he => exact .refl (by simp [numbers, Event.ownId?, he.call?])
  | moved | unprepared | connect | unconnected | registered | setSchema | clearStop |
      startHealthCheck => exact .refl rfl
  | skip => exact .gap (Nat.le_succ _) rfl
  | lookup => exact .refl rfl
  | registry c conn metadata ref href request hrequest h =>
    obtain ⟨-, -, howns⟩ := hrequest.ids
    exact .refl (by simp [numbers, Event.ownId?, Event.call?, howns])
  | register c conn metadata h hmetadata =>
    have hid := hrole s.self
    exact .one (by simp [numbers, List.filterMap_cons, Event.ownId?, Event.call?, hid])
  | stream conn metadata request hstub hmetadata hrequest =>
    have hid : request.ownId? = some s.self.requestId := by
      rcases hrequest with ⟨m, rfl, hm, -⟩ | ⟨rfl, -⟩
      · exact congrArg some hm.requestId
      · rfl
    exact .one (by simp [numbers, Event.ownId?, Event.call?, hid])

theorem touch_ownIds (hrole : ∀ e, (role.request e).ownId? = some e.requestId) {c c' : Client}
    {loops : List HealthLoop} {r : Nat} {e e' : Endpoint ρ} {log new : List Event} (hlog : OwnIds e log)
    (h : Touch role acks env c loops c' r e new e') : OwnIds e' (log ++ new) := by
  unfold OwnIds at hlog ⊢
  cases h with
  | idle => exact hlog.trans (.refl rfl)
  | act s s' _ href hclient hclient' h => exact hlog.trans (act_ownIds hrole h)
  | poll | close | stop => exact hlog.trans (.refl rfl)
  | ack _ conn metadata request hrequest hacks hrole hstub hmetadata =>
    obtain ⟨-, -, howns⟩ := Request.ack_ids hrequest
    exact hlog.trans (.refl (by simp [numbers, Event.ownId?, Event.call?, howns]))

theorem Each.ownIds_increase {I : Client → Endpoint ρ → List Event → Prop} (h : p.Each I)
    (hI : ∀ c e log, I c e log → OwnIds e log) (r : Nat) :
    (numbers Event.ownId? (logOf r p.trace)).Pairwise (· < ·) := by
  cases he : p.endpoints[r]? with
  | none => simp [h.fresh r he]
  | some e => exact (hI _ _ _ (h.each r e he)).increasing

end Pool

/-! ## The runs of a session -/

namespace Session

variable {s s' : Session} {uri : String} {options : List OptionsCall} {ls : List SessionLabel}

theorem start_numbers {operation : RegistryOperation} {out : Outside} {c c' : Client} {t : RegistryTask}
    (h : RegistryTask.start operation out c = (c', t)) : c.Numbers [] c' := by
  cases RegistryTask.started h with
  | refused err hrequest => exact Client.numbers_same rfl rfl (by simp)
  | failed request hrequest d err hprepare =>
    obtain ⟨hlookup, hhealth⟩ := Client.prepare_counters hprepare
    exact Client.numbers_same hlookup hhealth (by simp)
  | issued request hrequest d conn metadata hprepare =>
    obtain ⟨hlookup, hhealth⟩ := Client.prepare_counters hprepare
    exact Client.numbers_same hlookup hhealth (by simp)

theorem Stepped.numbers {l : SessionLabel} (h : s.Stepped l s') :
    ∃ calls, s'.calls = s.calls ++ calls ∧ s.client.Numbers calls s'.client := by
  cases h with
  | options | newProducer | noProducer | newConsumer | noConsumer | answer =>
    exact ⟨[], by simp, Client.numbers_same rfl rfl (by simp)⟩
  | producer i l p p' hp hstep => exact ⟨_, rfl, (producer_moves hstep).numbers⟩
  | consumer i l p p' hp hstep => exact ⟨_, rfl, (consumer_moves hstep).numbers⟩
  | registry operation env c t hstart => exact ⟨[], by simp, start_numbers hstart⟩

/-- In every run the lookups of all producers and consumers, and the requests for partitions, are
numbered 1, 2, 3, ... without a gap, and the numbers of the health checks increase. -/
theorem client_ids_in_order (h : exec step (init uri options) ls = some s) :
    numbers Call.lookupId? s.calls = List.range' 1 (s.client.lookupRequestId - 1) ∧
      (numbers Call.healthId? s.calls).Pairwise (· < ·) := by
  have hnumbers : (init uri options).client.Numbers s.calls s.client := by
    refine exec_invariant (P := fun s => (init uri options).client.Numbers s.calls s.client)
      (fun s l s' hs hstep => ?_) (Client.numbers_same rfl rfl (by simp [init])) h
    obtain ⟨calls, hcalls, hnew⟩ := (stepped hstep).numbers
    rw [hcalls]
    exact hs.trans hnew
  exact ⟨hnumbers.lookups.all, hnumbers.checks.increasing⟩

theorem interleaved_ids_in_order : ∃ s, exec step (init "a" []) interleaved = some s ∧
    numbers Call.lookupId? s.calls = List.range' 1 (s.client.lookupRequestId - 1) ∧
    (numbers Call.healthId? s.calls).Pairwise (· < ·) := by
  obtain ⟨s, hs⟩ := Option.isSome_iff_exists.mp (by rfl : (exec step (init "a" []) interleaved).isSome)
  exact ⟨s, hs, client_ids_in_order hs⟩

/-- In every run no `TopicProducer` and no `TopicConsumer` uses a request id twice, whatever sends,
recreations and resubscriptions overlap: the ids of its RPCs increase. -/
theorem own_ids_increase (h : exec step (init uri options) ls = some s) :
    (∀ p ∈ s.producers, ∀ r, (numbers Event.ownId? (logOf r p.pool.trace)).Pairwise (· < ·)) ∧
      ∀ p ∈ s.consumers, ∀ r, (numbers Event.ownId? (logOf r p.pool.trace)).Pairwise (· < ·) := by
  constructor
  · intro p hp r
    refine Pool.Each.ownIds_increase (producers_each (I := fun _ _ => Pool.OwnIds) ?_ ?_ ?_ h p hp)
      (fun _ _ _ hI => hI) r
    · rintro config c e ⟨i, -, rfl⟩
      exact .refl rfl
    · exact fun _ _ _ _ _ _ hI => hI
    · exact fun _ _ _ _ _ _ _ _ _ _ _ hI _ ht => Pool.touch_ownIds (fun _ => rfl) hI ht
  · intro p hp r
    refine Pool.Each.ownIds_increase (consumers_each (I := fun _ _ => Pool.OwnIds) ?_ ?_ ?_ h p hp)
      (fun _ _ _ hI => hI) r
    · rintro config c e ⟨name, rfl⟩
      exact .refl rfl
    · exact fun _ _ _ _ _ _ hI => hI
    · exact fun _ _ _ _ _ _ _ _ _ _ _ hI _ ht => Pool.touch_ownIds (fun _ => rfl) hI ht

theorem interleaved_own_ids : ∃ s, exec step (init "a" []) interleaved = some s ∧
    (∀ p ∈ s.producers, ∀ r, (numbers Event.ownId? (logOf r p.pool.trace)).Pairwise (· < ·)) ∧
    ∀ p ∈ s.consumers, ∀ r, (numbers Event.ownId? (logOf r p.pool.trace)).Pairwise (· < ·) := by
  obtain ⟨s, hs⟩ := Option.isSome_iff_exists.mp (by rfl : (exec step (init "a" []) interleaved).isSome)
  exact ⟨s, hs, own_ids_increase hs⟩

end Session

end Danube
