import Danube.Cleanup
import Danube.ProducerTrace
import Danube.Unstopped

/-!
# What a piece makes of the registration

A piece of `create()` or of a send keeps the last registration of its endpoint, or it is woken by the
answer to a new one, and starts the health loop for it.
-/

namespace Danube

open Async

/-- Where the loop polls. -/
def HealthLoop.address (l : HealthLoop) : BrokerAddress := ⟨l.connectUrl, l.brokerAddr, l.proxy⟩

/-- The address fields that a registration was issued with which the wake-up answers. -/
def Registering.answered? : Registering → Wake → Option BrokerAddress
  | .request _ addr _, .reply (.ok (.registered _)) => some addr
  | _, _ => none

def Child.answered? : Child → Wake → Option BrokerAddress
  | .started (.await k), w => k.answered? w
  | _, _ => none

theorem Child.answered?_start (c : Child) : c.answered? .start = none := by
  cases c with
  | scheduled => rfl
  | started o =>
    cases o with
    | await k => cases k <;> rfl
    | _ => rfl

def Sending.answered? : Sending → Wake → Option BrokerAddress
  | .create k, w => k.answered? w
  | _, _ => none

/-- A piece that registers no one and starts no health loop. -/
structure Keeps (log : List Event) : Prop where
  registrations : registrations log = []
  loops : startedLoops log = []

/-- The piece goes on from the answer to a registration that was issued with the address fields
`addr`, and starts at most one loop, with the address fields `e`. -/
def Renewed (e addr : BrokerAddress) (log : List Event) : Prop :=
  ∃ id, (∀ v : View, (replay View.apply v log).registration = some (addr, id)) ∧
    (startedLoops log = [] ∨ ∃ l, startedLoops log = [l] ∧ l.clientId = id ∧ l.address = e)

/-- A piece on an endpoint with the address fields `e`, woken by the answer to a registration that was
issued with the address fields in `answered`, if it was. -/
def Renews (e : BrokerAddress) (answered : Option BrokerAddress) (log : List Event) : Prop :=
  Keeps log ∨ ∃ addr, answered = some addr ∧ Renewed e addr log

theorem keeps_nil : Keeps [] := ⟨rfl, rfl⟩

theorem keeps_backoff (ms : Nat) : Keeps [.backoff ms] := ⟨rfl, rfl⟩

theorem keeps_rpc (call : Call) : Keeps [.rpc call] := ⟨rfl, rfl⟩

theorem Keeps.append {a b : List Event} (ha : Keeps a) (hb : Keeps b) : Keeps (a ++ b) where
  registrations := by simp [ha.registrations, hb.registrations]
  loops := by simp [ha.loops, hb.loops]

theorem Keeps.registration {log : List Event} (h : Keeps log) (v : View) :
    (replay View.apply v log).registration = v.registration := by
  have hnone := List.filterMap_eq_nil_iff.mp h.registrations
  clear h
  induction log generalizing v with
  | nil => rfl
  | cons e es ih =>
    rw [replay_cons, ih _ fun x hx => hnone x (List.mem_cons_of_mem _ hx)]
    cases e with
    | registered addr id => cases hnone _ List.mem_cons_self
    | _ => rfl

theorem Renews.append {e : BrokerAddress} {answered : Option BrokerAddress} {a b : List Event}
    (ha : Renews e answered a) (hb : Keeps b) : Renews e answered (a ++ b) := by
  rcases ha with ha | ⟨addr, haddr, id, hid, hloops⟩
  · exact Or.inl (ha.append hb)
  · refine Or.inr ⟨addr, haddr, id, fun v => ?_, ?_⟩
    · rw [replay_append, hb.registration]
      exact hid v
    · rwa [startedLoops_append, hb.loops, List.append_nil]

/-! ## Events that are no CLOSE -/

theorem Event.Inner.ne_closed {e : Event} (h : e.Inner) (id : Nat) : e ≠ .closed id := by
  rintro rfl
  exact h

theorem SendCall.Attempts.not_closed {env : Env} {sc : Scope ProducerFields} {n : Nat}
    {log : List Event} {o : Outcome Sending Nat Error} (h : SendCall.Attempts env sc n log o)
    (id : Nat) : .closed id ∉ log := by
  cases h <;> simp

theorem SendCall.Resumes.not_closed {call : SendCall} {env : Env} {sc : Scope ProducerFields}
    {c : Client} {k : Sending} {w : Wake} {log : List Event} {o : Outcome Sending Nat Error}
    (h : SendCall.Resumes call env sc c k w log o) (id : Nat) : .closed id ∉ log := by
  cases h with
  | done | failed | notMoved | backoff | exhausted => simp
  | retried n h => exact h.not_closed id
  | moved err rpc response addr haddr h =>
    obtain ⟨o', hlog⟩ := h.callLog
    simpa using hlog.not_closed id
  | creating k w hr hret h =>
    obtain ⟨o', hlog⟩ := h.callLog
    exact hlog.not_closed id
  | created k w hr id' id'' hret inner hinner hlog h =>
    rw [hlog]
    simpa [h.not_closed id] using fun hmem => (hinner _ hmem).ne_closed id rfl

namespace Endpoint

variable {ρ α : Type}

/-- The call returned, or its attempt is registered and resolves the schema. -/
def Past (o : Outcome Registering α Error) : Prop :=
  (∃ a, o = .ret a) ∨ ∃ k, o = .await k ∧ k.resolving

theorem Quiet.keeps {r : Piece ρ Registering α} (h : Quiet r) : Keeps r.log :=
  ⟨h.registrations, h.loops⟩

theorem Quiet.not_past {r : Piece ρ Registering α} (h : Quiet r) : ¬ Past r.next := by
  rintro (⟨a, ha⟩ | ⟨k, hk, hres⟩)
  · rcases h.next with ⟨k, hk, -⟩ | ⟨err, herr⟩
    · cases hk.symm.trans ha
    · cases herr.symm.trans ha
  · rcases h.next with ⟨k', hk', hres'⟩ | ⟨err, herr⟩
    · cases hk'.symm.trans hk
      rw [hres] at hres'
      cases hres'
    · cases herr.symm.trans hk

section Pieces

variable (role : Role ρ) (env : Env)

theorem resolveSchema_keeps (n : Nat) (s : Scope ρ) : Keeps (resolveSchema role env n s).log := by
  by_cases h : LatestRefused role env s
  · exact (resolveSchema_quiet role env h n).keeps
  · have hres := resolveSchema_resolving role env h n
    exact ⟨hres.registrations, hres.loops⟩

theorem registered_renewed (n : Nat) (addr : BrokerAddress) (id : Nat) (s : Scope ρ) :
    Renewed s.self.address addr (registered role env n addr id s).log ∧
      (Past (registered role env n addr id s).next →
        startedLoops (registered role env n addr id s).log ≠ []) := by
  unfold registered checkHealth
  split
  · rename_i c err _
    have hquiet := failed_quiet (α := Nat) env n err { withId id s with client := c }
    refine ⟨⟨id, fun v => hquiet.keeps.registration _, Or.inl hquiet.loops⟩, fun hpast => ?_⟩
    exact (hquiet.not_past hpast).elim
  · rename_i c conn _
    have hkeeps := resolveSchema_keeps role env n (startHealthCheck role conn c (withId id s))
    refine ⟨⟨id, fun v => hkeeps.registration _, Or.inr ⟨healthLoop role conn (withId id s), ?_, rfl, rfl⟩⟩,
      fun _ => ?_⟩
    · exact congrArg (List.cons _) hkeeps.loops
    · exact List.cons_ne_nil _ _

theorem resume_renews {s : Scope ρ} {k : Registering} {w : Wake} {r : Piece ρ Registering Nat}
    (h : resume role env s k w = some r) :
    Renews s.self.address (k.answered? w) r.log ∧
      (Past r.next → k.resolving ∨ startedLoops r.log ≠ []) := by
  rcases resume_cases role env h with ⟨n, addr, call, id, rfl, rfl, rfl⟩ | ⟨hk, -, hr⟩ | ⟨-, hr⟩
  · obtain ⟨hrenewed, hloops⟩ := registered_renewed role env n addr id s
    exact ⟨Or.inr ⟨addr, rfl, hrenewed⟩, fun hpast => Or.inr (hloops hpast)⟩
  · exact ⟨Or.inl ⟨hr.registrations, hr.loops⟩, fun _ => Or.inl hk⟩
  · exact ⟨Or.inl hr.keeps, fun hpast => (hr.not_past hpast).elim⟩

end Pieces

end Endpoint

/-! ## The pieces of a coroutine and of a send -/

theorem Pool.childPiece_renews {ρ : Type} {role : Role ρ} {env : Env} {s : Scope ρ} {c : Child}
    {w : Wake} {r : Piece ρ Registering Nat} (h : Pool.childPiece role env s c w = some r) :
    Renews s.self.address (c.answered? w) r.log ∧
      (Endpoint.Past r.next → (∃ k, c = .started (.await k) ∧ k.resolving) ∨
        startedLoops r.log ≠ []) := by
  rcases Pool.childPiece_cases h with ⟨-, -, rfl⟩ | ⟨k, rfl, hresume⟩
  · have hquiet := Endpoint.create_quiet (α := Nat) role env s
    exact ⟨Or.inl hquiet.keeps, fun hpast => (hquiet.not_past hpast).elim⟩
  · obtain ⟨hrenews, hpast⟩ := Endpoint.resume_renews role env hresume
    exact ⟨hrenews, fun hp => (hpast hp).imp_left fun hk => ⟨k, rfl, hk⟩⟩

namespace SendCall

variable {call : SendCall} {env : Env} {s : Scope ProducerFields}

theorem Attempts.keeps {n : Nat} {log : List Event} {o : Outcome Sending Nat Error}
    (h : Attempts env s n log o) : Keeps log := by
  cases h with
  | issued rpc => exact keeps_rpc rpc
  | refused => exact keeps_nil

theorem recreateProducer_keeps (s : Scope ProducerFields) : Keeps (recreateProducer env s).log := by
  have hkeeps := (Endpoint.create_quiet (α := Empty) producerRole env s).keeps
  unfold recreateProducer TopicProducer.create Ran.andThen
  split
  · exact hkeeps
  · rename_i x _
    exact x.elim
  · exact hkeeps.append keeps_nil

theorem caught_keeps (n : Nat) (err : RpcError) (s : Scope ProducerFields) :
    Keeps (caught env call n (.rpc err) s).log := by
  unfold caught
  dsimp only
  split
  · split
    · unfold lookupAndRecreate
      split
      · exact keeps_rpc _
      · exact keeps_nil
    · exact keeps_backoff _
  · exact keeps_nil

theorem resume_renews {k : Sending} {w : Wake} {r : Piece ProducerFields Sending Nat}
    (hs : s.self.stub ≠ none) (h : call.resume env s k w = some r) :
    Renews s.self.address (k.answered? w) r.log := by
  cases resumption h with
  | answered | notMoved | lookupFailed => exact Or.inl keeps_nil
  | failed n rpc err => exact Or.inl (caught_keeps n err s)
  | slept n => exact Or.inl (attempt_spec n hs).keeps
  | moved => exact Or.inl (Keeps.append ⟨rfl, rfl⟩ (recreateProducer_keeps _))
  | creating k w r' hr' =>
    obtain ⟨hrenews, -⟩ := Endpoint.resume_renews producerRole env hr'
    have hshaped := Endpoint.resume_shaped producerRole env (fun _ => hs) hr'
    unfold recreated Ran.andThen
    split
    · exact hrenews
    · rename_i id hid
      exact hrenews.append (attempt_spec 0 (hshaped.stubRet id hid)).keeps
    · exact hrenews.append keeps_nil

end SendCall

end Danube
