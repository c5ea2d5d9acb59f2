import Danube.Journaled
import Danube.Async.Runs

/-!
# One call of `create()` or `subscribe()`

What its pieces write, where they leave the call, and how often it can be resumed.
-/

namespace Danube

open Async

variable {ρ α : Type}

/-- The ids that the broker gave out. -/
def Event.registeredId? : Event → Option Nat
  | .registered _ id => some id
  | _ => none

def registrations (log : List Event) : List Nat := log.filterMap Event.registeredId?

@[simp] theorem registrations_nil : registrations [] = [] := rfl

@[simp] theorem registrations_append (a b : List Event) :
    registrations (a ++ b) = registrations a ++ registrations b := List.filterMap_append

/-- The attempt is registered and waits for its schema. -/
def Registering.resolving : Registering → Bool
  | .latest .. | .pinned .. => true
  | _ => false

/-! ## What the pieces write -/

/-- The RPCs of a registration. -/
def Request.registering : Request → Bool
  | .topicLookup .. | .createProducer _ | .subscribe _ | .getLatestSchema _ | .getSchema .. => true
  | _ => false

/-- The events inside a call. -/
def Event.Inner : Event → Prop
  | .rpc call => call.request.registering
  | .moved _ | .connected .. | .registered .. | .healthStarted _ | .unresolved _ | .backoff _ => True
  | _ => False

theorem Event.Inner.message? {e : Event} (h : e.Inner) : e.message? = none := by
  cases e with
  | rpc call =>
    obtain ⟨conn, request, metadata⟩ := call
    cases request <;> simp [Event.Inner, Request.registering] at h <;> rfl
  | _ => rfl

/-- How a call that got to `o` ends its journal. -/
def Ends (o : Outcome Registering α Error) (tail : List Event) : Prop :=
  match o with
  | .await _ => tail = []
  | .ret _ => ∃ id, tail = [.created id]
  | .raise err => tail = [.notCreated err]

/-- The attempt has a stub. -/
def Registering.connected : Registering → Bool
  | .request .. | .latest .. | .pinned .. => true
  | _ => false

/-- What every piece is like: it writes the end of the call where the call ends, and it leaves the
call in a registration only with a stub and a channel for it. -/
structure Shaped (r : Piece ρ Registering α) : Prop where
  log : ∃ log tail, r.log = log ++ tail ∧ (∀ e ∈ log, e.Inner) ∧ Ends r.next tail
  stub : ∀ k, r.next = .await k → k.connected → r.state.self.stub ≠ none
  stubRet : ∀ a, r.next = .ret a → r.state.self.stub ≠ none
  cached : ∀ n addr call, r.next = .await (.request n addr call) →
    r.state.client.connection? addr.brokerUrl addr.connectUrl ≠ none

/-- A call that is in a registration has a stub, and a channel for it. -/
structure Ready (c : Client) (e : Endpoint ρ) (o : Outcome Registering α Error) : Prop where
  stub : ∀ k, o = .await k → k.connected → e.stub ≠ none
  stubRet : ∀ a, o = .ret a → e.stub ≠ none
  cached : ∀ n addr call, o = .await (.request n addr call) →
    c.connection? addr.brokerUrl addr.connectUrl ≠ none

theorem Shaped.ready {r : Piece ρ Registering α} (h : Shaped r) :
    Ready r.state.client r.state.self r.next := ⟨h.stub, h.stubRet, h.cached⟩

theorem Ready.mono {c c' : Client} {e e' : Endpoint ρ} {o : Outcome Registering α Error}
    (h : Ready c e o) (hc : c.Extends c') (he : e.stub ≠ none → e'.stub ≠ none) :
    Ready c' e' o where
  stub k hk hconn := he (h.stub k hk hconn)
  stubRet a ha := he (h.stubRet a ha)
  cached n addr call ho := by
    obtain ⟨conn, hconn⟩ := Option.ne_none_iff_exists'.mp (h.cached n addr call ho)
    exact Option.ne_none_iff_exists'.mpr ⟨conn, hc.connection? hconn⟩

theorem Shaped.after {r : Piece ρ Registering α} (h : Shaped r) {log : List Event}
    (hlog : ∀ e ∈ log, e.Inner) : Shaped (r.after log) where
  log := by
    obtain ⟨inner, tail, heq, hinner, htail⟩ := h.log
    refine ⟨log ++ inner, tail, by simp [heq], ?_, htail⟩
    intro e he
    exact (List.mem_append.mp he).elim (hlog e) (hinner e)
  stub := h.stub
  stubRet := h.stubRet
  cached := h.cached

namespace Endpoint

section Shape

variable (role : Role ρ) (env : Env)

theorem waiting_shaped {s : Scope ρ} {log : List Event} {k : Registering}
    (hlog : ∀ e ∈ log, e.Inner) (hk : k.connected = false) :
    Shaped (⟨s, log, .await k⟩ : Piece ρ Registering α) where
  log := ⟨log, [], by simp, hlog, rfl⟩
  stub := by
    intro k' hk' hc
    cases hk'
    simp [hk] at hc
  stubRet := by simp
  cached := by
    intro n addr call hk'
    cases hk'
    simp [Registering.connected] at hk

theorem raise_shaped (err : Error) (s : Scope ρ) :
    Shaped (⟨s, [.notCreated err], .raise err⟩ : Piece ρ Registering α) where
  log := ⟨[], [.notCreated err], rfl, by simp, rfl⟩
  stub := by simp
  stubRet := by simp
  cached := by simp

theorem lookup_inner {s : Scope ρ} {c : Client} {call : Call}
    (h : s.client.lookupTopic env.lookup s.self.connectUrl s.self.topic = (c, .ok call)) :
    Event.Inner (.rpc call) := by
  obtain ⟨-, n, hn⟩ := Client.lookupTopic_ok h
  simp [Event.Inner, hn, Request.registering]

theorem backoff_shaped (n : Nat) (s : Scope ρ) :
    Shaped (backoff env n s : Piece ρ Registering α) :=
  waiting_shaped (by simp [Event.Inner]) rfl

theorem retry_shaped (n : Nat) (s : Scope ρ) : Shaped (retry env n s : Piece ρ Registering α) := by
  unfold retry
  split
  · rename_i heq
    exact waiting_shaped (by simpa using lookup_inner env heq) rfl
  · exact backoff_shaped env n _

theorem failed_shaped (n : Nat) (err : Error) (s : Scope ρ) :
    Shaped (failed env n err s : Piece ρ Registering α) := by
  unfold failed
  split
  · split
    · exact raise_shaped err s
    · exact retry_shaped env (n + 1) s
  · exact raise_shaped err s

theorem attempt_shaped (n : Nat) (s : Scope ρ) :
    Shaped (attempt role env n s : Piece ρ Registering α) := by
  unfold attempt
  split
  · exact failed_shaped env n _ _
  · rename_i c conn heq
    refine Shaped.after ?_ (by simp [Event.Inner])
    split
    · exact failed_shaped env n _ _
    · constructor
      case log =>
        refine ⟨_, [], (List.append_nil _).symm, ?_, rfl⟩
        rcases role.registers s.self with ⟨r, hr⟩ | ⟨r, hr⟩ <;>
          simp [Event.Inner, hr, Request.registering]
      case stub =>
        intro k _ _
        simp [countRequest, connect]
      case stubRet => simp
      case cached =>
        intro n' addr call hk
        cases hk
        exact Option.ne_none_iff_exists'.mpr ⟨conn, Client.getConnection_ok heq⟩

theorem create_shaped (s : Scope ρ) :
    ∃ r : Piece ρ Registering α, create role env s = r.after [.creating] ∧ Shaped r := by
  unfold create
  refine ⟨_, rfl, ?_⟩
  split
  · rename_i heq
    exact waiting_shaped (by simpa using lookup_inner env heq) rfl
  · exact attempt_shaped role env 0 _

theorem afterLookup_shaped (n : Nat) (s : Scope ρ) :
    Shaped (afterLookup role env n s : Piece ρ Registering α) := by
  unfold afterLookup
  split
  · exact attempt_shaped role env 0 s
  · exact backoff_shaped env n s

theorem unresolved_shaped (n : Nat) (err : Error) (s : Scope ρ) : Shaped (unresolved env n err s) :=
  (failed_shaped env n err s).after (by simp [Event.Inner])

theorem returnId_shaped {s : Scope ρ} (hs : s.self.stub ≠ none) : Shaped (returnId s) where
  log := ⟨[], [.created s.self.id], rfl, by simp, s.self.id, rfl⟩
  stub := by simp [returnId]
  stubRet := fun _ _ => hs
  cached := by simp [returnId]

theorem resolving_shaped {s : Scope ρ} {call : Call} {k : Registering}
    (hcall : Event.Inner (.rpc call)) (hk : k.resolving) (hs : s.self.stub ≠ none) :
    Shaped (⟨s, [.rpc call], .await k⟩ : Piece ρ Registering Nat) where
  log := ⟨[.rpc call], [], rfl, by simpa using hcall, rfl⟩
  stub := fun _ _ _ => hs
  stubRet := by simp
  cached := by
    intro n addr call' hk'
    cases hk'
    simp [Registering.resolving] at hk

theorem resolveSchema_shaped (n : Nat) {s : Scope ρ} (hs : s.self.stub ≠ none) :
    Shaped (resolveSchema role env n s) := by
  unfold resolveSchema
  split
  · exact returnId_shaped hs
  · split
    · exact unresolved_shaped env n _ _
    · rename_i heq
      refine resolving_shaped ?_ rfl hs
      simp [Event.Inner, Client.getLatestSchema_ok heq, Request.registering]

theorem latestSchema_shaped (n : Nat) (ref : SchemaReference) (latest : SchemaInfo) {s : Scope ρ}
    (hs : s.self.stub ≠ none) : Shaped (latestSchema role env n ref latest s) := by
  unfold latestSchema
  split
  · split
    · exact unresolved_shaped env n _ s
    · split
      · exact returnId_shaped hs
      · split
        · exact unresolved_shaped env n _ _
        · rename_i heq
          refine resolving_shaped ?_ rfl hs
          simp [Event.Inner, Client.getSchemaVersion_ok heq, Request.registering]
  · split
    · exact unresolved_shaped env n _ s
    · exact returnId_shaped hs
  · exact returnId_shaped hs

theorem registered_shaped (n : Nat) (addr : BrokerAddress) (id : Nat) {s : Scope ρ}
    (hs : s.self.stub ≠ none) : Shaped (registered role env n addr id s) := by
  unfold registered checkHealth
  refine Shaped.after ?_ (by simp [Event.Inner])
  split
  · exact failed_shaped env n _ _
  · refine Shaped.after ?_ (by simp [Event.Inner])
    exact resolveSchema_shaped role env n hs

theorem resume_shaped {s : Scope ρ} {k : Registering} {w : Wake} {r : Piece ρ Registering Nat}
    (hs : k.connected → s.self.stub ≠ none) (h : resume role env s k w = some r) : Shaped r := by
  cases resumption h with
  | moved n => exact (afterLookup_shaped role env n _).after (by simp [Event.Inner])
  | notMoved n | lookupFailed n => exact afterLookup_shaped role env n s
  | slept n => exact attempt_shaped role env n s
  | answered n addr call id => exact registered_shaped role env n addr id (hs rfl)
  | refused n => exact failed_shaped env n _ s
  | latest n call info ref => exact latestSchema_shaped role env n ref info (hs rfl)
  | latestFailed n | pinnedFailed n => exact unresolved_shaped env n _ s
  | pinned => exact returnId_shaped (hs rfl)

end Shape

/-! ## Registrations and health loops -/

/-- A piece that is about no registration: nothing is registered, no health loop starts, and the
call does not return. -/
structure Quiet (r : Piece ρ Registering α) : Prop where
  registrations : registrations r.log = []
  loops : startedLoops r.log = []
  next : (∃ k, r.next = .await k ∧ k.resolving = false) ∨ ∃ err, r.next = .raise err

theorem Quiet.after {r : Piece ρ Registering α} (h : Quiet r) {log : List Event}
    (hreg : Danube.registrations log = []) (hloops : startedLoops log = []) : Quiet (r.after log) where
  registrations := by simp [hreg, h.registrations]
  loops := by simp [hloops, h.loops]
  next := h.next

section Pieces

variable (role : Role ρ) (env : Env)

theorem backoff_quiet (n : Nat) (s : Scope ρ) :
    Quiet (backoff env n s : Piece ρ Registering α) := ⟨rfl, rfl, Or.inl ⟨_, rfl, rfl⟩⟩

theorem retry_quiet (n : Nat) (s : Scope ρ) : Quiet (retry env n s : Piece ρ Registering α) := by
  unfold retry
  split
  · exact ⟨rfl, rfl, Or.inl ⟨_, rfl, rfl⟩⟩
  · exact backoff_quiet env n _

theorem failed_quiet (n : Nat) (err : Error) (s : Scope ρ) :
    Quiet (failed env n err s : Piece ρ Registering α) := by
  unfold failed
  split
  · split
    · exact ⟨rfl, rfl, Or.inr ⟨err, rfl⟩⟩
    · exact retry_quiet env (n + 1) s
  · exact ⟨rfl, rfl, Or.inr ⟨err, rfl⟩⟩

theorem attempt_quiet (n : Nat) (s : Scope ρ) :
    Quiet (attempt role env n s : Piece ρ Registering α) := by
  unfold attempt
  split
  · exact failed_quiet env n _ _
  · refine Quiet.after ?_ rfl rfl
    split
    · exact failed_quiet env n _ _
    · exact ⟨rfl, rfl, Or.inl ⟨_, rfl, rfl⟩⟩

theorem create_quiet (s : Scope ρ) : Quiet (create role env s : Piece ρ Registering α) := by
  unfold create
  refine Quiet.after ?_ rfl rfl
  split
  · exact ⟨rfl, rfl, Or.inl ⟨_, rfl, rfl⟩⟩
  · exact attempt_quiet role env 0 _

theorem afterLookup_quiet (n : Nat) (s : Scope ρ) :
    Quiet (afterLookup role env n s : Piece ρ Registering α) := by
  unfold afterLookup
  split
  · exact attempt_quiet role env 0 s
  · exact backoff_quiet env n s

theorem unresolved_quiet (n : Nat) (err : Error) (s : Scope ρ) :
    Quiet (unresolved env n err s) := (failed_quiet env n err s).after rfl rfl

end Pieces

end Endpoint

/-! ## How often a call can be resumed -/

/-- The number of the attempt. -/
def Registering.attempts : Registering → Nat
  | .lookup n _ | .backoff n | .request n _ _ | .latest n _ | .pinned n _ => n

/-- The suspensions that an attempt can still reach. -/
def Registering.stages : Registering → Nat
  | .lookup .. => 5
  | .backoff _ => 4
  | .request .. => 3
  | .latest .. => 2
  | .pinned .. => 1

/-- How many times at most a call with this retry budget is resumed from here on. -/
def Registering.rank (maxRetries : Nat) (k : Registering) : Nat :=
  5 * (maxRetries - k.attempts) + k.stages

theorem Registering.rank_pos (maxRetries : Nat) (k : Registering) : 0 < k.rank maxRetries := by
  cases k <;> simp [rank, stages]

theorem Registering.rank_le (maxRetries : Nat) (k : Registering) :
    k.rank maxRetries ≤ 5 * (maxRetries + 1) := by
  cases k <;> simp only [rank, stages] <;> omega

namespace Endpoint

/-- The piece leaves the call within its budget, with less than `bound` resumptions to go. -/
def Below (maxRetries bound : Nat) (r : Piece ρ Registering α) : Prop :=
  ∀ k, r.next = .await k → k.attempts ≤ maxRetries ∧ k.rank maxRetries < bound

theorem Below.mono {maxRetries a b : Nat} {r : Piece ρ Registering α} (h : Below maxRetries a r)
    (hab : a ≤ b) : Below maxRetries b r := fun k hk =>
  ⟨(h k hk).1, Nat.lt_of_lt_of_le (h k hk).2 hab⟩

theorem below_await {maxRetries bound : Nat} {s : Scope ρ} {log : List Event} {k : Registering}
    (hk : k.attempts ≤ maxRetries) (hrank : k.rank maxRetries < bound) :
    Below maxRetries bound (⟨s, log, .await k⟩ : Piece ρ Registering α) := by
  intro k' hk'
  cases hk'
  exact ⟨hk, hrank⟩

theorem below_raise {maxRetries bound : Nat} {s : Scope ρ} {log : List Event} {err : Error} :
    Below maxRetries bound (⟨s, log, .raise err⟩ : Piece ρ Registering α) := by
  intro k hk
  cases hk

section Pieces

attribute [local simp] Registering.rank Registering.attempts Registering.stages

variable (role : Role ρ) (env : Env) {s : Scope ρ} {n maxRetries : Nat}

theorem backoff_below (hn : n ≤ maxRetries) :
    Below maxRetries (5 * (maxRetries - n) + 5) (backoff env n s : Piece ρ Registering α) :=
  below_await hn (by simp)

theorem retry_below (hn : n ≤ maxRetries) :
    Below maxRetries (5 * (maxRetries - n) + 6) (retry env n s : Piece ρ Registering α) := by
  unfold retry
  split
  · exact below_await hn (by simp)
  · exact (backoff_below env hn).mono (by omega)

theorem failed_below (hmax : s.self.retryManager.maxRetries = maxRetries) (err : Error) :
    Below maxRetries (5 * (maxRetries - n) + 1) (failed env n err s : Piece ρ Registering α) := by
  unfold failed
  split
  · split
    · exact below_raise
    · rename_i hlt
      rw [hmax] at hlt
      exact (retry_below env (by omega)).mono (by omega)
  · exact below_raise

theorem attempt_below (hmax : s.self.retryManager.maxRetries = maxRetries) (hn : n ≤ maxRetries) :
    Below maxRetries (5 * (maxRetries - n) + 4) (attempt role env n s : Piece ρ Registering α) := by
  unfold attempt
  split
  · exact (failed_below env (n := n) (by exact hmax) _).mono (by omega)
  · split
    · exact (failed_below env (n := n) (by exact hmax) _).mono (by omega)
    · exact below_await hn (by simp)

theorem create_below (hmax : s.self.retryManager.maxRetries = maxRetries) :
    Below maxRetries (5 * (maxRetries + 1) + 1) (create role env s : Piece ρ Registering α) := by
  unfold create
  split
  · exact below_await (Nat.zero_le _) (by simp; omega)
  · exact (attempt_below role env (n := 0) (by exact hmax) (Nat.zero_le _)).mono (by omega)

theorem afterLookup_below (hmax : s.self.retryManager.maxRetries = maxRetries)
    (hn : n ≤ maxRetries) :
    Below maxRetries (5 * (maxRetries - n) + 5)
      (afterLookup role env n s : Piece ρ Registering α) := by
  unfold afterLookup
  split
  · subst n
    exact (attempt_below role env hmax hn).mono (by omega)
  · exact backoff_below env hn

theorem returnId_below {bound : Nat} : Below maxRetries bound (returnId s) := by
  intro k hk
  cases hk

theorem resolveSchema_below (hmax : s.self.retryManager.maxRetries = maxRetries)
    (hn : n ≤ maxRetries) :
    Below maxRetries (5 * (maxRetries - n) + 3) (resolveSchema role env n s) := by
  unfold resolveSchema
  split
  · exact returnId_below
  · split
    · exact (failed_below env (n := n) (by exact hmax) _).mono (by omega)
    · exact below_await hn (by simp)

theorem latestSchema_below (hmax : s.self.retryManager.maxRetries = maxRetries)
    (hn : n ≤ maxRetries) (ref : SchemaReference) (latest : SchemaInfo) :
    Below maxRetries (5 * (maxRetries - n) + 2) (latestSchema role env n ref latest s) := by
  unfold latestSchema
  split
  · split
    · exact (failed_below env hmax _).mono (by omega)
    · split
      · exact returnId_below
      · split
        · exact (failed_below env (n := n) (by exact hmax) _).mono (by omega)
        · exact below_await hn (by simp)
  · split
    · exact (failed_below env hmax _).mono (by omega)
    · exact returnId_below
  · exact returnId_below

theorem registered_below (hmax : s.self.retryManager.maxRetries = maxRetries)
    (hn : n ≤ maxRetries) (addr : BrokerAddress) (id : Nat) :
    Below maxRetries (5 * (maxRetries - n) + 3) (registered role env n addr id s) := by
  unfold registered checkHealth
  split
  · exact (failed_below env (n := n) (by exact hmax) _).mono (by omega)
  · exact resolveSchema_below role env (n := n) (by exact hmax) hn

/-- Every resumption uses up a part of the budget. -/
theorem resume_below {k : Registering} {w : Wake} {r : Piece ρ Registering Nat}
    (hmax : s.self.retryManager.maxRetries = maxRetries) (hk : k.attempts ≤ maxRetries)
    (h : resume role env s k w = some r) : Below maxRetries (k.rank maxRetries) r := by
  cases resumption h with
  | moved => exact afterLookup_below role env (by exact hmax) hk
  | notMoved | lookupFailed => exact afterLookup_below role env hmax hk
  | slept => exact attempt_below role env hmax hk
  | answered n addr call id => exact registered_below role env hmax hk addr id
  | refused | latestFailed | pinnedFailed => exact (failed_below env hmax _).mono (by simp)
  | latest n call info ref => exact latestSchema_below role env hmax hk ref info
  | pinned => exact returnId_below

end Pieces

/-! ## Runs -/

/-- One resumption of a call that runs alone. -/
abbrev advance (role : Role ρ) (t : Piece ρ Registering Nat) (l : Wake × Env) :
    Option (Piece ρ Registering Nat) :=
  Async.advance (fun s k (l : Wake × Env) => resume role l.2 s k l.1) t l

theorem call_journaled (role : Role ρ) {env : Env} {s : Scope ρ} {ls : List (Wake × Env)}
    {t : Piece ρ Registering Nat} (h : exec (advance role) (create role env s) ls = some t) :
    Piece.Journaled s t := by
  refine exec_invariant (P := Piece.Journaled s) (fun t l t' ht hstep => ?_)
    (create_journaled role env s) h
  obtain ⟨k, r, -, hr, rfl⟩ := advance_eq_some.mp hstep
  exact Journaled.trans ht (resume_journaled role l.2 hr)

/-- The call is within the budget of its endpoint. -/
def Budgeted (maxRetries : Nat) (t : Piece ρ Registering Nat) : Prop :=
  t.state.self.retryManager.maxRetries = maxRetries ∧
    ∀ k, t.next = .await k → k.attempts ≤ maxRetries

/-- The part of the budget that is used up. -/
def used (maxRetries : Nat) (t : Piece ρ Registering Nat) : Nat :=
  match t.next with
  | .await k => 5 * (maxRetries + 1) - k.rank maxRetries
  | _ => 5 * (maxRetries + 1)

theorem used_le (maxRetries : Nat) (t : Piece ρ Registering Nat) :
    used maxRetries t ≤ 5 * (maxRetries + 1) := by
  unfold used
  split <;> omega

theorem Below.used {maxRetries : Nat} {k : Registering} {t r : Piece ρ Registering Nat}
    (h : Below maxRetries (k.rank maxRetries) r) (hk : t.next = .await k) :
    used maxRetries t + 1 ≤ used maxRetries (r.after t.log) := by
  have hpos := k.rank_pos maxRetries
  have hle := k.rank_le maxRetries
  simp only [Endpoint.used, hk, Ran.after_next]
  split
  · rename_i k' hk'
    have hlt := (h k' hk').2
    omega
  · omega

theorem advance_budgeted {role : Role ρ} {maxRetries : Nat} {t t' : Piece ρ Registering Nat}
    {l : Wake × Env} (ht : Budgeted maxRetries t) (h : advance role t l = some t') :
    Budgeted maxRetries t' ∧ used maxRetries t + 1 ≤ used maxRetries t' := by
  obtain ⟨k, r, hk, hr, rfl⟩ := advance_eq_some.mp h
  have hbelow := resume_below role l.2 ht.1 (ht.2 k hk) hr
  have hsame := (resume_journaled role l.2 hr).retryManager
  refine ⟨⟨?_, fun k' hk' => (hbelow k' hk').1⟩, hbelow.used hk⟩
  exact (congrArg RetryManager.maxRetries hsame).trans ht.1

theorem create_budgeted (role : Role ρ) (env : Env) (s : Scope ρ) :
    Budgeted s.self.retryManager.maxRetries (create role env s) :=
  ⟨congrArg RetryManager.maxRetries (create_journaled role env s).retryManager,
    fun k hk => (create_below role env rfl k hk).1⟩

/-- However its RPCs are answered, a call ends. -/
theorem call_ends (role : Role ρ) {env : Env} {s : Scope ρ} {ls : List (Wake × Env)}
    {t : Piece ρ Registering Nat} (h : exec (advance role) (create role env s) ls = some t) :
    ls.length ≤ 5 * (s.self.retryManager.maxRetries + 1) := by
  obtain ⟨-, hlen⟩ := exec_length_le_of_steps
    (fun _ _ _ ht _ hstep => advance_budgeted ht hstep) (create_budgeted role env s)
    (steps_of_mem (D := fun _ => True) _ fun _ _ => trivial) h
  have hle := used_le s.self.retryManager.maxRetries t
  omega

end Endpoint

end Danube
