import Danube.Registration

/-!
# Which pieces of a registration send its request

Most pieces of `create()` and `subscribe()` wait, sleep or resolve a schema. An attempt sends its
request when a channel and the token can be had.
-/

namespace Danube

open Async

variable {ρ α : Type}

/-- `CreateProducer` or `Subscribe`. -/
def Request.registers : Request → Bool
  | .createProducer _ | .subscribe _ => true
  | _ => false

def Event.asks : Event → Bool
  | .rpc call => call.request.registers
  | _ => false

/-- A request to register is among the events. -/
def Asks (log : List Event) : Prop := ∃ e ∈ log, e.asks = true

@[simp] theorem asks_nil : ¬ Asks [] := by simp [Asks]

@[simp] theorem asks_cons (e : Event) (log : List Event) :
    Asks (e :: log) ↔ e.asks = true ∨ Asks log := by simp [Asks]

@[simp] theorem asks_append (a b : List Event) : Asks (a ++ b) ↔ Asks a ∨ Asks b := by
  simp [Asks, or_and_right, exists_or]

/-- A piece asks for a registration exactly if `asks`, it leaves a call awaiting one only then, and
it is refused only if `refusable`. -/
structure Asking {κ : Type} (lift : Registering → κ) (asks refusable : Prop) (log : List Event)
    (o : Outcome κ α Error) : Prop where
  log : Asks log ↔ asks
  request : ∀ n addr call, o = .await (lift (.request n addr call)) → asks
  refused : ∀ text, o = .raise (.unrecoverable text) → refusable

/-- A piece of the call itself. -/
abbrev Piece.Asking (asks refusable : Prop) (r : Piece ρ Registering α) : Prop :=
  Danube.Asking (fun k => k) asks refusable r.log r.next

namespace Endpoint

/-- A channel and the token for the request can be had. -/
def Reachable (env : Env) (s : Scope ρ) : Prop :=
  (∃ conn, (s.client.getConnection env.call s.self.brokerAddr s.self.connectUrl).2 = .ok conn) ∧
    ∃ metadata, s.client.attachTokenIfNeeded env.call = .ok metadata

/-- `create()` asks in its first piece: its lookup cannot be sent, and its first attempt can. -/
def AsksAtOnce (env : Env) (s : Scope ρ) : Prop :=
  (∃ err, (s.client.lookupTopic env.lookup s.self.connectUrl s.self.topic).2 = .error err) ∧
    Reachable env { s with
      client := (s.client.lookupTopic env.lookup s.self.connectUrl s.self.topic).1 }

/-- The scope once a lookup is answered. -/
def lookedUp (s : Scope ρ) : Except RpcError Response → Scope ρ
  | .ok (.topicLookup response) =>
    match Client.handleLookup response with
    | .ok addr => { s with self := s.self.moveTo addr }
    | .error _ => s
  | _ => s

/-- A suspended call goes on with an attempt, which asks. -/
def AsksNext (env : Env) (s : Scope ρ) : Registering → Wake → Prop
  | .lookup n _, .reply answer => n = 0 ∧ Reachable env (lookedUp s answer)
  | .backoff _, .timer => Reachable env s
  | _, _ => False

section Pieces

variable (role : Role ρ) (env : Env)

/-- The piece sends no request and its error is not a refusal. -/
abbrev Silent (r : Piece ρ Registering α) : Prop := Piece.Asking False False r

theorem silent_await {s : Scope ρ} {log : List Event} {k : Registering} (hlog : ¬ Asks log)
    (hk : ∀ n addr call, k ≠ .request n addr call) :
    Silent (⟨s, log, .await k⟩ : Piece ρ Registering α) where
  log := iff_of_false hlog not_false
  request := by
    intro n addr call h
    cases h
    exact hk n addr call rfl
  refused := by simp

theorem silent_ret (s : Scope ρ) : Silent (returnId s) where
  log := by simp [returnId, Event.asks]
  request := by simp [returnId]
  refused := by simp [returnId]

theorem Silent.after {r : Piece ρ Registering α} (h : Silent r) {log : List Event}
    (hlog : ¬ Asks log) : Silent (r.after log) where
  log := iff_of_false (by simpa [hlog] using h.log.mp) not_false
  request := h.request
  refused := h.refused

theorem asks_lookup {s : Scope ρ} {c : Client} {call : Call}
    (h : s.client.lookupTopic env.lookup s.self.connectUrl s.self.topic = (c, .ok call)) :
    ¬ Asks [.rpc call] := by
  obtain ⟨-, n, hn⟩ := Client.lookupTopic_ok h
  simp [Event.asks, hn, Request.registers]

theorem backoff_silent (n : Nat) (s : Scope ρ) : Silent (backoff env n s : Piece ρ Registering α) :=
  silent_await (by simp [Event.asks]) (by simp)

theorem retry_silent (n : Nat) (s : Scope ρ) : Silent (retry env n s : Piece ρ Registering α) := by
  unfold retry
  split
  · rename_i heq
    exact silent_await (asks_lookup env heq) (by simp)
  · exact backoff_silent env n _

theorem failed_asking (n : Nat) (err : Error) (s : Scope ρ) :
    Piece.Asking False (∃ text, err = .unrecoverable text)
      (failed env n err s : Piece ρ Registering α) := by
  have hraise : Piece.Asking False (∃ text, err = .unrecoverable text)
      (⟨s, [.notCreated err], .raise err⟩ : Piece ρ Registering α) := by
    refine ⟨by simp [Event.asks], by simp, ?_⟩
    intro text h
    cases h
    exact ⟨text, rfl⟩
  unfold failed
  split
  · split
    · exact hraise
    · have h := retry_silent (α := α) env (n + 1) s
      exact ⟨h.log, h.request, fun text ht => (h.refused text ht).elim⟩
  · exact hraise

theorem failed_silent (n : Nat) {err : Error} (herr : ∀ text, err ≠ .unrecoverable text)
    (s : Scope ρ) : Silent (failed env n err s : Piece ρ Registering α) := by
  have h := failed_asking (α := α) env n err s
  refine ⟨h.log, h.request, fun text ht => ?_⟩
  obtain ⟨text', htext⟩ := h.refused text ht
  exact herr text' htext

theorem failed_silent_other (n : Nat) {err : Error} (herr : ∃ text, err = .other text)
    (s : Scope ρ) : Silent (failed env n err s : Piece ρ Registering α) := by
  obtain ⟨text, rfl⟩ := herr
  exact failed_silent env n (by simp) s

theorem attempt_asking (n : Nat) (s : Scope ρ) :
    Piece.Asking (Reachable env s) False (attempt role env n s : Piece ρ Registering α) := by
  unfold attempt
  split
  · -- No channel.
    rename_i c err heq
    have hno : ¬ Reachable env s := by
      rintro ⟨⟨conn, hconn⟩, -⟩
      rw [heq] at hconn
      cases hconn
    have h := failed_silent_other (α := α) env n (Client.getConnection_error heq)
      { s with client := c }
    exact ⟨iff_of_false h.log.mp hno, fun n addr call ho => (h.request n addr call ho).elim, h.refused⟩
  · rename_i c conn heq
    have hopts : c.attachTokenIfNeeded env.call = s.client.attachTokenIfNeeded env.call := by
      have hext := s.client.getConnection_extends env.call s.self.brokerAddr s.self.connectUrl
      rw [heq] at hext
      exact congrArg (ConnectionOptions.attachTokenIfNeeded · env.call) hext.connections.options
    split
    · -- A channel and no token.
      rename_i err htoken
      have hno : ¬ Reachable env s := by
        rintro ⟨-, metadata, hmd⟩
        rw [← hopts, htoken] at hmd
        cases hmd
      have hlog : ¬ Asks [.connected s.self.address conn] := by simp [Event.asks]
      have h := (failed_silent_other (α := α) env n (Client.attachTokenIfNeeded_error htoken)
        (countRequest (connect conn c s))).after hlog
      exact ⟨iff_of_false h.log.mp hno, fun n addr call ho => (h.request n addr call ho).elim,
        h.refused⟩
    · -- The request is issued.
      rename_i metadata htoken
      have hyes : Reachable env s := ⟨⟨conn, by rw [heq]⟩, metadata, hopts ▸ htoken⟩
      have hreg : (role.request s.self).registers = true := by
        rcases role.registers s.self with ⟨r, hr⟩ | ⟨r, hr⟩ <;> rw [hr] <;> rfl
      exact ⟨iff_of_true (by simp [Event.asks, hreg]) hyes, fun _ _ _ _ => hyes, by simp⟩

theorem afterLookup_asking (n : Nat) (s : Scope ρ) :
    Piece.Asking (n = 0 ∧ Reachable env s) False
      (afterLookup role env n s : Piece ρ Registering α) := by
  unfold afterLookup
  split
  · rename_i hn
    have h := attempt_asking (α := α) role env 0 s
    exact ⟨h.log.trans (and_iff_right hn).symm, fun n addr call ho => ⟨hn, h.request n addr call ho⟩,
      h.refused⟩
  · rename_i hn
    have h := backoff_silent (α := α) env n s
    exact ⟨iff_of_false h.log.mp fun h => hn h.1, fun n addr call ho => (h.request n addr call ho).elim,
      h.refused⟩

theorem create_asking (s : Scope ρ) :
    Piece.Asking (AsksAtOnce env s) False (create role env s : Piece ρ Registering α) := by
  unfold create AsksAtOnce
  split
  · rename_i c call heq
    have hno := asks_lookup env heq
    rw [heq]
    exact ⟨by simpa [Event.asks] using hno, by simp, by simp⟩
  · rename_i c err heq
    have h := attempt_asking (α := α) role env 0 { s with client := c }
    rw [heq]
    refine ⟨?_, fun n addr call ho => ⟨⟨err, rfl⟩, h.request n addr call ho⟩, h.refused⟩
    rw [Ran.after_log, asks_append, h.log]
    simp [Event.asks]

theorem unresolved_silent (n : Nat) {err : Error} (herr : ∀ text, err ≠ .unrecoverable text)
    (s : Scope ρ) : Silent (unresolved env n err s) :=
  (failed_silent env n herr s).after (by simp [Event.asks])

theorem unresolved_silent_other (n : Nat) {err : Error} (herr : ∃ text, err = .other text)
    (s : Scope ρ) : Silent (unresolved env n err s) :=
  (failed_silent_other env n herr s).after (by simp [Event.asks])

theorem getLatestSchema_error {c c' : Client} {out : Outside} {subject : String} {e : Error}
    (h : c.getLatestSchema out subject = (c', .error e)) : ∃ text, e = .other text := by
  unfold Client.getLatestSchema at h
  split at h
  · rename_i heq
    simp only [Prod.mk.injEq, Except.error.injEq] at h
    exact Client.prepare_error (h.2 ▸ heq)
  · simp at h

theorem getSchemaVersion_error {c c' : Client} {out : Outside} {i : Nat} {v : Option Nat}
    {e : Error} (h : c.getSchemaVersion out i v = (c', .error e)) : ∃ text, e = .other text := by
  unfold Client.getSchemaVersion at h
  split at h
  · rename_i heq
    simp only [Prod.mk.injEq, Except.error.injEq] at h
    exact Client.prepare_error (h.2 ▸ heq)
  · simp at h

theorem resolveSchema_silent (n : Nat) (s : Scope ρ) : Silent (resolveSchema role env n s) := by
  unfold resolveSchema
  split
  · exact silent_ret s
  · split
    · rename_i heq
      exact unresolved_silent_other env n (getLatestSchema_error heq) _
    · rename_i heq
      refine silent_await ?_ (by simp)
      simp [Event.asks, Client.getLatestSchema_ok heq, Request.registers]

theorem latestSchema_silent (n : Nat) (ref : SchemaReference) (latest : SchemaInfo) (s : Scope ρ) :
    Silent (latestSchema role env n ref latest s) := by
  unfold latestSchema
  split
  · split
    · exact unresolved_silent env n (by simp) s
    · split
      · exact silent_ret _
      · split
        · rename_i heq
          exact unresolved_silent_other env n (getSchemaVersion_error heq) _
        · rename_i heq
          refine silent_await ?_ (by simp)
          simp [Event.asks, Client.getSchemaVersion_ok heq, Request.registers]
  · split
    · exact unresolved_silent env n (by simp) s
    · exact silent_ret _
  · exact silent_ret _

theorem registered_silent (n : Nat) (addr : BrokerAddress) (id : Nat) (s : Scope ρ) :
    Silent (registered role env n addr id s) := by
  unfold registered checkHealth
  refine Silent.after ?_ (by simp [Event.asks])
  split
  · rename_i heq
    exact failed_silent_other env n (Client.getConnection_error heq) _
  · have hlog loop : ¬ Asks [.healthStarted loop] := by simp [Event.asks]
    exact (resolveSchema_silent role env n _).after (hlog _)

theorem Silent.asking {r : Piece ρ Registering α} (h : Silent r) {asks refusable : Prop}
    (hasks : ¬ asks) : Piece.Asking asks refusable r where
  log := iff_of_false h.log.mp hasks
  request n addr call ho := (h.request n addr call ho).elim
  refused text ho := (h.refused text ho).elim

theorem resume_asking {s : Scope ρ} {k : Registering} {w : Wake} {r : Piece ρ Registering Nat}
    (h : resume role env s k w = some r) :
    Piece.Asking (AsksNext env s k w) (∃ n addr call, k = .request n addr call) r := by
  have hattempt : ∀ {asks : Prop} {r : Piece ρ Registering Nat}, Piece.Asking asks False r →
      Piece.Asking asks (∃ n addr call, k = .request n addr call) r :=
    fun h => ⟨h.log, h.request, fun text ho => (h.refused text ho).elim⟩
  cases resumption h with
  | moved n call response addr haddr =>
    -- The next attempt is made at the address that the lookup found.
    have h := afterLookup_asking (α := Nat) role env n { s with self := s.self.moveTo addr }
    have hs : lookedUp s (.ok (.topicLookup response)) = { s with self := s.self.moveTo addr } := by
      simp only [lookedUp, haddr]
    refine hattempt ⟨?_, ?_, h.refused⟩
    · rw [Ran.after_log, asks_append, h.log]
      simp [Event.asks, AsksNext, hs]
    · intro n' addr' call' ho
      simpa [AsksNext, hs] using h.request n' addr' call' ho
  | notMoved n call response err herr =>
    have hs : lookedUp s (.ok (.topicLookup response)) = s := by simp only [lookedUp, herr]
    have h := afterLookup_asking (α := Nat) role env n s
    exact hattempt ⟨by simpa [AsksNext, hs] using h.log, by simpa [AsksNext, hs] using h.request,
      h.refused⟩
  | lookupFailed n => exact hattempt (afterLookup_asking role env n s)
  | slept n => exact hattempt (attempt_asking role env n s)
  | answered n addr call id => exact (registered_silent role env n addr id s).asking not_false
  | refused n addr call err =>
    have h := failed_asking (α := Nat) env n (registerError role err) s
    exact ⟨h.log, h.request, fun _ _ => ⟨_, _, _, rfl⟩⟩
  | latest n call info ref => exact (latestSchema_silent role env n ref info s).asking not_false
  | latestFailed n | pinnedFailed n => exact (unresolved_silent env n (by simp) s).asking not_false
  | pinned => exact (silent_ret _).asking not_false

end Pieces

end Endpoint

end Danube
