import Danube.Alike

/-!
# Registrations on clients that are alike

`create()` and `subscribe()` do the same on both clients: the same events, on channels that correspond.
-/

namespace Danube

open Async

/-! ## What corresponds -/

inductive HealthAt.Alike (w : Channels) : HealthAt → HealthAt → Prop
  | scheduled : Alike w .scheduled .scheduled
  | polling {x y : Call} (h : x.Alike w y) : Alike w (.polling x) (.polling y)
  | sleeping : Alike w .sleeping .sleeping
  | finished (why : HealthEnd) : Alike w (.finished why) (.finished why)

structure HealthLoop.Alike (w : Channels) (l m : HealthLoop) : Prop where
  conn : w l.conn m.conn
  position : HealthAt.Alike w l.position m.position
  rest : m = { l with conn := m.conn, position := m.position }

structure Endpoint.Alike {ρ : Type} (w : Channels) (e f : Endpoint ρ) : Prop where
  stub : Option.Rel w e.stub f.stub
  rest : f = { e with stub := f.stub }

/-- The channel of an event. -/
def Event.conn? : Event → Option RpcConnection
  | .rpc call => some call.conn
  | .connected _ conn => some conn
  | .healthStarted l => some l.conn
  | _ => none

inductive Event.Alike (w : Channels) : Event → Event → Prop
  | rpc {x y : Call} (h : x.Alike w y) : Alike w (.rpc x) (.rpc y)
  | connected (addr : BrokerAddress) {x y : RpcConnection} (h : w x y) :
    Alike w (.connected addr x) (.connected addr y)
  | healthStarted {l m : HealthLoop} (h : l.Alike w m) : Alike w (.healthStarted l) (.healthStarted m)
  | same (e : Event) (h : e.conn? = none) : Alike w e e

inductive Registering.Alike (w : Channels) : Registering → Registering → Prop
  | lookup (n : Nat) {x y : Call} (h : x.Alike w y) : Alike w (.lookup n x) (.lookup n y)
  | backoff (n : Nat) : Alike w (.backoff n) (.backoff n)
  | request (n : Nat) (addr : BrokerAddress) {x y : Call} (h : x.Alike w y) :
    Alike w (.request n addr x) (.request n addr y)
  | latest (n : Nat) {x y : Call} (h : x.Alike w y) : Alike w (.latest n x) (.latest n y)
  | pinned (n : Nat) {x y : Call} (h : x.Alike w y) : Alike w (.pinned n x) (.pinned n y)

section Later

variable {w v : Channels} (hv : w ≤ v)
include hv

theorem stub_later {x y : Option RpcConnection} (h : Option.Rel w x y) : Option.Rel v x y := by
  cases h with
  | some h => exact .some (hv _ _ h)
  | none => exact .none

theorem HealthAt.Alike.later {x y : HealthAt} (h : x.Alike w y) : x.Alike v y := by
  cases h with
  | scheduled => exact .scheduled
  | polling h => exact .polling (h.later hv)
  | sleeping => exact .sleeping
  | finished why => exact .finished why

theorem HealthLoop.Alike.later {l m : HealthLoop} (h : l.Alike w m) : l.Alike v m :=
  ⟨hv _ _ h.conn, h.position.later hv, h.rest⟩

theorem Endpoint.Alike.later {ρ : Type} {e f : Endpoint ρ} (h : e.Alike w f) : e.Alike v f :=
  ⟨stub_later hv h.stub, h.rest⟩

theorem Event.Alike.later {x y : Event} (h : x.Alike w y) : x.Alike v y := by
  cases h with
  | rpc h => exact .rpc (h.later hv)
  | connected addr h => exact .connected addr (hv _ _ h)
  | healthStarted h => exact .healthStarted (h.later hv)
  | same _ h => exact .same _ h

theorem Registering.Alike.later {x y : Registering} (h : x.Alike w y) : x.Alike v y := by
  cases h with
  | lookup n h => exact .lookup n (h.later hv)
  | backoff n => exact .backoff n
  | request n addr h => exact .request n addr (h.later hv)
  | latest n h => exact .latest n (h.later hv)
  | pinned n h => exact .pinned n (h.later hv)

end Later

/-! ## Scopes -/

structure Scope.Alike {ρ : Type} (broken : String → Option String) (w : Channels) (s t : Scope ρ) :
    Prop where
  client : Client.Alike broken w s.client t.client
  loops : List.Forall₂ (HealthLoop.Alike w) s.loops t.loops
  ref : t.ref = s.ref
  self : Endpoint.Alike w s.self t.self

/-- Pieces on scopes that are alike. -/
def scopes (ρ : Type) (broken : String → Option String) :
    Correspondence Channels (Scope ρ) (Scope ρ) Event Event where
  state := Scope.Alike broken
  event := Event.Alike
  later hv _ _ h := h.later hv

/-- The world outside answers as it does to both clients: what a new channel raises is `broken`. -/
structure Env.Reaches (env : Env) (broken : String → Option String) : Prop where
  lookup : env.lookup.channel = broken
  call : env.call.channel = broken
  health : env.health.channel = broken

/-- What a method that issues one RPC returned on both. -/
inductive Scope.Answers {ρ : Type} (broken : String → Option String) (w : Channels) :
    Scope ρ × Except Error Call → Scope ρ × Except Error Call → Prop
  | ok {s t : Scope ρ} {x y : Call} (h : Scope.Alike broken w s t) (hcall : x.Alike w y) :
    Answers broken w (s, .ok x) (t, .ok y)
  | error {s t : Scope ρ} (h : Scope.Alike broken w s t) (err : Error) :
    Answers broken w (s, .error err) (t, .error err)

section Scopes

variable {ρ : Type} {broken : String → Option String} {w v : Channels} {s t : Scope ρ} {c d : Client}
  {e f : Endpoint ρ}

theorem Endpoint.Alike.exists_stub (h : e.Alike w f) :
    ∃ stub, f = { e with stub := stub } ∧ Option.Rel w e.stub stub := ⟨f.stub, h.rest, h.stub⟩

theorem Endpoint.Alike.address (h : e.Alike w f) : f.address = e.address := by rw [h.rest]; rfl

theorem Endpoint.Alike.retryManager (h : e.Alike w f) : f.retryManager = e.retryManager := by rw [h.rest]

theorem Endpoint.Alike.id (h : e.Alike w f) : f.id = e.id := by rw [h.rest]

theorem Endpoint.Alike.own (h : e.Alike w f) : f.own = e.own := by rw [h.rest]

theorem Endpoint.Alike.update (h : e.Alike w f) {g : Endpoint ρ → Endpoint ρ}
    (hg : ∀ e stub, g { e with stub := stub } = { g e with stub := stub }) : (g e).Alike w (g f) := by
  have hstub : ∀ e, (g e).stub = e.stub := fun e => by
    have hsame := congrArg Endpoint.stub (hg e e.stub)
    exact hsame
  refine ⟨by rw [hstub, hstub]; exact h.stub, ?_⟩
  rw [hstub, ← hg, ← h.rest]

namespace Scope.Alike

theorem update (h : Scope.Alike broken w s t) {g : Endpoint ρ → Endpoint ρ}
    (hg : ∀ e stub, g { e with stub := stub } = { g e with stub := stub }) :
    Scope.Alike broken w { s with self := g s.self } { t with self := g t.self } :=
  ⟨h.client, h.loops, h.ref, h.self.update hg⟩

theorem go (h : Scope.Alike broken w s t) (hv : w ≤ v) (hc : Client.Alike broken v c d) :
    Scope.Alike broken v { s with client := c } { t with client := d } :=
  ⟨hc, h.loops.imp fun _ _ hl => hl.later hv, h.ref, h.self.later hv⟩

theorem connect (h : Scope.Alike broken w s t) (hv : w ≤ v) (hc : Client.Alike broken v c d)
    {x y : RpcConnection} (hxy : v x y) :
    Scope.Alike broken v (Endpoint.connect x c s) (Endpoint.connect y d t) := by
  obtain ⟨-, hloops, href, -⟩ := h.go hv hc
  refine ⟨hc, hloops, href, .some hxy, ?_⟩
  unfold Endpoint.connect
  dsimp only
  rw [h.self.rest]

theorem lookup (h : Scope.Alike broken w s t) {out : Outside} (hout : out.channel = broken) :
    Client.Answers broken Call.Alike w (s.client.lookupTopic out s.self.connectUrl s.self.topic)
      (t.client.lookupTopic out t.self.connectUrl t.self.topic) := by
  rw [h.self.rest]
  exact Client.lookupTopic_alike h.client hout _ _

theorem connection (h : Scope.Alike broken w s t) {out : Outside} (hout : out.channel = broken) :
    Client.Answers broken (fun v x y => v x y) w
      (s.client.getConnection out s.self.brokerAddr s.self.connectUrl)
      (t.client.getConnection out t.self.brokerAddr t.self.connectUrl) := by
  rw [h.self.rest]
  exact Client.getConnection_alike h.client hout _ _

theorem header (h : Scope.Alike broken w s t) (metadata : Option Metadata) :
    insertProxyHeader metadata t.self.brokerAddr t.self.proxy =
      insertProxyHeader metadata s.self.brokerAddr s.self.proxy := by rw [h.self.rest]

end Scope.Alike

end Scopes

/-! ## The pieces -/

/-- The request of a registration does not show the channel. -/
def Role.Hides {ρ : Type} (role : Role ρ) : Prop :=
  ∀ e stub, role.request { e with stub := stub } = role.request e

namespace Endpoint

variable {ρ α : Type} {broken : String → Option String} {w v : Channels} {s t : Scope ρ}
  {role : Role ρ} {env : Env}

/-- The pieces of a registration on alike clients. -/
abbrev InStep (broken : String → Option String) (w : Channels) (r q : Piece ρ Registering α) : Prop :=
  Ran.Coupled (scopes ρ broken) Registering.Alike w r q

theorem same_log {e : Event} (he : e.conn? = none) : List.Forall₂ (Event.Alike w) [e] [e] :=
  .cons (.same e he) .nil

theorem rpc_log {x y : Call} (h : x.Alike w y) : List.Forall₂ (Event.Alike w) [.rpc x] [.rpc y] :=
  .cons (.rpc h) .nil

theorem backoff_alike (n : Nat) (h : Scope.Alike broken w s t) :
    InStep (α := α) broken w (backoff env n s) (backoff env n t) := by
  unfold backoff
  rw [h.self.retryManager]
  exact Ran.coupled h (same_log rfl) (.await (.backoff n))

variable (henv : env.Reaches broken)
include henv

theorem retry_alike (n : Nat) (h : Scope.Alike broken w s t) :
    InStep (α := α) broken w (retry env n s) (retry env n t) := by
  have hlookup := h.lookup henv.lookup
  unfold retry
  generalize s.client.lookupTopic _ _ _ = r at hlookup ⊢
  generalize t.client.lookupTopic _ _ _ = q at hlookup ⊢
  cases hlookup with
  | ok hv hc hcall =>
    exact .later hv (Ran.coupled (h.go hv hc) (rpc_log hcall) (.await (.lookup n hcall)))
  | error hv hc err => exact .later hv (backoff_alike n (h.go hv hc))

theorem failed_alike (n : Nat) (err : Error) (h : Scope.Alike broken w s t) :
    InStep (α := α) broken w (failed env n err s) (failed env n err t) := by
  unfold failed
  rw [h.self.retryManager]
  split
  · split
    · exact Ran.coupled h (same_log rfl) (.raise err)
    · exact retry_alike henv (n + 1) h
  · exact Ran.coupled h (same_log rfl) (.raise err)

theorem attempt_alike (hrole : role.Hides) (n : Nat) (h : Scope.Alike broken w s t) :
    InStep (α := α) broken w (attempt role env n s) (attempt role env n t) := by
  have hconnection := h.connection henv.call
  have hrequest : role.request t.self = role.request s.self := by rw [h.self.rest, hrole]
  unfold attempt
  rw [h.self.address, hrequest]
  generalize s.client.getConnection _ _ _ = r at hconnection ⊢
  generalize t.client.getConnection _ _ _ = q at hconnection ⊢
  cases hconnection with
  | error hv hc err => exact .later hv (failed_alike henv n err (h.go hv hc))
  | ok hv hc hconn =>
    refine .later hv (.after ?_ (.cons (.connected _ hconn) .nil))
    have hcounted := (h.connect hv hc hconn).update (g := fun e => { e with requestId := e.requestId + 1 })
      fun _ _ => rfl
    rw [hc.attachToken]
    dsimp only
    split
    · exact failed_alike henv n _ hcounted
    · rw [h.header]
      exact Ran.coupled hcounted (rpc_log ⟨hconn, rfl, rfl⟩) (.await (.request n _ ⟨hconn, rfl, rfl⟩))

theorem create_alike (hrole : role.Hides) (h : Scope.Alike broken w s t) :
    InStep (α := α) broken w (create role env s) (create role env t) := by
  have hlookup := h.lookup henv.lookup
  unfold create
  refine .after ?_ (same_log rfl)
  generalize s.client.lookupTopic _ _ _ = r at hlookup ⊢
  generalize t.client.lookupTopic _ _ _ = q at hlookup ⊢
  cases hlookup with
  | ok hv hc hcall =>
    exact .later hv (Ran.coupled (h.go hv hc) (rpc_log hcall) (.await (.lookup 0 hcall)))
  | error hv hc err => exact .later hv (attempt_alike henv hrole 0 (h.go hv hc))

theorem afterLookup_alike (hrole : role.Hides) (n : Nat) (h : Scope.Alike broken w s t) :
    InStep (α := α) broken w (afterLookup role env n s) (afterLookup role env n t) := by
  unfold afterLookup
  split
  · exact attempt_alike henv hrole 0 h
  · exact backoff_alike n h

theorem unresolved_alike (n : Nat) (err : Error) (h : Scope.Alike broken w s t) :
    InStep broken w (unresolved env n err s) (unresolved env n err t) :=
  (failed_alike henv n err h).after (same_log rfl)

omit henv in
theorem returnId_alike (h : Scope.Alike broken w s t) :
    InStep broken w (returnId s) (returnId t) := by
  unfold returnId
  rw [h.self.id]
  exact Ran.coupled h (same_log rfl) (.ret _)

omit henv in
theorem resolved_alike (info : SchemaInfo) (h : Scope.Alike broken w s t) :
    InStep broken w (resolved role info s) (resolved role info t) :=
  returnId_alike (h.update (g := fun e => { e with own := role.setSchema e.own info }) fun _ _ => rfl)

theorem resolveSchema_alike (n : Nat) (h : Scope.Alike broken w s t) :
    InStep broken w (resolveSchema role env n s) (resolveSchema role env n t) := by
  unfold resolveSchema
  rw [h.self.own]
  split
  · exact returnId_alike h
  · rename_i ref _
    have hlatest := Client.getLatestSchema_alike h.client henv.call ref.subject
    generalize s.client.getLatestSchema _ _ = r at hlatest ⊢
    generalize t.client.getLatestSchema _ _ = q at hlatest ⊢
    cases hlatest with
    | ok hv hc hcall =>
      exact .later hv (Ran.coupled (h.go hv hc) (rpc_log hcall) (.await (.latest n hcall)))
    | error hv hc err => exact .later hv (unresolved_alike henv n err (h.go hv hc))

theorem latestSchema_alike (n : Nat) (ref : SchemaReference) (latest : SchemaInfo)
    (h : Scope.Alike broken w s t) :
    InStep broken w (latestSchema role env n ref latest s) (latestSchema role env n ref latest t) := by
  unfold latestSchema
  split
  · rename_i version _
    split
    · exact unresolved_alike henv n _ h
    · split
      · exact resolved_alike latest h
      · have hpinned := Client.getSchemaVersion_alike h.client henv.call latest.schemaId (some version.toNat)
        generalize s.client.getSchemaVersion _ _ _ = r at hpinned ⊢
        generalize t.client.getSchemaVersion _ _ _ = q at hpinned ⊢
        cases hpinned with
        | ok hv hc hcall =>
          exact .later hv (Ran.coupled (h.go hv hc) (rpc_log hcall) (.await (.pinned n hcall)))
        | error hv hc err => exact .later hv (unresolved_alike henv n err (h.go hv hc))
  · split
    · exact unresolved_alike henv n _ h
    · exact resolved_alike latest h
  · exact resolved_alike latest h

omit henv in
theorem healthLoop_alike (h : Scope.Alike broken w s t) {x y : RpcConnection} (hxy : w x y) :
    (healthLoop role x s).Alike w (healthLoop role y t) := by
  refine ⟨hxy, .scheduled, ?_⟩
  unfold healthLoop
  rw [h.ref, h.self.rest]

omit henv in
theorem startHealthCheck_alike (h : Scope.Alike broken w s t) {x y : RpcConnection} (hxy : w x y) :
    Scope.Alike broken w (startHealthCheck role x s.client s) (startHealthCheck role y t.client t) := by
  have hlength : t.loops.length = s.loops.length := h.loops.length_eq.symm
  have hself := h.self.update (g := fun e => { e with healthTask := some s.loops.length }) fun _ _ => rfl
  unfold startHealthCheck
  rw [hlength]
  exact ⟨h.client, List.rel_append h.loops (.cons (healthLoop_alike h hxy) .nil), h.ref, hself⟩

theorem checkHealth_alike (n : Nat) (h : Scope.Alike broken w s t) :
    InStep broken w (checkHealth role env n s) (checkHealth role env n t) := by
  have hconnection := h.connection henv.health
  unfold checkHealth
  generalize s.client.getConnection _ _ _ = r at hconnection ⊢
  generalize t.client.getConnection _ _ _ = q at hconnection ⊢
  cases hconnection with
  | error hv hc err => exact .later hv (failed_alike henv n err (h.go hv hc))
  | ok hv hc hconn =>
    have hgone := h.go hv hc
    refine .later hv (.after (resolveSchema_alike henv n (startHealthCheck_alike hgone hconn)) ?_)
    exact .cons (.healthStarted (healthLoop_alike hgone hconn)) .nil

theorem registered_alike (n : Nat) (addr : BrokerAddress) (id : Nat) (h : Scope.Alike broken w s t) :
    InStep broken w (registered role env n addr id s) (registered role env n addr id t) := by
  have hid := h.update (g := fun e => { e with id := id }) fun _ _ => rfl
  exact (checkHealth_alike henv n hid).after (same_log rfl)

theorem resume_alike (hrole : role.Hides) (h : Scope.Alike broken w s t) {k l : Registering}
    (hk : k.Alike w l) {wake : Wake} {r : Piece ρ Registering Nat} (hr : resume role env s k wake = some r) :
    ∃ q, resume role env t l wake = some q ∧ InStep broken w r q := by
  cases resumption hr with
  | moved n call response addr haddr =>
    cases hk with
    | lookup n hcall =>
      have hmoved := h.update (g := fun e => e.moveTo addr) fun _ _ => rfl
      exact ⟨_, by simp only [resume, haddr], (afterLookup_alike henv hrole n hmoved).after (same_log rfl)⟩
  | notMoved n call response err herr =>
    cases hk with
    | lookup n hcall => exact ⟨_, by simp only [resume, herr], afterLookup_alike henv hrole n h⟩
  | lookupFailed n call err =>
    cases hk with
    | lookup n hcall => exact ⟨_, rfl, afterLookup_alike henv hrole n h⟩
  | slept n =>
    cases hk with
    | backoff n => exact ⟨_, rfl, attempt_alike henv hrole n h⟩
  | answered n addr call id =>
    cases hk with
    | request n addr hcall => exact ⟨_, rfl, registered_alike henv n addr id h⟩
  | refused n addr call err =>
    cases hk with
    | request n addr hcall => exact ⟨_, rfl, failed_alike henv n _ h⟩
  | latest n call info ref href =>
    cases hk with
    | latest n hcall =>
      have href' : role.schemaRef t.self.own = some ref := h.self.own ▸ href
      exact ⟨_, by simp only [resume, href', Option.map_some], latestSchema_alike henv n ref info h⟩
  | latestFailed n call err =>
    cases hk with
    | latest n hcall => exact ⟨_, rfl, unresolved_alike henv n _ h⟩
  | pinned n call info =>
    cases hk with
    | pinned n hcall => exact ⟨_, rfl, resolved_alike info h⟩
  | pinnedFailed n call err =>
    cases hk with
    | pinned n hcall => exact ⟨_, rfl, unresolved_alike henv n _ h⟩

end Endpoint

end Danube
