import Danube.Send

/-!
# Every piece keeps the journal

`Journaled s log s'` says that `log` accounts for the step from `s` to `s'`: replaying it gives
the new fields, and every event in it fits the journal before it. One lemma per piece.
-/

namespace Danube

open Async

variable {ρ α : Type}

/-- The journal says what the fields are. -/
structure Tracks (v : View) (e : Endpoint ρ) : Prop where
  address : e.address = v.addr
  stub : e.stub = v.stub.map Prod.snd
  id : e.id = v.id

/-- A journal that says what the fields are. -/
def View.of (e : Endpoint ρ) : View where
  addr := e.address
  stub := e.stub.map fun conn => (e.address, conn)
  registration := some (e.address, e.id)

theorem tracks_of (e : Endpoint ρ) : Tracks (View.of e) e where
  address := rfl
  stub := by cases h : e.stub <;> simp [View.of, h]
  id := rfl

structure Journaled (s : Scope ρ) (log : List Event) (s' : Scope ρ) : Prop where
  ref : s'.ref = s.ref
  topic : s'.self.topic = s.self.topic
  name : s'.self.name = s.self.name
  retryManager : s'.self.retryManager = s.self.retryManager
  stopEvent : s'.self.stopEvent = s.self.stopEvent
  client : s.client.Extends s'.client
  tracks : ∀ v, Tracks v s.self → Tracks (replay View.apply v log) s'.self
  fits : ∀ v, Tracks v s.self → Always View.apply (Fits s.self.topic s.ref) v log
  connected : ∀ a conn, .connected a conn ∈ log →
    s'.client.connection? a.brokerUrl a.connectUrl = some conn
  loops : s'.loops = s.loops ++ startedLoops log
  healthTask : s'.self.healthTask =
    if startedLoops log = [] then s.self.healthTask else some (s'.loops.length - 1)

namespace Journaled

theorem refl (s : Scope ρ) : Journaled s [] s where
  ref := rfl
  topic := rfl
  name := rfl
  retryManager := rfl
  stopEvent := rfl
  client := .refl _
  tracks _ h := h
  fits _ _ := trivial
  connected := by simp
  loops := by simp
  healthTask := rfl

theorem trans {s t u : Scope ρ} {a b : List Event} (h : Journaled s a t) (k : Journaled t b u) :
    Journaled s (a ++ b) u where
  ref := k.ref.trans h.ref
  topic := k.topic.trans h.topic
  name := k.name.trans h.name
  retryManager := k.retryManager.trans h.retryManager
  stopEvent := k.stopEvent.trans h.stopEvent
  client := h.client.trans k.client
  tracks v hv := by
    rw [replay_append]
    exact k.tracks _ (h.tracks v hv)
  fits v hv := by
    have hk := k.fits _ (h.tracks v hv)
    rw [h.topic, h.ref] at hk
    exact (always_append _ _ _ _).mpr ⟨h.fits v hv, hk⟩
  connected x conn hx := by
    rcases List.mem_append.mp hx with hx | hx
    · exact k.client.connection? (h.connected x conn hx)
    · exact k.connected x conn hx
  loops := by rw [k.loops, h.loops, startedLoops_append, List.append_assoc]
  healthTask := by
    rw [k.healthTask, h.healthTask, k.loops, startedLoops_append]
    by_cases ha : startedLoops a = [] <;> by_cases hb : startedLoops b = [] <;> simp [ha, hb]

theorem started_fits {s s' : Scope ρ} {log : List Event} (h : Journaled s log s') {l : HealthLoop}
    (hl : l ∈ startedLoops log) : l.owner = s.ref ∧ l.position = .scheduled := by
  obtain ⟨e, he, hel⟩ := List.mem_filterMap.mp hl
  obtain ⟨pre, post, hlog⟩ := List.append_of_mem he
  have hfits := (always_iff_split _ _ _).mp (h.fits _ (tracks_of s.self)) pre e post hlog
  cases e with
  | healthStarted l' =>
    cases hel
    exact ⟨hfits.1, hfits.2.2.2.2.2⟩
  | _ => simp [Event.loop?] at hel

theorem scheduled {s s' : Scope ρ} {log : List Event} (h : Journaled s log s') {l : HealthLoop}
    (hl : l ∈ startedLoops log) : l.position = .scheduled := (h.started_fits hl).2

theorem owner {s s' : Scope ρ} {log : List Event} (h : Journaled s log s') {l : HealthLoop}
    (hl : l ∈ startedLoops log) : l.owner = s.ref := (h.started_fits hl).1

theorem replay_stub_ne_none {v : View} (hv : v.stub ≠ none) (log : List Event) :
    (replay View.apply v log).stub ≠ none := by
  induction log generalizing v with
  | nil => exact hv
  | cons e es ih =>
    refine ih ?_
    cases e with
    | connected a conn => simp [View.apply]
    | _ => exact hv

theorem stub_ne_none {s s' : Scope ρ} {log : List Event} (h : Journaled s log s')
    (hs : s.self.stub ≠ none) : s'.self.stub ≠ none := by
  have hv : (View.of s.self).stub ≠ none := by simpa [View.of] using hs
  rw [(h.tracks _ (tracks_of s.self)).stub]
  simpa using replay_stub_ne_none hv log

/-! ## One event -/

/-- An event that says nothing about the fields and starts no health loop. -/
def Plain : Event → Prop
  | .rpc call => call.request.onStub = false
  | .moved _ | .connected .. | .registered .. | .healthStarted _ => False
  | _ => True

theorem plain {e : Event} (h : Plain e) (s : Scope ρ) : Journaled s [e] s := by
  have happly : ∀ v : View, v.apply e = v := by
    intro v; cases e <;> first | rfl | exact h.elim
  constructor
  case tracks =>
    intro v hv
    simpa [happly] using hv
  case fits =>
    intro v _
    refine ⟨?_, trivial⟩
    cases e <;> first | exact h.elim | exact trivial | (intro hon; simp [Plain] at h; simp [h] at hon)
  case connected =>
    intro a conn hmem
    rw [List.mem_singleton] at hmem
    exact (hmem ▸ h : Plain (.connected a conn)).elim
  case loops => cases e <;> first | exact h.elim | simp [startedLoops, Event.loop?]
  case healthTask => cases e <;> first | exact h.elim | simp [startedLoops, Event.loop?]
  all_goals first | rfl | exact .refl _

theorem ofClient {s : Scope ρ} {c : Client} (h : s.client.Extends c) :
    Journaled s [] { s with client := c } := { refl s with client := h, connected := by simp }

theorem change {s : Scope ρ} (e : Endpoint ρ) (htopic : e.topic = s.self.topic)
    (hname : e.name = s.self.name) (hretry : e.retryManager = s.self.retryManager)
    (hstop : e.stopEvent = s.self.stopEvent) (haddr : e.address = s.self.address)
    (hstub : e.stub = s.self.stub) (hid : e.id = s.self.id)
    (htask : e.healthTask = s.self.healthTask) : Journaled s [] { s with self := e } :=
  { refl s with
    topic := htopic
    name := hname
    retryManager := hretry
    stopEvent := hstop
    tracks := fun v hv =>
      ⟨haddr.trans hv.address, hstub.trans hv.stub, hid.trans hv.id⟩
    connected := by simp
    healthTask := htask }

theorem moved (s : Scope ρ) (addr : BrokerAddress) :
    Journaled s [.moved addr] { s with self := s.self.moveTo addr } :=
  { refl s with
    tracks := fun v hv => ⟨rfl, hv.stub, hv.id⟩
    fits := fun v _ => ⟨trivial, trivial⟩
    connected := by simp
    loops := by simp [startedLoops, Event.loop?] }

theorem connect {s : Scope ρ} {c : Client} {conn : RpcConnection} (hc : s.client.Extends c)
    (hconn : c.connection? s.self.brokerAddr s.self.connectUrl = some conn) :
    Journaled s [.connected s.self.address conn] (Endpoint.connect conn c s) :=
  { refl s with
    topic := rfl
    name := rfl
    retryManager := rfl
    stopEvent := rfl
    client := hc
    tracks := fun v hv => ⟨hv.address, rfl, hv.id⟩
    fits := fun v hv => ⟨hv.address, trivial⟩
    connected := by
      intro a conn' hmem
      simp only [List.mem_singleton, Event.connected.injEq] at hmem
      obtain ⟨rfl, rfl⟩ := hmem
      exact hconn
    loops := by simp [startedLoops, Event.loop?, Endpoint.connect] }

theorem rpcOnStub {s : Scope ρ} {call : Call} (hconn : s.self.stub = some call.conn)
    (hmd : ∃ metadata, call.metadata =
      insertProxyHeader metadata s.self.brokerAddr s.self.proxy)
    (hmsg : ∀ m, call.request = .sendMessage m → m.msgId =
      { producerId := s.self.id, topicName := s.self.topic, brokerAddr := s.self.brokerAddr })
    (hstream : ∀ n id, call.request = .receiveMessages n id → id = s.self.id) :
    Journaled s [.rpc call] s :=
  { refl s with
    tracks := fun v hv => hv
    fits := by
      intro v hv
      refine ⟨fun _ => ?_, trivial⟩
      have hb : s.self.brokerAddr = v.addr.brokerUrl := by rw [← hv.address]; rfl
      have hp : s.self.proxy = v.addr.proxy := by rw [← hv.address]; rfl
      rw [← hb, ← hp, ← hv.id]
      refine ⟨?_, hmd, hmsg, hstream⟩
      have hstub := hv.stub
      rw [hconn] at hstub
      obtain ⟨⟨a, c⟩, ha, rfl⟩ := Option.map_eq_some_iff.mp hstub.symm
      exact ⟨a, ha⟩
    connected := by simp
    loops := by simp [startedLoops, Event.loop?] }

theorem registered (s : Scope ρ) (addr : BrokerAddress) (id : Nat) :
    Journaled s [.registered addr id] (Endpoint.withId id s) :=
  { refl s with
    tracks := fun v hv => ⟨hv.address, hv.stub, rfl⟩
    fits := fun v _ => ⟨trivial, trivial⟩
    connected := by simp
    loops := by simp [startedLoops, Event.loop?, Endpoint.withId] }

theorem startHealthCheck (role : Role ρ) {s : Scope ρ} {c : Client} (conn : RpcConnection)
    (hc : s.client.Extends c) :
    Journaled s [.healthStarted (Endpoint.healthLoop role conn s)]
      (Endpoint.startHealthCheck role conn c s) where
  ref := rfl
  topic := rfl
  name := rfl
  retryManager := rfl
  stopEvent := rfl
  client := hc
  tracks v hv := ⟨hv.address, hv.stub, hv.id⟩
  fits v hv := by
    have haddr := hv.address
    refine ⟨⟨rfl, hv.id, ?_, ?_, ?_, rfl⟩, trivial⟩ <;> rw [← haddr] <;> rfl
  connected := by simp
  loops := by simp [startedLoops, Event.loop?, Endpoint.startHealthCheck]
  healthTask := by simp [startedLoops, Event.loop?, Endpoint.startHealthCheck]

end Journaled

/-! ## The pieces of `create()` and `subscribe()` -/

/-- A piece that `log` and `state` account for. -/
abbrev Piece.Journaled {κ : Type} (s : Scope ρ) (r : Piece ρ κ α) : Prop :=
  Danube.Journaled s r.log r.state

section Pieces

variable (role : Role ρ) (env : Env)

theorem lookup_extends {s : Scope ρ} {c : Client} {x : Except Error Call}
    (h : s.client.lookupTopic env.lookup s.self.connectUrl s.self.topic = (c, x)) :
    s.client.Extends c := by
  have := s.client.lookupTopic_extends env.lookup s.self.connectUrl s.self.topic
  rwa [h] at this

theorem lookup_rpc {s : Scope ρ} {c : Client} {call : Call}
    (h : s.client.lookupTopic env.lookup s.self.connectUrl s.self.topic = (c, .ok call)) :
    Journaled s [.rpc call] { s with client := c } := by
  obtain ⟨-, n, hn⟩ := Client.lookupTopic_ok h
  have hplain : Journaled.Plain (.rpc call) := by simp [Journaled.Plain, hn, Request.onStub]
  exact (Journaled.ofClient (lookup_extends env h)).trans (.plain hplain _)

theorem backoff_journaled (n : Nat) (s : Scope ρ) :
    Piece.Journaled s (Endpoint.backoff env n s : Piece ρ Registering α) :=
  .plain (by trivial) s

theorem retry_journaled (n : Nat) (s : Scope ρ) :
    Piece.Journaled s (Endpoint.retry env n s : Piece ρ Registering α) := by
  unfold Endpoint.retry
  split
  · rename_i h
    exact lookup_rpc env h
  · rename_i h
    exact (Journaled.ofClient (lookup_extends env h)).trans (backoff_journaled env n _)

theorem failed_journaled (n : Nat) (err : Error) (s : Scope ρ) :
    Piece.Journaled s (Endpoint.failed env n err s : Piece ρ Registering α) := by
  unfold Endpoint.failed
  split
  · split
    · exact .plain (by trivial) s
    · exact retry_journaled env (n + 1) s
  · exact .plain (by trivial) s

theorem registration_rpc {s : Scope ρ} {conn : RpcConnection} {e : Endpoint ρ}
    (hstub : s.self.stub = some conn) (metadata : Option Metadata) :
    Journaled s [.rpc ⟨conn, role.request e,
      insertProxyHeader metadata s.self.brokerAddr s.self.proxy⟩] s := by
  refine .rpcOnStub hstub ⟨metadata, rfl⟩ ?_ ?_
  · intro m hm
    rcases role.registers e with ⟨r, hr⟩ | ⟨r, hr⟩ <;> simp [hr] at hm
  · intro n id hn
    rcases role.registers e with ⟨r, hr⟩ | ⟨r, hr⟩ <;> simp [hr] at hn

theorem attempt_journaled (n : Nat) (s : Scope ρ) :
    Piece.Journaled s (Endpoint.attempt role env n s : Piece ρ Registering α) := by
  have hext := s.client.getConnection_extends env.call s.self.brokerAddr s.self.connectUrl
  unfold Endpoint.attempt
  split <;> rename_i c _ heq <;> rw [heq] at hext
  · exact (Journaled.ofClient hext).trans (failed_journaled env n _ _)
  · rename_i conn
    -- The stub is set and the request counted before the token is asked for.
    have hconn := Journaled.connect hext (Client.getConnection_ok heq)
    have hcount : Journaled (Endpoint.connect conn c s) []
        (Endpoint.countRequest (Endpoint.connect conn c s)) := .change _ rfl rfl rfl rfl rfl rfl rfl rfl
    refine hconn.trans (hcount.trans ?_)
    split
    · exact failed_journaled env n _ _
    · exact registration_rpc role rfl _

theorem create_journaled (s : Scope ρ) :
    Piece.Journaled s (Endpoint.create role env s : Piece ρ Registering α) := by
  unfold Endpoint.create
  refine (Journaled.plain (e := .creating) trivial s).trans ?_
  split
  · rename_i h
    exact lookup_rpc env h
  · rename_i h
    exact (Journaled.ofClient (lookup_extends env h)).trans (attempt_journaled role env 0 _)

theorem afterLookup_journaled (n : Nat) (s : Scope ρ) :
    Piece.Journaled s (Endpoint.afterLookup role env n s : Piece ρ Registering α) := by
  unfold Endpoint.afterLookup
  split
  · exact attempt_journaled role env 0 s
  · exact backoff_journaled env n s

theorem unresolved_journaled (n : Nat) (err : Error) (s : Scope ρ) :
    Piece.Journaled s (Endpoint.unresolved env n err s) :=
  (Journaled.plain (e := .unresolved err) trivial s).trans (failed_journaled env n err s)

theorem returnId_journaled (s : Scope ρ) : Piece.Journaled s (Endpoint.returnId s) :=
  .plain (by trivial) s

theorem resolved_journaled (info : SchemaInfo) (s : Scope ρ) :
    Piece.Journaled s (Endpoint.resolved role info s) := by
  have hown : Journaled s [] { s with self := { s.self with own := role.setSchema s.self.own info } } :=
    .change _ rfl rfl rfl rfl rfl rfl rfl rfl
  exact hown.trans (returnId_journaled _)

theorem resolveSchema_journaled (n : Nat) (s : Scope ρ) :
    Piece.Journaled s (Endpoint.resolveSchema role env n s) := by
  unfold Endpoint.resolveSchema
  split
  · exact returnId_journaled s
  · rename_i ref _
    have hext := s.client.getLatestSchema_extends env.call ref.subject
    split <;> rename_i call heq <;> rw [heq] at hext
    · exact (Journaled.ofClient hext).trans (unresolved_journaled env n _ _)
    · have hplain : Journaled.Plain (.rpc call) := by
        simp [Journaled.Plain, Client.getLatestSchema_ok heq, Request.onStub]
      exact (Journaled.ofClient hext).trans (.plain hplain _)

theorem latestSchema_journaled (n : Nat) (ref : SchemaReference) (latest : SchemaInfo)
    (s : Scope ρ) : Piece.Journaled s (Endpoint.latestSchema role env n ref latest s) := by
  unfold Endpoint.latestSchema
  split
  · rename_i version _
    split
    · exact unresolved_journaled env n _ s
    · split
      · exact resolved_journaled role latest s
      · have hext := s.client.getSchemaVersion_extends env.call latest.schemaId (some version.toNat)
        split <;> rename_i call heq <;> rw [heq] at hext
        · exact (Journaled.ofClient hext).trans (unresolved_journaled env n _ _)
        · have hplain : Journaled.Plain (.rpc call) := by
            simp [Journaled.Plain, Client.getSchemaVersion_ok heq, Request.onStub]
          exact (Journaled.ofClient hext).trans (.plain hplain _)
  · split
    · exact unresolved_journaled env n _ s
    · exact resolved_journaled role latest s
  · exact resolved_journaled role latest s

theorem checkHealth_journaled (n : Nat) (s : Scope ρ) :
    Piece.Journaled s (Endpoint.checkHealth role env n s) := by
  have hext := s.client.getConnection_extends env.health s.self.brokerAddr s.self.connectUrl
  unfold Endpoint.checkHealth
  split <;> rename_i heq <;> rw [heq] at hext
  · exact (Journaled.ofClient hext).trans (failed_journaled env n _ _)
  · exact (Journaled.startHealthCheck role _ hext).trans (resolveSchema_journaled role env n _)

theorem registered_journaled (n : Nat) (addr : BrokerAddress) (id : Nat) (s : Scope ρ) :
    Piece.Journaled s (Endpoint.registered role env n addr id s) :=
  (Journaled.registered s addr id).trans (checkHealth_journaled role env n _)

theorem resume_journaled {s : Scope ρ} {k : Registering} {w : Wake}
    {r : Piece ρ Registering Nat} (h : Endpoint.resume role env s k w = some r) :
    Piece.Journaled s r := by
  cases Endpoint.resumption h with
  | moved n call response addr =>
    exact (Journaled.moved s addr).trans (afterLookup_journaled role env n _)
  | notMoved n | lookupFailed n => exact afterLookup_journaled role env n s
  | slept n => exact attempt_journaled role env n s
  | answered n addr call id => exact registered_journaled role env n addr id s
  | refused n => exact failed_journaled env n _ s
  | latest n call info ref => exact latestSchema_journaled role env n ref info s
  | latestFailed n | pinnedFailed n => exact unresolved_journaled env n _ s
  | pinned n call info => exact resolved_journaled role info s

end Pieces

/-! ## The pieces of a send -/

section Send

variable (env : Env)

theorem andThen_journaled {κ κ' β : Type} {s : Scope ρ} {r : Piece ρ κ α} {lift : κ → κ'}
    {onRet : Scope ρ → α → Piece ρ κ' β} {onRaise : Scope ρ → Error → Piece ρ κ' β}
    (hr : Piece.Journaled s r) (hret : ∀ t a, Piece.Journaled t (onRet t a))
    (hraise : ∀ t e, Piece.Journaled t (onRaise t e)) :
    Piece.Journaled s (r.andThen lift onRet onRaise) :=
  Ran.andThen_spec Journaled.trans hr (fun a _ => hret _ a) fun e _ => hraise _ e

theorem topicProducerSend_journaled (call : SendCall) (s : Scope ProducerFields) :
    Journaled s [] (TopicProducer.send env call.data call.attributes call.routingKey s).1 := by
  unfold TopicProducer.send
  split
  · exact .refl s
  · dsimp only
    split <;> exact .change _ rfl rfl rfl rfl rfl rfl rfl rfl

theorem topicProducerSend_rpc {call : SendCall} {s s' : Scope ProducerFields} {rpc : Call}
    (h : TopicProducer.send env call.data call.attributes call.routingKey s = (s', .ok rpc)) :
    Journaled s [.rpc rpc] s' := by
  have hs := topicProducerSend_journaled env call s
  rw [h] at hs
  refine hs.trans (.rpcOnStub ?_ ?_ ?_ ?_)
  all_goals
    unfold TopicProducer.send at h
    split at h
    · simp at h
    · rename_i stub hstub
      dsimp only at h
      split at h
      · simp at h
      · rename_i metadata _
        simp only [Prod.mk.injEq, Except.ok.injEq] at h
        obtain ⟨rfl, rfl⟩ := h
        first
          | exact hstub
          | exact ⟨metadata, rfl⟩
          | (intro m hm; cases hm; rfl)
          | (intro n id hn; cases hn)

theorem raise_journaled (err : Error) (s : Scope ProducerFields) :
    Piece.Journaled s (SendCall.raise err s) := .refl s

theorem recreateProducer_journaled (s : Scope ProducerFields) :
    Piece.Journaled s (SendCall.recreateProducer env s) :=
  andThen_journaled (create_journaled producerRole env s) (fun _ a => a.elim)
    fun t e => raise_journaled e t

theorem lookupAndRecreate_journaled (err : Error) (s : Scope ProducerFields) :
    Piece.Journaled s (SendCall.lookupAndRecreate env err s) := by
  unfold SendCall.lookupAndRecreate
  split
  · rename_i h
    exact lookup_rpc env h
  · rename_i h
    exact (Journaled.ofClient (lookup_extends env h)).trans (raise_journaled err _)

theorem caught_journaled (call : SendCall) (n : Nat) (err : Error) (s : Scope ProducerFields) :
    Piece.Journaled s (SendCall.caught env call n err s) := by
  unfold SendCall.caught
  split
  · exact recreateProducer_journaled env s
  · split
    · split
      · exact lookupAndRecreate_journaled env err s
      · exact .plain (by trivial) s
    · exact raise_journaled err s

theorem sendAttempt_journaled (call : SendCall) (n : Nat) (s : Scope ProducerFields) :
    Piece.Journaled s (SendCall.attempt env call n s) := by
  unfold SendCall.attempt
  split
  · rename_i h
    exact topicProducerSend_rpc env h
  · rename_i h
    have hs := topicProducerSend_journaled env call s
    rw [h] at hs
    exact hs.trans (caught_journaled env call n _ _)

theorem sendResume_journaled {call : SendCall} {s : Scope ProducerFields} {k : Sending} {w : Wake}
    {r : Piece ProducerFields Sending Nat} (h : call.resume env s k w = some r) :
    Piece.Journaled s r := by
  cases SendCall.resumption h with
  | answered => exact .refl s
  | failed n => exact caught_journaled env call n _ s
  | slept n => exact sendAttempt_journaled env call n s
  | moved err rpc response addr =>
    exact (Journaled.moved s addr).trans (recreateProducer_journaled env _)
  | notMoved err | lookupFailed err => exact raise_journaled err s
  | creating k w r' hr' =>
    exact andThen_journaled (resume_journaled producerRole env hr')
      (fun t _ => sendAttempt_journaled env call 0 t) fun t e => raise_journaled e t

end Send

end Danube
