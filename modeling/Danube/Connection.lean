import Danube.RetryManager
import Mathlib.Data.List.Nodup
import Mathlib.Data.List.Range

/-! # Channels, tokens and their cache (`connection_manager.py`, `auth_service.py`) -/

namespace Danube

structure BrokerAddress where
  connectUrl : String
  brokerUrl : String
  proxy : Bool
  deriving DecidableEq, Repr

/-- What `grpc.ssl_channel_credentials` was given. -/
structure Credentials where
  rootCertificates : Option (List UInt8) := none
  privateKey : Option (List UInt8) := none
  certificateChain : Option (List UInt8) := none
  deriving DecidableEq, Repr

/-- A token supplier is a callable of the application: here its identity. -/
structure ConnectionOptions where
  useTls : Bool := false
  tlsCredentials : Option Credentials := none
  token : String := ""
  tokenSupplier : Option Nat := none
  internalBroker : String := ""
  deriving DecidableEq, Repr

/-- What a token supplier answers when called, and the error that the creation of a channel
raises, if any. -/
structure Outside where
  token : Nat → Except String String := fun _ => .ok ""
  channel : String → Option String := fun _ => none

/-- The world outside the client during one uninterrupted piece of code: for the lookup RPC the
piece issues, for the other RPC it issues, and for the health check it starts. `receiveMessages`
is what `ReceiveMessages` raises when called, `draw` stands behind `random`, `now` is the clock. -/
structure Env where
  lookup : Outside := {}
  call : Outside := {}
  health : Outside := {}
  receiveMessages : Option RpcError := none
  draw : Nat := 0
  now : Nat := 0

def ConnectionOptions.resolveToken (o : ConnectionOptions) (out : Outside) :
    Except String String :=
  match o.tokenSupplier with
  | some supplier => out.token supplier
  | none => .ok o.token

def internalBrokerHeader : String := "x-danube-internal-broker"

def ConnectionOptions.attachTokenIfNeeded (o : ConnectionOptions) (out : Outside) :
    Except Error (Option Metadata) :=
  match o.resolveToken out with
  | .error text => .error (.other text)
  | .ok token =>
    let metadata : Metadata :=
      (if token ≠ "" then [("authorization", "Bearer " ++ token)] else []) ++
        if o.internalBroker ≠ "" then [(internalBrokerHeader, o.internalBroker)] else []
    .ok (if metadata = [] then none else some metadata)

/-! ## Channels -/

/-- A `grpc.aio` channel. `id` tells channel objects apart. -/
structure Channel where
  id : Nat
  target : String
  credentials : Option Credentials
  deriving DecidableEq, Repr

structure RpcConnection where
  channel : Channel
  deriving DecidableEq, Repr

def removePrefix? (p url : String) : Option String :=
  if p.toList.isPrefixOf url.toList then some (String.ofList (url.toList.drop p.length)) else none

/-- gRPC expects `host:port`: at most one scheme is removed. -/
def targetOf (connectUrl : String) : String :=
  ((removePrefix? "https://" connectUrl).orElse fun _ => removePrefix? "http://" connectUrl).getD
    connectUrl

def ConnectionOptions.createChannel (o : ConnectionOptions) (id : Nat) (connectUrl : String) :
    Channel where
  id := id
  target := targetOf connectUrl
  credentials := if o.useTls then some (o.tlsCredentials.getD {}) else none

/-! ## The cache -/

/-- A dict keeps one entry for each key, and every entry made here got a channel of its own,
to the address of its key. -/
structure ConnectionManager where
  options : ConnectionOptions
  connections : List (BrokerAddress × RpcConnection)
  distinct : (connections.map Prod.fst).Nodup
  numbered : connections.map (·.2.channel.id) = List.range connections.length
  targeted : ∀ e ∈ connections, e.2.channel.target = targetOf e.1.connectUrl

namespace ConnectionManager

def init (options : ConnectionOptions) : ConnectionManager where
  options := options
  connections := []
  distinct := List.nodup_nil
  numbered := rfl
  targeted := by simp

def keyOf (brokerUrl connectUrl : String) : BrokerAddress where
  connectUrl := connectUrl
  brokerUrl := brokerUrl
  proxy := brokerUrl ≠ connectUrl

def connection? (cm : ConnectionManager) (brokerUrl connectUrl : String) : Option RpcConnection :=
  cm.connections.lookup (keyOf brokerUrl connectUrl)

theorem lookup_none_notMem {α β : Type} [DecidableEq α] {l : List (α × β)} {k : α}
    (h : l.lookup k = none) : k ∉ l.map Prod.fst := by
  rw [List.lookup_eq_none_iff] at h
  rintro hk
  obtain ⟨e, he, rfl⟩ := List.mem_map.mp hk
  simpa using h e he

/-- A new entry at the end of the dict. -/
def insert (cm : ConnectionManager) (brokerUrl connectUrl : String)
    (h : cm.connection? brokerUrl connectUrl = none) : ConnectionManager :=
  let conn : RpcConnection := ⟨cm.options.createChannel cm.connections.length connectUrl⟩
  { cm with
    connections := cm.connections ++ [(keyOf brokerUrl connectUrl, conn)]
    distinct := by
      rw [List.map_append, List.nodup_append]
      refine ⟨cm.distinct, by simp, ?_⟩
      rintro a ha b hb rfl
      simp only [List.map_cons, List.map_nil, List.mem_singleton] at hb
      exact lookup_none_notMem h (hb ▸ ha)
    numbered := by
      simp [cm.numbered, List.range_succ, ConnectionOptions.createChannel, conn]
    targeted := by
      intro e he
      rcases List.mem_append.mp he with he | he
      · exact cm.targeted e he
      · rw [List.mem_singleton.mp he]
        rfl }

/-- The lock is never held across a suspension, so the whole call is one piece. -/
def getConnection (cm : ConnectionManager) (out : Outside) (brokerUrl connectUrl : String) :
    ConnectionManager × Except Error RpcConnection :=
  match h : cm.connection? brokerUrl connectUrl with
  | some conn => (cm, .ok conn)
  | none =>
    match out.channel connectUrl with
    | some text => (cm, .error (.other text))
    | none =>
      (cm.insert brokerUrl connectUrl h,
        .ok ⟨cm.options.createChannel cm.connections.length connectUrl⟩)

/-- `cm'` has the options of `cm` and all its connections. -/
structure Extends (cm cm' : ConnectionManager) : Prop where
  options : cm'.options = cm.options
  connections : cm.connections <+: cm'.connections

theorem Extends.refl (cm : ConnectionManager) : cm.Extends cm := ⟨rfl, List.prefix_refl _⟩

theorem Extends.trans {a b c : ConnectionManager} (h : a.Extends b) (k : b.Extends c) :
    a.Extends c := ⟨k.options.trans h.options, h.connections.trans k.connections⟩

theorem Extends.connection? {cm cm' : ConnectionManager} (h : cm.Extends cm') {b c : String}
    {conn : RpcConnection} (hc : cm.connection? b c = some conn) :
    cm'.connection? b c = some conn := by
  obtain ⟨t, ht⟩ := h.connections
  unfold ConnectionManager.connection? at hc ⊢
  rw [← ht, List.lookup_append, hc]
  rfl

theorem extends_insert (cm : ConnectionManager) (b c : String) (h : cm.connection? b c = none) :
    cm.Extends (cm.insert b c h) := ⟨rfl, List.prefix_append _ _⟩

theorem connection?_insert (cm : ConnectionManager) (b c : String)
    (h : cm.connection? b c = none) :
    (cm.insert b c h).connection? b c =
      some ⟨cm.options.createChannel cm.connections.length c⟩ := by
  unfold ConnectionManager.connection? at h ⊢
  simp [insert, List.lookup_append, h]

theorem getConnection_extends (cm : ConnectionManager) (out : Outside) (b c : String) :
    cm.Extends (cm.getConnection out b c).1 := by
  unfold getConnection
  split
  · exact Extends.refl cm
  · rename_i h
    split
    · exact Extends.refl cm
    · exact extends_insert cm b c h

theorem getConnection_ok {cm : ConnectionManager} {out : Outside} {b c : String}
    {conn : RpcConnection} (hok : (cm.getConnection out b c).2 = .ok conn) :
    (cm.getConnection out b c).1.connection? b c = some conn := by
  revert hok
  unfold getConnection
  split
  · rename_i heq
    intro hok
    simp only [Except.ok.injEq] at hok
    exact hok ▸ heq
  · rename_i h
    split
    · simp
    · intro hok
      simp only [Except.ok.injEq] at hok
      rw [connection?_insert, hok]

theorem getConnection_cached {cm : ConnectionManager} {b c : String} {conn : RpcConnection}
    (out : Outside) (h : cm.connection? b c = some conn) :
    cm.getConnection out b c = (cm, .ok conn) := by
  unfold getConnection
  split
  · simp_all
  · simp_all

theorem mem_of_connection? {cm : ConnectionManager} {b c : String} {conn : RpcConnection}
    (h : cm.connection? b c = some conn) : (keyOf b c, conn) ∈ cm.connections := by
  obtain ⟨l₁, l₂, hl, -⟩ := List.lookup_eq_some_iff.mp h
  rw [hl]
  simp

theorem target_of_connection? {cm : ConnectionManager} {b c : String} {conn : RpcConnection}
    (h : cm.connection? b c = some conn) : conn.channel.target = targetOf c :=
  cm.targeted (keyOf b c, conn) (mem_of_connection? h)

theorem connection?_inj {cm : ConnectionManager} {b c b' c' : String} {conn : RpcConnection}
    (h : cm.connection? b c = some conn) (h' : cm.connection? b' c' = some conn) :
    b = b' ∧ c = c' := by
  have hnodup : (cm.connections.map (·.2.channel.id)).Nodup := cm.numbered ▸ List.nodup_range
  have heq := List.inj_on_of_nodup_map hnodup (mem_of_connection? h) (mem_of_connection? h') rfl
  simp only [Prod.mk.injEq, keyOf, BrokerAddress.mk.injEq] at heq
  exact ⟨heq.1.2.1, heq.1.1⟩

end ConnectionManager

end Danube
