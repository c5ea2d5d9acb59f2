import Danube.Messages

/-! # The client and its services (`client.py`, `lookup_service.py`, `schema_registry_client.py`)

An RPC is issued in the piece of code that builds it, and its reply wakes a later one. The
functions here are the first pieces.
-/

namespace Danube

/-- `DanubeClient`: one connection manager, shared by its services, and their request counters. -/
structure Client where
  uri : String
  connectionManager : ConnectionManager
  lookupRequestId : Nat := 1
  healthRequestId : Nat := 1

namespace Client

def init (uri : String) (options : ConnectionOptions) : Client where
  uri := uri
  connectionManager := .init options

def getConnection (c : Client) (out : Outside) (brokerUrl connectUrl : String) :
    Client × Except Error RpcConnection :=
  let r := c.connectionManager.getConnection out brokerUrl connectUrl
  ({ c with connectionManager := r.1 }, r.2)

def attachTokenIfNeeded (c : Client) (out : Outside) : Except Error (Option Metadata) :=
  c.connectionManager.options.attachTokenIfNeeded out

/-- A stub to `addr` and the metadata for it. -/
def prepare (c : Client) (out : Outside) (addr : String) :
    Client × Except Error (RpcConnection × Option Metadata) :=
  match c.getConnection out addr addr with
  | (c, .error e) => (c, .error e)
  | (c, .ok conn) =>
    match c.attachTokenIfNeeded out with
    | .error e => (c, .error e)
    | .ok metadata => (c, .ok (conn, metadata))

/-! ## Lookup -/

def lookupTopic (c : Client) (out : Outside) (addr topic : String) : Client × Except Error Call :=
  match c.prepare out addr with
  | (c, .error e) => (c, .error e)
  | (c, .ok (conn, metadata)) =>
    ({ c with lookupRequestId := c.lookupRequestId + 1 },
      .ok ⟨conn, .topicLookup c.lookupRequestId topic, metadata⟩)

def topicPartitions (c : Client) (out : Outside) (addr topic : String) :
    Client × Except Error Call :=
  match c.prepare out addr with
  | (c, .error e) => (c, .error e)
  | (c, .ok (conn, metadata)) =>
    ({ c with lookupRequestId := c.lookupRequestId + 1 },
      .ok ⟨conn, .topicPartitions c.lookupRequestId topic, metadata⟩)

/-- `handle_lookup` on the answer. -/
def handleLookup (response : TopicLookupResponse) : Except Error BrokerAddress :=
  match response.responseType with
  | .redirect | .connect =>
    .ok ⟨response.connectUrl, response.brokerUrl, response.proxy⟩
  | .failed => .error (.lookup "topic lookup failed: topic may not exist or cluster is unavailable")
  | .unknown => .error (.lookup "unknown lookup type")

/-! ## Schema registry -/

def getLatestSchema (c : Client) (out : Outside) (subject : String) : Client × Except Error Call :=
  match c.prepare out c.uri with
  | (c, .error e) => (c, .error e)
  | (c, .ok (conn, metadata)) => (c, .ok ⟨conn, .getLatestSchema subject, metadata⟩)

def getSchemaVersion (c : Client) (out : Outside) (schemaId : Nat) (version : Option Nat) :
    Client × Except Error Call :=
  match c.prepare out c.uri with
  | (c, .error e) => (c, .error e)
  | (c, .ok (conn, metadata)) => (c, .ok ⟨conn, .getSchema schemaId version, metadata⟩)

/-! ## What these pieces change -/

/-- `c'` is `c` with more connections and higher counters. -/
structure Extends (c c' : Client) : Prop where
  uri : c'.uri = c.uri
  connections : c.connectionManager.Extends c'.connectionManager

theorem Extends.refl (c : Client) : c.Extends c := ⟨rfl, .refl _⟩

theorem Extends.trans {a b c : Client} (h : a.Extends b) (k : b.Extends c) : a.Extends c :=
  ⟨k.uri.trans h.uri, h.connections.trans k.connections⟩

/-- The connection that the client keeps for a pair of addresses. -/
def connection? (c : Client) (brokerUrl connectUrl : String) : Option RpcConnection :=
  c.connectionManager.connection? brokerUrl connectUrl

theorem Extends.connection? {c c' : Client} (h : c.Extends c') {b u : String}
    {conn : RpcConnection} (hc : c.connection? b u = some conn) : c'.connection? b u = some conn :=
  h.connections.connection? hc

theorem getConnection_extends (c : Client) (out : Outside) (b u : String) :
    c.Extends (c.getConnection out b u).1 :=
  ⟨rfl, ConnectionManager.getConnection_extends _ _ _ _⟩

theorem getConnection_ok {c c' : Client} {out : Outside} {b u : String} {conn : RpcConnection}
    (h : c.getConnection out b u = (c', .ok conn)) : c'.connection? b u = some conn := by
  obtain ⟨rfl, hconn⟩ := Prod.mk.inj h
  exact ConnectionManager.getConnection_ok hconn

theorem getConnection_error {c c' : Client} {out : Outside} {b u : String} {e : Error}
    (h : c.getConnection out b u = (c', .error e)) : ∃ text, e = .other text := by
  obtain ⟨-, h⟩ := Prod.mk.inj h
  unfold ConnectionManager.getConnection at h
  split at h
  · simp at h
  · split at h
    · rename_i text _
      exact ⟨text, (Except.error.inj h).symm⟩
    · simp at h

theorem attachTokenIfNeeded_error {c : Client} {out : Outside} {e : Error}
    (h : c.attachTokenIfNeeded out = .error e) : ∃ text, e = .other text := by
  unfold attachTokenIfNeeded ConnectionOptions.attachTokenIfNeeded at h
  split at h
  · rename_i text _
    exact ⟨text, (Except.error.inj h).symm⟩
  · simp at h

theorem prepare_extends (c : Client) (out : Outside) (addr : String) :
    c.Extends (c.prepare out addr).1 := by
  have h := c.getConnection_extends out addr addr
  unfold prepare
  split <;> rename_i heq <;> rw [heq] at h
  · exact h
  · split <;> exact h

theorem prepare_error {c c' : Client} {out : Outside} {addr : String} {e : Error}
    (h : c.prepare out addr = (c', .error e)) : ∃ text, e = .other text := by
  unfold prepare at h
  split at h
  · rename_i heq
    simp only [Prod.mk.injEq, Except.error.injEq] at h
    exact getConnection_error (h.2 ▸ heq)
  · split at h
    · rename_i heq
      simp only [Prod.mk.injEq, Except.error.injEq] at h
      exact attachTokenIfNeeded_error (h.2 ▸ heq)
    · simp at h

theorem prepare_ok {c c' : Client} {out : Outside} {addr : String} {conn : RpcConnection}
    {metadata : Option Metadata} (h : c.prepare out addr = (c', .ok (conn, metadata))) :
    c'.connection? addr addr = some conn := by
  unfold prepare at h
  split at h
  · simp at h
  · rename_i heq
    split at h
    · simp at h
    · simp only [Prod.mk.injEq, Except.ok.injEq] at h
      obtain ⟨rfl, rfl, -⟩ := h
      exact getConnection_ok heq

theorem lookupTopic_extends (c : Client) (out : Outside) (addr topic : String) :
    c.Extends (c.lookupTopic out addr topic).1 := by
  have h := c.prepare_extends out addr
  unfold lookupTopic
  split <;> rename_i heq <;> rw [heq] at h
  · exact h
  · exact ⟨h.uri, h.connections⟩

theorem lookupTopic_ok {c c' : Client} {out : Outside} {addr topic : String} {call : Call}
    (h : c.lookupTopic out addr topic = (c', .ok call)) :
    c'.connection? addr addr = some call.conn ∧ ∃ n, call.request = .topicLookup n topic := by
  unfold lookupTopic at h
  split at h
  · simp at h
  · rename_i heq
    simp only [Prod.mk.injEq, Except.ok.injEq] at h
    obtain ⟨rfl, rfl⟩ := h
    have hconn := prepare_ok heq
    exact ⟨hconn, _, rfl⟩

theorem getLatestSchema_extends (c : Client) (out : Outside) (subject : String) :
    c.Extends (c.getLatestSchema out subject).1 := by
  have h := c.prepare_extends out c.uri
  unfold getLatestSchema
  split <;> rename_i heq <;> rw [heq] at h <;> exact h

theorem getLatestSchema_ok {c c' : Client} {out : Outside} {subject : String} {call : Call}
    (h : c.getLatestSchema out subject = (c', .ok call)) :
    call.request = .getLatestSchema subject := by
  unfold getLatestSchema at h
  split at h
  · simp at h
  · simp only [Prod.mk.injEq, Except.ok.injEq] at h
    obtain ⟨-, rfl⟩ := h
    rfl

theorem getSchemaVersion_extends (c : Client) (out : Outside) (i : Nat) (v : Option Nat) :
    c.Extends (c.getSchemaVersion out i v).1 := by
  have h := c.prepare_extends out c.uri
  unfold getSchemaVersion
  split <;> rename_i heq <;> rw [heq] at h <;> exact h

theorem getSchemaVersion_ok {c c' : Client} {out : Outside} {i : Nat} {v : Option Nat}
    {call : Call} (h : c.getSchemaVersion out i v = (c', .ok call)) :
    call.request = .getSchema i v := by
  unfold getSchemaVersion at h
  split at h
  · simp at h
  · simp only [Prod.mk.injEq, Except.ok.injEq] at h
    obtain ⟨-, rfl⟩ := h
    rfl

end Client

end Danube
