import Danube.Client
import Danube.Async.Runs
import Danube.Memory.Store

/-!
# The builder of clients (`client.py`)

`build()` passes the builder's `ConnectionOptions` on by reference. The connection manager keeps them,
and reads them whenever it creates a channel and the auth service whenever an RPC needs its token.
-/

namespace Danube

open Async Memory

/-- `options` is the address of the `ConnectionOptions`. -/
structure DanubeClientBuilder where
  uri : String := ""
  options : Address

/-! ## The setters, on the options -/

namespace ConnectionOptions

/-- `with_tls`. The file may not be readable, and `open` raises before anything is set. -/
def withTls (caData : Option (List UInt8)) (o : ConnectionOptions) : ConnectionOptions :=
  match caData with
  | some ca => { o with tlsCredentials := some { rootCertificates := some ca }, useTls := true }
  | none => o

/-- `with_mtls`, which reads three files. -/
def withMtls (caData certData keyData : Option (List UInt8)) (o : ConnectionOptions) :
    ConnectionOptions :=
  match caData, certData, keyData with
  | some ca, some cert, some key =>
    { o with
      tlsCredentials := some {
        rootCertificates := some ca
        privateKey := some key
        certificateChain := some cert }
      useTls := true }
  | _, _, _ => o

def withToken (token : String) (o : ConnectionOptions) : ConnectionOptions :=
  { o with
    token := token
    useTls := true
    tlsCredentials := some (o.tlsCredentials.getD {}) }

def withTokenSupplier (supplier : Nat) (o : ConnectionOptions) : ConnectionOptions :=
  { o with
    tokenSupplier := some supplier
    useTls := true
    tlsCredentials := some (o.tlsCredentials.getD {}) }

end ConnectionOptions

/-- A call of a setter. -/
inductive OptionsCall
  | withTls (caData : Option (List UInt8))
  | withMtls (caData certData keyData : Option (List UInt8))
  | withToken (token : String)
  | withTokenSupplier (supplier : Nat)

def OptionsCall.apply : OptionsCall → ConnectionOptions → ConnectionOptions
  | .withTls ca => .withTls ca
  | .withMtls ca cert key => .withMtls ca cert key
  | .withToken token => .withToken token
  | .withTokenSupplier supplier => .withTokenSupplier supplier

/-- A client that was built, with the address of its options. The options in `client` itself are not
looked at: `view` puts in what the address leads to. -/
structure BuiltClient where
  client : Client
  options : Address
  /-- What the options were when `build()` returned. -/
  built : ConnectionOptions
  /-- What `attach_token_if_needed` returned or raised for the RPCs so far. -/
  metadata : List (Outside × Except Error (Option Metadata)) := []

structure ClientBuilding where
  store : Store ConnectionOptions
  builder : DanubeClientBuilder
  clients : List BuiltClient := []

inductive ClientBuilderLabel
  | serviceUrl (url : String)
  | options (call : OptionsCall)
  | build
  /-- A client that was built prepares an RPC. -/
  | attachToken (i : Nat) (out : Outside)
  /-- A client that was built needs a channel. -/
  | getConnection (i : Nat) (brokerUrl connectUrl : String) (out : Outside)

/-- The client with its options as they are now. -/
def BuiltClient.view (c : BuiltClient) (store : Store ConnectionOptions) : Client :=
  { c.client with
    connectionManager := { c.client.connectionManager with options := store.read c.options } }

namespace ClientBuilding

def init : ClientBuilding where
  store := .singleton {}
  builder := { options := 0 }

def build (s : ClientBuilding) : ClientBuilding :=
  let o := s.store.read s.builder.options
  { s with
    clients := s.clients ++ [{
      client := .init s.builder.uri o
      options := s.builder.options
      built := o }] }

def setOptions (s : ClientBuilding) (f : ConnectionOptions → ConnectionOptions) : ClientBuilding :=
  { s with store := s.store.write s.builder.options (f (s.store.read s.builder.options)) }

def attachToken (s : ClientBuilding) (c : BuiltClient) (out : Outside) : BuiltClient :=
  { c with metadata := c.metadata ++ [(out, (c.view s.store).attachTokenIfNeeded out)] }

def getConnection (s : ClientBuilding) (c : BuiltClient) (brokerUrl connectUrl : String)
    (out : Outside) : BuiltClient :=
  { c with client := ((c.view s.store).getConnection out brokerUrl connectUrl).1 }

def step (s : ClientBuilding) : ClientBuilderLabel → Option ClientBuilding
  | .serviceUrl url => some { s with builder := { s.builder with uri := url } }
  | .options call => some (s.setOptions call.apply)
  | .build => some s.build
  | .attachToken i out =>
    s.clients[i]?.map fun c => { s with clients := s.clients.set i (s.attachToken c out) }
  | .getConnection i brokerUrl connectUrl out =>
    s.clients[i]?.map fun c =>
      { s with clients := s.clients.set i (s.getConnection c brokerUrl connectUrl out) }

end ClientBuilding

/-! ## What RPCs and channels use of the options -/

namespace ConnectionOptions

/-- Where the token of an RPC comes from: the supplier, or the static token if there is none. -/
def tokenSource (o : ConnectionOptions) : Nat ⊕ String :=
  match o.tokenSupplier with
  | some supplier => .inl supplier
  | none => .inr o.token

/-- The credentials of a channel, or none for an insecure one. -/
def channelCredentials (o : ConnectionOptions) : Option Credentials :=
  if o.useTls then some (o.tlsCredentials.getD {}) else none

def SameSettings (o o' : ConnectionOptions) : Prop :=
  o.tokenSource = o'.tokenSource ∧ o.channelCredentials = o'.channelCredentials ∧
    o.internalBroker = o'.internalBroker

instance (o o' : ConnectionOptions) : Decidable (o.SameSettings o') :=
  inferInstanceAs (Decidable (_ ∧ _ ∧ _))

theorem SameSettings.symm {o o' : ConnectionOptions} (h : o.SameSettings o') : o'.SameSettings o :=
  ⟨h.1.symm, h.2.1.symm, h.2.2.symm⟩

theorem SameSettings.trans {o o' o'' : ConnectionOptions} (h : o.SameSettings o')
    (k : o'.SameSettings o'') : o.SameSettings o'' :=
  ⟨h.1.trans k.1, h.2.1.trans k.2.1, h.2.2.trans k.2.2⟩

theorem resolveToken_eq (o : ConnectionOptions) (out : Outside) :
    o.resolveToken out = o.tokenSource.elim out.token .ok := by
  unfold resolveToken tokenSource
  cases o.tokenSupplier <;> rfl

theorem SameSettings.attachTokenIfNeeded {o o' : ConnectionOptions} (h : o.SameSettings o')
    (out : Outside) : o.attachTokenIfNeeded out = o'.attachTokenIfNeeded out := by
  unfold ConnectionOptions.attachTokenIfNeeded
  rw [resolveToken_eq, resolveToken_eq, h.1, h.2.2]

end ConnectionOptions

theorem ConnectionManager.mem_getConnection {cm : ConnectionManager} {out : Outside} {b c : String}
    {e : BrokerAddress × RpcConnection} (he : e ∈ (cm.getConnection out b c).1.connections) :
    e ∈ cm.connections ∨ e.2.channel.credentials = cm.options.channelCredentials := by
  revert he
  unfold getConnection
  split
  · exact Or.inl
  · split
    · exact Or.inl
    · intro he
      rcases List.mem_append.mp he with he | he
      · exact Or.inl he
      · rw [List.mem_singleton.mp he]
        exact Or.inr rfl

/-! ## One step -/

namespace ClientBuilding

/-- Every client has the options of the builder. -/
def Linked (s : ClientBuilding) : Prop := ∀ c ∈ s.clients, c.options = s.builder.options

/-- The settings of a client are those of the builder at its `build()`: in its options, which the next
RPCs and channels are made with, in the metadata of every RPC and in every channel so far. -/
structure AsBuilt (store : Store ConnectionOptions) (c : BuiltClient) : Prop where
  options : (store.read c.options).SameSettings c.built
  metadata : ∀ x ∈ c.metadata, x.2 = c.built.attachTokenIfNeeded x.1
  channels : ∀ e ∈ c.client.connectionManager.connections,
    e.2.channel.credentials = c.built.channelCredentials

def AllAsBuilt (s : ClientBuilding) : Prop := ∀ c ∈ s.clients, AsBuilt s.store c

/-- Once a client was built, the setters leave the token, the TLS setting and the credentials as they
are. -/
def SettingsKept (s : ClientBuilding) : ClientBuilderLabel → Prop
  | .options call => s.clients = [] ∨
    (call.apply (s.store.read s.builder.options)).SameSettings (s.store.read s.builder.options)
  | _ => True

theorem attachToken_asBuilt {s : ClientBuilding} {c : BuiltClient} (h : AsBuilt s.store c)
    (out : Outside) : AsBuilt s.store (s.attachToken c out) where
  options := h.options
  metadata x hx := by
    rcases List.mem_append.mp hx with hx | hx
    · exact h.metadata x hx
    · rw [List.mem_singleton.mp hx]
      exact h.options.attachTokenIfNeeded out
  channels := h.channels

theorem getConnection_asBuilt {s : ClientBuilding} {c : BuiltClient} (h : AsBuilt s.store c)
    (brokerUrl connectUrl : String) (out : Outside) :
    AsBuilt s.store (s.getConnection c brokerUrl connectUrl out) where
  options := h.options
  metadata := h.metadata
  channels e he := by
    rcases ConnectionManager.mem_getConnection he with he | hnew
    · exact h.channels e he
    · exact hnew.trans h.options.2.1

theorem setOptions_asBuilt_iff {s : ClientBuilding} {c : BuiltClient}
    (hc : c.options = s.builder.options) (h : AsBuilt s.store c)
    (f : ConnectionOptions → ConnectionOptions) : AsBuilt (s.setOptions f).store c ↔
      (f (s.store.read s.builder.options)).SameSettings (s.store.read s.builder.options) := by
  have hold : (s.store.read s.builder.options).SameSettings c.built := hc ▸ h.options
  have hread : (s.setOptions f).store.read c.options = f (s.store.read s.builder.options) := by
    rw [hc, setOptions, Memory.Store.read_write_self]
  constructor
  · intro h'
    have hnew := h'.options
    rw [hread] at hnew
    exact hnew.trans hold.symm
  · intro hsame
    refine ⟨?_, h.metadata, h.channels⟩
    rw [hread]
    exact hsame.trans hold

theorem set_asBuilt {s : ClientBuilding} (hl : Linked s) (h : AllAsBuilt s) {i : Nat}
    {c c' : BuiltClient} (hc : s.clients[i]? = some c) (hc' : AsBuilt s.store c')
    (hoptions : c'.options = c.options) : Linked { s with clients := s.clients.set i c' } ∧
      AllAsBuilt { s with clients := s.clients.set i c' } := by
  constructor
  · intro x hx
    rcases List.mem_or_eq_of_mem_set hx with hx | rfl
    · exact hl x hx
    · exact hoptions.trans (hl c (List.mem_of_getElem? hc))
  · intro x hx
    rcases List.mem_or_eq_of_mem_set hx with hx | rfl
    · exact h x hx
    · exact hc'

theorem step_asBuilt {s s' : ClientBuilding} {l : ClientBuilderLabel} (hl : Linked s)
    (h : AllAsBuilt s) (hstep : step s l = some s') :
    Linked s' ∧ (AllAsBuilt s' ↔ SettingsKept s l) := by
  cases l with
  | serviceUrl url =>
    cases hstep
    exact ⟨hl, iff_of_true h trivial⟩
  | options call =>
    cases hstep
    refine ⟨hl, ?_⟩
    -- The options are those of every client that was built.
    have hiff : ∀ c ∈ s.clients, _ := fun c hc =>
      setOptions_asBuilt_iff (hl c hc) (h c hc) call.apply
    constructor
    · intro hall
      cases hclients : s.clients with
      | nil => exact Or.inl hclients
      | cons c cs =>
        have hc : c ∈ s.clients := by simp [hclients]
        exact Or.inr ((hiff c hc).mp (hall c hc))
    · rintro (hnil | hsame) c hc
      · have hc' : c ∈ s.clients := hc
        rw [hnil] at hc'
        cases hc'
      · exact (hiff c hc).mpr hsame
  | build =>
    cases hstep
    refine ⟨fun c hc => ?_, iff_of_true (fun c hc => ?_) trivial⟩
    · rcases List.mem_append.mp hc with hc | hc
      · exact hl c hc
      · rw [List.mem_singleton.mp hc]
        rfl
    · rcases List.mem_append.mp hc with hc | hc
      · exact h c hc
      · rw [List.mem_singleton.mp hc]
        exact ⟨⟨rfl, rfl, rfl⟩, by simp, by simp [Client.init, ConnectionManager.init]⟩
  | attachToken i out =>
    obtain ⟨c, hc, rfl⟩ := Option.map_eq_some_iff.mp hstep
    have hbuilt := h c (List.mem_of_getElem? hc)
    exact (set_asBuilt hl h hc (attachToken_asBuilt hbuilt out) rfl).imp_right
      fun h' => iff_of_true h' trivial
  | getConnection i b u out =>
    obtain ⟨c, hc, rfl⟩ := Option.map_eq_some_iff.mp hstep
    have hbuilt := h c (List.mem_of_getElem? hc)
    exact (set_asBuilt hl h hc (getConnection_asBuilt hbuilt b u out) rfl).imp_right
      fun h' => iff_of_true h' trivial

end ClientBuilding

end Danube
