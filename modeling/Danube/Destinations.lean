import Danube.EndpointMoves
import Danube.Async.Past

/-!
# Where the RPCs go

Lookups go to the connect URL that the last lookup answered, registrations to the broker that it named,
messages and acknowledgements out on the last stub, and health checks to where their loop was started.
-/

namespace Danube

open Async

/-- The value of the proxy header, for an RPC that has one. -/
def Call.proxyHeader (call : Call) : Option String :=
  (call.metadata.getD []).lookup "x-danube-broker-url"

/-- What the proxy header must say for a broker at `brokerUrl`. -/
def proxyHeaderFor (brokerUrl : String) (proxy : Bool) : Option String :=
  if proxy then some brokerUrl else none

/-- The channel and the proxy header of an RPC, given the journal of its endpoint before it. -/
def Call.Directed (c : Client) (before : List Event) (call : Call) : Prop :=
  let v := replay View.apply (View.init c.uri) before
  match call.request with
  | .topicLookup .. =>
    c.connection? v.addr.connectUrl v.addr.connectUrl = some call.conn ∧ call.proxyHeader = none
  | .topicPartitions .. => False
  | .createProducer _ | .subscribe _ =>
    c.connection? v.addr.brokerUrl v.addr.connectUrl = some call.conn ∧
      call.proxyHeader = proxyHeaderFor v.addr.brokerUrl v.addr.proxy
  | .sendMessage _ | .receiveMessages .. | .ack _ | .nack _ =>
    (∃ a, v.stub = some (a, call.conn) ∧ c.connection? a.brokerUrl a.connectUrl = some call.conn) ∧
      call.proxyHeader = proxyHeaderFor v.addr.brokerUrl v.addr.proxy
  | .healthCheck _ _ id =>
    ∃ l, .healthStarted l ∈ before ∧ l.clientId = id ∧
      c.connection? l.brokerAddr l.connectUrl = some call.conn ∧
      call.proxyHeader = proxyHeaderFor l.brokerAddr l.proxy
  | .getLatestSchema _ | .getSchema .. =>
    c.connection? c.uri c.uri = some call.conn ∧ call.proxyHeader = none

/-! ## Headers and channels -/

theorem attachToken_no_proxy {o : ConnectionOptions} {out : Outside} {metadata : Option Metadata}
    (h : o.attachTokenIfNeeded out = .ok metadata) :
    (metadata.getD []).lookup "x-danube-broker-url" = none := by
  unfold ConnectionOptions.attachTokenIfNeeded at h
  split at h
  · cases h
  · simp only [Except.ok.injEq] at h
    subst h
    split <;> split <;> simp [List.lookup_cons, internalBrokerHeader]

theorem insertProxyHeader_lookup {metadata : Option Metadata} (b : String) (proxy : Bool)
    (h : (metadata.getD []).lookup "x-danube-broker-url" = none) :
    ((insertProxyHeader metadata b proxy).getD []).lookup "x-danube-broker-url" =
      proxyHeaderFor b proxy := by
  unfold insertProxyHeader proxyHeaderFor
  split
  · simp [List.lookup_append, h]
  · exact h

namespace Client

variable {c c' : Client}

theorem Grows.connection? (h : c.Grows c') {b u : String} {conn : RpcConnection}
    (hc : c.connection? b u = some conn) : c'.connection? b u = some conn := by
  obtain ⟨t, ht⟩ := h.connections
  unfold Client.connection? ConnectionManager.connection? at hc ⊢
  rw [← ht, List.lookup_append, hc]
  rfl

theorem Extends.attachToken (h : c.Extends c') (out : Outside) :
    c'.attachTokenIfNeeded out = c.attachTokenIfNeeded out := by
  unfold attachTokenIfNeeded
  rw [h.connections.options]

theorem prepare_token {out : Outside} {addr : String} {conn : RpcConnection} {metadata : Option Metadata}
    (h : c.prepare out addr = (c', .ok (conn, metadata))) :
    c.attachTokenIfNeeded out = .ok metadata := by
  unfold prepare at h
  split at h
  · cases h
  · rename_i heq
    split at h
    · cases h
    · rename_i hmetadata
      cases h
      rwa [(getConnection_opens heq).extending.attachToken out] at hmetadata

end Client

theorem Call.Directed.mono {c c' : Client} {before : List Event} {call : Call}
    (h : call.Directed c before) (hc : c.Grows c') : call.Directed c' before := by
  unfold Call.Directed at h ⊢
  rw [hc.uri]
  split <;> rename_i heq <;> simp only [heq] at h ⊢
  · exact ⟨hc.connection? h.1, h.2⟩
  · exact ⟨hc.connection? h.1, h.2⟩
  · exact ⟨hc.connection? h.1, h.2⟩
  · exact ⟨h.1.imp fun _ ha => ⟨ha.1, hc.connection? ha.2⟩, h.2⟩
  · exact ⟨h.1.imp fun _ ha => ⟨ha.1, hc.connection? ha.2⟩, h.2⟩
  · exact ⟨h.1.imp fun _ ha => ⟨ha.1, hc.connection? ha.2⟩, h.2⟩
  · exact ⟨h.1.imp fun _ ha => ⟨ha.1, hc.connection? ha.2⟩, h.2⟩
  · exact h.imp fun _ hl => ⟨hl.1, hl.2.1, hc.connection? hl.2.2.1, hl.2.2.2⟩
  · exact ⟨hc.connection? h.1, h.2⟩
  · exact ⟨hc.connection? h.1, h.2⟩

/-! ## One endpoint -/

variable {ρ : Type}

/-- The journal says where the endpoint is, and its RPCs went where they should. -/
structure Directed (c : Client) (e : Endpoint ρ) (log : List Event) : Prop where
  addr : (replay View.apply (View.init c.uri) log).addr = e.address
  stub : (replay View.apply (View.init c.uri) log).stub.map Prod.snd = e.stub
  cached : ∀ a conn, (replay View.apply (View.init c.uri) log).stub = some (a, conn) →
    c.connection? a.brokerUrl a.connectUrl = some conn
  loops : ∀ l, .healthStarted l ∈ log → c.connection? l.brokerAddr l.connectUrl = some l.conn
  calls : Throughout (fun before e => ∀ call, e = .rpc call → call.Directed c before) log

namespace Directed

variable {c c' : Client} {e e' : Endpoint ρ} {log : List Event}

theorem same (h : Directed c e log) (hc : c.Grows c') (haddr : e'.address = e.address)
    (hstub : e'.stub = e.stub) : Directed c' e' log where
  addr := by rw [hc.uri, h.addr, haddr]
  stub := by rw [hc.uri, h.stub, hstub]
  cached a conn hv := hc.connection? (h.cached a conn (hc.uri ▸ hv))
  loops l hl := hc.connection? (h.loops l hl)
  calls := h.calls.mono fun _ _ hx call hcall => (hx call hcall).mono hc

theorem snoc (h : Directed c e log) (x : Event) {v : View}
    (hv : View.apply (replay View.apply (View.init c.uri) log) x = v) (haddr : v.addr = e'.address)
    (hstub : v.stub.map Prod.snd = e'.stub)
    (hcached : ∀ a conn, v.stub = some (a, conn) → c.connection? a.brokerUrl a.connectUrl = some conn)
    (hloop : ∀ l, x = .healthStarted l → c.connection? l.brokerAddr l.connectUrl = some l.conn)
    (hcall : ∀ call, x = .rpc call → call.Directed c log) : Directed c e' (log ++ [x]) := by
  have hlast : replay View.apply (View.init c.uri) (log ++ [x]) = v := by
    rw [replay_append, replay_cons, hv]
    rfl
  refine ⟨hlast ▸ haddr, hlast ▸ hstub, hlast ▸ hcached, fun l hl => ?_, throughout_snoc.mpr ⟨h.calls, hcall⟩⟩
  rcases List.mem_append.mp hl with hl | hl
  · exact h.loops l hl
  · exact hloop l (List.mem_singleton.mp hl).symm

theorem plain (h : Directed c e log) {x : Event}
    (hv : View.apply (replay View.apply (View.init c.uri) log) x =
      replay View.apply (View.init c.uri) log)
    (hloop : ∀ l, x = .healthStarted l → c.connection? l.brokerAddr l.connectUrl = some l.conn)
    (hcall : ∀ call, x = .rpc call → call.Directed c log) : Directed c e (log ++ [x]) :=
  h.snoc x hv h.addr h.stub h.cached hloop hcall

theorem rpc (h : Directed c e log) {call : Call} (hcall : call.Directed c log) :
    Directed c e (log ++ [.rpc call]) :=
  h.plain rfl (fun _ hl => by cases hl) fun _ hx => by cases hx; exact hcall

theorem remark (h : Directed c e log) {x : Event} (hx : x.Remark) : Directed c e (log ++ [x]) := by
  refine h.plain ?_ ?_ ?_
  · cases x <;> first | rfl | cases hx
  · rintro l rfl
    cases hx
  · rintro call rfl
    cases hx

theorem prepared (h : Directed c e log) {d : Client} {out : Outside} {addr : String}
    {conn : RpcConnection} {metadata : Option Metadata} {request : Request}
    (hprepare : c.prepare out addr = (d, .ok (conn, metadata))) (hd : d.Grows c')
    (hrequest : c'.connection? addr addr = some conn →
      (Call.proxyHeader ⟨conn, request, metadata⟩ = none) → Call.Directed c' log ⟨conn, request, metadata⟩) :
    Directed c' e (log ++ [.rpc ⟨conn, request, metadata⟩]) := by
  have hgrows := (Client.prepare_opens hprepare).extending.grows.trans hd
  have hconn := hd.connection? (Client.prepare_ok hprepare)
  have hheader := attachToken_no_proxy (Client.prepare_token hprepare)
  exact (h.same hgrows rfl rfl).rpc (hrequest hconn hheader)

theorem connected {s : Scope ρ} {env : Env} {conn : RpcConnection} (h : Directed s.client s.self log)
    (hconn : s.client.getConnection env.call s.self.brokerAddr s.self.connectUrl = (c, .ok conn)) :
    Directed c (Endpoint.connect conn c s).self (log ++ [.connected s.self.address conn]) := by
  have hc := h.same (Client.getConnection_opens hconn).extending.grows rfl rfl
  refine hc.snoc _ rfl hc.addr rfl (fun a conn' hstub => ?_) (fun _ hl => by cases hl)
    fun _ hx => by cases hx
  cases hstub
  exact Client.getConnection_ok hconn

theorem onStub (h : Directed c e log) {out : Outside} {conn : RpcConnection}
    {metadata : Option Metadata} {request : Request} (hstub : e.stub = some conn)
    (hmetadata : c.attachTokenIfNeeded out = .ok metadata)
    (hrequest : (∃ m, request = .sendMessage m) ∨ (∃ n id, request = .receiveMessages n id) ∨
      request.isAck) :
    Directed c e (log ++ [.rpc ⟨conn, request, insertProxyHeader metadata e.brokerAddr e.proxy⟩]) := by
  refine h.rpc ?_
  have hlast : ∃ a, (replay View.apply (View.init c.uri) log).stub = some (a, conn) ∧
      c.connection? a.brokerUrl a.connectUrl = some conn := by
    obtain ⟨x, hx, rfl⟩ := Option.map_eq_some_iff.mp (h.stub.trans hstub)
    exact ⟨x.1, hx, h.cached x.1 x.2 hx⟩
  have hheader : Call.proxyHeader ⟨conn, request, insertProxyHeader metadata e.brokerAddr e.proxy⟩ =
      proxyHeaderFor (replay View.apply (View.init c.uri) log).addr.brokerUrl
        (replay View.apply (View.init c.uri) log).addr.proxy := by
    rw [h.addr]
    exact insertProxyHeader_lookup _ _ (attachToken_no_proxy hmetadata)
  unfold Call.Directed
  rcases hrequest with ⟨m, rfl⟩ | ⟨n, id, rfl⟩ | hack
  · exact ⟨hlast, hheader⟩
  · exact ⟨hlast, hheader⟩
  · cases request <;> first | exact ⟨hlast, hheader⟩ | cases hack

end Directed

theorem act_directed {role : Role ρ} {env : Env} {s s' : Scope ρ} {log new : List Event}
    (h : Directed s.client s.self log) (hact : Endpoint.Act role env s new s') :
    Directed s'.client s'.self (log ++ new) := by
  have haddr : (replay View.apply (View.init s.client.uri) log).addr = s.self.address := h.addr
  cases hact with
  | remark x hx => exact h.remark hx
  | lookup c conn metadata hprepare =>
    refine h.prepared hprepare ⟨rfl, List.prefix_refl _⟩ fun hconn hheader => ?_
    unfold Call.Directed
    have huri : c.uri = s.client.uri := (Client.prepare_opens hprepare).extending.uri
    dsimp only
    rw [huri, haddr]
    exact ⟨hconn, hheader⟩
  | registry c conn metadata ref href request hrequest hprepare =>
    refine h.prepared hprepare (.refl _) fun hconn hheader => ?_
    have huri : c.uri = s.client.uri := (Client.prepare_opens hprepare).extending.uri
    unfold Call.Directed
    cases request <;> first | exact ⟨huri ▸ hconn, hheader⟩ | cases hrequest
  | unprepared out addr c err hprepare =>
    rw [List.append_nil]
    exact h.same (Client.prepare_opens hprepare).extending.grows rfl rfl
  | moved addr =>
    exact h.snoc _ rfl rfl h.stub h.cached (fun _ hl => by cases hl) fun _ hx => by cases hx
  | connect c conn hconn => exact h.connected hconn
  | unconnected out c err hconn =>
    rw [List.append_nil]
    exact h.same (Client.getConnection_opens hconn).extending.grows rfl rfl
  | register c conn metadata hconn hmetadata =>
    have hconnected := h.connected hconn
    have hcall : Call.Directed c (log ++ [.connected s.self.address conn])
        ⟨conn, role.request s.self, insertProxyHeader metadata s.self.brokerAddr s.self.proxy⟩ := by
      have hheader := insertProxyHeader_lookup s.self.brokerAddr s.self.proxy
        (attachToken_no_proxy hmetadata)
      have hat := hconnected.addr
      have hchannel := Client.getConnection_ok hconn
      unfold Call.Directed
      rcases role.registers s.self with ⟨r, hr⟩ | ⟨r, hr⟩ <;> simp only [hr, hat] <;>
        exact ⟨hchannel, hheader⟩
    have hboth : Directed c (Endpoint.countRequest (Endpoint.connect conn c s)).self _ :=
      (hconnected.rpc hcall).same (.refl c) rfl rfl
    rwa [List.append_assoc] at hboth
  | skip | setSchema =>
    rw [List.append_nil]
    exact h.same (.refl _) rfl rfl
  | registered addr id =>
    exact h.snoc _ rfl haddr h.stub h.cached (fun _ hl => by cases hl) fun _ hx => by cases hx
  | startHealthCheck c conn hconn =>
    have hc : Directed c (Endpoint.startHealthCheck role conn c s).self log :=
      h.same (Client.getConnection_opens hconn).extending.grows rfl rfl
    refine hc.plain rfl (fun l hl => ?_) fun _ hx => by cases hx
    cases hl
    exact Client.getConnection_ok hconn
  | stream conn metadata request hstub hmetadata hrequest =>
    refine (h.onStub hstub hmetadata ?_).same (.refl _) rfl rfl
    rcases hrequest with ⟨m, hm, -⟩ | ⟨hreceive, -⟩
    · exact Or.inl ⟨m, hm⟩
    · exact Or.inr (Or.inl ⟨_, _, hreceive⟩)
  | clearStop hrole =>
    have hcleared : Directed s.client s.self (log ++ [.cleared]) :=
      h.plain rfl (fun _ hl => by cases hl) fun _ hx => by cases hx
    have hboth := hcleared.remark (x := .resubscribing) trivial
    rw [List.append_assoc] at hboth
    exact hboth.same (.refl _) rfl rfl

theorem touch_directed {role : Role ρ} {env : Env} {c c' : Client} {loops : List HealthLoop} {r : Nat}
    {e e' : Endpoint ρ} {log new : List Event} (h : Directed c e log) (hc : c.Extends c')
    (hstarted : ∀ l ∈ loops, l.owner = r → Pool.Started log l)
    (ht : Pool.Touch role acks env c loops c' r e new e') : Directed c' e' (log ++ new) := by
  have hgrows := hc.grows
  cases ht with
  | idle =>
    rw [List.append_nil]
    exact h.same hgrows rfl rfl
  | act s s' _ href hclient hclient' hact =>
    subst hclient hclient'
    exact act_directed h hact
  | poll _ l metadata hl howner hstop hmetadata =>
    obtain ⟨position, hin⟩ := hstarted l hl howner
    have hcall : Call.Directed c log ⟨l.conn, .healthCheck c.healthRequestId l.clientType l.clientId,
        insertProxyHeader metadata l.brokerAddr l.proxy⟩ :=
      ⟨_, hin, rfl, h.loops _ hin, insertProxyHeader_lookup _ _ (attachToken_no_proxy hmetadata)⟩
    exact (h.rpc hcall).same hgrows rfl rfl
  | close _ id | stop =>
    exact (h.plain rfl (fun _ hl => by cases hl) fun _ hx => by cases hx).same hgrows rfl rfl
  | ack _ conn metadata request hrequest hacks hrole hstub hmetadata =>
    exact (h.onStub hstub hmetadata (Or.inr (Or.inr hrequest))).same hgrows rfl rfl

theorem fresh_directed (c : Client) {e : Endpoint ρ} (haddr : e.address = ⟨c.uri, c.uri, false⟩)
    (hstub : e.stub = none) : Directed c e [] where
  addr := haddr.symm
  stub := hstub.symm
  cached := by simp [replay, View.init]
  loops := by simp
  calls := throughout_nil

theorem Pool.Each.directed {p : Pool ρ} (h : p.Each Directed) {r : Nat} {before after : List Event}
    {call : Call} (hlog : logOf r p.trace = before ++ .rpc call :: after) :
    call.Directed p.client before := by
  cases he : p.endpoints[r]? with
  | none =>
    rw [h.fresh r he] at hlog
    simp at hlog
  | some e => exact (h.each r e he).calls before _ after hlog call rfl

namespace Session

variable {s : Session} {uri : String} {options : List OptionsCall} {ls : List SessionLabel}

theorem producers_directed (h : exec step (init uri options) ls = some s) :
    ∀ p ∈ s.producers, (p.withClient s.client).pool.Each Directed := by
  refine producers_each (I := fun _ => Directed) ?_ ?_ ?_ h
  · rintro config c e ⟨i, -, rfl⟩
    exact fresh_directed c rfl rfl
  · exact fun _ _ _ _ _ hc hI => hI.same hc rfl rfl
  · exact fun _ _ _ _ _ _ _ _ _ _ hc hI hstarted ht => touch_directed hI hc hstarted ht

theorem consumers_directed (h : exec step (init uri options) ls = some s) :
    ∀ p ∈ s.consumers, (p.withClient s.client).pool.Each Directed := by
  refine consumers_each (I := fun _ => Directed) ?_ ?_ ?_ h
  · rintro config c e ⟨name, rfl⟩
    exact fresh_directed c rfl rfl
  · exact fun _ _ _ _ _ hc hI => hI.same hc rfl rfl
  · exact fun _ _ _ _ _ _ _ _ _ _ hc hI hstarted ht => touch_directed hI hc hstarted ht

end Session

end Danube
