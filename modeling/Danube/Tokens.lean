import Danube.Destinations
import Danube.RequestIds

/-!
# Tokens (`auth_service.py`)

The token is asked for when an RPC is issued, and for this RPC only. It goes out over TLS, unless a setter
of the builder switches TLS on after the client has opened a channel.
-/

namespace Danube

open Async

/-- The value of the `authorization` entry. -/
def bearer (metadata : Option Metadata) : Option String := (metadata.getD []).lookup "authorization"

/-- What the `authorization` entry must be. -/
def bearerFor (token : String) : Option String := if token = "" then none else some ("Bearer " ++ token)

/-- The metadata say of the token what the token lookup returns now. -/
def ConnectionOptions.Authorizes (o : ConnectionOptions) (out : Outside) (metadata : Option Metadata) :
    Prop :=
  ∃ token, o.resolveToken out = .ok token ∧ bearer metadata = bearerFor token ∧
    (metadata.getD []).lookup internalBrokerHeader =
      if o.internalBroker = "" then none else some o.internalBroker

/-- What is outside the client at the token lookup for this request. -/
def Request.outside (env : Env) : Request → Outside
  | .topicLookup .. => env.lookup
  | _ => env.call

theorem Request.outside_call {request : Request} (h : request.lookupId? = none) (env : Env) :
    request.outside env = env.call := by
  cases request <;> first | rfl | cases h

theorem insertProxyHeader_other (metadata : Option Metadata) (b : String) (proxy : Bool) {key : String}
    (hkey : key ≠ "x-danube-broker-url") :
    ((insertProxyHeader metadata b proxy).getD []).lookup key = (metadata.getD []).lookup key := by
  unfold insertProxyHeader
  split
  · have hnone : List.lookup key [("x-danube-broker-url", b)] = none := by
      simp [List.lookup_cons, beq_eq_false_iff_ne.mpr hkey]
    rw [Option.getD_some, List.lookup_append, hnone, Option.or_none]
  · rfl

namespace ConnectionOptions

variable {o : ConnectionOptions} {out : Outside} {metadata : Option Metadata}

theorem authorizes_attached (h : o.attachTokenIfNeeded out = .ok metadata) :
    o.Authorizes out metadata := by
  unfold attachTokenIfNeeded at h
  split at h
  · cases h
  · rename_i token htoken
    simp only [Except.ok.injEq] at h
    subst h
    refine ⟨token, htoken, ?_, ?_⟩
    · unfold bearer bearerFor
      by_cases ht : token = "" <;> by_cases hb : o.internalBroker = "" <;>
        simp [ht, hb, internalBrokerHeader]
    · by_cases ht : token = "" <;> by_cases hb : o.internalBroker = "" <;>
        simp [ht, hb, List.lookup_cons, internalBrokerHeader]

theorem Authorizes.proxied (h : o.Authorizes out metadata) (b : String) (proxy : Bool) :
    o.Authorizes out (insertProxyHeader metadata b proxy) := by
  obtain ⟨token, htoken, hbearer, hinternal⟩ := h
  refine ⟨token, htoken, ?_, ?_⟩
  · exact (insertProxyHeader_other metadata b proxy (by decide)).trans hbearer
  · exact (insertProxyHeader_other metadata b proxy (by decide)).trans hinternal

end ConnectionOptions

/-- The metadata of the RPC are those that the client makes now. -/
def Client.Authorizes (c : Client) (env : Env) (call : Call) : Prop :=
  c.options.Authorizes (call.request.outside env) call.metadata

theorem Client.Opens.options {c c' : Client} (h : c.Opens c') : c'.options = c.options :=
  h.extending.connections.options

section Moves

variable {ρ : Type} {role : Role ρ} {env : Env}

theorem Endpoint.Act.authorizes {s s' : Scope ρ} {log : List Event} (h : Act role env s log s') :
    ∀ call ∈ callsOf log, s.client.Authorizes env call := by
  intro call hcall
  cases h with
  | remark e he =>
    simp [callsOf, he.call?] at hcall
  | moved | unprepared | connect | unconnected | skip | registered | startHealthCheck | setSchema |
      clearStop => simp [callsOf, Event.call?] at hcall
  | lookup c conn metadata h =>
    obtain rfl : call = _ := List.mem_singleton.mp hcall
    exact ConnectionOptions.authorizes_attached (Client.prepare_token h)
  | registry c conn metadata ref href request hrequest h =>
    obtain rfl : call = _ := List.mem_singleton.mp hcall
    unfold Client.Authorizes
    rw [Request.outside_call hrequest.ids.1]
    exact ConnectionOptions.authorizes_attached (Client.prepare_token h)
  | register c conn metadata h hmetadata =>
    obtain rfl : call = _ := List.mem_singleton.mp hcall
    unfold Client.Authorizes
    rw [Request.outside_call (role.request_ids s.self).1]
    rw [(Client.getConnection_opens h).extending.attachToken] at hmetadata
    exact (ConnectionOptions.authorizes_attached hmetadata).proxied _ _
  | stream conn metadata request hstub hmetadata hrequest =>
    obtain rfl : call = _ := List.mem_singleton.mp hcall
    have hid : request.lookupId? = none := by
      rcases hrequest with ⟨m, rfl, -⟩ | ⟨rfl, -⟩ <;> rfl
    unfold Client.Authorizes
    rw [Request.outside_call hid]
    exact (ConnectionOptions.authorizes_attached hmetadata).proxied _ _

namespace Pool

variable {born : String → Endpoint ρ → Prop} {acks : Request → Prop} {p q : Pool ρ} {calls : List Call}

theorem Move.authorizes (h : Move role born acks env p calls q) :
    ∀ call ∈ calls, p.client.Authorizes env call := by
  intro call hcall
  cases h with
  | children | alloc | leave | refuse | close | answer | stop | unprepared => cases hcall
  | act s s' actor log hs h =>
    obtain ⟨-, hclient, -⟩ := scope_eq_some.mp hs
    exact hclient ▸ h.authorizes call hcall
  | poll task l e metadata hl he hstop hmetadata x hx =>
    obtain rfl := List.mem_singleton.mp hcall
    subst hx
    exact (ConnectionOptions.authorizes_attached hmetadata).proxied _ _
  | ack s conn metadata request hs hstub hmetadata hrequest hacks hrole x hx =>
    obtain rfl := List.mem_singleton.mp hcall
    subst hx
    unfold Client.Authorizes
    rw [Request.outside_call (Request.ack_ids hrequest).1]
    exact (ConnectionOptions.authorizes_attached hmetadata).proxied _ _
  | partitions c conn metadata topic h =>
    obtain rfl := List.mem_singleton.mp hcall
    exact ConnectionOptions.authorizes_attached (Client.prepare_token h)

theorem Moves.authorizes (h : Moves role born acks env p calls q) :
    ∀ call ∈ calls, p.client.Authorizes env call := by
  induction h with
  | nil => simp
  | @cons p q o a b hmove _ ih =>
    intro call hcall
    rcases List.mem_append.mp hcall with hcall | hcall
    · exact hmove.authorizes call hcall
    · have hlater := ih call hcall
      unfold Client.Authorizes at hlater ⊢
      rwa [hmove.opens.options] at hlater

end Pool

end Moves

theorem RegistryTask.start_authorizes {operation : RegistryOperation} {out : Outside} {c c' : Client}
    {t : RegistryTask} (h : start operation out c = (c', t)) {rpc : RegistryRpc}
    (hrpc : t.rpc? = some rpc) : c.options.Authorizes out rpc.metadata := by
  cases started h with
  | refused err hrequest => cases hrpc
  | failed request hrequest d err hprepare => cases hrpc
  | issued request hrequest d conn metadata hprepare =>
    cases hrpc
    exact ConnectionOptions.authorizes_attached (Client.prepare_token hprepare)

/-- What the world outside does during the step. -/
def SessionLabel.env : SessionLabel → Env
  | .producer _ l => l.env
  | .consumer _ l => l.env
  | .registry _ env => env
  | _ => {}

namespace Session

variable {s s' : Session} {uri : String} {options : List OptionsCall} {ls : List SessionLabel}
  {l : SessionLabel}

/-- Every RPC of every step carries the token that the supplier returns in this very step, or the static
token, and none is carried over from an earlier one. -/
theorem tokens_of_the_step (h : s.step l = some s') :
    (∀ call ∈ s'.calls.drop s.calls.length, s.client.Authorizes l.env call) ∧
    ∀ rpc ∈ s'.registryRpcs.drop s.registryRpcs.length,
      s.client.options.Authorizes l.env.call rpc.metadata := by
  cases stepped h with
  | options | newProducer | noProducer | newConsumer | noConsumer | answer => simp
  | producer i l p p' hp hstep =>
    refine ⟨fun call hcall => ?_, by simp⟩
    rw [List.drop_left] at hcall
    exact (producer_moves hstep).authorizes call hcall
  | consumer i l p p' hp hstep =>
    refine ⟨fun call hcall => ?_, by simp⟩
    rw [List.drop_left] at hcall
    exact (consumer_moves hstep).authorizes call hcall
  | registry operation env c t hstart =>
    refine ⟨by simp, fun rpc hrpc => ?_⟩
    rw [List.drop_left, Option.mem_toList] at hrpc
    exact RegistryTask.start_authorizes hstart hrpc

theorem supplied_token_of_the_step : ∃ s s', exec step (init "a" [.withTokenSupplier 3])
      [.newProducer [.withTopic "t", .withName "p"]] = some s ∧
    s.step (.producer 0 (.create { lookup := { token := fun _ => .ok "k" } })) = some s' ∧
    ∀ call ∈ s'.calls.drop s.calls.length,
      s.client.Authorizes { lookup := { token := fun _ => .ok "k" } } call := by
  obtain ⟨s, s', hs, hs'⟩ : ∃ s s', exec step (init "a" [.withTokenSupplier 3])
      [.newProducer [.withTopic "t", .withName "p"]] = some s ∧
      s.step (.producer 0 (.create { lookup := { token := fun _ => .ok "k" } })) = some s' :=
    ⟨_, _, rfl, rfl⟩
  exact ⟨s, s', hs, hs', (tokens_of_the_step hs').1⟩

end Session

/-! ## TLS -/

namespace ConnectionOptions

/-- The setters of a token switch TLS on, and none switches it off. -/
def TokenOverTls (o : ConnectionOptions) : Prop :=
  o.useTls = false → o.token = "" ∧ o.tokenSupplier = none

theorem apply_tokenOverTls (call : OptionsCall) {o : ConnectionOptions} (h : o.TokenOverTls) :
    (call.apply o).TokenOverTls := by
  intro hoff
  cases call with
  | withTls ca =>
    cases ca with
    | none => exact h hoff
    | some ca => cases hoff
  | withMtls ca cert key =>
    simp only [OptionsCall.apply, withMtls] at hoff ⊢
    split at hoff
    · cases hoff
    · exact h hoff
  | withToken token | withTokenSupplier supplier => cases hoff

theorem Authorizes.useTls {o : ConnectionOptions} {out : Outside} {metadata : Option Metadata}
    (h : o.Authorizes out metadata) (ho : o.TokenOverTls) (hbearer : bearer metadata ≠ none) :
    o.useTls = true := by
  obtain ⟨token, htoken, hmetadata, -⟩ := h
  by_contra hoff
  obtain ⟨hstatic, hsupplier⟩ := ho (by simpa using hoff)
  rw [resolveToken, hsupplier, hstatic] at htoken
  cases htoken
  exact hbearer (hmetadata.trans rfl)

end ConnectionOptions

/-- The token of this client goes out over TLS only. -/
structure Client.Secured (c : Client) : Prop where
  token : c.options.TokenOverTls
  channels : c.options.useTls = true →
    ∀ e ∈ c.connectionManager.connections, e.2.channel.credentials ≠ none

/-- The client has this channel. -/
def Client.Has (c : Client) (conn : RpcConnection) : Prop :=
  ∃ key, (key, conn) ∈ c.connectionManager.connections

namespace Client

variable {c c' : Client} {conn : RpcConnection}

theorem has_of_connection? {b u : String} (h : c.connection? b u = some conn) : c.Has conn :=
  ⟨_, ConnectionManager.mem_of_connection? h⟩

theorem Secured.opens (h : c.Secured) (hc : c.Opens c') : c'.Secured where
  token := hc.options ▸ h.token
  channels htls e he := by
    rw [hc.options] at htls
    rcases hc.channels e he with he | he
    · exact h.channels htls e he
    · simp [he, ConnectionOptions.channelCredentials, htls]

theorem Secured.credentials (h : c.Secured) (hc : c.Opens c') {out : Outside}
    {metadata : Option Metadata} (ha : c.options.Authorizes out metadata) (hhas : c'.Has conn)
    (hbearer : bearer metadata ≠ none) : conn.channel.credentials ≠ none := by
  obtain ⟨key, hkey⟩ := hhas
  refine (h.opens hc).channels ?_ _ hkey
  rw [hc.options]
  exact ha.useTls h.token hbearer

end Client

section Moves

variable {ρ : Type} {p q : Pool ρ}

theorem Call.Directed.has {c : Client} {before : List Event} {call : Call} (h : call.Directed c before) :
    c.Has call.conn := by
  unfold Call.Directed at h
  split at h
  · exact Client.has_of_connection? h.1
  · cases h
  · exact Client.has_of_connection? h.1
  · exact Client.has_of_connection? h.1
  · obtain ⟨⟨a, -, ha⟩, -⟩ := h
    exact Client.has_of_connection? ha
  · obtain ⟨⟨a, -, ha⟩, -⟩ := h
    exact Client.has_of_connection? ha
  · obtain ⟨⟨a, -, ha⟩, -⟩ := h
    exact Client.has_of_connection? ha
  · obtain ⟨⟨a, -, ha⟩, -⟩ := h
    exact Client.has_of_connection? ha
  · obtain ⟨l, -, -, hl, -⟩ := h
    exact Client.has_of_connection? hl
  · exact Client.has_of_connection? h.1
  · exact Client.has_of_connection? h.1

theorem Pool.Each.has (h : q.Each Directed) : ∀ call ∈ p.newCalls q, q.client.Has call.conn := by
  intro call hcall
  obtain ⟨e, he, hrpc⟩ := List.mem_filterMap.mp hcall
  obtain ⟨x, hx, rfl⟩ := List.mem_map.mp he
  have hevent : .rpc call ∈ logOf x.ref q.trace := by
    unfold Event.call? at hrpc
    split at hrpc
    · rename_i heq
      cases hrpc
      exact mem_logOf.mpr ⟨x.actor, heq ▸ List.mem_of_mem_drop hx⟩
    · cases hrpc
  obtain ⟨before, after, hlog⟩ := List.append_of_mem hevent
  exact (h.directed hlog).has

end Moves

theorem Consumer.issued_has {s s' : ConsumerState} {l : ConsumerLabel} (hstep : step s l = some s')
    (h : s'.pool.Each Directed) : ∀ call ∈ issued s s' l, s'.pool.client.Has call.conn := by
  cases l with
  | subscribe env =>
    change subscribe s env = some s' at hstep
    unfold subscribe Client.topicPartitions at hstep
    split at hstep
    · rename_i hfree
      cases hprepare : s.pool.client.prepare env.call s.pool.client.uri with
      | mk c x =>
        rw [hprepare] at hstep
        cases x with
        | error err =>
          cases hstep
          simp [issued, hfree.1]
        | ok x =>
          have hconn := Client.prepare_ok hprepare
          cases hstep
          intro call hcall
          obtain rfl : call = _ := List.mem_singleton.mp hcall
          exact Client.has_of_connection? hconn
    · cases hstep
  | _ => exact h.has

theorem RegistryTask.start_has {operation : RegistryOperation} {out : Outside} {c c' : Client}
    {t : RegistryTask} (h : start operation out c = (c', t)) {rpc : RegistryRpc}
    (hrpc : t.rpc? = some rpc) : c'.Has rpc.conn := by
  cases started h with
  | refused err hrequest => cases hrpc
  | failed request hrequest d err hprepare => cases hrpc
  | issued request hrequest d conn metadata hprepare =>
    cases hrpc
    exact Client.has_of_connection? (Client.prepare_ok hprepare)

namespace Session

variable {s s' : Session} {uri : String} {options : List OptionsCall} {ls : List SessionLabel}
  {l : SessionLabel}

/-- No setter of the builder switches TLS on for a client that has opened a channel without it. -/
def TlsFirst (s : Session) : SessionLabel → Prop
  | .options call => s.client.options.useTls = false → (call.apply s.client.options).useTls = true →
    s.client.connectionManager.connections = []
  | _ => True

instance (s : Session) (l : SessionLabel) : Decidable (TlsFirst s l) :=
  match l with
  | .options call => inferInstanceAs (Decidable (s.client.options.useTls = false →
      (call.apply s.client.options).useTls = true → s.client.connectionManager.connections = []))
  | .newProducer _ | .newConsumer _ | .producer .. | .consumer .. | .registry .. | .answer .. =>
    isTrue trivial

/-- What went out with a token went out over TLS. -/
structure Sealed (s : Session) : Prop where
  client : s.client.Secured
  calls : ∀ call ∈ s.calls, bearer call.metadata ≠ none → call.conn.channel.credentials ≠ none
  registry : ∀ rpc ∈ s.registryRpcs, bearer rpc.metadata ≠ none → rpc.conn.channel.credentials ≠ none

theorem sealed_init (uri : String) (options : List OptionsCall) : Sealed (init uri options) where
  client := by
    refine ⟨?_, fun _ e he => by simp [init, Client.init, ConnectionManager.init] at he⟩
    change ConnectionOptions.TokenOverTls (options.foldl (fun o call => call.apply o) {})
    suffices h : ∀ o : ConnectionOptions, o.TokenOverTls →
        (options.foldl (fun o call => call.apply o) o).TokenOverTls from h {} fun _ => ⟨rfl, rfl⟩
    induction options with
    | nil => exact fun o ho => ho
    | cons call calls ih => exact fun o ho => ih _ (ConnectionOptions.apply_tokenOverTls call ho)
  calls := by simp [init]
  registry := by simp [init]

theorem setOptions_secured {c : Client} (h : c.Secured) (call : OptionsCall)
    (hfirst : c.options.useTls = false → (call.apply c.options).useTls = true →
      c.connectionManager.connections = []) : (c.setOptions call).Secured where
  token := ConnectionOptions.apply_tokenOverTls call h.token
  channels htls e he := by
    cases hold : c.options.useTls with
    | true => exact h.channels hold e he
    | false =>
      have hnone := hfirst hold htls
      change e ∈ c.connectionManager.connections at he
      rw [hnone] at he
      cases he

/-- What a step issues is sealed when the client is secured. -/
theorem sealed_step {t : Session} (h : Sealed s) (hopens : s.client.Opens t.client) {calls : List Call}
    (hcalls : t.calls = s.calls ++ calls) {env : Env}
    (hauthorizes : ∀ call ∈ calls, s.client.Authorizes env call)
    (hhas : ∀ call ∈ calls, t.client.Has call.conn) (hregistry : t.registryRpcs = s.registryRpcs) :
    Sealed t where
  client := h.client.opens hopens
  calls call hcall hbearer := by
    rw [hcalls] at hcall
    rcases List.mem_append.mp hcall with hcall | hcall
    · exact h.calls call hcall hbearer
    · exact h.client.credentials hopens (hauthorizes call hcall) (hhas call hcall) hbearer
  registry := hregistry ▸ h.registry

theorem step_sealed {ls : List SessionLabel} (hs : exec step (init uri options) ls = some s)
    (h : Sealed s) (hfirst : TlsFirst s l) (hstep : s.step l = some s') : Sealed s' := by
  have hrun : exec step (init uri options) (ls ++ [l]) = some s' :=
    exec_append.mpr ⟨s, hs, exec_cons.mpr ⟨s', hstep, rfl⟩⟩
  cases stepped hstep with
  | options call => exact ⟨setOptions_secured h.client call hfirst, h.calls, h.registry⟩
  | newProducer | noProducer | newConsumer | noConsumer | answer => exact ⟨h.client, h.calls, h.registry⟩
  | producer i l p p' hp hstep' =>
    have hmoves := producer_moves hstep'
    have hmem : p' ∈ s.producers.set i p' :=
      List.mem_set (List.getElem?_eq_some_iff.mp hp).1 p'
    -- The RPCs of the producer go over channels of the secured client.
    have heach := producers_directed hrun p' hmem
    exact sealed_step h hmoves.opens rfl hmoves.authorizes (Pool.Each.has heach) rfl
  | consumer i l p p' hp hstep' =>
    have hmoves := consumer_moves hstep'
    have hmem : p' ∈ s.consumers.set i p' :=
      List.mem_set (List.getElem?_eq_some_iff.mp hp).1 p'
    have heach := consumers_directed hrun p' hmem
    have hhas := Consumer.issued_has hstep' heach
    exact sealed_step h hmoves.opens rfl hmoves.authorizes hhas rfl
  | registry operation env c t hstart =>
    refine ⟨h.client.opens (RegistryTask.start_opens hstart), h.calls, fun rpc hrpc hbearer => ?_⟩
    rcases List.mem_append.mp hrpc with hrpc | hrpc
    · exact h.registry rpc hrpc hbearer
    · have hnew := Option.mem_toList.mp hrpc
      exact h.client.credentials (RegistryTask.start_opens hstart)
        (RegistryTask.start_authorizes hstart hnew)
        (RegistryTask.start_has hstart hnew) hbearer

/-- In every run in which no setter of the builder switches TLS on for a client with open channels, every
RPC with a token, static or from a supplier, goes over a channel with credentials. -/
theorem tokens_only_over_tls (h : exec step (init uri options) ls = some s)
    (hfirst : Steps step TlsFirst (init uri options) ls) :
    (∀ call ∈ s.calls, bearer call.metadata ≠ none → call.conn.channel.credentials ≠ none) ∧
    ∀ rpc ∈ s.registryRpcs, bearer rpc.metadata ≠ none → rpc.conn.channel.credentials ≠ none := by
  have hsealed := exec_invariant_of_steps
    (P := fun s => (∃ ls, exec step (init uri options) ls = some s) ∧ Sealed s)
    (fun s l s' hs hfirst hstep => by
      obtain ⟨⟨ls, hls⟩, hsealed⟩ := hs
      exact ⟨⟨ls ++ [l], exec_append.mpr ⟨s, hls, exec_cons.mpr ⟨s', hstep, rfl⟩⟩⟩,
        step_sealed hls hsealed hfirst hstep⟩)
    ⟨⟨[], rfl⟩, sealed_init uri options⟩ hfirst h
  exact ⟨hsealed.2.calls, hsealed.2.registry⟩

theorem static_token_over_tls : ∃ s, exec step (init "a" [.withToken "k"]) interleaved = some s ∧
    (∀ call ∈ s.calls, bearer call.metadata ≠ none → call.conn.channel.credentials ≠ none) ∧
    ∀ rpc ∈ s.registryRpcs, bearer rpc.metadata ≠ none → rpc.conn.channel.credentials ≠ none := by
  obtain ⟨s, hs⟩ := Option.isSome_iff_exists.mp
    (by rfl : (exec step (init "a" [.withToken "k"]) interleaved).isSome)
  exact ⟨s, hs, tokens_only_over_tls hs (by decide)⟩

/-- A token that is set after a channel was opened goes out on it, without TLS. -/
example : ((exec step (init "a" []) [.newProducer [.withTopic "t", .withName "p"],
    .producer 0 (.create {}), .options (.withToken "k"),
    .newProducer [.withTopic "t", .withName "q"], .producer 1 (.create {})]).map fun s =>
      s.calls.map fun call => (bearer call.metadata, call.conn.channel.credentials)) =
    some [(none, none), (some "Bearer k", none)] := by
  rfl

end Session

end Danube
