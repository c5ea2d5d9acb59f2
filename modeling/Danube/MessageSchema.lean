import Danube.SchemaPieces

/-!
# The schema of a message

A producer with a schema reference sends each message with a schema id and version that one resolution
of the reference has set together.
-/

namespace Danube

open Async

/-- The version is one that the reference asks for, when `latest` are the latest versions. -/
def SchemaReference.Satisfied (ref : SchemaReference) (latest : String → Option SchemaInfo)
    (info : SchemaInfo) : Prop :=
  match ref.versionRef with
  | some (.pinnedVersion version) => info.version = version.toNat
  | some (.minVersion version) => version.toNat ≤ info.version
  | _ => latest ref.subject = some info

/-- `info` answers the RPC with which the reference is resolved. -/
def SchemaReference.AnsweredBy (ref : SchemaReference) (call : Call) (info : SchemaInfo) : Prop :=
  (call.request = .getLatestSchema ref.subject ∧ ref.Met info) ∨
    ∃ id version, ref.versionRef = some (.pinnedVersion version) ∧
      call.request = .getSchema id (some version.toNat)

theorem SchemaReference.AnsweredBy.satisfied {ref : SchemaReference} {call : Call}
    {info : SchemaInfo} (h : ref.AnsweredBy call info) {latest : String → Option SchemaInfo}
    (hlatest : ∀ subject, call.request = .getLatestSchema subject → latest subject = some info)
    (hversion : ∀ id version, call.request = .getSchema id (some version) → info.version = version) :
    ref.Satisfied latest info := by
  unfold Satisfied
  rcases h with ⟨hreq, hmet⟩ | ⟨id, version, hpinned, hreq⟩
  · have hinfo := hlatest ref.subject hreq
    unfold Met at hmet
    rcases hv : ref.versionRef with _ | (b | version | version) <;> rw [hv] at hmet
    · exact hinfo
    · exact hinfo
    · exact hmet.symm
    · exact hmet
  · rw [hpinned]
    exact hversion id version.toNat hreq

theorem Endpoint.ResolvesTo.answers {sc : Scope ProducerFields} {k : Registering} {w : Wake}
    {info : SchemaInfo} (h : ResolvesTo producerRole sc k w info) {ref : SchemaReference}
    (href : sc.self.own.schemaRef = some ref) (hconsults : k.Consults (some ref)) :
    ∃ call, k.pending = some call ∧ w = .reply (.ok (.schema info)) ∧ ref.AnsweredBy call info := by
  obtain ⟨hres, rfl⟩ := h
  cases k with
  | lookup | backoff | request => exact hres.elim
  | latest n call =>
    obtain ⟨ref', href', hmet⟩ := hres
    obtain rfl : ref = ref' := Option.some.inj (href.symm.trans href')
    obtain ⟨ref'', href'', hreq⟩ := hconsults
    obtain rfl := Option.some.inj href''
    exact ⟨call, rfl, rfl, Or.inl ⟨hreq, hmet⟩⟩
  | pinned n call =>
    obtain ⟨ref', id, version, href', hversion, hreq⟩ := hconsults
    obtain rfl := Option.some.inj href'
    exact ⟨call, rfl, rfl, Or.inr ⟨id, version, hversion, hreq⟩⟩

theorem Endpoint.Returns.resolvesTo {env : Env} {sc : Scope ProducerFields} {k : Registering}
    {w : Wake} (h : Returns producerRole env sc k w) (href : sc.self.own.schemaRef ≠ none) :
    ∃ info, ResolvesTo producerRole sc k w info := by
  unfold Returns at h
  split at h
  · exact (href h.1).elim
  · have hres := h
    unfold Resolved at h
    split at h
    · exact ⟨_, hres, rfl⟩
    · exact ⟨_, hres, rfl⟩
    · exact h.elim

/-! ## The tasks -/

/-- The fields are set, both from one info. -/
def ProducerFields.SetTo (own : ProducerFields) (info : SchemaInfo) : Prop :=
  own.schemaId = some info.schemaId ∧ own.schemaVersion = some info.version

/-- The schema fields of a pool, when `R` are the infos that resolutions have answered. -/
structure Pool.Schemas (ref : SchemaReference) (R : Nat → SchemaInfo → Prop)
    (p : Pool ProducerFields) : Prop where
  schemaRef : ∀ (r : Nat) e, p.endpoints[r]? = some e → e.own.schemaRef = some ref
  returned : ∀ (r : Nat) id e, p.children[r]? = some (.started (.ret id)) → p.endpoints[r]? = some e →
    ∃ info, R r info ∧ e.own.SetTo info
  consults : ∀ (r : Nat) k, p.children[r]? = some (.started (.await k)) → k.Consults (some ref)
  sent : ∀ x ∈ p.trace, ∀ m ∈ x.event.message?, ∃ info, R x.ref info ∧
    m.schemaId = some info.schemaId ∧ m.schemaVersion = some info.version

namespace Pool

variable {ref : SchemaReference} {R R' : Nat → SchemaInfo → Prop} {p q : Pool ProducerFields}

theorem schemas_init (client : Client) :
    Schemas ref R ({ client := client } : Pool ProducerFields) := by
  constructor <;> simp

theorem Schemas.mono (h : p.Schemas ref R) (hR : ∀ r info, R r info → R' r info) :
    p.Schemas ref R' where
  schemaRef := h.schemaRef
  returned r id e hr he := by
    obtain ⟨info, hinfo, hset⟩ := h.returned r id e hr he
    exact ⟨info, hR r info hinfo, hset⟩
  consults := h.consults
  sent x hx m hm := by
    obtain ⟨info, hinfo, hset⟩ := h.sent x hx m hm
    exact ⟨info, hR x.ref info hinfo, hset⟩

theorem Schemas.congr (h : p.Schemas ref R) (hchildren : q.children = p.children)
    (hown : ∀ (r : Nat) e, q.endpoints[r]? = some e → ∃ e', p.endpoints[r]? = some e' ∧ e'.own = e.own)
    {log : List Entry} (htrace : q.trace = p.trace ++ log)
    (hlog : ∀ x ∈ log, x.event.message? = none) : q.Schemas ref R where
  schemaRef r e he := by
    obtain ⟨e', he', heq⟩ := hown r e he
    exact heq ▸ h.schemaRef r e' he'
  returned r id e hr he := by
    obtain ⟨e', he', heq⟩ := hown r e he
    exact heq ▸ h.returned r id e' (hchildren ▸ hr) he'
  consults r k hk := h.consults r k (hchildren ▸ hk)
  sent x hx m hm := by
    rw [htrace] at hx
    rcases List.mem_append.mp hx with hx | hx
    · exact h.sent x hx m hm
    · rw [hlog x hx] at hm
      cases hm

theorem alloc_schemas (h : p.Schemas ref R) {es : List TopicProducer}
    (hes : ∀ e ∈ es, e.own.schemaRef = some ref) (hlen : p.children.length = p.endpoints.length) :
    (p.alloc es).Schemas ref R := by
  have hstarted := alloc_started p es
  constructor
  · intro r e he
    rcases alloc_endpoint he with he | ⟨-, he⟩
    · exact h.schemaRef r e he
    · exact hes e he
  · intro r id e hr he
    have hold := (hstarted r _).mp hr
    rcases alloc_endpoint he with he | ⟨hge, -⟩
    · exact h.returned r id e hold he
    · have hlt := (List.getElem?_eq_some_iff.mp hold).1
      exact absurd hge (Nat.not_le.mpr (hlen ▸ hlt))
  · exact fun r k hk => h.consults r k ((hstarted r _).mp hk)
  · exact h.sent

theorem commit_schemas {κ α : Type} (h : p.Schemas ref R) {r₀ : Nat} {sc : Scope ProducerFields}
    (hsc : p.scope r₀ = some sc) {ran : Piece ProducerFields κ α} (href : ran.state.ref = r₀)
    (actor : Actor) (children : List Child)
    (hother : ∀ r : Nat, r ≠ r₀ → children[r]? = p.children[r]?)
    (hown : ran.state.self.own.schemaRef = some ref)
    (hret : ∀ id, children[r₀]? = some (.started (.ret id)) →
      ∃ info, R r₀ info ∧ ran.state.self.own.SetTo info)
    (hconsults : ∀ k, children[r₀]? = some (.started (.await k)) → k.Consults (some ref))
    (hlog : ∀ e ∈ ran.log, ∀ m ∈ e.message?, ∃ info, R r₀ info ∧
      m.schemaId = some info.schemaId ∧ m.schemaVersion = some info.version) :
    Schemas ref R { p.commit actor ran with children := children } := by
  have hlt := (List.getElem?_eq_some_iff.mp (scope_eq_some.mp hsc).1).1
  -- The endpoint is the one that ran, or an old one.
  have hself : ∀ {r : Nat} {e : TopicProducer}, (p.commit actor ran).endpoints[r]? = some e →
      (r = r₀ ∧ e = ran.state.self) ∨ (r ≠ r₀ ∧ p.endpoints[r]? = some e) := by
    intro r e he
    simp only [commit, href] at he
    by_cases hr : r = r₀
    · subst hr
      rw [List.getElem?_set_self hlt, Option.some.injEq] at he
      exact Or.inl ⟨rfl, he.symm⟩
    · rw [List.getElem?_set_ne (Ne.symm hr)] at he
      exact Or.inr ⟨hr, he⟩
  constructor
  · intro r e he
    rcases hself he with ⟨rfl, rfl⟩ | ⟨-, he⟩
    · exact hown
    · exact h.schemaRef r e he
  · intro r id e hr he
    rcases hself he with ⟨rfl, rfl⟩ | ⟨hne, he⟩
    · exact hret id hr
    · exact h.returned r id e (hother r hne ▸ hr) he
  · intro r k hk
    by_cases hr : r = r₀
    · subst hr
      exact hconsults k hk
    · exact h.consults r k (hother r hr ▸ hk)
  · intro x hx m hm
    rcases List.mem_append.mp hx with hx | hx
    · exact h.sent x hx m hm
    · obtain ⟨e, he, rfl⟩ := List.mem_map.mp hx
      rw [href]
      exact hlog e he m hm

theorem child_schemas (h : p.Schemas ref R) (hp : p.Sound) {r₀ : Nat} {w : Wake} {env : Env}
    (hq : p.child producerRole r₀ w env = some q)
    (hnew : ∀ k sc info, p.children[r₀]? = some (.started (.await k)) → p.scope r₀ = some sc →
      Endpoint.ResolvesTo producerRole sc k w info → R r₀ info) : q.Schemas ref R := by
  obtain ⟨c, sc, ran, hc, hsc, hran, rfl⟩ := child_eq_some.mp hq
  have hlt := (List.getElem?_eq_some_iff.mp hc).1
  have href : ran.state.ref = r₀ :=
    (childPiece_journaled hran).ref.trans (scope_eq_some.mp hsc).2.2.2
  have hsref : sc.self.own.schemaRef = some ref := h.schemaRef r₀ _ (scope_eq_some.mp hsc).1
  have hset : (p.children.set r₀ (.started ran.next))[r₀]? = some (.started ran.next) :=
    List.getElem?_set_self hlt
  have hnext : ∀ {o : Outcome Registering Nat Error},
      (p.children.set r₀ (.started ran.next))[r₀]? = some (.started o) → ran.next = o := by
    intro o ho
    rw [hset] at ho
    simpa using ho
  have hmsg : (∀ e ∈ ran.log, e.message? = none) → ∀ e ∈ ran.log, ∀ m ∈ e.message?,
      ∃ info, R r₀ info ∧ m.schemaId = some info.schemaId ∧ m.schemaVersion = some info.version := by
    intro hlog e he m hm
    rw [hlog e he] at hm
    cases hm
  have hother : ∀ r : Nat, r ≠ r₀ →
      (p.children.set r₀ (.started ran.next))[r]? = p.children[r]? := fun r hr =>
    List.getElem?_set_ne (Ne.symm hr)
  -- A piece that does not resolve the schema does not return.
  have hkept : Endpoint.KeepsSchema producerRole sc ran → (∀ id, ran.next ≠ .ret id) →
      (∀ e ∈ ran.log, e.message? = none) →
      Schemas ref R { p.commit (.child r₀) ran with
        children := p.children.set r₀ (.started ran.next) } := by
    intro hkeeps hret hlog
    refine commit_schemas h hsc href (.child r₀) _ hother (hkeeps.own ▸ hsref) ?_ ?_ (hmsg hlog)
    · exact fun id hid => (hret id (hnext hid)).elim
    · exact fun k hk => hsref ▸ hkeeps.consults k (hnext hk)
  rcases childPiece_cases hran with ⟨rfl, -, rfl⟩ | ⟨k, rfl, hresume⟩
  · refine hkept (Endpoint.create_keepsSchema producerRole env sc) (fun id hid => ?_)
      (Endpoint.create_message? producerRole env sc)
    rcases (Endpoint.create_quiet producerRole env sc (α := Nat)).next with ⟨k, hk, -⟩ | ⟨e, he⟩
    · simp [hk] at hid
    · simp [he] at hid
  · have hlog := Endpoint.resume_message? producerRole env (fun hconn =>
      (hp.ready r₀ _ sc.self hc (scope_eq_some.mp hsc).1).stub _ rfl hconn) hresume
    rcases Endpoint.resume_schema producerRole env hresume with ⟨hno, hkeeps⟩ | ⟨info, hres, rfl⟩
    · refine hkept hkeeps (fun id hid => ?_) hlog
      -- A piece that returns has resolved the schema, if there is one to resolve.
      have hreturns := (Endpoint.resume_returns_iff producerRole env hresume).mp ⟨id, hid⟩
      obtain ⟨info, hres⟩ := hreturns.resolvesTo (by simp [hsref])
      exact hno info hres
    · refine commit_schemas h hsc href (.child r₀) _ hother hsref ?_ ?_ (hmsg hlog)
      · exact fun id _ => ⟨info, hnew k sc info hc hsc hres, rfl, rfl⟩
      · exact fun k hk => by cases hnext hk

theorem health_schemas (h : p.Schemas ref R) {task : Nat} {w : Wake} {env : Env}
    (hq : p.health task w env = some q) : q.Schemas ref R := by
  obtain ⟨l, e, c, pos, log, stop, -, -, -, hchecks, rfl⟩ := health_eq_some hq
  refine h.congr rfl (fun r e he => ?_) rfl (by simpa using hchecks.message?)
  cases stop
  · exact ⟨e, he, rfl⟩
  · simp only [checked, if_true, List.getElem?_modify] at he
    obtain ⟨e', he', rfl⟩ := Option.map_eq_some_iff.mp he
    exact ⟨e', he', by split <;> rfl⟩

theorem stop_schemas (h : p.Schemas ref R) (r₀ : Nat) : (p.stop r₀).Schemas ref R := by
  obtain ⟨log, htrace, hlog⟩ := stop_writes p r₀
  refine h.congr (stop_children p r₀) (fun r e he => ?_) htrace fun x hx => by rw [(hlog x hx).1]; rfl
  unfold stop at he
  split at he
  · exact ⟨e, he, rfl⟩
  · rename_i e₀ he₀
    rcases eq_or_ne r₀ r with rfl | hr
    · rw [List.getElem?_set_self (List.getElem?_eq_some_iff.mp he₀).1, Option.some.injEq] at he
      exact ⟨e₀, he₀, he ▸ rfl⟩
    · rw [List.getElem?_set_ne hr] at he
      exact ⟨e, he, rfl⟩

theorem foldl_stop_schemas (refs : List Nat) {p : Pool ProducerFields} (h : p.Schemas ref R) :
    (refs.foldl stop p).Schemas ref R := by
  induction refs generalizing p with
  | nil => exact h
  | cons r rs ih => exact ih (stop_schemas h r)

end Pool

/-! ## The producer -/

namespace Producer

/-- `_resolve_schema_metadata` on the endpoint `r` returns in this step, and sets the schema fields
to `info`. -/
def Resolves (s : ProducerState) (l : ProducerLabel) (r : Nat) (info : SchemaInfo) : Prop :=
  match l with
  | .child ref w _ => ref = r ∧ ∃ k sc, s.pool.children[r]? = some (.started (.await k)) ∧
    s.pool.scope r = some sc ∧ Endpoint.ResolvesTo producerRole sc k w info
  | .sending i w _ => ∃ t k sc, s.sends[i]? = some t ∧ s.producers[t.partition]? = some r ∧
    t.status = .await (.create k) ∧ s.pool.scope r = some sc ∧
    Endpoint.ResolvesTo producerRole sc k w info
  | _ => False

/-- The RPC to the schema registry that the label answers, and the answer. -/
def registryAnswer (s : ProducerState) : ProducerLabel → Option (Call × SchemaInfo)
  | .child ref (.reply (.ok (.schema info))) _ =>
    match s.pool.children[ref]? with
    | some (.started (.await k)) => k.pending.map fun call => (call, info)
    | _ => none
  | .sending i (.reply (.ok (.schema info))) _ =>
    match s.sends[i]? with
    | some ⟨_, _, .await k⟩ => k.pending.map fun call => (call, info)
    | _ => none
  | _ => none

/-- `GetLatestSchema` answers the latest version of its subject, `GetSchema` the version it is asked
for. -/
def RegistryAnswers (latest : String → Option SchemaInfo) (s : ProducerState) (l : ProducerLabel) :
    Prop :=
  ∀ call info, registryAnswer s l = some (call, info) →
    (∀ subject, call.request = .getLatestSchema subject → latest subject = some info) ∧
    ∀ id version, call.request = .getSchema id (some version) → info.version = version

instance (latest : String → Option SchemaInfo) (s : ProducerState) (l : ProducerLabel) :
    Decidable (RegistryAnswers latest s l) :=
  match h : registryAnswer s l with
  | none => isTrue fun call info hcall => by simp [h] at hcall
  | some (call, info) =>
    match hreq : call.request with
    | .getLatestSchema subject =>
      decidable_of_iff (latest subject = some info) (by simp [RegistryAnswers, h, hreq])
    | .getSchema id (some version) =>
      decidable_of_iff (info.version = version) (by simp [RegistryAnswers, h, hreq])
    | .getSchema _ none | .topicLookup .. | .topicPartitions .. | .createProducer _ | .sendMessage _
    | .subscribe _ | .receiveMessages .. | .ack _ | .nack _ | .healthCheck .. =>
      isTrue (by simp [RegistryAnswers, h, hreq])

/-- The schema fields and messages of a producer, when `R` are the infos that resolutions answered. -/
structure Schemas (ref : SchemaReference) (R : Nat → SchemaInfo → Prop) (s : ProducerState) :
    Prop where
  config : s.config.schemaRef = some ref
  pool : s.pool.Schemas ref R
  consults : ∀ t ∈ s.sends, ∀ k, t.status = .await (.create k) → k.Consults (some ref)

variable {ref : SchemaReference} {R R' : Nat → SchemaInfo → Prop} {s s' : ProducerState}
  {l : ProducerLabel}

theorem Schemas.answered (h : Schemas ref R s) {r : Nat} {info : SchemaInfo}
    (hres : Resolves s l r info) :
    ∃ call, registryAnswer s l = some (call, info) ∧ ref.AnsweredBy call info := by
  cases l with
  | child r' w env =>
    obtain ⟨rfl, k, sc, hk, hsc, hto⟩ := hres
    obtain ⟨call, hcall, rfl, hanswer⟩ := hto.answers
      (h.pool.schemaRef r' _ (Pool.scope_eq_some.mp hsc).1) (h.pool.consults r' k hk)
    exact ⟨call, by simp [registryAnswer, hk, hcall], hanswer⟩
  | sending i w env =>
    obtain ⟨⟨part, call', status⟩, k, sc, ht, -, hk, hsc, hto⟩ := hres
    obtain rfl : status = .await (.create k) := hk
    obtain ⟨call, hcall, rfl, hanswer⟩ := hto.answers
      (h.pool.schemaRef r _ (Pool.scope_eq_some.mp hsc).1)
      (h.consults _ (List.mem_of_getElem? ht) k rfl)
    exact ⟨call, by simp [registryAnswer, ht, Sending.pending, hcall], hanswer⟩
  | create | gathered | send | health | close => exact hres.elim

theorem Schemas.satisfied (h : Schemas ref R s) {latest : String → Option SchemaInfo}
    (hreg : RegistryAnswers latest s l) {r : Nat} {info : SchemaInfo} (hres : Resolves s l r info) :
    ref.Satisfied latest info := by
  obtain ⟨call, hcall, hanswer⟩ := h.answered hres
  exact hanswer.satisfied (hreg call info hcall).1 (hreg call info hcall).2

theorem Schemas.commitSend (h : Schemas ref R s) {task r : Nat} {t : SendTask}
    {sc : Scope ProducerFields} (hsc : s.pool.scope r = some sc)
    {ran : Piece ProducerFields Sending Nat} (hj : Piece.Journaled sc ran)
    {sc' : Scope ProducerFields} (hsends : SendCall.SendsSchema sc' ran)
    (href : sc'.self.own.schemaRef = some ref) {info : SchemaInfo} (hinfo : R r info)
    (hset : sc'.self.own.SetTo info) : Schemas ref R (commitSend s task t ran) where
  config := h.config
  pool := by
    have hpool := Pool.commit_schemas h.pool hsc
      (hj.ref.trans (Pool.scope_eq_some.mp hsc).2.2.2) (.send task) s.pool.children (fun _ _ => rfl)
      (hsends.own ▸ href) (fun id hid => ⟨info, hinfo, hsends.own ▸ hset⟩)
      (fun k hk => h.pool.consults r k hk) fun e he m hm => ?_
    · exact hpool
    · obtain ⟨hid, hversion⟩ := hsends.sends e he m hm
      exact ⟨info, hinfo, hid.trans hset.1, hversion.trans hset.2⟩
  consults u hu k hk := by
    rcases List.mem_or_eq_of_mem_set hu with hu | rfl
    · exact h.consults u hu k hk
    · exact href ▸ hsends.consults k hk

theorem Schemas.withPool (h : Schemas ref R s) {p : Pool ProducerFields} (hp : p.Schemas ref R)
    (hpool : s'.pool = p) (hconfig : s'.config = s.config) (hsends : s'.sends = s.sends) :
    Schemas ref R s' where
  config := by rw [hconfig, h.config]
  pool := by rw [hpool]; exact hp
  consults := by rw [hsends]; exact h.consults

theorem Schemas.mono (h : Schemas ref R s) (hR : ∀ r info, R r info → R' r info) :
    Schemas ref R' s := ⟨h.config, h.pool.mono hR, h.consults⟩

theorem Schemas.ofCall (h : Schemas ref R s) (hs : Sound s) {i r : Nat}
    (hr : s.producers[i]? = some r) {sc : Scope ProducerFields} (hsc : s.pool.scope r = some sc) :
    ∃ info, R r info ∧ sc.self.own.SetTo info := by
  obtain ⟨id, hid⟩ := hs.producers r (List.mem_of_getElem? hr)
  exact h.pool.returned r id _ hid (Pool.scope_eq_some.mp hsc).1

theorem step_schemas (hs : Sound s) (h : Schemas ref R s) (hstep : step s l = some s')
    (hnew : ∀ r info, Resolves s l r info → R r info) : Schemas ref R s' := by
  have halloc : ∀ {es : List TopicProducer}, (∀ e ∈ es, e.own.schemaRef = some ref) →
      (s.pool.alloc es).Schemas ref R := fun hes => Pool.alloc_schemas h.pool hes hs.pool.length
  cases l with
  | create env =>
    obtain ⟨-, -, ⟨-, p, hp, rfl⟩ | ⟨hpos, rfl⟩⟩ := create_eq_some hstep
    · -- The coroutine of a new endpoint resolves nothing in its first piece.
      have hfresh := (topicProducer_fresh s s.config.topicName s.config.producerName).healthTask
      refine h.withPool (Pool.child_schemas (halloc ?_) (Pool.alloc_sound hs.pool hs.kept ?_) hp ?_)
        (settle_pool _ _) (settle_config _ _) (settle_sends _ _)
      · simpa [topicProducer, TopicProducer.init] using h.config
      · simpa using hfresh
      · intro k sc info hk
        have hold := (List.getElem?_eq_some_iff.mp ((Pool.alloc_started s.pool _ _ _).mp hk)).1
        rw [hs.pool.length] at hold
        exact (Nat.lt_irrefl _ hold).elim
    · refine h.withPool (halloc fun e he => ?_) rfl rfl rfl
      obtain ⟨pid, -, rfl⟩ := List.mem_map.mp he
      exact h.config
  | child r w env =>
    obtain ⟨p, hp, rfl⟩ := Option.map_eq_some_iff.mp hstep
    refine h.withPool (Pool.child_schemas h.pool hs.pool hp fun k sc info hk hsc hto => ?_)
      (settle_pool _ _) (settle_config _ _) (settle_sends _ _)
    exact hnew r info ⟨rfl, k, sc, hk, hsc, hto⟩
  | gathered =>
    obtain ⟨g, hg, ⟨-, rfl⟩ | ⟨-, -, rfl⟩⟩ := gathered_eq_some hstep <;>
      exact h.withPool h.pool rfl rfl rfl
  | send data attributes routingKey env =>
    obtain ⟨-, p, router, t, -, ht, ⟨-, rfl⟩ | ⟨r, sc, hr, hsc, rfl⟩⟩ := send_eq_some hstep
    · refine ⟨h.config, h.pool, fun u hu k hk => ?_⟩
      rcases List.mem_append.mp hu with hu | hu
      · exact h.consults u hu k hk
      · rw [List.mem_singleton.mp hu, ht] at hk
        cases hk
    · obtain ⟨info, hinfo, hset⟩ := h.ofCall hs hr hsc
      have hold : Schemas ref R { s with router := router, sends := s.sends ++ [t] } := by
        refine ⟨h.config, h.pool, fun u hu k hk => ?_⟩
        rcases List.mem_append.mp hu with hu | hu
        · exact h.consults u hu k hk
        · rw [List.mem_singleton.mp hu, ht] at hk
          cases hk
      exact hold.commitSend hsc (sendAttempt_journaled env t.call 0 sc)
        (SendCall.attempt_sendsSchema env t.call 0 sc)
        (h.pool.schemaRef r _ (Pool.scope_eq_some.mp hsc).1) hinfo hset
  | sending task w env =>
    obtain ⟨t, r, sc, k, ran, ht, hr, hsc, hk, hran, rfl⟩ := sending_eq_some.mp hstep
    have hj := sendResume_journaled env hran
    have href := h.pool.schemaRef r _ (Pool.scope_eq_some.mp hsc).1
    rcases SendCall.resume_schema (hs.stub hr hsc) hran with ⟨-, hsends⟩ | ⟨k', info, rfl, hto, hsends⟩
    · obtain ⟨info, hinfo, hset⟩ := h.ofCall hs hr hsc
      exact h.commitSend hsc hj hsends href hinfo hset
    · -- `create()` under the send has just resolved the schema.
      have hinfo := hnew r info ⟨t, k', sc, ht, hr, hk, hsc, hto⟩
      exact h.commitSend hsc hj hsends href hinfo ⟨rfl, rfl⟩
  | health task w env =>
    obtain ⟨p, hp, rfl⟩ := Option.map_eq_some_iff.mp hstep
    exact h.withPool (Pool.health_schemas h.pool hp) rfl rfl rfl
  | close =>
    obtain rfl := Option.some.inj hstep
    exact h.withPool (Pool.foldl_stop_schemas s.producers h.pool) rfl rfl rfl

theorem schemas_init {client : Client} {config : ProducerConfig} (h : config.schemaRef = some ref) :
    Schemas ref R (init client config) := ⟨h, Pool.schemas_init client, by simp [init]⟩

/-! ## Every run -/

section Run

variable (client : Client) (config : ProducerConfig)

/-- In step `n` of the run, a resolution on the endpoint `r` sets the schema fields to `info`. -/
def ResolvedAt (ls : List ProducerLabel) (n r : Nat) (info : SchemaInfo) : Prop :=
  ∃ pre l post t, ls = pre ++ l :: post ∧ n = pre.length ∧
    exec step (init client config) pre = some t ∧ Resolves t l r info

/-- The registry answers what it has: `latest n` are the latest versions in step `n` of the run. -/
def RegistryKeeps (latest : Nat → String → Option SchemaInfo) (ls : List ProducerLabel) : Prop :=
  ∀ pre l post t, ls = pre ++ l :: post → exec step (init client config) pre = some t →
    RegistryAnswers (latest pre.length) t l

theorem registryKeeps_of_steps {client : Client} {config : ProducerConfig}
    {latest : String → Option SchemaInfo} {ls : List ProducerLabel}
    (h : Steps step (RegistryAnswers latest) (init client config) ls) :
    RegistryKeeps client config (fun _ => latest) ls := by
  rintro pre l post t rfl ht
  exact ((steps_append ht).mp h).2.1

end Run

theorem exec_schemas {client : Client} {config : ProducerConfig}
    (href : config.schemaRef = some ref) {latest : Nat → String → Option SchemaInfo}
    {ls : List ProducerLabel} (h : exec step (init client config) ls = some s)
    (hreg : RegistryKeeps client config latest ls) :
    Schemas ref (fun r info => ∃ n, ResolvedAt client config ls n r info ∧
      ref.Satisfied (latest n) info) s := by
  refine (exec_induction (P := fun ls s => RegistryKeeps client config latest ls → Sound s ∧
    Schemas ref (fun r info => ∃ n, ResolvedAt client config ls n r info ∧
      ref.Satisfied (latest n) info) s) ?_ ?_ h hreg).2
  · exact fun _ => ⟨sound_init client config, schemas_init href⟩
  · intro ls t l u ht ih hstep hreg
    have hlast := hreg ls l [] t (by simp) ht
    obtain ⟨hs, hschemas⟩ := ih fun pre l' post t' hls ht' =>
      hreg pre l' (post ++ [l]) t' (by simp [hls]) ht'
    refine ⟨step_sound hs hstep, step_schemas hs (hschemas.mono ?_) hstep fun r info hres => ?_⟩
    · rintro r info ⟨n, ⟨pre, l', post, t', hls, hn, ht', hres⟩, hsat⟩
      exact ⟨n, ⟨pre, l', post ++ [l], t', by simp [hls], hn, ht', hres⟩, hsat⟩
    · exact ⟨ls.length, ⟨ls, l, [], t, by simp, rfl, ht, hres⟩, hschemas.satisfied hlast hres⟩

end Producer

end Danube
