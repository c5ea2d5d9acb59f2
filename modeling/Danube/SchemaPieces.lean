import Danube.Attempts

/-!
# The schema in the pieces of a registration and a send

Only the end of `_resolve_schema_metadata` sets the schema fields, both from one answer, and a message
carries the fields as they are.
-/

namespace Danube

open Async

/-- The RPC of a registration that asks the registry asks it for the reference. -/
def Registering.Consults (schemaRef : Option SchemaReference) : Registering → Prop
  | .latest _ call => ∃ ref, schemaRef = some ref ∧ call.request = .getLatestSchema ref.subject
  | .pinned _ call => ∃ ref id version, schemaRef = some ref ∧
    ref.versionRef = some (.pinnedVersion version) ∧ call.request = .getSchema id (some version.toNat)
  | _ => True

namespace Endpoint

variable {ρ α : Type} (role : Role ρ) (env : Env)

/-- The answer ends `_resolve_schema_metadata`, which sets the fields to `info`. -/
def ResolvesTo (s : Scope ρ) (k : Registering) (w : Wake) (info : SchemaInfo) : Prop :=
  Resolved role s k w ∧ w = .reply (.ok (.schema info))

/-- What a piece does to the schema: it keeps the fields and does not return with a schema left to
resolve, or the answer resolved it. -/
structure KeepsSchema (s : Scope ρ) (r : Piece ρ Registering α) : Prop where
  own : r.state.self.own = s.self.own
  consults : ∀ k, r.next = .await k → k.Consults (role.schemaRef s.self.own)

variable {role env}

theorem KeepsSchema.after {s : Scope ρ} {r : Piece ρ Registering α} (h : KeepsSchema role s r)
    (log : List Event) : KeepsSchema role s (r.after log) := ⟨h.own, h.consults⟩

theorem KeepsSchema.congr {s s' : Scope ρ} {r : Piece ρ Registering α} (h : KeepsSchema role s' r)
    (hown : s'.self.own = s.self.own) : KeepsSchema role s r where
  own := h.own.trans hown
  consults k hk := hown ▸ h.consults k hk

section Pieces

variable (role : Role ρ) (env : Env)

theorem retry_keepsSchema (n : Nat) (s : Scope ρ) :
    KeepsSchema role s (retry env n s : Piece ρ Registering α) := by
  unfold retry backoff
  split
  · exact ⟨rfl, fun k hk => by cases hk; trivial⟩
  · exact ⟨rfl, fun k hk => by cases hk; trivial⟩

theorem failed_keepsSchema (n : Nat) (err : Error) (s : Scope ρ) :
    KeepsSchema role s (failed env n err s : Piece ρ Registering α) := by
  unfold failed
  split
  · split
    · exact ⟨rfl, fun k hk => by cases hk⟩
    · exact retry_keepsSchema role env _ s
  · exact ⟨rfl, fun k hk => by cases hk⟩

theorem attempt_keepsSchema (n : Nat) (s : Scope ρ) :
    KeepsSchema role s (attempt role env n s : Piece ρ Registering α) := by
  unfold attempt
  split
  · exact (failed_keepsSchema role env n _ _).congr rfl
  · dsimp only
    split
    · exact (KeepsSchema.congr (failed_keepsSchema role env n _ _) (by rfl)).after _
    · exact ⟨rfl, fun k hk => by cases hk; trivial⟩

theorem create_keepsSchema (s : Scope ρ) :
    KeepsSchema role s (create role env s : Piece ρ Registering α) := by
  unfold create
  split
  · exact ⟨rfl, fun k hk => by cases hk; trivial⟩
  · exact (KeepsSchema.congr (attempt_keepsSchema role env 0 _) (by rfl)).after _

theorem afterLookup_keepsSchema (n : Nat) (s : Scope ρ) :
    KeepsSchema role s (afterLookup role env n s : Piece ρ Registering α) := by
  unfold afterLookup backoff
  split
  · exact attempt_keepsSchema role env 0 s
  · exact ⟨rfl, fun k hk => by cases hk; trivial⟩

theorem unresolved_keepsSchema (n : Nat) (err : Error) (s : Scope ρ) :
    KeepsSchema role s (unresolved env n err s) := (failed_keepsSchema role env n err s).after _

theorem resolveSchema_keepsSchema (n : Nat) (s : Scope ρ) :
    KeepsSchema role s (resolveSchema role env n s) := by
  unfold resolveSchema
  split
  · exact ⟨rfl, fun k hk => by cases hk⟩
  · rename_i ref href
    split
    · exact (unresolved_keepsSchema role env n _ _).congr rfl
    · rename_i c call hcall
      exact ⟨rfl, fun k hk => by cases hk; exact ⟨ref, href, Client.getLatestSchema_ok hcall⟩⟩

theorem registered_keepsSchema (n : Nat) (addr : BrokerAddress) (id : Nat) (s : Scope ρ) :
    KeepsSchema role s (registered role env n addr id s) := by
  unfold registered checkHealth
  split
  · exact (KeepsSchema.congr (failed_keepsSchema role env n _ _) (by rfl)).after _
  · refine KeepsSchema.after (KeepsSchema.after ?_ _) _
    exact KeepsSchema.congr (resolveSchema_keepsSchema role env n _) rfl

theorem latestSchema_cases (n : Nat) {ref : SchemaReference} (latest : SchemaInfo) {s : Scope ρ}
    (href : role.schemaRef s.self.own = some ref) :
    (ref.Met latest ∧ latestSchema role env n ref latest s = resolved role latest s) ∨
      ¬ ref.Met latest ∧ KeepsSchema role s (latestSchema role env n ref latest s) := by
  unfold latestSchema SchemaReference.Met
  rcases hv : ref.versionRef with _ | (b | version | version) <;> dsimp only
  · exact Or.inl ⟨trivial, rfl⟩
  · exact Or.inl ⟨trivial, rfl⟩
  · split
    · exact Or.inr ⟨by omega, unresolved_keepsSchema role env n _ s⟩
    · split
      · rename_i heq
        exact Or.inl ⟨heq, rfl⟩
      · rename_i hne
        refine Or.inr ⟨hne, ?_⟩
        split
        · exact (unresolved_keepsSchema role env n _ _).congr rfl
        · rename_i c call hcall
          refine ⟨rfl, fun k hk => ?_⟩
          cases hk
          exact ⟨ref, _, version, href, hv, Client.getSchemaVersion_ok hcall⟩
  · split
    · exact Or.inr ⟨by omega, unresolved_keepsSchema role env n _ s⟩
    · exact Or.inl ⟨by omega, rfl⟩

/-- A resumed registration keeps the schema fields, or its answer resolves them. -/
theorem resume_schema {s : Scope ρ} {k : Registering} {w : Wake} {r : Piece ρ Registering Nat}
    (h : resume role env s k w = some r) :
    ((∀ info, ¬ ResolvesTo role s k w info) ∧ KeepsSchema role s r) ∨
      ∃ info, ResolvesTo role s k w info ∧
        r = resolved role info s := by
  have hsilent : ∀ {w : Wake} {k : Registering}, k.resolving = false → ∀ info,
      ¬ ResolvesTo role s k w info := by
    intro w k hk info hres
    simp [hres.1.resolving] at hk
  cases resumption h with
  | moved n =>
    refine Or.inl ⟨hsilent rfl, ?_⟩
    exact (KeepsSchema.congr (afterLookup_keepsSchema role env n _) (by rfl)).after _
  | notMoved n | lookupFailed n => exact Or.inl ⟨hsilent rfl, afterLookup_keepsSchema role env n s⟩
  | slept n => exact Or.inl ⟨hsilent rfl, attempt_keepsSchema role env n s⟩
  | answered n addr call id =>
    exact Or.inl ⟨hsilent rfl, registered_keepsSchema role env n addr id s⟩
  | refused n => exact Or.inl ⟨hsilent rfl, failed_keepsSchema role env n _ s⟩
  | latest n call info ref href =>
    -- The latest version is too old, or the schema is resolved.
    rcases latestSchema_cases role env n info href with ⟨hmet, heq⟩ | ⟨hno, hkeeps⟩
    · exact Or.inr ⟨info, ⟨⟨ref, href, hmet⟩, rfl⟩, heq⟩
    · refine Or.inl ⟨?_, hkeeps⟩
      rintro info ⟨⟨ref', href', hmet⟩, -⟩
      rw [href, Option.some.injEq] at href'
      exact hno (href' ▸ hmet)
  | latestFailed n | pinnedFailed n =>
    exact Or.inl ⟨fun info hres => hres.1.elim, unresolved_keepsSchema role env n _ s⟩
  | pinned n call info => exact Or.inr ⟨info, ⟨trivial, rfl⟩, rfl⟩

theorem create_message? (s : Scope ρ) :
    ∀ e ∈ (create role env s : Piece ρ Registering α).log, e.message? = none := by
  obtain ⟨r, hr, hshaped⟩ := create_shaped (α := α) role env s
  have hcall : CallLog r.next r.log := hshaped.log
  rw [hr]
  intro e he
  rcases List.mem_append.mp he with he | he
  · rw [List.mem_singleton.mp he]
    rfl
  · exact hcall.message? e he

theorem resume_message? {s : Scope ρ} {k : Registering} {w : Wake} {r : Piece ρ Registering Nat}
    (hs : k.connected → s.self.stub ≠ none) (h : resume role env s k w = some r) :
    ∀ e ∈ r.log, e.message? = none := CallLog.message? (resume_shaped role env hs h).log

end Pieces

end Endpoint

namespace SendCall

variable {env : Env} {call : SendCall} {s : Scope ProducerFields}

/-- A piece of a send that leaves the schema fields as they are, and sends them. -/
structure SendsSchema (s : Scope ProducerFields) (r : Piece ProducerFields Sending Nat) : Prop where
  own : r.state.self.own = s.self.own
  consults : ∀ k, r.next = .await (.create k) → k.Consults s.self.own.schemaRef
  sends : ∀ e ∈ r.log, ∀ m ∈ e.message?,
    m.schemaId = s.self.own.schemaId ∧ m.schemaVersion = s.self.own.schemaVersion

theorem SendsSchema.after {r : Piece ProducerFields Sending Nat} (h : SendsSchema s r)
    {log : List Event} (hlog : ∀ e ∈ log, e.message? = none) : SendsSchema s (r.after log) where
  own := h.own
  consults := h.consults
  sends e he m hm := by
    rcases List.mem_append.mp he with he | he
    · rw [hlog e he] at hm
      cases hm
    · exact h.sends e he m hm

theorem SendsSchema.congr {s' : Scope ProducerFields} {r : Piece ProducerFields Sending Nat}
    (h : SendsSchema s' r) (hown : s'.self.own = s.self.own) : SendsSchema s r where
  own := h.own.trans hown
  consults := hown ▸ h.consults
  sends := hown ▸ h.sends

theorem sendsSchema_of_silent {r : Piece ProducerFields Sending Nat}
    (hown : r.state.self.own = s.self.own) (hnext : ∀ k, r.next ≠ .await (.create k))
    (hlog : ∀ e ∈ r.log, e.message? = none) : SendsSchema s r where
  own := hown
  consults k hk := (hnext k hk).elim
  sends e he m hm := by
    rw [hlog e he] at hm
    cases hm

theorem andThen_sendsSchema {α : Type} {r : Piece ProducerFields TopicProducer.Creating α}
    {onRet : Scope ProducerFields → α → Piece ProducerFields Sending Nat}
    (hkeeps : Endpoint.KeepsSchema producerRole s r) (hret : ∀ a, r.next ≠ .ret a)
    (hlog : ∀ e ∈ r.log, e.message? = none) :
    SendsSchema s (r.andThen .create onRet fun s e => raise e s) := by
  unfold Ran.andThen
  cases hnext : r.next with
  | await k =>
    refine ⟨hkeeps.own, fun k' hk' => ?_, fun e he m hm => ?_⟩
    · cases hk'
      exact hkeeps.consults k hnext
    · rw [hlog e he] at hm
      cases hm
  | ret a => exact (hret a hnext).elim
  | raise err =>
    refine (sendsSchema_of_silent hkeeps.own (by simp [raise]) ?_).after hlog
    simp [raise]

theorem recreateProducer_sendsSchema (env : Env) (s : Scope ProducerFields) :
    SendsSchema s (recreateProducer env s) :=
  andThen_sendsSchema (Endpoint.create_keepsSchema producerRole env s) (fun a => a.elim)
    (Endpoint.create_message? producerRole env s)

theorem caught_sendsSchema (env : Env) (call : SendCall) (n : Nat) (err : Error)
    (s : Scope ProducerFields) : SendsSchema s (caught env call n err s) := by
  unfold caught
  split
  · exact recreateProducer_sendsSchema env s
  · split
    · split
      · unfold lookupAndRecreate
        split
        · rename_i heq
          refine sendsSchema_of_silent rfl (by simp) ?_
          simpa using (Endpoint.lookup_inner env heq).message?
        · exact sendsSchema_of_silent rfl (by simp [raise]) (by simp [raise])
      · exact sendsSchema_of_silent rfl (by simp) (by simp [Event.message?])
    · exact sendsSchema_of_silent rfl (by simp [raise]) (by simp [raise])

theorem attempt_sendsSchema (env : Env) (call : SendCall) (n : Nat) (s : Scope ProducerFields) :
    SendsSchema s (attempt env call n s) := by
  unfold attempt TopicProducer.send
  cases s.self.stub with
  | none => exact caught_sendsSchema env call n _ s
  | some stub =>
    dsimp only
    cases s.client.attachTokenIfNeeded env.call with
    | error err => exact (caught_sendsSchema env call n _ _).congr rfl
    | ok metadata =>
      refine ⟨rfl, by simp, fun e he m hm => ?_⟩
      rw [List.mem_singleton.mp he] at hm
      obtain rfl := Option.some.inj hm
      exact ⟨rfl, rfl⟩

/-- A resumed send sends the schema fields as they are, or as the answer to its `create()` sets them. -/
theorem resume_schema {k : Sending} {w : Wake} {r : Piece ProducerFields Sending Nat}
    (hs : s.self.stub ≠ none) (h : call.resume env s k w = some r) :
    ((∀ k' info, k = .create k' → ¬ Endpoint.ResolvesTo producerRole s k' w info) ∧
        SendsSchema s r) ∨
      ∃ k' info, k = .create k' ∧ Endpoint.ResolvesTo producerRole s k' w info ∧
        SendsSchema
          { s with self := { s.self with own := producerRole.setSchema s.self.own info } } r := by
  cases resumption h with
  | answered => exact Or.inl ⟨by simp, sendsSchema_of_silent rfl (by simp) (by simp)⟩
  | failed n => exact Or.inl ⟨by simp, caught_sendsSchema env call n _ s⟩
  | slept n => exact Or.inl ⟨by simp, attempt_sendsSchema env call n s⟩
  | moved =>
    refine Or.inl ⟨by simp, ?_⟩
    refine SendsSchema.after (SendsSchema.congr (recreateProducer_sendsSchema env _) (by rfl)) ?_
    simp [Event.message?]
  | notMoved | lookupFailed =>
    exact Or.inl ⟨by simp, sendsSchema_of_silent rfl (by simp [raise]) (by simp [raise])⟩
  | creating k w r' hr' =>
    have hlog := Endpoint.resume_message? producerRole env (fun _ => hs) hr'
    rcases Endpoint.resume_schema producerRole env hr' with ⟨hno, hkeeps⟩ | ⟨info, hres, rfl⟩
    · refine Or.inl ⟨fun k' info hk' => by cases hk'; exact hno info, ?_⟩
      cases hnext : r'.next with
      | ret id =>
        have hrec : recreated env call r' = (attempt env call 0 r'.state).after r'.log := by
          simp only [recreated, Ran.andThen, hnext]
        rw [hrec]
        exact ((attempt_sendsSchema env call 0 _).congr hkeeps.own).after hlog
      | await k' => exact andThen_sendsSchema hkeeps (by simp [hnext]) hlog
      | raise err => exact andThen_sendsSchema hkeeps (by simp [hnext]) hlog
    · refine Or.inr ⟨k, info, rfl, hres, ?_⟩
      exact (SendsSchema.congr (attempt_sendsSchema env call 0 _) (by rfl)).after hlog

end SendCall

end Danube
