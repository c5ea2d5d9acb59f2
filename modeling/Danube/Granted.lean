import Danube.SchemaPieces

/-!
# Registrations that are granted

Nothing outside the client raises, and the broker and the schema registry grant what a registration
asks for. Its lookups may still fail: `create()` and `subscribe()` go on without them. How many pieces
such a call has left depends on where it is suspended alone, not on what others do to its endpoint.
-/

namespace Danube

open Async

/-- No token supplier raises, and no creation of a channel. -/
structure Outside.Works (out : Outside) : Prop where
  token : ∀ supplier, ∃ text, out.token supplier = .ok text
  channel : ∀ url, out.channel url = none

/-- Lookups may still raise: `create()` and `subscribe()` swallow what they raise. -/
structure Env.Works (env : Env) : Prop where
  call : env.call.Works
  health : env.health.Works

theorem works_default : Env.Works {} where
  call := ⟨fun _ => ⟨"", rfl⟩, fun _ => rfl⟩
  health := ⟨fun _ => ⟨"", rfl⟩, fun _ => rfl⟩

/-! ## What the pieces ask the client for -/

namespace Client

variable {out : Outside}

theorem getConnection_works (h : out.Works) (c : Client) (b u : String) :
    ∃ c' conn, c.getConnection out b u = (c', .ok conn) := by
  unfold getConnection ConnectionManager.getConnection
  split
  · exact ⟨_, _, rfl⟩
  · rw [h.channel]
    exact ⟨_, _, rfl⟩

theorem attachToken_works (h : out.Works) (c : Client) :
    ∃ metadata, c.attachTokenIfNeeded out = .ok metadata := by
  unfold attachTokenIfNeeded ConnectionOptions.attachTokenIfNeeded ConnectionOptions.resolveToken
  split
  · rename_i text heq
    split at heq
    · rename_i supplier _
      obtain ⟨token, htoken⟩ := h.token supplier
      rw [htoken] at heq
      cases heq
    · cases heq
  · exact ⟨_, rfl⟩

theorem prepare_works (h : out.Works) (c : Client) (addr : String) :
    ∃ c' conn metadata, c.prepare out addr = (c', .ok (conn, metadata)) := by
  obtain ⟨c', conn, hconn⟩ := getConnection_works h c addr addr
  obtain ⟨metadata, hmetadata⟩ := attachToken_works h c'
  exact ⟨c', conn, metadata, by simp [prepare, hconn, hmetadata]⟩

theorem getLatestSchema_works (h : out.Works) (c : Client) (subject : String) :
    ∃ c' call, c.getLatestSchema out subject = (c', .ok call) := by
  obtain ⟨c', conn, metadata, hc⟩ := prepare_works h c c.uri
  exact ⟨_, _, by simp only [getLatestSchema, hc]; rfl⟩

theorem getSchemaVersion_works (h : out.Works) (c : Client) (id : Nat) (version : Option Nat) :
    ∃ c' call, c.getSchemaVersion out id version = (c', .ok call) := by
  obtain ⟨c', conn, metadata, hc⟩ := prepare_works h c c.uri
  exact ⟨_, _, by simp only [getSchemaVersion, hc]; rfl⟩

end Client

/-! ## What is granted -/

/-- The latest version of the subject is not below the version that the reference names. -/
def SchemaReference.Reached (ref : SchemaReference) (latest : SchemaInfo) : Prop :=
  match ref.versionRef with
  | some (.pinnedVersion version) | some (.minVersion version) => version.toNat ≤ latest.version
  | _ => True

/-- A version that every reference of the subject accepts. -/
def SchemaReference.enough (ref : SchemaReference) : SchemaInfo :=
  match ref.versionRef with
  | some (.pinnedVersion version) | some (.minVersion version) => ⟨0, version.toNat⟩
  | _ => ⟨0, 0⟩

theorem SchemaReference.reached_enough (ref : SchemaReference) : ref.Reached ref.enough := by
  unfold Reached enough
  rcases ref.versionRef with _ | (_ | version | version) <;> simp

/-- The answers that a registration with the reference `schemaRef` can be woken with when it is
granted. A lookup may be answered in any way. -/
def Registering.Granted (schemaRef : Option SchemaReference) : Registering → Wake → Prop
  | .request .., .reply (.error _) => False
  | .latest .., .reply (.error _) => False
  | .latest .., .reply (.ok (.schema info)) => ∀ ref ∈ schemaRef, ref.Reached info
  | .pinned .., .reply (.error _) => False
  | _, _ => True

theorem Registering.granted_answer {schemaRef : Option SchemaReference} {response : Response}
    (hschema : ∀ info, response ≠ .schema info) (k : Registering) :
    k.Granted schemaRef (.answer response) := by
  cases response with
  | schema info => exact (hschema info rfl).elim
  | _ => cases k <;> trivial

theorem Registering.granted_start (schemaRef : Option SchemaReference) (k : Registering) :
    k.Granted schemaRef .start := by
  cases k <;> trivial

/-- The pieces that a granted registration has left, the one it waits for included. -/
def Registering.left : Registering → Nat
  | .lookup 0 _ => 4
  | .lookup (_ + 1) _ => 5
  | .backoff _ => 4
  | .request .. => 3
  | .latest .. => 2
  | .pinned .. => 1

theorem Registering.left_pos (k : Registering) : 0 < k.left := by
  unfold left
  split <;> omega

theorem Registering.left_le (k : Registering) : k.left ≤ 5 := by
  unfold left
  split <;> omega

namespace Endpoint

variable {ρ α : Type} {role : Role ρ} {env : Env} {s : Scope ρ} {bound : Nat}

/-- The piece returns, or suspends the call with less than `bound` pieces left. -/
def Nears (bound : Nat) (r : Piece ρ Registering α) : Prop :=
  match r.next with
  | .await k => k.left < bound
  | .ret _ => True
  | .raise _ => False

theorem nears_await {log : List Event} {k : Registering} (h : k.left < bound) :
    Nears bound (⟨s, log, .await k⟩ : Piece ρ Registering α) := h

theorem Nears.after {r : Piece ρ Registering α} (h : Nears bound r) (log : List Event) :
    Nears bound (r.after log) := h

variable (role) (hw : env.Works)
include hw

theorem attempt_nears (hbound : 3 < bound) (n : Nat) (s : Scope ρ) :
    Nears bound (attempt role env n s : Piece ρ Registering α) := by
  obtain ⟨c, conn, hconn⟩ :=
    Client.getConnection_works hw.call s.client s.self.brokerAddr s.self.connectUrl
  obtain ⟨metadata, hmetadata⟩ := Client.attachToken_works hw.call c
  unfold attempt
  rw [hconn]
  dsimp only
  rw [hmetadata]
  exact (nears_await (by simpa [Registering.left] using hbound)).after _

theorem create_nears (s : Scope ρ) : Nears 5 (create role env s : Piece ρ Registering α) := by
  unfold create
  split
  · exact (nears_await (by simp [Registering.left])).after _
  · exact (attempt_nears role hw (by omega) 0 _).after _

theorem afterLookup_nears (n : Nat) (call : Call) (s : Scope ρ) :
    Nears (Registering.lookup n call).left (afterLookup role env n s : Piece ρ Registering α) := by
  cases n with
  | zero => exact attempt_nears role hw (by simp [Registering.left]) 0 s
  | succ n => exact nears_await (by simp [Registering.left])

theorem resolveSchema_nears (n : Nat) (s : Scope ρ) : Nears 3 (resolveSchema role env n s) := by
  unfold resolveSchema
  cases role.schemaRef s.self.own with
  | none => trivial
  | some ref =>
    obtain ⟨c, call, hcall⟩ := Client.getLatestSchema_works hw.call s.client ref.subject
    dsimp only
    rw [hcall]
    exact nears_await (by simp [Registering.left])

theorem registered_nears (n : Nat) (addr : BrokerAddress) (id : Nat) (s : Scope ρ) :
    Nears 3 (registered role env n addr id s) := by
  obtain ⟨c, conn, hconn⟩ := Client.getConnection_works hw.health (withId id s).client
    (withId id s).self.brokerAddr (withId id s).self.connectUrl
  unfold registered checkHealth
  rw [hconn]
  exact ((resolveSchema_nears role hw n _).after _).after _

theorem latestSchema_nears (n : Nat) {ref : SchemaReference} {latest : SchemaInfo}
    (href : ref.Reached latest) (s : Scope ρ) : Nears 2 (latestSchema role env n ref latest s) := by
  unfold SchemaReference.Reached at href
  unfold latestSchema
  rcases hv : ref.versionRef with _ | (b | version | version) <;> rw [hv] at href <;> dsimp only at href ⊢
  · trivial
  · trivial
  · rw [if_neg (Nat.not_lt.mpr href)]
    split
    · trivial
    · obtain ⟨c, call, hcall⟩ :=
        Client.getSchemaVersion_works hw.call s.client latest.schemaId (some version.toNat)
      rw [hcall]
      exact nears_await (by simp [Registering.left])
  · rw [if_neg (Nat.not_lt.mpr href)]
    trivial

theorem resume_nears {k : Registering} {w : Wake} {r : Piece ρ Registering Nat}
    (hg : k.Granted (role.schemaRef s.self.own) w) (h : resume role env s k w = some r) :
    Nears k.left r := by
  cases resumption h with
  | moved n call => exact (afterLookup_nears role hw n call _).after _
  | notMoved n call | lookupFailed n call => exact afterLookup_nears role hw n call s
  | slept n => exact attempt_nears role hw (by simp [Registering.left]) n s
  | answered n addr call id => exact registered_nears role hw n addr id s
  | refused | latestFailed | pinnedFailed => exact hg.elim
  | latest n call info ref href => exact latestSchema_nears role hw n (hg ref href) s
  | pinned => trivial

omit hw in
/-- There is an answer that grants what a suspended registration waits for. -/
theorem exists_granted {k : Registering} (hk : k.Consults (role.schemaRef s.self.own)) :
    ∃ w, k.Granted (role.schemaRef s.self.own) w ∧ ∀ env, (resume role env s k w).isSome := by
  cases k with
  | lookup n call => exact ⟨.fail .unavailable, trivial, fun env => rfl⟩
  | backoff n => exact ⟨.timer, trivial, fun env => rfl⟩
  | request n addr call => exact ⟨.answer (.registered 1), trivial, fun env => rfl⟩
  | latest n call =>
    obtain ⟨ref, href, -⟩ := hk
    rw [href]
    refine ⟨.answer (.schema ref.enough), ?_, fun env => ?_⟩
    · rintro ref' hmem
      cases hmem
      exact ref.reached_enough
    · simp [resume, Wake.answer, href]
  | pinned n call => exact ⟨.answer (.schema ⟨0, 0⟩), trivial, fun env => rfl⟩

end Endpoint

end Danube
