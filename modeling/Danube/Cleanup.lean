import Danube.Registration

/-! # What a call of `create()` leaves behind -/

namespace Danube

open Async

/-- The latest version of the subject is not one that the reference asks for. -/
def SchemaReference.Unmet (ref : SchemaReference) (latest : SchemaInfo) : Prop :=
  match ref.versionRef with
  | some (.pinnedVersion version) | some (.minVersion version) => latest.version < version.toNat
  | _ => False

namespace Endpoint

variable {ρ : Type}

/-! ## The resolution of the schema -/

/-- `GetLatestSchema` cannot be issued. -/
def LatestRefused (role : Role ρ) (env : Env) (s : Scope ρ) : Prop :=
  ∃ ref err, role.schemaRef s.self.own = some ref ∧
    (s.client.getLatestSchema env.call ref.subject).2 = .error err

/-- The latest version is not as asked for, or `GetSchema` cannot be issued. -/
def PinnedRefused (env : Env) (ref : SchemaReference) (latest : SchemaInfo) (s : Scope ρ) : Prop :=
  ref.Unmet latest ∨ ∃ version err, ref.versionRef = some (.pinnedVersion version) ∧
    version.toNat < latest.version ∧
    (s.client.getSchemaVersion env.call latest.schemaId (some version.toNat)).2 = .error err

/-- A piece that goes on with the schema, or is done with it. -/
structure Resolving (r : Piece ρ Registering Nat) : Prop where
  registrations : registrations r.log = []
  loops : startedLoops r.log = []
  next : (∃ k, r.next = .await k ∧ k.resolving) ∨ ∃ id, r.next = .ret id

variable (role : Role ρ) (env : Env)

theorem returnId_resolving (s : Scope ρ) : Resolving (returnId s) :=
  ⟨rfl, rfl, Or.inr ⟨s.self.id, rfl⟩⟩

theorem resolveSchema_resolving {s : Scope ρ} (h : ¬ LatestRefused role env s) (n : Nat) :
    Resolving (resolveSchema role env n s) := by
  unfold resolveSchema
  split
  · exact returnId_resolving s
  · rename_i ref href
    split
    · rename_i err heq
      exact (h ⟨ref, err, href, by rw [heq]⟩).elim
    · exact ⟨rfl, rfl, Or.inl ⟨_, rfl, rfl⟩⟩

theorem resolveSchema_quiet {s : Scope ρ} (h : LatestRefused role env s) (n : Nat) :
    Quiet (resolveSchema role env n s) := by
  obtain ⟨ref, err, href, herr⟩ := h
  unfold resolveSchema
  rw [href]
  dsimp only
  split
  · exact unresolved_quiet env n _ _
  · rename_i heq
    simp [heq] at herr

theorem latestSchema_resolving {ref : SchemaReference} {latest : SchemaInfo} {s : Scope ρ}
    (h : ¬ PinnedRefused env ref latest s) (n : Nat) :
    Resolving (latestSchema role env n ref latest s) := by
  unfold latestSchema
  split
  · rename_i version hv
    split
    · rename_i hlt
      exact (h (Or.inl (by simpa [SchemaReference.Unmet, hv] using hlt))).elim
    · split
      · exact returnId_resolving _
      · split
        · rename_i hle hne _ err heq
          exact (h (Or.inr ⟨version, err, hv, by omega, by rw [heq]⟩)).elim
        · exact ⟨rfl, rfl, Or.inl ⟨_, rfl, rfl⟩⟩
  · rename_i version hv
    split
    · rename_i hlt
      exact (h (Or.inl (by simpa [SchemaReference.Unmet, hv] using hlt))).elim
    · exact returnId_resolving _
  · exact returnId_resolving _

theorem latestSchema_quiet {ref : SchemaReference} {latest : SchemaInfo} {s : Scope ρ}
    (h : PinnedRefused env ref latest s) (n : Nat) :
    Quiet (latestSchema role env n ref latest s) := by
  unfold latestSchema
  rcases h with hunmet | ⟨version, err, hv, hlt, herr⟩
  · split <;> rename_i hv <;> simp only [SchemaReference.Unmet, hv] at hunmet
    · rw [if_pos hunmet]
      exact unresolved_quiet env n _ _
    · rw [if_pos hunmet]
      exact unresolved_quiet env n _ _
  · rw [hv]
    dsimp only
    rw [if_neg (by omega), if_neg (by omega)]
    split
    · exact unresolved_quiet env n _ _
    · rename_i heq
      simp [heq] at herr

/-! ## One step -/

/-- The schema resolution raises in the piece that the wake-up starts. -/
def ResolutionFails (s : Scope ρ) : Registering → Wake → Prop
  | .request .., .reply (.ok (.registered _)) =>
    (∃ conn, (s.client.getConnection env.health s.self.brokerAddr s.self.connectUrl).2 = .ok conn) ∧
      LatestRefused role env
        { s with client := (s.client.getConnection env.health s.self.brokerAddr s.self.connectUrl).1 }
  | .latest .., .reply (.ok (.schema latest)) =>
    ∃ ref, role.schemaRef s.self.own = some ref ∧ PinnedRefused env ref latest s
  | .latest .., .reply (.error _) | .pinned .., .reply (.error _) => True
  | _, _ => False

theorem registered_of_fails {n : Nat} {addr : BrokerAddress} {id : Nat} {s : Scope ρ} {call : Call}
    (h : ResolutionFails role env s (.request n addr call) (.reply (.ok (.registered id)))) :
    registrations (registered role env n addr id s).log ≠ [] ∧
      startedLoops (registered role env n addr id s).log ≠ [] ∧
      ((∃ k, (registered role env n addr id s).next = .await k ∧ k.resolving = false) ∨
        ∃ err, (registered role env n addr id s).next = .raise err) := by
  obtain ⟨⟨conn, hconn⟩, href⟩ := h
  unfold registered checkHealth
  split
  · rename_i heq
    have heq' := congrArg Prod.snd heq
    simp only [withId] at heq'
    rw [hconn] at heq'
    cases heq'
  · rename_i c conn' heq
    have hc : (s.client.getConnection env.health s.self.brokerAddr s.self.connectUrl).1 = c :=
      congrArg Prod.fst heq
    rw [hc] at href
    have hquiet := resolveSchema_quiet role env
      (s := startHealthCheck role conn' c (withId id s)) href n
    exact ⟨by simp [registrations, Event.registeredId?], by simp [startedLoops, Event.loop?],
      hquiet.next⟩

/-- A registration is answered and the schema resolves so far: one health loop starts, or no channel
can be made for it and the call raises. -/
theorem registered_of_not_fails {n : Nat} {addr : BrokerAddress} {id : Nat} {s : Scope ρ}
    {call : Call}
    (h : ¬ ResolutionFails role env s (.request n addr call) (.reply (.ok (.registered id)))) :
    registrations (registered role env n addr id s).log = [id] ∧
      ((startedLoops (registered role env n addr id s).log ≠ [] ∧
          ∀ err, (registered role env n addr id s).next ≠ .raise err) ∧
        (∀ k, (registered role env n addr id s).next = .await k → k.resolving) ∨
      startedLoops (registered role env n addr id s).log = [] ∧
        ∃ err, (registered role env n addr id s).next = .raise err) := by
  unfold registered checkHealth
  split
  · -- No channel for the health loop: the call raises.
    rename_i c err heq
    obtain ⟨text, rfl⟩ := Client.getConnection_error heq
    exact ⟨rfl, Or.inr ⟨rfl, _, rfl⟩⟩
  · -- The health loop starts, and the schema resolves so far.
    rename_i c conn heq
    have hres : Resolving (resolveSchema role env n (startHealthCheck role conn c (withId id s))) := by
      refine resolveSchema_resolving role env (fun href => h ⟨⟨conn, congrArg Prod.snd heq⟩, ?_⟩) n
      rw [show (s.client.getConnection env.health s.self.brokerAddr s.self.connectUrl).1 = c from
        congrArg Prod.fst heq]
      exact href
    refine ⟨by simpa [registrations, Event.registeredId?] using hres.registrations, Or.inl ⟨⟨?_, ?_⟩, ?_⟩⟩
    · simp [startedLoops, Event.loop?]
    · intro err herr
      rcases hres.next with ⟨k, hk, -⟩ | ⟨i, hi⟩ <;> simp_all
    · intro k hk
      rcases hres.next with ⟨k', hk', hr⟩ | ⟨i, hi⟩
      · simp only [Ran.after_next, hk', Outcome.await.injEq] at hk
        exact hk ▸ hr
      · simp [hi] at hk

theorem resume_quiet {s : Scope ρ} {k : Registering} {w : Wake} {r : Piece ρ Registering Nat}
    (h : resume role env s k w = some r)
    (hreg : ∀ n addr call id, k = .request n addr call → w ≠ .reply (.ok (.registered id)))
    (hk : k.resolving = false ∨ ResolutionFails role env s k w) : Quiet r := by
  cases resumption h with
  | moved n => exact (afterLookup_quiet role env n _).after rfl rfl
  | notMoved n | lookupFailed n => exact afterLookup_quiet role env n s
  | slept n => exact attempt_quiet role env n s
  | answered => exact (hreg _ _ _ _ rfl rfl).elim
  | refused n => exact failed_quiet env n _ s
  | latest n call info ref href =>
    obtain ⟨ref', href', hfails⟩ := hk.resolve_left (by simp [Registering.resolving])
    rw [href, Option.some.injEq] at href'
    subst href'
    exact latestSchema_quiet role env hfails _
  | latestFailed n | pinnedFailed n => exact unresolved_quiet env n _ s
  | pinned => exact (hk.resolve_left (by simp [Registering.resolving])).elim

theorem resume_resolving {s : Scope ρ} {k : Registering} {w : Wake} {r : Piece ρ Registering Nat}
    (h : resume role env s k w = some r) (hk : k.resolving)
    (hfails : ¬ ResolutionFails role env s k w) : Resolving r := by
  cases resumption h with
  | latest n call info ref href =>
    exact latestSchema_resolving role env (fun href' => hfails ⟨ref, href, href'⟩) _
  | pinned => exact returnId_resolving _
  | latestFailed | pinnedFailed => exact (hfails trivial).elim
  | _ => cases hk

/-! ## Whole calls -/

/-- At most one registration is answered, and a call that raises leaves no health loop behind that
it started after the first `before` ones. -/
def RegistersOnce (before : Nat) (t : Piece ρ Registering Nat) : Prop :=
  (registrations t.log).length ≤ 1 ∧
    ∀ err, t.next = .raise err → ∀ l ∈ t.state.loops.drop before, l.Finished

/-- As long as no schema resolution has failed. -/
def Clean (t : Piece ρ Registering Nat) : Prop :=
  match t.next with
  | .await k =>
    if k.resolving then (registrations t.log).length = 1 ∧ startedLoops t.log ≠ []
    else registrations t.log = [] ∧ startedLoops t.log = []
  | .ret _ => (registrations t.log).length = 1
  | .raise _ => (registrations t.log).length ≤ 1 ∧ startedLoops t.log = []

/-- Once one has failed. -/
def Orphaned (t : Piece ρ Registering Nat) : Prop :=
  registrations t.log ≠ [] ∧ startedLoops t.log ≠ [] ∧
    ((∀ k, t.next = .await k → k.resolving → 2 ≤ (registrations t.log).length) ∧
      ∀ id, t.next = .ret id → 2 ≤ (registrations t.log).length)

theorem create_clean (s : Scope ρ) : Clean (create role env s : Piece ρ Registering Nat) := by
  have h := create_quiet (α := Nat) role env s
  unfold Clean
  rcases h.next with ⟨k, hk, hres⟩ | ⟨err, herr⟩
  · simp [hk, hres, h.registrations, h.loops]
  · simp [herr, h.registrations, h.loops]

theorem resume_cases {s : Scope ρ} {k : Registering} {w : Wake} {r : Piece ρ Registering Nat}
    (h : resume role env s k w = some r) :
    (∃ n addr call id, k = .request n addr call ∧ w = .reply (.ok (.registered id)) ∧
      r = registered role env n addr id s) ∨
    (k.resolving ∧ ¬ ResolutionFails role env s k w ∧ Resolving r) ∨
    ((k.resolving ↔ ResolutionFails role env s k w) ∧ Quiet r) := by
  by_cases hreg : ∃ n addr call id, k = .request n addr call ∧ w = .reply (.ok (.registered id))
  · obtain ⟨n, addr, call, id, rfl, rfl⟩ := hreg
    cases h
    exact Or.inl ⟨n, addr, call, id, rfl, rfl, rfl⟩
  · push Not at hreg
    by_cases hfails : k.resolving → ResolutionFails role env s k w
    · refine Or.inr (Or.inr ⟨⟨hfails, fun hf => ?_⟩, resume_quiet role env h hreg ?_⟩)
      · unfold ResolutionFails at hf
        split at hf
        · exact (hreg _ _ _ _ rfl rfl).elim
        all_goals first | rfl | exact hf.elim
      cases hk : k.resolving
      · exact Or.inl rfl
      · exact Or.inr (hfails hk)
    · push Not at hfails
      exact Or.inr (Or.inl ⟨hfails.1, hfails.2, resume_resolving role env h hfails.1 hfails.2⟩)

theorem clean_step {t : Piece ρ Registering Nat} {k : Registering} {w : Wake}
    {r : Piece ρ Registering Nat} (hk : t.next = .await k) (ht : Clean t)
    (h : resume role env t.state k w = some r) (hfails : ¬ ResolutionFails role env t.state k w) :
    Clean (r.after t.log) := by
  unfold Clean at ht
  rw [hk] at ht
  dsimp only at ht
  rcases resume_cases role env h with ⟨n, addr, call, id, rfl, rfl, rfl⟩ | ⟨hres, -, hr⟩ | ⟨hres, hr⟩
  · -- The answer to the registration.
    rw [if_neg (by simp [Registering.resolving])] at ht
    obtain ⟨hreg, hnext⟩ := registered_of_not_fails role env hfails
    unfold Clean
    simp only [Ran.after_next, Ran.after_log, registrations_append, startedLoops_append, ht.1, ht.2,
      hreg, List.nil_append]
    rcases hnext with ⟨⟨hloops, hraise⟩, hawait⟩ | ⟨hloops, err, herr⟩
    · split
      · rename_i k' hk'
        simp [hawait k' hk', hloops]
      · rfl
      · rename_i err herr
        exact (hraise err herr).elim
    · simp [herr, hloops]
  · -- A piece of the schema resolution.
    rw [if_pos hres] at ht
    unfold Clean
    simp only [Ran.after_next, Ran.after_log, registrations_append, startedLoops_append,
      hr.registrations, hr.loops, List.append_nil]
    rcases hr.next with ⟨k', hk', hres'⟩ | ⟨id, hid⟩
    · simp [hk', hres', ht]
    · simp [hid, ht]
  · -- A quiet piece.
    have hres' : k.resolving = false := by
      cases hb : k.resolving
      · rfl
      · exact (hfails (hres.mp hb)).elim
    rw [if_neg (by simp [hres'])] at ht
    unfold Clean
    simp only [Ran.after_next, Ran.after_log, registrations_append, startedLoops_append,
      hr.registrations, hr.loops, List.append_nil]
    rcases hr.next with ⟨k', hk', hb⟩ | ⟨err, herr⟩
    · simp [hk', hb, ht]
    · simp [herr, ht]

theorem orphaned_of_fails {t : Piece ρ Registering Nat} {k : Registering} {w : Wake}
    {r : Piece ρ Registering Nat} (hk : t.next = .await k) (ht : Clean t)
    (h : resume role env t.state k w = some r) (hfails : ResolutionFails role env t.state k w) :
    Orphaned (r.after t.log) := by
  unfold Clean at ht
  rw [hk] at ht
  dsimp only at ht
  rcases resume_cases role env h with ⟨n, addr, call, id, rfl, rfl, rfl⟩ | ⟨-, hno, -⟩ | ⟨hres, hr⟩
  · obtain ⟨hreg, hloops, hnext⟩ := registered_of_fails role env hfails
    refine ⟨by simp [hreg], by simp [hloops], fun k' hk' hres => ?_, fun id' hid => ?_⟩
    · rcases hnext with ⟨k'', hk'', hb⟩ | ⟨err, herr⟩ <;> simp_all
    · rcases hnext with ⟨k'', hk'', hb⟩ | ⟨err, herr⟩ <;> simp_all
  · exact (hno hfails).elim
  · rw [if_pos (hres.mpr hfails)] at ht
    have hreg : registrations t.log ≠ [] := by
      intro hnil
      simp [hnil] at ht
    refine ⟨by simp [hreg], by simp [ht.2], fun k' hk' hb => ?_, fun id' hid => ?_⟩
    · rcases hr.next with ⟨k'', hk'', hb'⟩ | ⟨err, herr⟩ <;> simp_all
    · rcases hr.next with ⟨k'', hk'', hb'⟩ | ⟨err, herr⟩ <;> simp_all

theorem orphaned_step {t : Piece ρ Registering Nat} {k : Registering} {w : Wake}
    {r : Piece ρ Registering Nat} (hk : t.next = .await k) (ht : Orphaned t)
    (h : resume role env t.state k w = some r) : Orphaned (r.after t.log) := by
  obtain ⟨hreg, hloops, hawait, -⟩ := ht
  have hpos : 1 ≤ (registrations t.log).length := List.length_pos_iff.mpr hreg
  refine ⟨by simp [hreg], by simp [hloops], ?_⟩
  simp only [Ran.after_next, Ran.after_log, registrations_append, List.length_append]
  rcases resume_cases role env h with ⟨n, addr, call, id, rfl, rfl, rfl⟩ | ⟨hres, -, hr⟩ | ⟨-, hr⟩
  · -- The broker answers another registration of the same call.
    have hsnd : 1 ≤ (registrations (registered role env n addr id t.state).log).length := by
      simp [registered, registrations, Event.registeredId?]
    exact ⟨fun _ _ _ => by omega, fun _ _ => by omega⟩
  · have := hawait k hk hres
    exact ⟨fun _ _ _ => by omega, fun _ _ => by omega⟩
  · rcases hr.next with ⟨k', hk', hb⟩ | ⟨err, herr⟩
    · exact ⟨fun k'' hk'' hb' => by simp_all, fun id hid => by simp_all⟩
    · exact ⟨fun k'' hk'' hb' => by simp_all, fun id hid => by simp_all⟩

/-- The wake-up does not make a schema resolution raise. -/
def Resolves (t : Piece ρ Registering Nat) (l : Wake × Env) : Prop :=
  ∀ k, t.next = .await k → ¬ ResolutionFails role l.2 t.state k l.1

variable {role} {env} {s : Scope ρ} {ls : List (Wake × Env)} {t : Piece ρ Registering Nat}

theorem clean_run (h : exec (advance role) (create role env s) ls = some t)
    (hres : Steps (advance role) (Resolves role) (create role env s) ls) : Clean t := by
  refine exec_invariant_of_steps (P := Clean) (fun t l t' ht hc hstep => ?_)
    (create_clean role env s) hres h
  obtain ⟨k, r, hk, hr, rfl⟩ := advance_eq_some.mp hstep
  exact clean_step role l.2 hk ht hr (hc k hk)

theorem orphaned_run {t' : Piece ρ Registering Nat} (ht : Orphaned t)
    (h : exec (advance role) t ls = some t') : Orphaned t' := by
  refine exec_invariant (P := Orphaned) (fun t l t' ht hstep => ?_) ht h
  obtain ⟨k, r, hk, hr, rfl⟩ := advance_eq_some.mp hstep
  exact orphaned_step role l.2 hk ht hr

/-- The first resolution that raises leaves a registration and its health loop behind. -/
theorem orphaned_of_breaks (h : exec (advance role) (create role env s) ls = some t)
    (hres : ¬ Steps (advance role) (Resolves role) (create role env s) ls) : Orphaned t := by
  obtain ⟨pre, l, post, u, rfl, hpre, hsteps, hbad⟩ :=
    (steps_or_breaks (Resolves role) h).resolve_left hres
  obtain ⟨v, hv, hrun⟩ := exec_append.mp h
  obtain rfl : v = u := by rw [hpre] at hv; exact (Option.some.inj hv).symm
  obtain ⟨x, hx, hpost⟩ := exec_cons.mp hrun
  obtain ⟨k, r, hk, hr, rfl⟩ := advance_eq_some.mp hx
  refine orphaned_run (orphaned_of_fails role l.2 hk (clean_run hpre hsteps) hr ?_) hpost
  unfold Resolves at hbad
  push Not at hbad
  obtain ⟨k', hk', hfails⟩ := hbad
  rw [hk, Outcome.await.injEq] at hk'
  exact hk' ▸ hfails

theorem left_running_iff (h : exec (advance role) (create role env s) ls = some t) :
    (∀ l ∈ t.state.loops.drop s.loops.length, l.Finished) ↔ startedLoops t.log = [] := by
  have hj := call_journaled role h
  rw [hj.loops, List.drop_left]
  constructor
  · intro hall
    refine List.eq_nil_iff_forall_not_mem.mpr fun l hl => ?_
    obtain ⟨why, hwhy⟩ := hall l hl
    simp [hj.scheduled hl] at hwhy
  · intro hnil
    simp [hnil]

theorem registersOnce_of_clean (h : exec (advance role) (create role env s) ls = some t)
    (ht : Clean t) : RegistersOnce s.loops.length t := by
  unfold RegistersOnce
  rw [left_running_iff h]
  unfold Clean at ht
  split at ht
  · rename_i k hk
    refine ⟨?_, fun err herr => by simp [hk] at herr⟩
    split at ht
    · omega
    · simp [ht.1]
  · rename_i id hid
    exact ⟨by omega, fun err herr => by simp [hid] at herr⟩
  · exact ⟨ht.1, fun _ _ => ht.2⟩

theorem not_registersOnce_of_orphaned (h : exec (advance role) (create role env s) ls = some t)
    (ht : Orphaned t) (hdone : ∀ k, t.next ≠ .await k) : ¬ RegistersOnce s.loops.length t := by
  rintro ⟨hle, hraise⟩
  rw [left_running_iff h] at hraise
  cases hnext : t.next with
  | await k => exact hdone k hnext
  | ret id =>
    have := ht.2.2.2 id hnext
    omega
  | raise err => exact ht.2.1 (hraise err hnext)

end Endpoint

namespace TopicProducer

/-- A call of `create()` registers once and cleans up as long as its schema resolves, and every call
that ended after its schema failed to resolve registered twice or left a health loop running. -/
theorem create_registers_once_iff_resolves {env : Env} {s : Scope ProducerFields}
    {ls : List (Wake × Env)} {t : Piece ProducerFields Creating Nat}
    (h : exec (Endpoint.advance producerRole) (create env s) ls = some t) :
    (Steps (Endpoint.advance producerRole) (Endpoint.Resolves producerRole) (create env s) ls →
      Endpoint.RegistersOnce s.loops.length t) ∧
    ((∀ k, t.next ≠ .await k) → Endpoint.RegistersOnce s.loops.length t →
      Steps (Endpoint.advance producerRole) (Endpoint.Resolves producerRole) (create env s) ls) := by
  refine ⟨fun hres => Endpoint.registersOnce_of_clean h (Endpoint.clean_run h hres), ?_⟩
  intro hdone honce
  by_contra hres
  exact Endpoint.not_registersOnce_of_orphaned h (Endpoint.orphaned_of_breaks h hres) hdone honce

/-- The broker registers the producer, and the schema registry is unavailable once. -/
def registryDown : List (Wake × Env) :=
  [(.answer (.address "a"), {}), (.answer (.registered 1), {}), (.fail .unavailable, {}),
    (.answer (.address "a"), {}), (.timer, {}), (.fail .alreadyExists, {})]

/-- The second registration is refused, and the health loop of the first one is left running. -/
theorem registry_down_orphans_loop :
    ∃ t, exec (Endpoint.advance producerRole)
        (create {} (oneRetry (some ⟨"subject", some (.useLatest true)⟩))) registryDown = some t ∧
      ¬ Endpoint.RegistersOnce 0 t := by
  refine ⟨_, rfl, fun h => ?_⟩
  have hfinished := h.2 _ rfl
  revert hfinished
  decide

theorem registry_down_unresolved :
    ∃ t, exec (Endpoint.advance producerRole)
        (create {} (oneRetry (some ⟨"subject", some (.useLatest true)⟩))) registryDown = some t ∧
      ((∀ k, t.next ≠ .await k) → Endpoint.RegistersOnce 0 t →
        Steps (Endpoint.advance producerRole) (Endpoint.Resolves producerRole)
          (create {} (oneRetry (some ⟨"subject", some (.useLatest true)⟩))) registryDown) := by
  obtain ⟨t, ht⟩ := Option.isSome_iff_exists.mp
    (by rfl : (exec (Endpoint.advance producerRole)
      (create {} (oneRetry (some ⟨"subject", some (.useLatest true)⟩))) registryDown).isSome)
  exact ⟨t, ht, (create_registers_once_iff_resolves ht).2⟩

end TopicProducer

end Danube
