import Danube.Registration
import Danube.Async.Notes
import Danube.Async.Retry

/-!
# The retry loop of a registration

`create()` and `subscribe()` as the source writes them: a loop that calls `_lookup_new_broker` and
`_try_create` or `_try_subscribe`, and notes what it does. Without the notes it is the call of
`Endpoint`, whose pieces have the callees written out.
-/

namespace Danube

open Async

variable {ρ κ α : Type}

/-- Where `_try_create()` or `_try_subscribe()` is suspended. -/
inductive Trying
  | request (addr : BrokerAddress) (call : Call)
  | latest (call : Call)
  | pinned (call : Call)
  deriving DecidableEq, Repr

/-- The attempt is the `n`-th one of a call. -/
def Trying.within (n : Nat) : Trying → Registering
  | .request addr call => .request n addr call
  | .latest call => .latest n call
  | .pinned call => .pinned n call

/-- A turn of a retry loop around attempts that return an id. -/
abbrev Turn := Retry.Turn Error Nat

/-- A piece that also notes the turns of its loop. -/
abbrev Noting (τ ρ κ : Type) := Ran (Scope ρ) (Event ⊕ τ) κ Nat Error

namespace Endpoint

variable (role : Role ρ) (env : Env)

/-! ## `_lookup_new_broker` -/

def lookupNewBroker (s : Scope ρ) : Ran (Scope ρ) Event Call Unit Empty :=
  match s.client.lookupTopic env.lookup s.self.connectUrl s.self.topic with
  | (c, .ok call) => ⟨{ s with client := c }, [.rpc call], .await call⟩
  | (c, .error _) => ⟨{ s with client := c }, [], .ret ()⟩

def lookupResume (s : Scope ρ) : Wake → Option (Ran (Scope ρ) Event Call Unit Empty)
  | .reply (.ok (.topicLookup response)) =>
    match Client.handleLookup response with
    | .ok addr => some ⟨{ s with self := s.self.moveTo addr }, [.moved addr], .ret ()⟩
    | .error _ => some ⟨s, [], .ret ()⟩
  | .reply (.error _) => some ⟨s, [], .ret ()⟩
  | _ => none

/-! ## `_try_create` and `_try_subscribe` -/

def tryRegister (s : Scope ρ) : Piece ρ Trying Nat :=
  match s.client.getConnection env.call s.self.brokerAddr s.self.connectUrl with
  | (c, .error e) => ⟨{ s with client := c }, [], .raise e⟩
  | (c, .ok conn) =>
    Ran.after [.connected s.self.address conn] <|
      match c.attachTokenIfNeeded env.call with
      | .error e => ⟨countRequest (connect conn c s), [], .raise e⟩
      | .ok metadata =>
        let call : Call := ⟨conn, role.request s.self,
          insertProxyHeader metadata s.self.brokerAddr s.self.proxy⟩
        ⟨countRequest (connect conn c s), [.rpc call], .await (.request s.self.address call)⟩

def tryUnresolved (err : Error) (s : Scope ρ) : Piece ρ Trying Nat := ⟨s, [.unresolved err], .raise err⟩

def tryResolved (info : SchemaInfo) (s : Scope ρ) : Piece ρ Trying Nat :=
  ⟨{ s with self := { s.self with own := role.setSchema s.self.own info } }, [], .ret s.self.id⟩

def tryResolveSchema (s : Scope ρ) : Piece ρ Trying Nat :=
  match role.schemaRef s.self.own with
  | none => ⟨s, [], .ret s.self.id⟩
  | some ref =>
    match s.client.getLatestSchema env.call ref.subject with
    | (c, .error e) => tryUnresolved e { s with client := c }
    | (c, .ok call) => ⟨{ s with client := c }, [.rpc call], .await (.latest call)⟩

def tryLatestSchema (ref : SchemaReference) (latest : SchemaInfo) (s : Scope ρ) :
    Piece ρ Trying Nat :=
  match ref.versionRef with
  | some (.pinnedVersion version) =>
    if version.toNat > latest.version then
      tryUnresolved (.value s!"pinned version {version} does not exist for subject {ref.subject}") s
    else if version.toNat = latest.version then tryResolved role latest s
    else
      match s.client.getSchemaVersion env.call latest.schemaId (some version.toNat) with
      | (c, .error e) => tryUnresolved e { s with client := c }
      | (c, .ok call) => ⟨{ s with client := c }, [.rpc call], .await (.pinned call)⟩
  | some (.minVersion version) =>
    if latest.version < version.toNat then
      tryUnresolved
        (.value s!"latest version {latest.version} does not meet minimum {version} for subject {ref.subject}") s
    else tryResolved role latest s
  | _ => tryResolved role latest s

def tryCheckHealth (s : Scope ρ) : Piece ρ Trying Nat :=
  match s.client.getConnection env.health s.self.brokerAddr s.self.connectUrl with
  | (c, .error e) => ⟨{ s with client := c }, [], .raise e⟩
  | (c, .ok conn) =>
    (tryResolveSchema role env (startHealthCheck role conn c s)).after
      [.healthStarted (healthLoop role conn s)]

def tryResume (s : Scope ρ) : Trying → Wake → Option (Piece ρ Trying Nat)
  | .request addr _, .reply (.ok (.registered id)) =>
    some ((tryCheckHealth role env (withId id s)).after [.registered addr id])
  | .request _ _, .reply (.error err) => some ⟨s, [], .raise (registerError role err)⟩
  | .latest _, .reply (.ok (.schema latest)) =>
    (role.schemaRef s.self.own).map fun ref => tryLatestSchema role env ref latest s
  | .latest _, .reply (.error err) => some (tryUnresolved (.rpc err) s)
  | .pinned _, .reply (.ok (.schema pinned)) => some (tryResolved role pinned s)
  | .pinned _, .reply (.error err) => some (tryUnresolved (.rpc err) s)
  | _, _ => none

/-! ## The loop -/

def sleeps (n : Nat) (s : Scope ρ) : Noting Turn ρ Registering :=
  let ms := s.self.retryManager.calculateBackoff (n - 1) env.draw
  ⟨s, [.inl (.backoff ms), .inr (.sleep ms)], .await (.backoff n)⟩

/-- `_lookup_new_broker` went on before the attempt `n`: it never raises. -/
def looks (n : Nat) (go : Scope ρ → Noting Turn ρ Registering)
    (r : Ran (Scope ρ) Event Call Unit Empty) : Noting Turn ρ Registering :=
  (r.mapLog .inl).andThen (.lookup n) (fun s _ => go s) fun _ e => e.elim

/-- The part of the loop after the attempt `n` raised. -/
def fails (n : Nat) (err : Error) (s : Scope ρ) : Noting Turn ρ Registering :=
  if RetryManager.isRetryable err then
    if n + 1 > s.self.retryManager.maxRetries then ⟨s, [.inl (.notCreated err)], .raise err⟩
    else (looks (n + 1) (sleeps env (n + 1)) (lookupNewBroker env s)).after [.inr .lookup]
  else ⟨s, [.inl (.notCreated err)], .raise err⟩

/-- The attempt `n` went on. -/
def tries (n : Nat) (r : Piece ρ Trying Nat) : Noting Turn ρ Registering :=
  (r.mapLog .inl).andThen (Trying.within n)
    (fun s id => ⟨s, [.inr (.attempt (.ok id)), .inl (.created id)], .ret id⟩)
    fun s err => (fails env n err s).after [.inr (.attempt (.error err))]

/-- What follows the lookup before the attempt `n`. -/
def looked (n : Nat) (s : Scope ρ) : Noting Turn ρ Registering :=
  if n = 0 then tries env 0 (tryRegister role env s) else sleeps env n s

def loopCreate (s : Scope ρ) : Noting Turn ρ Registering :=
  (looks 0 (looked role env 0) (lookupNewBroker env s)).after [.inl .creating, .inr .lookup]

def loopResume (s : Scope ρ) : Registering → Wake → Option (Noting Turn ρ Registering)
  | .lookup n _, w => (lookupResume s w).map (looks n (looked role env n))
  | .backoff n, .timer => some (tries env n (tryRegister role env s))
  | .request n addr call, w => (tryResume role env s (.request addr call) w).map (tries env n)
  | .latest n call, w => (tryResume role env s (.latest call) w).map (tries env n)
  | .pinned n call, w => (tryResume role env s (.pinned call) w).map (tries env n)
  | _, _ => none

/-! ## Without its notes it is the call -/

section Erase

theorem looks_erase (n : Nat) (go : Scope ρ → Noting Turn ρ Registering)
    (r : Ran (Scope ρ) Event Call Unit Empty) :
    (looks n go r).erase = r.andThen (.lookup n) (fun s _ => (go s).erase) fun _ e => e.elim :=
  Ran.erase_andThen (fun _ _ => rfl) fun _ e => e.elim

theorem lookupNewBroker_erase (n : Nat) (go : Scope ρ → Noting Turn ρ Registering) (s : Scope ρ) :
    (looks n go (lookupNewBroker env s)).erase =
      match s.client.lookupTopic env.lookup s.self.connectUrl s.self.topic with
      | (c, .ok call) => ⟨{ s with client := c }, [.rpc call], .await (.lookup n call)⟩
      | (c, .error _) => (go { s with client := c }).erase := by
  rw [looks_erase]
  unfold lookupNewBroker
  rcases s.client.lookupTopic env.lookup s.self.connectUrl s.self.topic with ⟨c, _ | call⟩ <;> rfl

theorem fails_erase (n : Nat) (err : Error) (s : Scope ρ) :
    (fails env n err s).erase = failed env n err s := by
  unfold fails failed
  split
  · split
    · rfl
    · rw [Ran.erase_after, lookupNewBroker_erase]
      rfl
  · rfl

theorem tries_erase (n : Nat) (r : Piece ρ Trying Nat) :
    (tries env n r).erase = r.andThen (Trying.within n) (fun s id => ⟨s, [.created id], .ret id⟩)
      fun s err => failed env n err s :=
  Ran.erase_andThen (fun _ _ => rfl) fun s err =>
    (Ran.erase_after _ _).trans (fails_erase env n err s)

theorem tries_after (n : Nat) (log : List Event) (r : Piece ρ Trying Nat) :
    (tries env n (r.after log)).erase = (tries env n r).erase.after log := by
  rw [tries_erase, tries_erase, Ran.andThen_after]

theorem tryRegister_erase (n : Nat) (s : Scope ρ) :
    (tries env n (tryRegister role env s)).erase = attempt role env n s := by
  unfold tryRegister attempt
  rcases s.client.getConnection env.call s.self.brokerAddr s.self.connectUrl with ⟨c, err | conn⟩
  · exact tries_erase env n _
  · dsimp only
    rw [tries_after]
    cases c.attachTokenIfNeeded env.call with
    | error err => exact congrArg _ (tries_erase env n _)
    | ok metadata => exact congrArg _ (tries_erase env n _)

theorem tryUnresolved_erase (n : Nat) (err : Error) (s : Scope ρ) :
    (tries env n (tryUnresolved err s)).erase = unresolved env n err s := tries_erase env n _

theorem tryResolved_erase (n : Nat) (info : SchemaInfo) (s : Scope ρ) :
    (tries env n (tryResolved role info s)).erase = resolved role info s := tries_erase env n _

theorem tryResolveSchema_erase (n : Nat) (s : Scope ρ) :
    (tries env n (tryResolveSchema role env s)).erase = resolveSchema role env n s := by
  unfold tryResolveSchema resolveSchema
  cases role.schemaRef s.self.own with
  | none => exact tries_erase env n _
  | some ref =>
    dsimp only
    rcases s.client.getLatestSchema env.call ref.subject with ⟨c, err | call⟩
    · exact tryUnresolved_erase env n _ _
    · exact tries_erase env n _

theorem tryLatestSchema_erase (n : Nat) (ref : SchemaReference) (latest : SchemaInfo) (s : Scope ρ) :
    (tries env n (tryLatestSchema role env ref latest s)).erase =
      latestSchema role env n ref latest s := by
  have hresolved := tryResolved_erase role env n latest s
  unfold tryLatestSchema latestSchema
  rcases ref.versionRef with _ | (_ | version | version)
  · exact hresolved
  · exact hresolved
  · dsimp only
    by_cases habove : version.toNat > latest.version
    · rw [if_pos habove, if_pos habove]
      exact tryUnresolved_erase env n _ _
    · rw [if_neg habove, if_neg habove]
      by_cases hlatest : version.toNat = latest.version
      · rw [if_pos hlatest, if_pos hlatest]
        exact hresolved
      · rw [if_neg hlatest, if_neg hlatest]
        rcases s.client.getSchemaVersion env.call latest.schemaId (some version.toNat) with ⟨c, err | call⟩
        · exact tryUnresolved_erase env n _ _
        · exact tries_erase env n _
  · dsimp only
    by_cases hbelow : latest.version < version.toNat
    · rw [if_pos hbelow, if_pos hbelow]
      exact tryUnresolved_erase env n _ _
    · rw [if_neg hbelow, if_neg hbelow]
      exact hresolved

theorem tryCheckHealth_erase (n : Nat) (s : Scope ρ) :
    (tries env n (tryCheckHealth role env s)).erase = checkHealth role env n s := by
  unfold tryCheckHealth checkHealth
  rcases s.client.getConnection env.health s.self.brokerAddr s.self.connectUrl with ⟨c, err | conn⟩
  · exact tries_erase env n _
  · dsimp only
    rw [tries_after, tryResolveSchema_erase]

theorem looked_erase (n : Nat) (s : Scope ρ) :
    (looked role env n s).erase = afterLookup role env n s := by
  unfold looked afterLookup
  split
  · exact tryRegister_erase role env 0 s
  · rfl

theorem loopCreate_erase (s : Scope ρ) : (loopCreate role env s).erase = create role env s := by
  unfold loopCreate create
  rw [Ran.erase_after, lookupNewBroker_erase]
  refine congrArg _ ?_
  rcases s.client.lookupTopic env.lookup s.self.connectUrl s.self.topic with ⟨c, _ | call⟩
  · exact looked_erase role env 0 _
  · rfl

theorem tryResume_erase (n : Nat) (s : Scope ρ) (k : Trying) (w : Wake) :
    (tryResume role env s k w).map (fun r => (tries env n r).erase) =
      resume role env s (k.within n) w := by
  unfold tryResume
  split
  · simp only [Option.map_some, tries_after, tryCheckHealth_erase]
    rfl
  · simp only [Option.map_some, tries_erase]
    rfl
  · simp only [Option.map_map, Function.comp_def, tryLatestSchema_erase]
    rfl
  · simp only [Option.map_some, tryUnresolved_erase]
    rfl
  · simp only [Option.map_some, tryResolved_erase]
    rfl
  · simp only [Option.map_some, tryUnresolved_erase]
    rfl
  · rename_i hrequest herror hlatest hlatestErr hpinned hpinnedErr
    cases k <;> rcases w with _ | _ | (err | response) | _ <;> try cases response
    all_goals first
      | rfl
      | exact (hrequest _ _ _ rfl rfl).elim
      | exact (herror _ _ _ rfl rfl).elim
      | exact (hlatest _ _ rfl rfl).elim
      | exact (hlatestErr _ _ rfl rfl).elim
      | exact (hpinned _ _ rfl rfl).elim
      | exact (hpinnedErr _ _ rfl rfl).elim

theorem lookupResume_erase (n : Nat) (s : Scope ρ) (call : Call) (w : Wake) :
    (lookupResume s w).map (fun r => (looks n (looked role env n) r).erase) =
      resume role env s (.lookup n call) w := by
  unfold lookupResume
  split
  · rename_i response
    simp only [resume]
    cases Client.handleLookup response with
    | ok addr =>
      simp only [Option.map_some, looks_erase]
      exact congrArg (fun r => some (Ran.after [.moved addr] r)) (looked_erase role env n _)
    | error err =>
      simp only [Option.map_some, looks_erase]
      exact congrArg some (looked_erase role env n s)
  · simp only [Option.map_some, looks_erase]
    exact congrArg some (looked_erase role env n s)
  · rename_i hfound herror
    rcases w with _ | _ | (err | response) | _
    · rfl
    · rfl
    · exact (herror _ rfl).elim
    · cases response <;> first | rfl | exact (hfound _ rfl).elim
    · rfl

theorem loopResume_erase (s : Scope ρ) (k : Registering) (w : Wake) :
    (loopResume role env s k w).map Ran.erase = resume role env s k w := by
  cases k with
  | lookup n call =>
    rw [← lookupResume_erase]
    simp only [loopResume, Option.map_map, Function.comp_def]
  | backoff n =>
    cases w <;> first | rfl | exact congrArg some (tryRegister_erase role env n s)
  | request n addr call =>
    simp only [loopResume, Option.map_map, Function.comp_def]
    exact tryResume_erase role env n s _ w
  | latest n call =>
    simp only [loopResume, Option.map_map, Function.comp_def]
    exact tryResume_erase role env n s _ w
  | pinned n call =>
    simp only [loopResume, Option.map_map, Function.comp_def]
    exact tryResume_erase role env n s _ w

end Erase

end Endpoint

end Danube
