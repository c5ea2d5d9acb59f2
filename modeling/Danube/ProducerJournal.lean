import Danube.Producer
import Danube.PoolJournal

/-! # The journals of a producer -/

namespace Danube.Producer

open Async

theorem topicProducer_fresh (s : ProducerState) (topic name : String) :
    Pool.Fresh s.pool.client.uri (topicProducer s topic name) := ⟨rfl, rfl, rfl, rfl, rfl⟩

theorem partitionProducers_fresh (s : ProducerState) :
    ∀ e ∈ partitionProducers s, Pool.Fresh s.pool.client.uri e := by
  intro e he
  obtain ⟨pid, -, rfl⟩ := List.mem_map.mp he
  exact topicProducer_fresh s _ _

@[simp] theorem settle_pool (s : ProducerState) (ref : Nat) : (settle s ref).pool = s.pool := by
  unfold settle
  split
  · split <;> rfl
  · rfl
  · rfl

@[simp] theorem settle_sends (s : ProducerState) (ref : Nat) : (settle s ref).sends = s.sends := by
  unfold settle
  split
  · split <;> rfl
  · rfl
  · rfl

@[simp] theorem settle_config (s : ProducerState) (ref : Nat) :
    (settle s ref).config = s.config := by
  unfold settle
  split
  · split <;> rfl
  · rfl
  · rfl

theorem create_eq_some {s s' : ProducerState} {env : Env} (h : create s env = some s') :
    s.creating = none ∧ s.producers = [] ∧
      ((s.config.partitions = 0 ∧ ∃ p,
        (s.pool.alloc [topicProducer s s.config.topicName s.config.producerName]).child producerRole
          s.pool.endpoints.length .start env = some p ∧
        s' = settle { s with pool := p, creating := some (.direct s.pool.endpoints.length) }
          s.pool.endpoints.length) ∨
      ∃ hpos, s' = { s with
        pool := s.pool.alloc (partitionProducers s)
        router := some (.init s.config.partitions hpos)
        creating := some (.gather
          { refs := List.range' s.pool.endpoints.length s.config.partitions }) }) := by
  unfold create at h
  dsimp only at h
  split at h
  · rename_i hfree
    refine ⟨hfree.1, hfree.2, ?_⟩
    split at h
    · rename_i hzero
      obtain ⟨p, hp, rfl⟩ := Option.map_eq_some_iff.mp h
      exact Or.inl ⟨hzero, p, hp, rfl⟩
    · cases h
      exact Or.inr ⟨_, rfl⟩
  · simp at h

theorem gathered_eq_some {s s' : ProducerState} (h : gathered s = some s') :
    ∃ g, s.creating = some (.gather g) ∧
      ((g.failure.isSome ∧ s' = { s with creating := none }) ∨
        (g.failure = none ∧ g.allReturned s.pool.children ∧
          s' = { s with producers := g.refs, creating := none })) := by
  unfold gathered at h
  split at h
  · rename_i g hg
    refine ⟨g, hg, ?_⟩
    split at h
    · rename_i hf
      cases h
      exact Or.inl ⟨hf, rfl⟩
    · rename_i hf
      split at h
      · rename_i hall
        cases h
        exact Or.inr ⟨by simpa using hf, hall, rfl⟩
      · simp at h
  · simp at h

/-- The call that `send` or `send_with_key` makes. -/
def sendCall (s : ProducerState) (data : List UInt8) (attributes : Option (List (String × String)))
    (routingKey : Option String) : SendCall where
  data := data
  attributes := attributes
  routingKey := routingKey
  retryManager := .init s.config.options.maxRetries s.config.options.baseBackoffMs
    s.config.options.maxBackoffMs

theorem send_eq_some {s s' : ProducerState} {data : List UInt8}
    {attributes : Option (List (String × String))} {routingKey : Option String} {env : Env}
    (h : send s data attributes routingKey env = some s') :
    s.creating = none ∧ ∃ partition router t,
      selectPartition s routingKey = (partition, router) ∧
      t = ⟨partition, sendCall s data attributes routingKey,
        .raise (.danube "partition ID out of range")⟩ ∧
      ((s.producers[partition]? = none ∧
          s' = { s with router := router, sends := s.sends ++ [t] }) ∨
        ∃ ref sc, s.producers[partition]? = some ref ∧ s.pool.scope ref = some sc ∧
          s' = commitSend { s with router := router, sends := s.sends ++ [t] } s.sends.length t
            (t.call.attempt env 0 sc)) := by
  unfold send at h
  split at h
  · rename_i hfree
    refine ⟨hfree, ?_⟩
    rcases hsel : selectPartition s routingKey with ⟨partition, router⟩
    rw [hsel] at h
    refine ⟨partition, router, _, rfl, rfl, ?_⟩
    dsimp only at h
    split at h
    · -- There is no producer for the partition.
      rename_i hnone
      cases h
      exact Or.inl ⟨hnone, rfl⟩
    · -- The first attempt runs on the producer of the partition.
      rename_i ref href
      obtain ⟨sc, hsc, rfl⟩ := Option.map_eq_some_iff.mp h
      exact Or.inr ⟨ref, sc, href, hsc, rfl⟩
  · simp at h

theorem sending_eq_some {s s' : ProducerState} {task : Nat} {w : Wake} {env : Env} :
    sending s task w env = some s' ↔ ∃ t ref sc k ran, s.sends[task]? = some t ∧
      s.producers[t.partition]? = some ref ∧ s.pool.scope ref = some sc ∧ t.status = .await k ∧
      t.call.resume env sc k w = some ran ∧ s' = commitSend s task t ran := by
  simp only [sending, Option.bind_eq_bind, Option.bind_eq_some_iff]
  constructor
  · rintro ⟨t, ht, ref, href, sc, hsc, h⟩
    split at h
    · rename_i k hk
      obtain ⟨ran, hran, rfl⟩ := Option.map_eq_some_iff.mp h
      exact ⟨t, ref, sc, k, ran, ht, href, hsc, hk, hran, rfl⟩
    · simp at h
  · rintro ⟨t, ref, sc, k, ran, ht, href, hsc, hk, hran, rfl⟩
    refine ⟨t, ht, ref, href, sc, hsc, ?_⟩
    simp [hk, hran]

theorem foldl_stop_kept {ρ : Type} (refs : List Nat) {p : Pool ρ} (h : p.Kept) :
    (refs.foldl Pool.stop p).Kept := by
  induction refs generalizing p with
  | nil => exact h
  | cons r rs ih => exact ih (Pool.stop_kept h r)

theorem step_kept {s s' : ProducerState} {l : ProducerLabel} (h : s.pool.Kept)
    (hstep : step s l = some s') : s'.pool.Kept := by
  cases l with
  | create env =>
    obtain ⟨-, -, ⟨-, p, hp, rfl⟩ | ⟨hpos, rfl⟩⟩ := create_eq_some hstep
    · rw [settle_pool]
      refine Pool.child_kept (Pool.alloc_kept h ?_) hp
      simpa using topicProducer_fresh s _ _
    · exact Pool.alloc_kept h (partitionProducers_fresh s)
  | child ref w env =>
    obtain ⟨p, hp, rfl⟩ := Option.map_eq_some_iff.mp hstep
    rw [settle_pool]
    exact Pool.child_kept h hp
  | gathered =>
    obtain ⟨g, -, ⟨-, rfl⟩ | ⟨-, -, rfl⟩⟩ := gathered_eq_some hstep <;> exact h
  | send data attributes routingKey env =>
    obtain ⟨-, p, r, t, -, -, ⟨-, rfl⟩ | ⟨ref, sc, -, hsc, rfl⟩⟩ := send_eq_some hstep
    · exact h
    · exact Pool.commit_kept h hsc (sendAttempt_journaled env t.call 0 sc) _
  | sending task w env =>
    obtain ⟨t, ref, sc, k, ran, -, -, hsc, -, hran, rfl⟩ := sending_eq_some.mp hstep
    exact Pool.commit_kept h hsc (sendResume_journaled env hran) _
  | health task w env =>
    obtain ⟨p, hp, rfl⟩ := Option.map_eq_some_iff.mp hstep
    exact Pool.health_kept h hp
  | close =>
    cases hstep
    exact foldl_stop_kept s.producers h

theorem exec_kept {client : Client} {config : ProducerConfig} {ls : List ProducerLabel}
    {s : ProducerState} (h : exec step (init client config) ls = some s) : s.pool.Kept :=
  exec_invariant (P := fun s => s.pool.Kept) (fun _ _ _ hs hstep => step_kept hs hstep)
    (Pool.kept_init client) h

end Danube.Producer
