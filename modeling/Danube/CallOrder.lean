import Danube.Async.Blocks
import Danube.TopicLog

/-!
# Calls made one after another

When the application awaits each call before the next, the log of every partition is the calls routed
to it, each repeated as often as its attempts were appended.
-/

namespace Danube.Cluster

open Async

def partitionLog (s : Cluster) (p : Nat) : List StreamMessage :=
  (s.log.filter fun x =>
    x.message.msgId.topicName = Producer.topicOf s.producer.config p).map Append.message

/-- How often a call's message is in the log. -/
def copies (s : Cluster) (i : Nat) : Nat := s.log.countP fun x => x.call = i

/-- The calls routed to a partition, in call order. -/
def callsOn (s : Cluster) (p : Nat) : List (SendTask × Nat) :=
  s.producer.sends.zipIdx.filter fun x => x.1.partition = p

structure InCallOrder (s : Cluster) : Prop where
  order : ∀ p < max s.producer.config.partitions 1,
    (s.partitionLog p).map StreamMessage.content =
      (s.callsOn p).flatMap fun x => List.replicate (s.copies x.2) x.1.call.content
  returned : ∀ i t id, s.producer.sends[i]? = some t → t.status = .ret id → 1 ≤ s.copies i
  onePartition : ∀ x ∈ s.log, ∃ t, s.producer.sends[x.call]? = some t ∧
    t.partition < max s.producer.config.partitions 1 ∧
    x.message.msgId.topicName = Producer.topicOf s.producer.config t.partition

/-- The application awaits every call before it makes the next. -/
def Awaited (s : Cluster) : ClusterLabel → Prop
  | .producer (.send ..) => ∀ t ∈ s.producer.sends, t.Ended
  | _ => True

instance (t : SendTask) : Decidable t.Ended :=
  match h : t.status with
  | .await k => isFalse fun hended => hended k h
  | .ret _ => isTrue fun k hk => by simp [h] at hk
  | .raise _ => isTrue fun k hk => by simp [h] at hk

instance (s : Cluster) : ∀ l, Decidable (Awaited s l)
  | .producer (.send ..) => inferInstanceAs (Decidable (∀ t ∈ s.producer.sends, t.Ended))
  | .producer (.create _) | .producer (.child ..) | .producer .gathered | .producer (.sending ..)
  | .producer (.health ..) | .producer .close | .append _ => isTrue trivial

/-- Only the last call may run, and the log follows the calls. -/
structure Sequential (s : Cluster) : Prop where
  last : ∀ i t, s.producer.sends[i]? = some t → ¬ t.Ended → i + 1 = s.producer.sends.length
  sorted : s.log.Pairwise fun x y => x.call ≤ y.call

theorem Logged.call_lt {s : Cluster} (h : Logged s) {x : Append} (hx : x ∈ s.log) :
    x.call < s.producer.sends.length := by
  obtain ⟨t, ht, -⟩ := h.entries x hx
  exact (List.getElem?_eq_some_iff.mp ht).1

theorem step_sequential {s s' : Cluster} {l : ClusterLabel} (hlog : Logged s) (h : Sequential s)
    (hc : Awaited s l) (hstep : step s l = some s') : Sequential s' := by
  cases l with
  | producer l =>
    obtain ⟨-, p, hp, rfl⟩ := step_producer.mp hstep
    refine ⟨fun i t ht hrunning => ?_, h.sorted⟩
    have hsound := hlog.steady.sound
    have hlt := (List.getElem?_eq_some_iff.mp ht).1
    cases hold : s.producer.sends[i]? with
    | none =>
      -- A new call is the last one.
      obtain ⟨rfl, -⟩ := Producer.step_new hp hold ht
      rcases Producer.step_length hp with hlen | ⟨hlen, -⟩ <;> dsimp only at hlt ⊢ <;> omega
    | some u =>
      -- A call that was there runs on, so no other call begins.
      have hu : ¬ u.Ended := by
        intro hended
        have hsame := Producer.step_ended hsound hp hold hended
        rw [show p.sends[i]? = some t from ht, Option.some.injEq] at hsame
        exact hrunning (hsame ▸ hended)
      rcases Producer.step_length hp with hlen | ⟨-, data, attributes, routingKey, env, rfl⟩
      · have hlast := h.last i u hold hu
        dsimp only
        omega
      · exact (hu (hc u (List.mem_of_getElem? hold))).elim
  | append i =>
    obtain ⟨-, m, hm, rfl⟩ := step_append.mp hstep
    obtain ⟨t, n, rpc, ht, hstatus, -⟩ := inFlight_eq_some.mp hm
    have hlast := h.last i t ht fun hended => hended _ hstatus
    refine ⟨h.last, List.pairwise_append.mpr ⟨h.sorted, List.pairwise_singleton _ _, ?_⟩⟩
    intro x hx y hy
    have hlt := hlog.call_lt hx
    rw [List.mem_singleton.mp hy]
    show x.call ≤ i
    omega

theorem topicOf_inj {config : ProducerConfig} {i j : Nat} (hi : i < max config.partitions 1)
    (hj : j < max config.partitions 1) (h : Producer.topicOf config i = Producer.topicOf config j) :
    i = j := by
  unfold Producer.topicOf at h
  split at h
  · omega
  · exact (partitionTopic_inj h).2

theorem Logged.partition_lt {s : Cluster} (h : Logged s) {p : Nat}
    (hp : s.producer.producers[p]? ≠ none) : p < max s.producer.config.partitions 1 := by
  have hne : s.producer.producers ≠ [] := by
    intro hnil
    simp [hnil] at hp
  obtain ⟨base, hrange⟩ := (h.steady.placed.producers hne).range
  obtain ⟨ref, href⟩ := Option.ne_none_iff_exists'.mp hp
  have hlt := (List.getElem?_eq_some_iff.mp href).1
  rw [hrange, List.length_range'] at hlt
  exact hlt

theorem Logged.block {s : Cluster} (h : Logged s) {t : SendTask} {i : Nat}
    (ht : s.producer.sends[i]? = some t) {p : Nat}
    (hp : p < max s.producer.config.partitions 1) :
    (((Async.block Append.call s.log i).filter fun x => x.message.msgId.topicName =
        Producer.topicOf s.producer.config p).map fun x => x.message.content) =
      if t.partition = p then List.replicate (s.copies i) t.call.content else [] := by
  have hblock : ∀ x ∈ Async.block Append.call s.log i, x.message.content = t.call.content ∧
      (x.message.msgId.topicName = Producer.topicOf s.producer.config p ↔ t.partition = p) := by
    intro x hx
    obtain ⟨hmem, hcall⟩ := List.mem_filter.mp hx
    obtain ⟨u, hu, hcontent, htopic, hbound⟩ := h.entries x hmem
    rw [of_decide_eq_true hcall, ht, Option.some.injEq] at hu
    subst hu
    refine ⟨hcontent, ?_⟩
    rw [htopic]
    exact ⟨topicOf_inj (h.partition_lt hbound) hp, fun heq => by rw [heq]⟩
  split
  · rename_i hpart
    rw [List.filter_eq_self.mpr fun x hx => by simpa [hpart] using (hblock x hx).2]
    refine List.eq_replicate_iff.mpr ⟨?_, ?_⟩
    · rw [List.length_map, Async.block, ← List.countP_eq_length_filter, copies]
    · intro c hc
      obtain ⟨x, hx, rfl⟩ := List.mem_map.mp hc
      exact (hblock x hx).1
  · rename_i hpart
    rw [List.filter_eq_nil_iff.mpr fun x hx => by simpa [hpart] using (hblock x hx).2]
    rfl

theorem Sequential.inCallOrder {s : Cluster} (hlog : Logged s) (h : Sequential s) :
    InCallOrder s where
  order p hp := by
    have hblocks : s.log = s.producer.sends.zipIdx.flatMap fun x => Async.block Append.call s.log x.2 :=
      eq_flatMap_zipIdx h.sorted fun x hx => hlog.call_lt hx
    unfold partitionLog callsOn
    rw [List.map_map, flatMap_filter]
    calc
      _ = ((s.producer.sends.zipIdx.flatMap fun x => Async.block Append.call s.log x.2).filter
            fun x => x.message.msgId.topicName = Producer.topicOf s.producer.config p).map
          fun x => x.message.content := by rw [← hblocks]; rfl
      _ = s.producer.sends.zipIdx.flatMap fun x => if x.1.partition = p then
            List.replicate (s.copies x.2) x.1.call.content else [] := by
        rw [List.filter_flatMap, List.map_flatMap]
        refine List.flatMap_congr fun x hx => ?_
        exact hlog.block (List.mem_zipIdx_iff_getElem?.mp hx) hp
      _ = _ := by simp only [decide_eq_true_eq]
  returned i t id ht hret := by
    obtain ⟨x, hx, hcall⟩ := hlog.returned i t id ht hret
    exact List.countP_pos_iff.mpr ⟨x, hx, by simpa using hcall⟩
  onePartition x hx := by
    obtain ⟨t, ht, -, htopic, hbound⟩ := hlog.entries x hx
    exact ⟨t, ht, hlog.partition_lt hbound, htopic⟩

/-- At least once and in order: every run in which each call is awaited before the next leaves in the
log of each partition the calls routed to it, in call order. -/
theorem awaited_calls_in_order {client : Client} {config : ProducerConfig}
    {ls : List ClusterLabel} {s : Cluster} (h : exec step (init client config) ls = some s)
    (hawaited : Steps step Awaited (init client config) ls) : InCallOrder s := by
  have hinit : Logged (init client config) ∧ Sequential (init client config) :=
    ⟨logged_init client config, by simp [init, Producer.init], List.Pairwise.nil⟩
  obtain ⟨hlog, hseq⟩ := exec_invariant_of_steps (P := fun s => Logged s ∧ Sequential s)
    (fun _ _ _ hs hc hstep => ⟨step_logged hs.1 hstep, step_sequential hs.1 hs.2 hc hstep⟩)
    hinit hawaited h
  exact hseq.inCallOrder hlog

/-- The first message is appended, reported failed and appended again. Then the second is sent. -/
def retriedThenNext : List ClusterLabel :=
  [.producer (.create {}), .producer (.child 0 (.answer (.address "a")) {}),
    .producer (.child 0 (.answer (.registered 1)) {}), .producer (.send [1] none none {}),
    .append 0, .producer (.sending 0 (.fail .unavailable) {}), .producer (.sending 0 .timer {}),
    .append 0, .producer (.sending 0 (.answer (.message 2)) {}), .producer (.send [2] none none {}),
    .append 1, .producer (.sending 1 (.answer (.message 3)) {})]

theorem retried_then_next_in_order :
    ∃ s, exec step (init (.init "a" {}) (.oneRetry none)) retriedThenNext = some s ∧
      InCallOrder s := by
  obtain ⟨s, hs⟩ := Option.isSome_iff_exists.mp
    (by rfl : (exec step (init (.init "a" {}) (.oneRetry none)) retriedThenNext).isSome)
  exact ⟨s, hs, awaited_calls_in_order hs (by decide)⟩

end Danube.Cluster
